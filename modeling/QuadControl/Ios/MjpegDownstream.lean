import Mathlib.Logic.Function.Basic
import QuadControl.Lib.Machine
import QuadControl.Lib.Text

/-! # The downstream connections of the proxy

`serve_downstream` accepts connections, registers each socket and spawns a writer for it.
A writer reads a request before it streams. `Proxy::stop` sets the flag all of them poll,
shuts down the sockets that are registered and joins the pump and the accept loop.
-/

namespace QuadControl.Ios.Mjpeg

open Lib Lib.Text

/-- What `read_line` finds: a line, or bytes that are not UTF-8. -/
abbrev Line := Option Text

/-- A line that ends the reading of a request. -/
def Line.ends : Line → Bool
  | some text => trim text = []
  | none => true

/-- How far a connection has come. -/
inductive Stage where
  | absent
  /-- The client waits in the listener's queue. -/
  | queued
  /-- Accepted, and in the hands of the accept loop. -/
  | held
  /-- In `sockets`, without a writer yet. -/
  | registered
  /-- The writer is about to clone the stream. -/
  | cloning
  | reading
  | answering
  /-- In `next_frame`. -/
  | streaming
  | writing
  /-- Shut down, the guard not dropped yet. -/
  | leaving
  | gone
  deriving Repr, DecidableEq

structure Connection where
  stage : Stage
  /-- Its number in `sockets`. -/
  id : Nat
  /-- The lines that came and were not read yet. -/
  unread : List Line
  /-- The client closed or reset it. -/
  closed : Bool
  shut : Bool
  deriving Repr, DecidableEq

/-- Where the accept loop is. -/
inductive Acceptor where
  | checking
  | accepting
  /-- Before `set_nonblocking`. -/
  | holding (connection : Nat)
  /-- Before `try_clone`. -/
  | duplicating (connection : Nat)
  /-- Before the push to `sockets`. -/
  | registering (connection : Nat)
  | spawning (connection : Nat)
  | done
  deriving Repr, DecidableEq

/-- The threads whose handles the proxy keeps. -/
inductive Worker where
  | pump
  | acceptor
  deriving Repr, DecidableEq

/-- Where the caller of `stop` is. -/
inductive Stopper where
  | idle
  | flagging
  | sweeping
  | joining (threads : List Worker)
  | returned
  deriving Repr, DecidableEq

structure Downstream where
  stopping : Bool
  sockets : List (Nat × Nat)
  connections : Nat → Connection
  acceptor : Acceptor
  nextId : Nat
  pumping : Bool
  threads : List Worker
  stopper : Stopper
  /-- Some `stop` has shut down the sockets; some `stop` has returned. -/
  swept : Bool
  returned : Bool

namespace Downstream

def initial : Downstream where
  stopping := false
  sockets := []
  connections _ := ⟨.absent, 0, [], false, false⟩
  acceptor := .checking
  nextId := 0
  pumping := true
  threads := [.pump, .acceptor]
  stopper := .idle
  swept := false
  returned := false

/-- What comes of `accept`. -/
inductive Accepted where
  | connection (connection : Nat)
  | wouldBlock
  | failed
  deriving Repr, DecidableEq

inductive Input where
  | connects (connection : Nat)
  | sends (connection : Nat) (line : Line)
  | closes (connection : Nat)
  | accepts (accepted : Accepted)
  /-- Another step of the accept loop; `ok` tells whether its call on the socket succeeds. -/
  | serves (ok : Bool)
  /-- A step of a writer; `ok` tells the same, and in `next_frame` whether there is a newer
      frame. -/
  | writes (connection : Nat) (ok : Bool)
  | pumpEnds
  | stop
  /-- A step of `stop`; `late` tells whether its budget for joins is used up. -/
  | stops (late : Bool)
  deriving Repr, DecidableEq

variable (proxy : Downstream)

def put (k : Nat) (connection : Connection) : Downstream :=
  { proxy with connections := Function.update proxy.connections k connection }

def atStage (k : Nat) (stage : Stage) : Downstream :=
  proxy.put k { proxy.connections k with stage }

/-- `shutdown(Both)` before a writer returns, or the drop of a stream. -/
def shut (k : Nat) (stage : Stage) : Downstream :=
  proxy.put k { proxy.connections k with stage, shut := true }

def connects (k : Nat) : Option Downstream :=
  if (proxy.connections k).stage = .absent then some (proxy.atStage k .queued) else none

def isOpen (k : Nat) : Bool :=
  (proxy.connections k).stage ≠ .absent && !(proxy.connections k).closed

def sends (k : Nat) (line : Line) : Option Downstream :=
  if proxy.isOpen k then
    some (proxy.put k { proxy.connections k with
      unread := (proxy.connections k).unread ++ [line] })
  else none

def closes (k : Nat) : Option Downstream :=
  if proxy.isOpen k then some (proxy.put k { proxy.connections k with closed := true })
  else none

def accepts : Accepted → Option Downstream
  | .connection k =>
      if proxy.acceptor = .accepting ∧ (proxy.connections k).stage = .queued then
        some { proxy.atStage k .held with acceptor := .holding k }
      else none
  | .wouldBlock =>
      if proxy.acceptor = .accepting then some { proxy with acceptor := .checking } else none
  | .failed => if proxy.acceptor = .accepting then some { proxy with acceptor := .done } else none

/-- `serve_downstream`, but for `accept`. -/
def serves (ok : Bool) : Option Downstream :=
  match proxy.acceptor with
  | .checking =>
      some { proxy with acceptor := if proxy.stopping then .done else .accepting }
  | .holding k =>
      if ok then some { proxy with acceptor := .duplicating k }
      else some { proxy.shut k .gone with acceptor := .checking }
  | .duplicating k =>
      if ok then some { proxy with acceptor := .registering k }
      else some { proxy.shut k .gone with acceptor := .checking }
  | .registering k =>
      some { proxy.put k { proxy.connections k with stage := .registered, id := proxy.nextId } with
        sockets := proxy.sockets ++ [(proxy.nextId, k)]
        nextId := proxy.nextId + 1
        acceptor := .spawning k }
  | .spawning k => some { proxy.atStage k .cloning with acceptor := .checking }
  | .accepting | .done => none

/-- `read_line`, in the loop that reads the request. -/
def readsLine (k : Nat) : Option Downstream :=
  match (proxy.connections k).unread with
  | line :: unread =>
      let proxy := proxy.put k { proxy.connections k with unread }
      match line with
      | none => some (proxy.shut k .leaving)
      | some text => if trim text = [] then some (proxy.atStage k .answering) else some proxy
  | [] =>
      if (proxy.connections k).closed ∨ (proxy.connections k).shut then
        some (proxy.shut k .leaving)
      else none

/-- A write to the socket, after which the writer asks for a frame. -/
def writesTo (k : Nat) (ok : Bool) : Option Downstream :=
  if ok then
    if (proxy.connections k).shut then none else some (proxy.atStage k .streaming)
  else some (proxy.shut k .leaving)

/-- `write_downstream`. -/
def writes (k : Nat) (ok : Bool) : Option Downstream :=
  match (proxy.connections k).stage with
  | .cloning => some (if ok then proxy.atStage k .reading else proxy.shut k .leaving)
  | .reading => if ok then proxy.readsLine k else some (proxy.shut k .leaving)
  | .answering | .writing => proxy.writesTo k ok
  | .streaming =>
      if proxy.stopping then some (proxy.shut k .leaving)
      else some (if ok then proxy.atStage k .writing else proxy)
  | .leaving =>
      some { proxy.atStage k .gone with
        sockets := proxy.sockets.filter fun entry => entry.1 ≠ (proxy.connections k).id }
  | .absent | .queued | .held | .registered | .gone => none

/-- The shutdowns of `stop`, under the lock of `sockets`. -/
def sweep : Downstream :=
  { proxy with
    connections := fun k =>
      if k ∈ proxy.sockets.map Prod.snd then { proxy.connections k with shut := true }
      else proxy.connections k
    swept := true }

def isDone : Worker → Bool
  | .pump => !proxy.pumping
  | .acceptor => proxy.acceptor = .done

/-- `Proxy::stop`. -/
def stops (late : Bool) : Option Downstream :=
  match proxy.stopper with
  | .flagging => some { proxy with stopping := true, stopper := .sweeping }
  | .sweeping => some { proxy.sweep with stopper := .joining proxy.threads, threads := [] }
  | .joining [] => some { proxy with stopper := .returned, returned := true }
  | .joining (thread :: threads) =>
      if late then some { proxy with stopper := .returned, returned := true }
      else if proxy.isDone thread then some { proxy with stopper := .joining threads }
      else none
  | .idle | .returned => none

def step : Input → Option Downstream
  | .connects k => proxy.connects k
  | .sends k line => proxy.sends k line
  | .closes k => proxy.closes k
  | .accepts accepted => proxy.accepts accepted
  | .serves ok => proxy.serves ok
  | .writes k ok => proxy.writes k ok
  | .pumpEnds => if proxy.pumping then some { proxy with pumping := false, stopping := true } else none
  | .stop =>
      if proxy.stopper = .idle ∨ proxy.stopper = .returned then
        some { proxy with stopper := .flagging }
      else none
  | .stops late => proxy.stops late

end Downstream

end QuadControl.Ios.Mjpeg
