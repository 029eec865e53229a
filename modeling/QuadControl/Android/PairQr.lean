import QuadControl.Android.Devices
import QuadControl.Android.RoundClose

/-! # The `pair-qr` command

`pair_qr_command_with_cancel` runs a pairing round, closes it and waits for the device; if
it does not come it connects to the device's service and waits once more. The command is
a machine that goes on with what its environment answers. Between any two of its steps
the token may be tripped, and a signal may come.
-/

namespace QuadControl.Android.Wireless

open Lib

/-- The commands that pair with or connect to a device. -/
inductive Command where
  | pair (endpoint : Text)
  | connect (endpoint : Text)
  deriving Repr, DecidableEq

/-- The command that an input of the loop answers. -/
def Loop.issues (loop : Loop) (input : Input) : Option Command :=
  match loop.phase, input with
  | .spawning service _, .spawned _ => some (.pair service.endpoint)
  | _, _ => none

/-- The two calls of `wait_for_guid_with_cancel`. -/
inductive Attempt where
  | first
  | second
  deriving Repr, DecidableEq

/-- What a round that succeeded leaves to the rest of the command. -/
structure Paired where
  guid : Text
  reason : CloseReason
  deadline : Nat
  deriving Repr, DecidableEq

/-- A call of `wait_for_guid_with_cancel`. -/
structure Wait where
  attempt : Attempt
  timeout : Nat
  started : Nat
  deriving Repr, DecidableEq

/-- Where the command stands. -/
inductive Stage where
  | checking
  | rendering
  | round (loop : Loop)
  | dating (guid : Text) (reason : CloseReason)
  | entering (paired : Paired) (attempt : Attempt)
  | elapsing (paired : Paired) (wait : Wait)
  | cancelCheck (paired : Paired) (wait : Wait)
  | listing (paired : Paired) (wait : Wait)
  | waited (paired : Paired) (attempt : Attempt) (outcome : Except WirelessError Text)
  | querying (paired : Paired)
  | found (paired : Paired) (service : MdnsService)
  | connecting (paired : Paired)
  | connected (paired : Paired)
  | online (paired : Paired) (serial : Text)
  | counting (paired : Paired) (serial : Text)
  | returned (result : Except WirelessError (Text × Nat × CloseReason))

/-- What a run of the command is told by: its commands, and how its waits ended. -/
inductive Happening where
  | issued (command : Command)
  | waited (outcome : Except WirelessError Text)
  deriving Repr, DecidableEq

/-- The command's variables, the two sources of cancellation, and what has happened, latest
    first. -/
structure PairQr where
  token : Bool
  signals : Nat
  closing : Closing
  stage : Stage
  history : List Happening

namespace PairQr

inductive Input where
  | trip
  | signal
  | checked (outcome : Except WirelessError Unit)
  /-- The QR code, and when the round is entered. -/
  | rendered (outcome : Except WirelessError Text) (now : Nat)
  | loop (input : Wireless.Input)
  | reaped (reap : Process → Reaping)
  /-- The token, and where the code reads it the number of signals, are looked at. -/
  | check
  | time (now : Nat)
  /-- When the timeout of a wait is computed, and when the wait starts. -/
  | entered (now started : Nat)
  | listed (answer : DeviceAnswer)
  | services (answer : Except AdbFailure (Output (List MdnsService)))
  | connected (answer : Except AdbFailure (Output Text))
  /-- The devices, with the identity read for each by its place. -/
  | counted (listed : Except Text (List Device)) (identity : Nat → Option Text)

/-- The command as it is called, its token and signals as they happen to be. -/
def start (secret : PairingSecret) (token : Bool) (signals : Nat) : PairQr :=
  ⟨token, signals, ⟨.new 1, [], secret, []⟩, .checking, []⟩

variable (state : PairQr)

/-- `cancel.is_cancelled() || signal_requested()`. -/
def cancelled : Bool := state.token || state.signals ≠ 0

def goTo (stage : Stage) : PairQr := { state with stage := stage }

def fail (error : WirelessError) : PairQr := state.goTo (.returned (.error error))

/-- `round_close` by the event, and the return of an error. -/
def close (event : RoundEvent) (error : WirelessError) : PairQr :=
  -- Nothing is in flight where this is called.
  { state with closing := (state.closing.roundClose (fun _ => .exited) event).2 }.fail error

def record (happening : Happening) : PairQr :=
  { state with history := happening :: state.history }

/-- A wait returns. -/
def finishWait (paired : Paired) (attempt : Attempt) (outcome : Except WirelessError Text) :
    PairQr :=
  (state.record (.waited outcome)).goTo (.waited paired attempt outcome)

/-- What the loop reads of the two sources of cancellation is what they are. -/
def answers : Wireless.Input → Bool
  | .cancelled now => now = state.cancelled
  | _ => true

/-- A step of the loop, with the command it answers. -/
def advanceLoop (loop : Loop) (input : Wireless.Input) : Option PairQr :=
  if state.answers input then
    (loop.advance input).map fun next =>
      let issued :=
        match loop.issues input with
        | some command => state.record (.issued command)
        | none => state
      issued.goTo (.round next)
  else none

/-- The round is closed, and its failure or that of its close returned. -/
def closeRound (loop : Loop) (reap : Process → Reaping) (event : RoundEvent)
    (outcome : Except WirelessError Text) : PairQr :=
  let ((reason, closed), closing) := (loop.closing state.closing.qr).roundClose reap event
  let state := { state with closing := closing }
  match outcome, closed with
  | .error failed, .error reap =>
      state.fail (.commandFailed
        (failed.text ++ "（另外：回收在飞进程失败：".toList ++ reap.text ++ "）".toList))
  | .error failed, .ok () => state.fail failed
  | .ok _, .error reap => state.fail reap
  | .ok guid, .ok () => state.goTo (.dating guid reason)

/-- What follows a wait. -/
def afterWait (paired : Paired) : Attempt → Except WirelessError Text → PairQr
  | _, .ok serial => state.goTo (.online paired serial)
  | .first, .error error =>
      -- A tripped token stays tripped, so that the arm without a guard is not reached.
      if state.token then state.close .cancelled error else state.goTo (.querying paired)
  | .second, .error error =>
      if state.token then state.close .cancelled error else state.fail error

/-- One step of the command. -/
def advance (state : PairQr) (input : Input) : Option PairQr :=
  match state.stage, input with
  | _, .trip => some { state with token := true }
  -- The counter is one byte wide.
  | _, .signal => some { state with signals := (state.signals + 1) % 256 }
  | .checking, .checked (.error error) => some (state.fail error)
  | .checking, .checked (.ok ()) => some (state.goTo .rendering)
  | .rendering, .rendered (.error error) _ => some (state.close .pairFailed error)
  | .rendering, .rendered (.ok qr) now =>
      let closing := { state.closing with qr := qr }
      some { state with
        closing := closing
        stage := .round (.start closing.secret closing.round closing.pairs now) }
  | .round loop, .loop input => state.advanceLoop loop input
  | .round loop, .reaped reap =>
      match loop.phase with
      | .returned event outcome => some (state.closeRound loop reap event outcome)
      | _ => none
  | .dating guid reason, .time now =>
      if state.token then some (state.close .cancelled .cancelled)
      else some (state.goTo (.entering ⟨guid, reason, now + roundTimeout⟩ .first))
  | .entering paired attempt, .entered now started =>
      some (state.goTo (.elapsing paired ⟨attempt, paired.deadline - now, started⟩))
  | .elapsing paired wait, .time now =>
      if now - wait.started < wait.timeout then some (state.goTo (.cancelCheck paired wait))
      else some (state.finishWait paired wait.attempt (.error .timedOut))
  | .cancelCheck paired wait, .check =>
      if state.cancelled then some (state.finishWait paired wait.attempt (.error .cancelled))
      else some (state.goTo (.listing paired wait))
  | .listing paired wait, .listed answer =>
      match lookForGuid paired.guid answer with
      | .error error => some (state.finishWait paired wait.attempt (.error error))
      | .ok (some serial) => some (state.finishWait paired wait.attempt (.ok serial))
      | .ok none => some (state.goTo (.elapsing paired wait))
  | .waited paired attempt outcome, .check => some (state.afterWait paired attempt outcome)
  | .querying paired, .services answer =>
      match adbMdnsServices answer with
      | .error error => some (state.fail error)
      | .ok services =>
          match connectServiceForGuid services paired.guid with
          | none => some (state.fail .noMatchingService)
          | some service => some (state.goTo (.found paired service))
  | .found paired service, .check =>
      if state.token then some (state.close .cancelled .cancelled)
      else some ((state.record (.issued (.connect service.endpoint))).goTo (.connecting paired))
  | .connecting paired, .connected answer =>
      match answer with
      | .error failure => some (state.fail failure.error)
      | .ok output =>
          if output.status = 0 then some (state.goTo (.connected paired))
          else some (state.fail (.commandFailed output.stderr))
  | .connected paired, .check =>
      if state.token then some (state.close .cancelled .cancelled)
      else some (state.goTo (.entering paired .second))
  | .online paired serial, .check =>
      if state.token then some (state.close .cancelled .cancelled)
      else some (state.goTo (.counting paired serial))
  | .counting _ _, .counted (.error error) _ => some (state.fail (.devices error))
  | .counting paired serial, .counted (.ok listed) identity =>
      let read := listed.zipIdx.map fun (device, place) => (device.serial, identity place)
      let visible := deduplicateDevices listed (identityPairs read)
      some (state.goTo (.returned (.ok (serial, visible.length, paired.reason))))
  | _, _ => none

end PairQr

end QuadControl.Android.Wireless
