import Mathlib.Data.List.AList
import QuadControl.Lib.Interleaving
import QuadControl.Lib.Text

/-! # The desktop shell's mirroring sessions

`start_session` and `stop_session` share a map from devices to the handles of their
sessions; when the shell exits, `reclaim_sessions` drains it. A thread is one call of
the two, each lock section and each answer from outside one step; the exiting process
reclaims once, so that where it stands is part of what is shared, as are the sessions'
supervising threads.

A session is told from others by the call that spawned it, which its handle keeps
beside the code's own id. Locks are not taken to be poisoned, and the options of a
session are left out.
-/

namespace QuadControl.Gui.Sessions

open Lib Lib.Interleaving

variable {Device : Type} [DecidableEq Device]

/-! ### Sessions and their handles -/

/-- `SessionStatus`. -/
inductive Status where
  | running
  | stopping
  | exited
  | failed
  deriving Repr, DecidableEq

def Status.isLive : Status → Bool
  | .running | .stopping => true
  | .exited | .failed => false

/-- What the supervising thread makes of a status; it stops a session when told to. -/
def Status.follows (told : Bool) : Status → Status → Bool
  | .running, .stopping => told
  | .running, .exited | .running, .failed | .stopping, .exited | .stopping, .failed => true
  | _, _ => false

/-- The message of a supervising thread that is done, of which there is one. -/
inductive Done where
  | unsent
  | sent
  | received
  deriving Repr, DecidableEq

/-- `SessionHandle`: the call that spawned the session, and the id it gave it. -/
structure Handle where
  session : Nat
  id : Nat
  deriving Repr, DecidableEq

/-- Where `reclaim_sessions` stands, with the handles it has drained and the number of
    those a loop over them has done. -/
inductive Exit where
  | running
  | begun
  -- Its own requests, and those of `shutdown_all`.
  | stopping (handles : List Handle) (next : Nat)
  | closing (handles : List Handle) (next : Nat)
  | awaiting (handles : List Handle) (next : Nat) (timedOut : List Nat)
  | returned (handles : List Handle) (timedOut : List Nat)
  deriving Repr, DecidableEq

def Exit.handles : Exit → List Handle
  | .running | .begun => []
  | .stopping handles _ | .closing handles _ | .awaiting handles _ _ | .returned handles _ => handles

def Exit.isDrained : Exit → Bool
  | .running | .begun => false
  | _ => true

/-- The drained handles that no stop has been requested for yet. -/
def Exit.pending : Exit → List Handle
  | .stopping handles next => handles.drop next
  | _ => []

/-- `SessionStore`. -/
structure Store (Device : Type) where
  sessions : AList fun _ : Device => Handle
  nextId : Nat

structure Shared (Device : Type) where
  store : Store Device
  /-- By session; none where none has been spawned. -/
  statuses : Nat → Option Status
  /-- The sessions that have been sent stop. -/
  stops : Nat → Bool
  dones : Nat → Done
  exit : Exit
  /-- The sessions that `shutdown_all` has reported. No step reads it. -/
  reported : List Nat

namespace Shared

variable (shared : Shared Device)

def isLive (session : Nat) : Bool := (shared.statuses session).any Status.isLive

def lookup (device : Device) : Option Handle := shared.store.sessions.lookup device

/-- The question of both sections of a start call. -/
def deviceIsLive (device : Device) : Bool :=
  (shared.lookup device).any fun handle => shared.isLive handle.session

/-- What is left of an earlier session of the device goes, and an id is taken. -/
def number (device : Device) : Shared Device :=
  { shared with
    store.sessions := shared.store.sessions.erase device
    store.nextId := (shared.store.nextId + 1) % 2 ^ 64 }

def insert (device : Device) (handle : Handle) : Shared Device :=
  { shared with store.sessions := shared.store.sessions.insert device handle }

def setStatus (session : Nat) (status : Status) : Shared Device :=
  { shared with statuses := Function.update shared.statuses session (some status) }

def setDone (session : Nat) (done : Done) : Shared Device :=
  { shared with dones := Function.update shared.dones session done }

/-- `request_stop`. -/
def requestStop (session : Nat) : Shared Device :=
  { shared with stops := Function.update shared.stops session true }

/-- The section of `stop_session`. -/
def stopDevice (device : Device) : Shared Device :=
  match shared.lookup device with
  | none => shared
  | some handle => shared.requestStop handle.session

def setExit (exit : Exit) : Shared Device := { shared with exit := exit }

/-- The map is drained. -/
def drain : Shared Device :=
  let handles := shared.store.sessions.entries.map Sigma.snd
  { shared with store.sessions := ∅, exit := .stopping handles 0 }

def report (session : Nat) : Shared Device :=
  { shared with reported := session :: shared.reported }

end Shared

/-! ### Calls -/

/-- Where a call stands. -/
inductive Call (Device : Type) where
  | idle
  -- `start_session`: past its first section, and with its handle in hand.
  | spawning (device : Device) (id : Nat)
  | spawned (device : Device) (id : Nat)
  | started (device : Device) (id : Nat)
  | refused (device : Device) (code : Text)
  -- `stop_session`.
  | stopped
  deriving Repr, DecidableEq

inductive Action (Device : Type) where
  | start (device : Device)
  | stop (device : Device)
  /-- With the code of the error, if the session cannot be spawned. -/
  | spawned (result : Except Text Unit)
  /-- The last section of a start call. -/
  | go
  /-- The supervising thread of a session changes its status, or is done. -/
  | supervise (session : Nat) (status : Status)
  | finish (session : Nat)
  /-- The exiting process takes its next step; a wait of its ends without its message. -/
  | reclaim
  | expire

def sessionAlreadyRunning : Text := "session_already_running".toList

/-- The next step of `reclaim_sessions`. -/
def Shared.reclaim (shared : Shared Device) : Option (Shared Device) :=
  match shared.exit with
  | .running => some (shared.setExit .begun)
  | .begun => some shared.drain
  | .stopping handles next =>
      match handles[next]? with
      | some handle =>
          some ((shared.requestStop handle.session).setExit (.stopping handles (next + 1)))
      | none => some (shared.setExit (.closing handles 0))
  | .closing handles next =>
      match handles[next]? with
      | some handle =>
          some ((shared.requestStop handle.session).setExit (.closing handles (next + 1)))
      | none => some (shared.setExit (.awaiting handles 0 []))
  | .awaiting handles next timedOut =>
      match handles[next]? with
      | some handle =>
          if shared.dones handle.session = .sent then
            some ((shared.setDone handle.session .received).setExit
              (.awaiting handles (next + 1) timedOut))
          else none
      | none => some (shared.setExit (.returned handles timedOut))
  | .returned _ _ => none

/-- The time for a session's message is over, and the message is not there. -/
def Shared.expire (shared : Shared Device) : Option (Shared Device) :=
  match shared.exit with
  | .awaiting handles next timedOut =>
      match handles[next]? with
      | some handle =>
          if shared.dones handle.session = .sent then none
          else
            some ((shared.report handle.session).setExit
              (.awaiting handles (next + 1) (timedOut ++ [handle.id])))
      | none => none
  | _ => none

/-- One step of a call, of a supervising thread or of the exiting process. -/
def advance : Thread (Shared Device) (Call Device) (Action Device) := fun me shared call action =>
  match call, action with
  | call, .supervise session status =>
      if (shared.statuses session).any fun old => old.follows (shared.stops session) status then
        some (shared.setStatus session status, call)
      else none
  | call, .finish session =>
      if (shared.statuses session).isSome ∧ ¬ shared.isLive session ∧
          shared.dones session = .unsent then
        some (shared.setDone session .sent, call)
      else none
  | call, .reclaim => shared.reclaim.map fun after => (after, call)
  | call, .expire => shared.expire.map fun after => (after, call)
  | .idle, .start device =>
      if shared.deviceIsLive device then some (shared, .refused device sessionAlreadyRunning)
      else some (shared.number device, .spawning device shared.store.nextId)
  | .spawning device _, .spawned (.error code) => some (shared, .refused device code)
  | .spawning device id, .spawned (.ok ()) =>
      some (shared.setStatus me .running, .spawned device id)
  | .spawned device id, .go =>
      if shared.deviceIsLive device then
        some (shared.requestStop me, .refused device sessionAlreadyRunning)
      else some (shared.insert device ⟨me, id⟩, .started device id)
  | .idle, .stop device => some (shared.stopDevice device, .stopped)
  | _, _ => none

/-- The exiting process goes on with the handles it has drained. -/
structure Exit.Onward (old new : Exit) : Prop where
  handles : new.handles = old.handles
  drained : old.isDrained = true
  still : new.isDrained = true

/-- A step of the exiting process. -/
def Action.isExit : Action Device → Bool
  | .reclaim | .expire => true
  | _ => false

/-- What a step of the exiting process can do. -/
inductive Exiting (shared : Shared Device) : Shared Device → Prop
  | begin (running : shared.exit = .running) : Exiting shared (shared.setExit .begun)
  | drain (begun : shared.exit = .begun) : Exiting shared shared.drain
  | request (handle : Handle) (exit : Exit) (held : handle ∈ shared.exit.handles)
      (onward : shared.exit.Onward exit)
      (pending : ∀ other ∈ shared.exit.pending, other = handle ∨ other ∈ exit.pending) :
      Exiting shared ((shared.requestStop handle.session).setExit exit)
  | turn (exit : Exit) (onward : shared.exit.Onward exit) (pending : shared.exit.pending = []) :
      Exiting shared (shared.setExit exit)
  | receive (handle : Handle) (exit : Exit) (onward : shared.exit.Onward exit)
      (pending : shared.exit.pending = []) :
      Exiting shared ((shared.setDone handle.session .received).setExit exit)
  | report (handle : Handle) (exit : Exit) (held : handle ∈ shared.exit.handles)
      (onward : shared.exit.Onward exit) (pending : shared.exit.pending = []) :
      Exiting shared ((shared.report handle.session).setExit exit)

/-- What a step can do, one constructor a kind of step. -/
inductive Step (me : Nat) (shared : Shared Device) :
    Call Device → Action Device → Shared Device → Call Device → Prop
  | supervise (call session status old) (was : shared.statuses session = some old)
      (follows : old.follows (shared.stops session) status = true) :
      Step me shared call (.supervise session status) (shared.setStatus session status) call
  | finish (call session) : Step me shared call (.finish session) (shared.setDone session .sent) call
  | reclaim (call shared') (exiting : Exiting shared shared') :
      Step me shared call .reclaim shared' call
  | expire (call shared') (exiting : Exiting shared shared') :
      Step me shared call .expire shared' call
  | number (device) (free : shared.deviceIsLive device = false) :
      Step me shared .idle (.start device) (shared.number device)
        (.spawning device shared.store.nextId)
  | spawn (device id) :
      Step me shared (.spawning device id) (.spawned (.ok ())) (shared.setStatus me .running)
        (.spawned device id)
  | turnAway (device id) (live : shared.deviceIsLive device = true) :
      Step me shared (.spawned device id) .go (shared.requestStop me)
        (.refused device sessionAlreadyRunning)
  | insert (device id) (free : shared.deviceIsLive device = false) :
      Step me shared (.spawned device id) .go (shared.insert device ⟨me, id⟩) (.started device id)
  | stop (device) : Step me shared .idle (.stop device) (shared.stopDevice device) .stopped
  | refuse (device) (live : shared.deviceIsLive device = true) :
      Step me shared .idle (.start device) shared (.refused device sessionAlreadyRunning)
  | fail (device id code) : Step me shared (.spawning device id) (.spawned (.error code)) shared
      (.refused device code)

/-- What a loop of the exiting process has come to was drained. -/
theorem Exit.held_of_getElem? {exit phase : Exit} {next : Nat} {handle : Handle}
    (same : exit = phase) (here : phase.handles[next]? = some handle) : handle ∈ exit.handles := by
  rw [same]
  exact List.mem_of_getElem? here

omit [DecidableEq Device] in
theorem Exiting.of_reclaim {shared shared' : Shared Device} (h : shared.reclaim = some shared') :
    Exiting shared shared' := by
  unfold Shared.reclaim at h
  split at h
  · cases h
    exact .begin ‹_›
  · cases h
    exact .drain ‹_›
  · rename_i handles next phase
    split at h
    · rename_i handle here
      cases h
      have held := Exit.held_of_getElem? phase here
      refine .request handle _ held (by rw [phase]; exact ⟨rfl, rfl, rfl⟩) fun other pending => ?_
      obtain ⟨inside, rfl⟩ := List.getElem?_eq_some_iff.mp here
      rw [phase, Exit.pending, List.drop_eq_getElem_cons inside] at pending
      exact List.mem_cons.mp pending
    · rename_i past
      cases h
      refine .turn _ (by rw [phase]; exact ⟨rfl, rfl, rfl⟩) ?_
      rw [phase]
      exact List.drop_eq_nil_of_le (List.getElem?_eq_none_iff.mp past)
  · rename_i handles next phase
    split at h
    · rename_i handle here
      cases h
      have held := Exit.held_of_getElem? phase here
      refine .request handle _ held (by rw [phase]; exact ⟨rfl, rfl, rfl⟩) fun other pending => ?_
      rw [phase] at pending
      cases pending
    · cases h
      exact .turn _ (by rw [phase]; exact ⟨rfl, rfl, rfl⟩) (by rw [phase]; rfl)
  · rename_i handles next timedOut phase
    split at h
    · rename_i handle _
      split at h
      · cases h
        exact .receive handle _ (by rw [phase]; exact ⟨rfl, rfl, rfl⟩) (by rw [phase]; rfl)
      · cases h
    · cases h
      exact .turn _ (by rw [phase]; exact ⟨rfl, rfl, rfl⟩) (by rw [phase]; rfl)
  · cases h

omit [DecidableEq Device] in
theorem Exiting.of_expire {shared shared' : Shared Device} (h : shared.expire = some shared') :
    Exiting shared shared' := by
  unfold Shared.expire at h
  split at h
  · rename_i handles next timedOut phase
    split at h
    · rename_i handle here
      split at h
      · cases h
      · cases h
        have held := Exit.held_of_getElem? phase here
        exact .report handle _ held (by rw [phase]; exact ⟨rfl, rfl, rfl⟩) (by rw [phase]; rfl)
    · cases h
  · cases h

theorem Step.of_advance {me : Nat} {shared shared' : Shared Device} {call call' : Call Device}
    {action : Action Device} (h : advance me shared call action = some (shared', call')) :
    Step me shared call action shared' call' := by
  unfold advance at h
  split at h
  · rename_i session status
    split at h
    · rename_i may
      obtain ⟨old, was, follows⟩ := (Option.any_eq_true _ _).mp may
      cases h
      exact .supervise _ _ _ old was follows
    · cases h
  · split at h
    · cases h
      exact .finish _ _
    · cases h
  · obtain ⟨after, exiting, same⟩ := Option.map_eq_some_iff.mp h
    cases same
    exact .reclaim _ _ (.of_reclaim exiting)
  · obtain ⟨after, exiting, same⟩ := Option.map_eq_some_iff.mp h
    cases same
    exact .expire _ _ (.of_expire exiting)
  · split at h
    · cases h
      exact .refuse _ ‹_›
    · cases h
      exact .number _ (Bool.not_eq_true _ ▸ ‹_›)
  · cases h
    exact .fail ..
  · cases h
    exact .spawn ..
  · split at h
    · cases h
      exact .turnAway _ _ ‹_›
    · cases h
      exact .insert _ _ (Bool.not_eq_true _ ▸ ‹_›)
  · cases h
    exact .stop _
  · cases h

/-- No session, and no call under way. -/
def initial : Pool (Shared Device) (Call Device) :=
  ⟨⟨⟨∅, 1⟩, fun _ => none, fun _ => false, fun _ => .unsent, .running, []⟩, fun _ => .idle⟩

end QuadControl.Gui.Sessions
