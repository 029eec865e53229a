import Mathlib.Data.List.Basic
import QuadControl.Android.PairInFlight

/-! # The close of a round

`round_close` reaps what is in flight, closes the round with the event its loop returned
and wipes the secret and its QR code. The round's mark goes with the processes, so that
the close never waits for one; once closed, a round ignores whatever comes.
-/

namespace QuadControl.Android.Wireless

open Lib

/-- How a process is found by `round_close`: exited, or killed and waited for. -/
inductive Reaping where
  | exited
  | killed (reaped : Except Text Unit)
  deriving Repr, DecidableEq

def Reaping.error : Reaping → Option WirelessError
  | .killed (.error error) => some (.io error)
  | .exited | .killed (.ok ()) => none

/-- What `round_close` is given. -/
structure Closing where
  round : RoundState
  pairs : List Process
  secret : PairingSecret
  qr : Text
  deriving Repr, DecidableEq

/-- The reason of an event of its own. -/
def RoundEvent.reason : RoundEvent → CloseReason
  | .serviceLost => .serviceLost
  | .pairSucceeded _ => .success
  | .pairFailed => .pairFailed
  | .pairTimedOut => .pairTimedOut
  | .timeout => .timeout
  | .cancelled => .cancelled

namespace Closing

variable (closing : Closing)

/-- What the round makes of the event once its processes are gone. -/
def observe (event : RoundEvent) : RoundAction × RoundState :=
  { closing.round with pairInFlight := false }.observe event

/-- `round_close`. -/
def roundClose (reap : Process → Reaping) (event : RoundEvent) :
    (CloseReason × Except WirelessError Unit) × Closing :=
  -- One failure does not keep the others from being reaped.
  let firstError := closing.pairs.findSome? fun process => (reap process).error
  let (action, round) := closing.observe event
  let (reason, round) :=
    match action with
    | .close reason => (reason, round)
    | .ignoredAfterClose => (.cancelled, round)
    -- `close` answers with the reason it was given.
    | .waitForPair => (.serviceLost, (round.close .serviceLost).2)
  let closed :=
    match firstError with
    | some error => .error error
    | none => .ok ()
  ((reason, closed), ⟨round, [], closing.secret.wipe, []⟩)

/-- What may come after a close. -/
inductive Call where
  | observe (event : RoundEvent)
  | observeForRound (roundId : Nat) (event : RoundEvent)
  | roundClose (reap : Process → Reaping) (event : RoundEvent)

/-- What the round makes of a call. -/
def action : Call → RoundAction
  | .observe event => (closing.round.observe event).1
  | .observeForRound roundId event => (closing.round.observeForRound roundId event).1
  | .roundClose _ event => (closing.observe event).1

def after : Call → Closing
  | .observe event => { closing with round := (closing.round.observe event).2 }
  | .observeForRound roundId event =>
      { closing with round := (closing.round.observeForRound roundId event).2 }
  | .roundClose reap event => (closing.roundClose reap event).2

/-- A round that is closed, with nothing left of what it held. -/
structure Closed : Prop where
  closed : closing.round.closed = true
  pairInFlight : closing.round.pairInFlight = false
  pairs : closing.pairs = []
  secret : closing.secret = ⟨[], [], []⟩
  qr : closing.qr = []

variable {closing}

/-- An open round with nothing in flight is closed by every event, for its own reason. -/
theorem observe_of_open (isOpen : closing.round.closed = false) (event : RoundEvent) :
    (closing.observe event).1 = .close event.reason := by
  cases event <;> simp [observe, RoundState.observe, RoundState.failing, RoundState.close, isOpen,
    RoundEvent.reason]

theorem observe_round (isOpen : closing.round.closed = false) (event : RoundEvent) :
    (closing.observe event).2.closed = true ∧ (closing.observe event).2.pairInFlight = false ∧
      (closing.observe event).2.id = (closing.round.id + 1) % 2 ^ 64 := by
  cases event <;>
    simp [observe, RoundState.observe, RoundState.failing, RoundState.close, isOpen]

theorem observe_guid (isOpen : closing.round.closed = false) (unpaired : closing.round.guid = none)
    (event : RoundEvent) (guid : Text) :
    (closing.observe event).2.guid = some guid ↔ event = .pairSucceeded guid := by
  cases event <;>
    simp [observe, RoundState.observe, RoundState.failing, RoundState.close, isOpen, unpaired]

/-- The close of an open round takes what its `observe` leaves. -/
theorem roundClose_of_open (isOpen : closing.round.closed = false) (reap : Process → Reaping)
    (event : RoundEvent) :
    (closing.roundClose reap event).1.1 = event.reason ∧
      (closing.roundClose reap event).2 =
        ⟨(closing.observe event).2, [], closing.secret.wipe, []⟩ := by
  have closes := observe_of_open isOpen event
  unfold roundClose
  simp only [closes]
  exact ⟨trivial, trivial⟩

theorem Closed.of_roundClose (isOpen : closing.round.closed = false) (reap : Process → Reaping)
    (event : RoundEvent) : (closing.roundClose reap event).2.Closed := by
  obtain ⟨closed, idle, -⟩ := observe_round isOpen event
  rw [(roundClose_of_open isOpen reap event).2]
  exact ⟨closed, idle, rfl, rfl, rfl⟩

theorem Closed.observe (closed : closing.Closed) (event : RoundEvent) :
    closing.observe event = (.ignoredAfterClose, closing.round) := by
  have idle : { closing.round with pairInFlight := false } = closing.round := by
    rw [← closed.pairInFlight]
  unfold Closing.observe
  rw [idle]
  exact if_pos closed.closed

theorem Closed.ignores (closed : closing.Closed) (call : Call) :
    closing.action call = .ignoredAfterClose := by
  cases call with
  | observe event => simp [action, RoundState.observe, closed.closed]
  | observeForRound roundId event => simp [action, RoundState.observeForRound, closed.closed]
  | roundClose reap event => simp only [action, closed.observe]

theorem Closed.after (closed : closing.Closed) (call : Call) : closing.after call = closing := by
  cases call with
  | observe event => simp [Closing.after, RoundState.observe, closed.closed]
  | observeForRound roundId event =>
      simp [Closing.after, RoundState.observeForRound, closed.closed]
  | roundClose reap event =>
      have observed := closed.observe event
      obtain ⟨round, pairs, secret, qr⟩ := closing
      obtain ⟨-, -, rfl, rfl, rfl⟩ := closed
      simp only [Closing.after, roundClose, observed]
      rfl

end Closing

namespace Loop

/-- What is closed when the loop has returned. -/
def closing (loop : Loop) (qr : Text) : Closing := ⟨loop.round, loop.pairs, loop.secret, qr⟩

/-- A round is closed once, by the event its loop returned as by any other, and stays so. -/
theorem pairingRound_closedOnce (secret : PairingSecret) (generation now : Nat) (qr : Text)
    (inputs : List Input) (loop : Loop) (event : RoundEvent) (reap : Process → Reaping)
    (ran : Machine.run Loop.advance (Loop.start secret (.new generation) [] now) inputs =
      some loop) :
    loop.round.closed = false ∧
      ((loop.closing qr).observe event).1 = .close event.reason ∧
      ((loop.closing qr).roundClose reap event).1.1 = event.reason ∧
      ∀ closed, ((loop.closing qr).roundClose reap event).2 = closed →
        closed.Closed ∧ closed.round.id = (generation + 1) % 2 ^ 64 ∧
        (∀ guid, closed.round.guid = some guid ↔ event = .pairSucceeded guid) ∧
        ∀ calls : List Closing.Call, calls.foldl Closing.after closed = closed ∧
          ∀ call, closed.action call = .ignoredAfterClose := by
  have held : Held (.new generation) loop :=
    Machine.run_preserves (fun _ _ _ held stepped => Held.step held stepped)
      (Held.start secret (.new generation) now) ran
  have isOpen : (loop.closing qr).round.closed = false := held.tracked.closed
  have unpaired : (loop.closing qr).round.guid = none := held.tracked.guid
  have current : (loop.closing qr).round.id = generation := held.tracked.id
  obtain ⟨reason, left⟩ := Closing.roundClose_of_open isOpen reap event
  refine ⟨isOpen, Closing.observe_of_open isOpen event, reason, ?_⟩
  rintro closed rfl
  have final := Closing.Closed.of_roundClose isOpen reap event
  refine ⟨final, ?_, ?_, fun calls => ⟨List.foldl_fixed' final.after calls, final.ignores⟩⟩
  · rw [left, ← current]
    exact (Closing.observe_round isOpen event).2.2
  · rw [left]
    exact Closing.observe_guid isOpen unpaired event

/-- The last round there is an id for pairs, although its service went away. -/
theorem pairingRound_closedOnce_wraps :
    ∃ loop, Machine.run Loop.advance
        (Loop.start sampleSecret (.new (2 ^ 64 - 1)) [] 0) lostAndPaired = some loop ∧
      ((loop.closing ['#']).roundClose (fun _ => .killed (.error ['e']))
        (.pairSucceeded "adb-X".toList)).1 = (.success, .error (.io ['e'])) ∧
      ((loop.closing ['#']).roundClose (fun _ => .killed (.error ['e']))
        (.pairSucceeded "adb-X".toList)).2.round.id = 0 := by
  refine ⟨_, rfl, rfl, ?_⟩
  exact ((pairingRound_closedOnce sampleSecret (2 ^ 64 - 1) 0 ['#'] lostAndPaired _
    (.pairSucceeded "adb-X".toList) _ rfl).2.2.2 _ rfl).2.1

end Loop

end QuadControl.Android.Wireless
