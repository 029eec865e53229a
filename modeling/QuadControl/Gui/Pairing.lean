import QuadControl.Lib.Interleaving
import QuadControl.Lib.Text

/-! # Pairing in the desktop shell

`start_pairing`, `pair_manual` and `cancel_pairing` share the state of the one pairing
that may be under way and the cancel token of its worker. A thread is one call; a call
that starts a pairing becomes its worker when its lock section succeeds, and is done
when the result is delivered. The token's lock is taken inside the state's only, so it
belongs to that section. A token is told from others by the call that made it.

What the worker does until it has a result is not looked at here: the result may come
at any time and be any.
-/

namespace QuadControl.Gui.Pairing

open Lib Lib.Interleaving

/-! ### The store -/

/-- `PairingState`; instants in nanoseconds. -/
inductive State where
  | idle
  | waiting (generation started : Nat)
  | succeeded (generation : Nat) (deviceName : Text)
  | failed (generation : Nat) (code : Text)
  | cancelling (generation : Nat)
  deriving Repr, DecidableEq

/-- `pairing_generation`. -/
def State.generation : State → Nat
  | .idle => 0
  | .waiting generation _ | .succeeded generation _ | .failed generation _
  | .cancelling generation => generation

/-- `pairing_is_active`. -/
def State.isActive : State → Bool
  | .waiting _ _ | .cancelling _ => true
  | .idle | .succeeded _ _ | .failed _ _ => false

/-- The generation of the pairing under way. -/
def State.active : State → Option Nat
  | .waiting generation _ | .cancelling generation => some generation
  | .idle | .succeeded _ _ | .failed _ _ => none

theorem State.active_eq_none {state : State} : state.active = none ↔ state.isActive = false := by
  cases state <;> simp [active, isActive]

theorem State.generation_of_active {state : State} {generation : Nat}
    (active : state.active = some generation) : state.generation = generation := by
  cases state <;> first | exact Option.some.inj active | cases active

/-- `PairingStore`, the token by the call that made it. -/
structure Store where
  state : State
  cancel : Option Nat
  nextGeneration : Nat
  deriving Repr, DecidableEq

structure Shared where
  store : Store
  /-- The tokens that are tripped. -/
  cancelled : Nat → Bool

def pairFailed : Text := "pair_failed".toList

def pairingAlreadyRunning : Text := "pairing_already_running".toList

/-- The generation the next start call is given: the counter wraps before one is added. -/
def Store.number (store : Store) : Nat := (store.nextGeneration + 1) % 2 ^ 64

namespace Shared

variable (shared : Shared)

/-- `next_generation.fetch_add(1)`. -/
def count : Shared := { shared with store.nextGeneration := shared.store.number }

/-- The lock section of a start call that finds no pairing under way. -/
def wait (token generation now : Nat) : Shared :=
  { shared with
    store.state := .waiting generation now
    store.cancel := some token }

/-- The stored token is tripped, if there is one. -/
def trip : Shared :=
  match shared.store.cancel with
  | none => shared
  | some token => { shared with cancelled := Function.update shared.cancelled token true }

/-- The section of `cancel_pairing`. -/
def cancelPairing : Shared :=
  match shared.store.state with
  | .waiting generation _ => { shared.trip with store.state := .cancelling generation }
  | _ => shared

/-- `set_pairing_result`. -/
def setPairingResult (generation : Nat) (result : Except Text Text) : Shared :=
  if shared.store.state.generation ≠ generation then shared
  else
    match shared.store.state with
    | .cancelling _ => { shared with store.state := .idle, store.cancel := none }
    | _ =>
        let outcome := match result with
          | .ok name => State.succeeded generation name
          | .error code => State.failed generation code
        { shared with store.state := outcome, store.cancel := none }

@[simp] theorem count_state : shared.count.store.state = shared.store.state := rfl

@[simp] theorem count_cancel : shared.count.store.cancel = shared.store.cancel := rfl

@[simp] theorem trip_store : shared.trip.store = shared.store := by
  unfold trip
  split <;> rfl

theorem cancelPairing_of_waiting {generation started : Nat}
    (waits : shared.store.state = .waiting generation started) :
    shared.cancelPairing = { shared.trip with store.state := .cancelling generation } := by
  simp [cancelPairing, waits]

theorem cancelPairing_of_not_waiting
    (other : ∀ generation started, shared.store.state ≠ .waiting generation started) :
    shared.cancelPairing = shared := by
  unfold cancelPairing
  split
  · exact absurd ‹_› (other _ _)
  · rfl

@[simp] theorem cancelPairing_cancel :
    shared.cancelPairing.store.cancel = shared.store.cancel := by
  unfold cancelPairing
  split <;> simp

@[simp] theorem cancelPairing_active :
    shared.cancelPairing.store.state.active = shared.store.state.active := by
  unfold cancelPairing
  split
  · rename_i waits
    simp [waits, State.active]
  · rfl

theorem trip_of_cancelled {token : Nat} (tripped : shared.cancelled token = true) :
    shared.trip.cancelled token = true := by
  unfold trip
  split
  · exact tripped
  · rename_i stored _
    by_cases same : token = stored
    · subst same
      simp
    · simpa [Function.update_of_ne same] using tripped

theorem trip_cancelled {token : Nat} (stored : shared.store.cancel = some token) :
    shared.trip.cancelled token = true := by
  simp [trip, stored]

end Shared

/-! ### Calls -/

structure QrMatrix where
  side : Nat
  modules : List Bool
  deriving Repr, DecidableEq

/-- What a start call that succeeds returns: `PairingStartDto`, or the generation. -/
inductive Answer where
  | qr (generation : Nat) (matrix : QrMatrix) (totalSecs : Nat)
  | manual (generation : Nat)
  deriving Repr, DecidableEq

def Answer.generation : Answer → Nat
  | .qr generation _ _ | .manual generation => generation

/-- `ROUND_TIMEOUT.as_secs()`. -/
def roundTimeoutSecs : Nat := 300

/-- `validate_manual_inputs`; whether the host is an address is given. -/
def validateManualInputs (hostIsAddress : Bool) (port : Nat) (code : Text) : Except Text Unit :=
  if ¬ hostIsAddress then .error pairFailed
  else if port = 0 ∨ ¬ code.all Char.isDigit ∨ code.length ≠ 6 then .error pairFailed
  else .ok ()

/-- `PairingStatusDto`, its state as an enumeration. -/
structure Status where
  state : State
  remainingSecs : Option Nat
  deriving Repr, DecidableEq

/-- `pairing_status_from`. -/
def statusFrom (now : Nat) (state : State) : Status :=
  match state with
  | .waiting _ started => ⟨state, some (roundTimeoutSecs - (now - started) / 10 ^ 9)⟩
  | _ => ⟨state, none⟩

/-- Where a call stands. -/
inductive Call where
  | idle
  -- A start call with its generation, before its lock section.
  | numbered (answer : Answer)
  -- Its worker, in flight.
  | working (answer : Answer)
  | delivered (answer : Answer)
  | refused (code : Text)
  | polled (status : Status)
  | returned
  deriving Repr, DecidableEq

inductive Action where
  /-- With the matrix of the payload, if it has one. -/
  | startPairing (matrix : Option QrMatrix)
  | pairManual (hostIsAddress : Bool) (port : Nat) (code : Text)
  /-- The lock section of a start call. -/
  | lock (now : Nat)
  /-- The worker's result is delivered. -/
  | finish (result : Except Text Text)
  | cancelPairing
  | pairingStatus (now : Nat)
  /-- The exiting process trips the token. -/
  | reclaim

/-- One step of a call. -/
def advance : Thread Shared Call Action := fun me shared call action =>
  match call, action with
  | .idle, .startPairing none => some (shared, .refused pairFailed)
  | .idle, .startPairing (some matrix) =>
      some (shared.count, .numbered (.qr shared.store.number matrix roundTimeoutSecs))
  | .idle, .pairManual hostIsAddress port code =>
      match validateManualInputs hostIsAddress port code with
      | .error code => some (shared, .refused code)
      | .ok () => some (shared.count, .numbered (.manual shared.store.number))
  | .numbered answer, .lock now =>
      if shared.store.state.isActive then some (shared, .refused pairingAlreadyRunning)
      else some (shared.wait me answer.generation now, .working answer)
  | .working answer, .finish result =>
      some (shared.setPairingResult answer.generation result, .delivered answer)
  | .idle, .cancelPairing => some (shared.cancelPairing, .returned)
  | .idle, .pairingStatus now => some (shared, .polled (statusFrom now shared.store.state))
  | .idle, .reclaim => some (shared.trip, .returned)
  | _, _ => none

def initial : Pool Shared Call := ⟨⟨⟨.idle, none, 0⟩, fun _ => false⟩, fun _ => .idle⟩

/-- The generation of the worker a call is. -/
def Call.worker : Call → Option Nat
  | .working answer => some answer.generation
  | _ => none

/-- What a step can do, one constructor a kind of step. -/
inductive Step (me : Nat) (shared : Shared) : Call → Action → Shared → Call → Prop
  | count (action answer) : Step me shared .idle action shared.count (.numbered answer)
  | start (answer now) (free : shared.store.state.isActive = false) :
      Step me shared (.numbered answer) (.lock now) (shared.wait me answer.generation now)
        (.working answer)
  | deliver (answer result) :
      Step me shared (.working answer) (.finish result)
        (shared.setPairingResult answer.generation result) (.delivered answer)
  | cancel : Step me shared .idle .cancelPairing shared.cancelPairing .returned
  | reclaim : Step me shared .idle .reclaim shared.trip .returned
  | look (call next : Call) (action) (before : call.worker = none) (after : next.worker = none) :
      Step me shared call action shared next

theorem Step.of_advance {me : Nat} {shared shared' : Shared} {call call' : Call} {action : Action}
    (h : advance me shared call action = some (shared', call')) :
    Step me shared call action shared' call' := by
  unfold advance at h
  split at h
  · cases h
    exact .look _ _ _ rfl rfl
  · cases h
    exact .count ..
  · split at h
    · cases h
      exact .look _ _ _ rfl rfl
    · cases h
      exact .count ..
  · split at h
    · cases h
      exact .look _ _ _ rfl rfl
    · cases h
      exact .start _ _ (Bool.not_eq_true _ ▸ ‹_›)
  · cases h
    exact .deliver ..
  · cases h
    exact .cancel
  · cases h
    exact .look _ _ _ rfl rfl
  · cases h
    exact .reclaim
  · cases h

/-! ### One worker at a time -/

/-- A token is stored while a pairing is under way, and is tripped once the pairing is
    being cancelled. -/
structure Tracked (shared : Shared) : Prop where
  stored : shared.store.cancel = none ↔ shared.store.state.active = none
  tripped : ∀ generation token, shared.store.state = .cancelling generation →
    shared.store.cancel = some token → shared.cancelled token = true

/-- The worker in flight is the call whose token is stored. -/
def Owned (me : Nat) (shared : Shared) (call : Call) : Prop :=
  ∀ generation, call.worker = some generation ↔
    shared.store.cancel = some me ∧ shared.store.state.active = some generation

def OneWorker : Pool Shared Call → Prop := Everywhere Tracked Owned

theorem Owned.of_same {me : Nat} {shared shared' : Shared} {call call' : Call}
    (owned : Owned me shared call) (cancel : shared'.store.cancel = shared.store.cancel)
    (active : shared'.store.state.active = shared.store.state.active)
    (worker : call'.worker = call.worker) : Owned me shared' call' := by
  intro generation
  rw [worker, cancel, active]
  exact owned generation

/-- Where another call's token is stored, or none, a call is no worker. -/
theorem Owned.of_other {me : Nat} {shared : Shared} {call : Call}
    (cancel : shared.store.cancel ≠ some me) (worker : call.worker = none) :
    Owned me shared call := by
  intro generation
  rw [worker]
  exact iff_of_false (fun impossible => by cases impossible) fun stored => cancel stored.1

theorem Owned.worker_of_other {me : Nat} {shared : Shared} {call : Call}
    (owned : Owned me shared call) (cancel : shared.store.cancel ≠ some me) :
    call.worker = none := by
  cases worker : call.worker with
  | none => rfl
  | some generation => exact absurd ((owned generation).mp worker).1 cancel

theorem Tracked.of_none {shared : Shared} (cancel : shared.store.cancel = none)
    (active : shared.store.state.active = none) : Tracked shared where
  stored := iff_of_true cancel active
  tripped := by
    intro generation token cancelling
    rw [cancelling] at active
    cases active

theorem Tracked.cancel_of_free {shared : Shared} (tracked : Tracked shared)
    (free : shared.store.state.isActive = false) : shared.store.cancel = none :=
  tracked.stored.mpr (State.active_eq_none.mpr free)

/-- The result of the worker in flight is its own generation's, and ends the pairing. -/
theorem Shared.setPairingResult_of_active {shared : Shared} {generation : Nat}
    (result : Except Text Text) (active : shared.store.state.active = some generation) :
    (shared.setPairingResult generation result).store.cancel = none ∧
      (shared.setPairingResult generation result).store.state.active = none := by
  unfold setPairingResult
  rw [if_neg (not_not.mpr (State.generation_of_active active))]
  split
  · exact ⟨rfl, rfl⟩
  · cases result <;> exact ⟨rfl, rfl⟩

theorem Tracked.own {me : Nat} {shared shared' : Shared} {call call' : Call} {action : Action}
    (step : Step me shared call action shared' call') (tracked : Tracked shared)
    (owned : Owned me shared call) : Tracked shared' := by
  cases step with
  | count | look => exact ⟨tracked.stored, tracked.tripped⟩
  | start answer now free =>
      refine ⟨iff_of_false (by simp [Shared.wait]) (by simp [Shared.wait, State.active]), ?_⟩
      intro generation token cancelling
      cases cancelling
  | deliver answer result =>
      obtain ⟨cancel, active⟩ :=
        Shared.setPairingResult_of_active result ((owned answer.generation).mp rfl).2
      exact .of_none cancel active
  | cancel =>
      refine ⟨by simpa using tracked.stored, fun generation token cancelling stored => ?_⟩
      rw [Shared.cancelPairing_cancel] at stored
      by_cases waits : ∃ generation started, shared.store.state = .waiting generation started
      · obtain ⟨generation, started, waits⟩ := waits
        rw [shared.cancelPairing_of_waiting waits]
        exact shared.trip_cancelled stored
      · have same := shared.cancelPairing_of_not_waiting fun generation started waiting =>
          waits ⟨generation, started, waiting⟩
        rw [same] at cancelling ⊢
        exact tracked.tripped generation token cancelling stored
  | reclaim =>
      refine ⟨by simpa using tracked.stored, fun generation token cancelling stored => ?_⟩
      rw [Shared.trip_store] at cancelling stored
      exact shared.trip_of_cancelled (tracked.tripped generation token cancelling stored)

theorem Owned.own {me : Nat} {shared shared' : Shared} {call call' : Call} {action : Action}
    (step : Step me shared call action shared' call') (owned : Owned me shared call) :
    Owned me shared' call' := by
  cases step with
  | count | cancel | reclaim => exact owned.of_same (by simp) (by simp) rfl
  | start answer now free =>
      intro generation
      simp [Call.worker, Shared.wait, State.active]
  | deliver answer result =>
      have inFlight := (owned answer.generation).mp rfl
      have cancel := (Shared.setPairingResult_of_active result inFlight.2).1
      exact .of_other (by simp [cancel]) rfl
  | look call next action before after => exact owned.of_same rfl rfl (after.trans before.symm)

theorem Owned.other {me other : Nat} {shared shared' : Shared} {call call' theirs : Call}
    {action : Action} (step : Step me shared call action shared' call') (apart : other ≠ me)
    (tracked : Tracked shared) (owned : Owned me shared call) (their : Owned other shared theirs) :
    Owned other shared' theirs := by
  cases step with
  | count | cancel | reclaim => exact their.of_same (by simp) (by simp) rfl
  | start answer now free =>
      have none := tracked.cancel_of_free free
      exact .of_other (by simpa [Shared.wait] using apart.symm)
        (their.worker_of_other (by simp [none]))
  | deliver answer result =>
      have inFlight := (owned answer.generation).mp rfl
      have cancel := (Shared.setPairingResult_of_active result inFlight.2).1
      exact .of_other (by simp [cancel])
        (their.worker_of_other (by simpa [inFlight.1] using apart.symm))
  | look => exact their

theorem OneWorker.initial : OneWorker initial :=
  ⟨.of_none rfl rfl, fun _ => .of_other (by simp [Pairing.initial]) rfl⟩

theorem OneWorker.step {pool next : Pool Shared Call} {event : Event Action}
    (one : OneWorker pool) (stepped : Interleaving.step advance pool event = some next) :
    OneWorker next :=
  Everywhere.step one stepped
    (fun _ _ acted =>
      ⟨.own (.of_advance acted) one.1 (one.2 event.1), .own (.of_advance acted) (one.2 event.1)⟩)
    (fun _ _ _ acted apart their =>
      .other (.of_advance acted) apart one.1 (one.2 event.1) their)

/-- What is known of the store and the worker in flight between any two sections. -/
structure InStep (pool : Pool Shared Call) : Prop where
  single : ∀ i j g h, (pool.threads i).worker = some g → (pool.threads j).worker = some h → i = j
  active : ∀ generation, pool.shared.store.state.active = some generation ↔
    ∃ i, (pool.threads i).worker = some generation
  /-- A cancel that finds the pairing waiting trips its worker's token. -/
  trips : ∀ i next generation started, pool.shared.store.state = .waiting generation started →
    step advance pool (i, .cancelPairing) = some next →
      next.shared.store.state = .cancelling generation ∧
        ∃ j, (pool.threads j).worker = some generation ∧ next.shared.cancelled j = true
  /-- A result that changes the state changes that of its own generation. -/
  results : ∀ i answer result next, pool.threads i = .working answer →
    step advance pool (i, .finish result) = some next →
      pool.shared.store.state.active = some answer.generation ∧
        next.shared.store.state.active = none
  stored : (∀ i, (pool.threads i).worker = none) → pool.shared.store.cancel = none

theorem advance_cancelPairing {me : Nat} {shared shared' : Shared} {call call' : Call}
    (acted : advance me shared call .cancelPairing = some (shared', call')) :
    shared' = shared.cancelPairing := by
  cases call with
  | idle =>
      cases acted
      rfl
  | _ => cases acted

theorem OneWorker.active_iff {pool : Pool Shared Call} (one : OneWorker pool) (generation : Nat) :
    pool.shared.store.state.active = some generation ↔
      ∃ i, (pool.threads i).worker = some generation := by
  constructor
  · intro active
    cases cancel : pool.shared.store.cancel with
    | none => cases active.symm.trans (one.1.stored.mp cancel)
    | some i => exact ⟨i, (one.2 i generation).mpr ⟨cancel, active⟩⟩
  · rintro ⟨i, worker⟩
    exact ((one.2 i generation).mp worker).2

theorem OneWorker.inStep {pool : Pool Shared Call} (one : OneWorker pool) : InStep pool where
  single := by
    intro i j g h ofI ofJ
    have storedI := ((one.2 i g).mp ofI).1
    have storedJ := ((one.2 j h).mp ofJ).1
    exact Option.some.inj (storedI.symm.trans storedJ)
  active := one.active_iff
  trips := by
    intro i next generation started waits stepped
    obtain ⟨j, worker⟩ := (one.active_iff generation).mp (by rw [waits]; rfl)
    have stored := ((one.2 j generation).mp worker).1
    obtain ⟨shared, own, acted, rfl⟩ := step_some stepped
    obtain rfl := advance_cancelPairing acted
    rw [Shared.cancelPairing_of_waiting _ waits]
    exact ⟨rfl, j, worker, pool.shared.trip_cancelled stored⟩
  results := by
    intro i answer result next working stepped
    have active := ((one.2 i answer.generation).mp (by rw [working]; rfl)).2
    refine ⟨active, ?_⟩
    simp only [Interleaving.step, working, advance, Option.map_some, Option.some.injEq] at stepped
    subst stepped
    exact (Shared.setPairingResult_of_active result active).2
  stored := by
    intro idle
    cases cancel : pool.shared.store.cancel with
    | none => rfl
    | some i =>
        cases active : pool.shared.store.state.active with
        | none => cases cancel.symm.trans (one.1.stored.mpr active)
        | some generation =>
            have worker := (one.2 i generation).mpr ⟨cancel, active⟩
            cases worker.symm.trans (idle i)

/-- In every run at most one worker is in flight, the state tells its generation, and
    cancels and results are its own. -/
theorem pairing_inStep (events : List (Event Action)) (final : Pool Shared Call)
    (ran : run advance initial events = some final) : InStep final :=
  (run_invariant (fun _ _ _ one _ stepped => OneWorker.step one stepped) .initial
    (meets_trivial _ _) ran : OneWorker final).inStep

/-- Two start calls race; the worker of the one that wins is cancelled, and a pairing by
    hand follows. -/
def cancelAndRestart : List (Event Action) :=
  [(0, .startPairing (some ⟨21, []⟩)), (1, .startPairing (some ⟨21, []⟩)), (1, .lock 5),
    (0, .lock 6), (2, .cancelPairing), (1, .finish (.ok ['A'])),
    (3, .pairManual true 37145 ['1', '2', '3', '4', '5', '6']), (3, .lock 9)]

theorem pairing_inStep_cancelAndRestart :
    ∃ final, run advance initial cancelAndRestart = some final ∧
      final.shared.store.state = .waiting 3 9 ∧ InStep final :=
  ⟨_, rfl, rfl, pairing_inStep cancelAndRestart _ rfl⟩

end QuadControl.Gui.Pairing
