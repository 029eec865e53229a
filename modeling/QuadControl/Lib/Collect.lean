import QuadControl.Lib.Reports
import Mathlib.Logic.Function.Basic

/-! # Callers that wait for workers

A call asks workers to stop, one after the other, and then waits for the message of each,
up to a deadline. A message is there for one call: whoever waits for it later waits in vain.
Calls and workers take their steps in any order.
-/

namespace QuadControl.Lib.Collect

open Machine

variable {κ State Input Status : Type}

/-- A worker with the input of those that ask it to stop. -/
structure Stoppable (State Input Status : Type) extends Worker State Input Status where
  stop : Input

/-- What a call still has to do, and what it reports. -/
structure Call (κ : Type) where
  asking : List κ
  waiting : List κ
  timedOut : List κ
  /-- Note: those workers that had sent their message before the call began. -/
  ended : List κ
  deriving DecidableEq

structure Callers (κ State : Type) where
  workers : κ → State
  /-- How many messages of a worker were taken. -/
  taken : κ → Nat
  calls : Nat → Option (Call κ)

inductive Event (κ Input : Type) where
  | worker (key : κ) (input : Input)
  | begin (call : Nat) (keys : List κ)
  | ask (call : Nat)
  /-- A wait is over: with a message, or at the deadline, or since none can come any more. -/
  | receive (call : Nat)

/-- Before any call. -/
def initial (start : κ → State) : Callers κ State where
  workers := start
  taken _ := 0
  calls _ := none

variable (workers : κ → Stoppable State Input Status)

namespace Callers

variable (state : Callers κ State)

/-- The messages that a worker has sent. -/
def done (key : κ) : Nat := ((workers key).report (state.workers key)).done

def setCall (call : Nat) (now : Call κ) : Callers κ State :=
  { state with calls := Function.update state.calls call (some now) }

/-- The worker takes a step. -/
def work [DecidableEq κ] (state : Callers κ State) (key : κ) (input : Input) :
    Option (Callers κ State) :=
  ((workers key).step (state.workers key) input).map fun next =>
    { state with workers := Function.update state.workers key next }

def step [DecidableEq κ] (state : Callers κ State) : Event κ Input → Option (Callers κ State)
  | .worker key input => state.work workers key input
  | .begin call keys =>
      match state.calls call with
      | some _ => none
      | none =>
          some (state.setCall call ⟨keys, keys, [], keys.filter fun key => 0 < state.done workers key⟩)
  | .ask call =>
      match state.calls call with
      | some ⟨key :: asking, waiting, timedOut, ended⟩ =>
          (state.work workers key (workers key).stop).map fun next =>
            next.setCall call ⟨asking, waiting, timedOut, ended⟩
      | _ => none
  | .receive call =>
      match state.calls call with
      | some ⟨[], key :: waiting, timedOut, ended⟩ =>
          if state.taken key < state.done workers key then
            some { state.setCall call ⟨[], waiting, timedOut, ended⟩ with
              taken := Function.update state.taken key (state.taken key + 1) }
          else some (state.setCall call ⟨[], waiting, timedOut ++ [key], ended⟩)
      | _ => none

/-- No call reports a worker that had ended before. -/
def Honest (state : Callers κ State) : Prop :=
  ∀ call now, state.calls call = some now → ∀ key ∈ now.ended, key ∉ now.timedOut

/-- A wait for a worker that had ended before its call comes to a message that was not taken. -/
def Unclaimed (state : Callers κ State) : Event κ Input → Prop
  | .receive call => ∀ now, state.calls call = some now → now.asking = [] →
      ∀ key ∈ now.waiting.head?, key ∈ now.ended → state.taken key = 0
  | _ => True

/-- The invariant of a run. -/
structure Sound (start : κ → State) (state : Callers κ State) : Prop where
  reached : ∀ key, ∃ inputs, run (workers key).step (start key) inputs = some (state.workers key)
  taken : ∀ key, state.taken key ≤ state.done workers key
  ended : ∀ call now, state.calls call = some now → ∀ key ∈ now.ended,
    0 < state.done workers key

variable {workers} {state} {next : Callers κ State} {start : κ → State}
  {words : List Status → Prop} {terminal : Status → Prop}

theorem setCall_self (call : Nat) (now : Call κ) : (state.setCall call now).calls call = some now :=
  Function.update_self ..

theorem setCall_of_ne {call other : Nat} (differ : other ≠ call) (now : Call κ) :
    (state.setCall call now).calls other = state.calls other :=
  Function.update_of_ne differ ..

theorem sound_initial (start : κ → State) : (initial start).Sound workers start where
  reached _ := ⟨[], rfl⟩
  taken _ := Nat.zero_le _
  ended := nofun

/-- What a call notes as ended has ended. -/
theorem Sound.setCall (sound : state.Sound workers start) {call : Nat} {now : Call κ}
    (ended : ∀ key ∈ now.ended, 0 < state.done workers key) :
    (state.setCall call now).Sound workers start := by
  refine ⟨sound.reached, sound.taken, fun other later same key inside => ?_⟩
  by_cases here : other = call
  · subst here
    obtain rfl := Option.some.inj ((state.setCall_self other now).symm.trans same)
    exact ended key inside
  · exact sound.ended other later ((state.setCall_of_ne here now).symm.trans same) key inside

theorem Honest.setCall (honest : state.Honest) {call : Nat} {now : Call κ}
    (fresh : ∀ key ∈ now.ended, key ∉ now.timedOut) : (state.setCall call now).Honest := by
  intro other later same
  by_cases here : other = call
  · subst here
    obtain rfl := Option.some.inj ((state.setCall_self other now).symm.trans same)
    exact fresh
  · exact honest other later ((state.setCall_of_ne here now).symm.trans same)

variable [DecidableEq κ]

section

variable (reports : ∀ key, (workers key).toWorker.Reports words terminal (start key))
  (sound : state.Sound workers start) {key : κ} {input : Input}
include reports sound

/-- A step of a worker changes that worker only, and takes no message back. -/
theorem Sound.work (stepped : state.work workers key input = some next) :
    next.Sound workers start ∧ next.calls = state.calls ∧ next.taken = state.taken := by
  obtain ⟨later, worked, rfl⟩ := Option.map_eq_some_iff.mp stepped
  obtain ⟨inputs, ran⟩ := sound.reached key
  have grows : ∀ other, state.done workers other ≤
      ((workers other).report (Function.update state.workers key later other)).done := by
    intro other
    by_cases same : other = key
    · subst same
      rw [Function.update_self]
      exact (reports other).done_mono ran worked
    · rw [Function.update_of_ne same]
      rfl
  refine ⟨⟨fun other => ?_, fun other => (sound.taken other).trans (grows other),
    fun call now same other ended => (sound.ended call now same other ended).trans_le (grows other)⟩,
    rfl, rfl⟩
  by_cases same : other = key
  · subst same
    refine ⟨inputs ++ [input], ?_⟩
    dsimp only
    rw [Function.update_self]
    exact run_snoc ran worked
  · dsimp only
    rw [Function.update_of_ne same]
    exact sound.reached other

end

theorem sound_of_step (reports : ∀ key, (workers key).toWorker.Reports words terminal (start key))
    (state : Callers κ State) (event : Event κ Input) (next : Callers κ State)
    (sound : state.Sound workers start) (stepped : state.step workers event = some next) :
    next.Sound workers start := by
  cases event with
  | worker key input => exact (sound.work reports stepped).1
  | begin call keys =>
      simp only [step] at stepped
      split at stepped
      · cases stepped
      · obtain rfl := Option.some.inj stepped
        exact sound.setCall fun key ended => of_decide_eq_true (List.mem_filter.mp ended).2
  | ask call =>
      simp only [step] at stepped
      split at stepped
      · rename_i key asking waiting timedOut ended here
        obtain ⟨asked, worked, rfl⟩ := Option.map_eq_some_iff.mp stepped
        obtain ⟨sound', calls, -⟩ := sound.work reports worked
        have before := sound'.ended call ⟨key :: asking, waiting, timedOut, ended⟩ (calls ▸ here)
        exact sound'.setCall before
      · cases stepped
  | receive call =>
      simp only [step] at stepped
      split at stepped
      · rename_i key waiting timedOut ended here
        have before := sound.ended call _ here
        split at stepped
        · rename_i unread
          obtain rfl := Option.some.inj stepped
          have later : (state.setCall call ⟨[], waiting, timedOut, ended⟩).Sound workers start :=
            sound.setCall before
          refine ⟨later.reached, fun other => ?_, later.ended⟩
          dsimp only
          by_cases same : other = key
          · subst same
            rw [Function.update_self]
            exact unread
          · rw [Function.update_of_ne same]
            exact sound.taken other
        · obtain rfl := Option.some.inj stepped
          exact sound.setCall before
      · cases stepped

/-- A step reports a worker that had ended just when its message was taken before. -/
theorem honest_of_step (reports : ∀ key, (workers key).toWorker.Reports words terminal (start key))
    (state : Callers κ State) (event : Event κ Input) (next : Callers κ State)
    (sound : state.Sound workers start) (honest : state.Honest)
    (stepped : state.step workers event = some next) :
    next.Honest ↔ state.Unclaimed event := by
  cases event with
  | worker key input =>
      obtain ⟨-, calls, -⟩ := sound.work reports stepped
      exact iff_of_true (fun call now same => honest call now (calls ▸ same)) trivial
  | begin call keys =>
      simp only [step] at stepped
      split at stepped
      · cases stepped
      · obtain rfl := Option.some.inj stepped
        exact iff_of_true (honest.setCall fun _ _ => List.not_mem_nil) trivial
  | ask call =>
      simp only [step] at stepped
      split at stepped
      · rename_i key asking waiting timedOut ended here
        obtain ⟨asked, worked, rfl⟩ := Option.map_eq_some_iff.mp stepped
        obtain ⟨-, calls, -⟩ := sound.work reports worked
        have honest' : asked.Honest := fun call now same => honest call now (calls ▸ same)
        have before := honest call ⟨key :: asking, waiting, timedOut, ended⟩ here
        exact iff_of_true (honest'.setCall before) trivial
      · cases stepped
  | receive call =>
      simp only [step] at stepped
      split at stepped
      · rename_i key waiting timedOut ended here
        have before := honest call _ here
        have once : state.done workers key ≤ 1 := by
          obtain ⟨inputs, ran⟩ := sound.reached key
          exact ((reports key).obeys inputs _ ran).once
        have waits : state.Unclaimed (.receive call : Event κ Input) ↔
            (key ∈ ended → state.taken key = 0) := by
          simp [Unclaimed, here]
        rw [waits]
        split at stepped
        · rename_i unread
          obtain rfl := Option.some.inj stepped
          refine iff_of_true ?_ fun _ => by omega
          have same : (state.setCall call ⟨[], waiting, timedOut, ended⟩).Honest :=
            honest.setCall before
          exact same
        · rename_i read
          obtain rfl := Option.some.inj stepped
          constructor
          · intro honest' member
            have listed := honest' call _ (state.setCall_self call _) key member
            simp at listed
          · intro unclaimed
            refine honest.setCall fun other member => ?_
            intro listed
            rcases List.mem_append.mp listed with earlier | now
            · exact before other member earlier
            · obtain rfl := List.mem_singleton.mp now
              have none := unclaimed member
              have sent := sound.ended call _ here other member
              omega
      · cases stepped

/-- Reports are honest just as long as no wait comes to a message that was taken before. -/
theorem honest_iff (reports : ∀ key, (workers key).toWorker.Reports words terminal (start key))
    {events : List (Event κ Input)} {final : Callers κ State}
    (ran : run (step workers) (initial start) events = some final) :
    Throughout (step workers) Honest (initial start) events ↔
      Meets (step workers) Unclaimed (initial start) events :=
  run_throughout_iff (sound_of_step reports) (honest_of_step reports) (sound_initial start) nofun ran

end Callers

end QuadControl.Lib.Collect
