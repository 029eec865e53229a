import Mathlib.Logic.Function.Basic
import QuadControl.Lib.Machine

/-! # Interleaved threads

Any number of threads, each with a state of its own, and one state they share.
A run is a list of events, one thread taking one atomic action at a time, in any
order: the pool of the threads is a machine, and its runs have the rules of one. What
holds of all reachable pools is proved from single actions: what an action does for
the thread that takes it, and what it leaves to the others.
-/

namespace QuadControl.Lib.Interleaving

variable {Shared Local Action : Type}

/-- What an action of the numbered thread makes of the shared state and of the
    thread's own; `none` where the action is not enabled. -/
abbrev Thread (Shared Local Action : Type) :=
  Nat → Shared → Local → Action → Option (Shared × Local)

structure Pool (Shared Local : Type) where
  shared : Shared
  threads : Nat → Local

/-- An action and the thread that takes it. -/
abbrev Event (Action : Type) := Nat × Action

variable (thread : Thread Shared Local Action)

def step (pool : Pool Shared Local) (event : Event Action) : Option (Pool Shared Local) :=
  (thread event.1 pool.shared (pool.threads event.1) event.2).map fun (shared, own) =>
    ⟨shared, Function.update pool.threads event.1 own⟩

def run (pool : Pool Shared Local) : List (Event Action) → Option (Pool Shared Local)
  | [] => some pool
  | event :: events => (step thread pool event).bind fun next => run next events

/-- Every event of a run meets a condition on it and the pool before it. -/
def Meets (condition : Pool Shared Local → Event Action → Prop) (pool : Pool Shared Local) :
    List (Event Action) → Prop
  | [] => True
  | event :: events =>
      condition pool event ∧ ∀ next, step thread pool event = some next → Meets condition next events

/-- An invariant made of a part about the shared state and a part about each thread. -/
def Everywhere (whole : Shared → Prop) (each : Nat → Shared → Local → Prop)
    (pool : Pool Shared Local) : Prop :=
  whole pool.shared ∧ ∀ i, each i pool.shared (pool.threads i)

/-- A property of every pool on the way of a run. -/
def Throughout (property : Pool Shared Local → Prop) (pool : Pool Shared Local)
    (events : List (Event Action)) : Prop :=
  ∀ before reached, before <+: events → run thread pool before = some reached → property reached

variable {thread}

theorem step_some {pool next : Pool Shared Local} {event : Event Action}
    (h : step thread pool event = some next) :
    ∃ shared own, thread event.1 pool.shared (pool.threads event.1) event.2 = some (shared, own) ∧
      next = ⟨shared, Function.update pool.threads event.1 own⟩ := by
  simp only [step, Option.map_eq_some_iff, Prod.exists] at h
  obtain ⟨shared, own, acted, rfl⟩ := h
  exact ⟨shared, own, acted, rfl⟩

/-- A thread that takes no action stays where it was. -/
theorem run_untouched {pool final : Pool Shared Local} {events : List (Event Action)} {i : Nat}
    (ran : run thread pool events = some final) (others : ∀ event ∈ events, event.1 ≠ i) :
    final.threads i = pool.threads i := by
  induction events generalizing pool with
  | nil =>
      obtain rfl := Option.some.inj ran
      rfl
  | cons event events ih =>
      simp only [run, Option.bind_eq_some_iff] at ran
      obtain ⟨next, stepped, ran⟩ := ran
      obtain ⟨shared, own, -, rfl⟩ := step_some stepped
      have apart : i ≠ event.1 := (others event (.head _)).symm
      rw [ih ran fun later inside => others later (.tail _ inside)]
      exact Function.update_of_ne apart ..

theorem run_eq (pool : Pool Shared Local) (events : List (Event Action)) :
    run thread pool events = Machine.run (step thread) pool events := by
  induction events generalizing pool with
  | nil => rfl
  | cons event events ih => simp only [run, Machine.run, ih]

theorem meets_iff {condition : Pool Shared Local → Event Action → Prop}
    {pool : Pool Shared Local} {events : List (Event Action)} :
    Meets thread condition pool events ↔ Machine.Meets (step thread) condition pool events := by
  induction events generalizing pool with
  | nil => exact Iff.rfl
  | cons event events ih => simp only [Meets, Machine.Meets, ih]

theorem throughout_iff {property : Pool Shared Local → Prop} {pool : Pool Shared Local}
    {events : List (Event Action)} :
    Throughout thread property pool events ↔
      Machine.Throughout (step thread) property pool events := by
  simp only [Throughout, Machine.Throughout, run_eq]

/-- What every event that meets the condition preserves holds at the end of every
    run whose events do. -/
theorem run_invariant {condition : Pool Shared Local → Event Action → Prop}
    {invariant : Pool Shared Local → Prop}
    (preserved : ∀ pool event next, invariant pool → condition pool event →
      step thread pool event = some next → invariant next)
    {pool final : Pool Shared Local} {events : List (Event Action)} (start : invariant pool)
    (meets : Meets thread condition pool events) (ran : run thread pool events = some final) :
    invariant final := by
  rw [run_eq] at ran
  exact Machine.run_invariant preserved start (meets_iff.mp meets) ran

/-- Where an event that misses the condition dooms the pool, and for good, a run that does
    not end in a doomed pool meets the condition all along. -/
theorem meets_of_not_doomed {condition allowed : Pool Shared Local → Event Action → Prop}
    {invariant doomed : Pool Shared Local → Prop}
    (preserved : ∀ pool event next, invariant pool → allowed pool event →
      step thread pool event = some next → invariant next)
    (dooms : ∀ pool event next, invariant pool → step thread pool event = some next →
      ¬ condition pool event → doomed next)
    (lasts : ∀ pool event next, doomed pool → allowed pool event →
      step thread pool event = some next → doomed next)
    {pool final : Pool Shared Local} {events : List (Event Action)} (start : invariant pool)
    (may : Meets thread allowed pool events) (ran : run thread pool events = some final)
    (saved : ¬ doomed final) : Meets thread condition pool events := by
  rw [run_eq] at ran
  exact meets_iff.mpr
    (Machine.meets_of_not_doomed preserved dooms lasts start (meets_iff.mp may) ran saved)

/-- Where the condition on an event says exactly whether the event keeps a property, a
    run has the property throughout just when all its events meet the condition. -/
theorem run_throughout_iff {condition : Pool Shared Local → Event Action → Prop}
    {invariant property : Pool Shared Local → Prop}
    (preserved : ∀ pool event next, invariant pool → step thread pool event = some next →
      invariant next)
    (decides : ∀ pool event next, invariant pool → property pool →
      step thread pool event = some next → (property next ↔ condition pool event))
    {pool final : Pool Shared Local} {events : List (Event Action)} (start : invariant pool)
    (holds : property pool) (ran : run thread pool events = some final) :
    Throughout thread property pool events ↔ Meets thread condition pool events := by
  rw [run_eq] at ran
  rw [throughout_iff, meets_iff]
  exact Machine.run_throughout_iff preserved decides start holds ran

/-- Conditions that can be decided can be checked along a run. -/
instance Meets.decidable (condition : Pool Shared Local → Event Action → Prop)
    [∀ pool event, Decidable (condition pool event)] (pool : Pool Shared Local)
    (events : List (Event Action)) : Decidable (Meets thread condition pool events) :=
  decidable_of_iff (Machine.Meets (step thread) condition pool events) meets_iff.symm

theorem Meets.mono {weak strong : Pool Shared Local → Event Action → Prop}
    (implies : ∀ pool event, strong pool event → weak pool event) {pool : Pool Shared Local}
    {events : List (Event Action)} (h : Meets thread strong pool events) :
    Meets thread weak pool events :=
  meets_iff.mpr (Machine.Meets.mono implies (meets_iff.mp h))

/-- Where all events are of the first threads, the others are as they were all along. -/
theorem meets_of_few {weak strong : Pool Shared Local → Event Action → Prop}
    {pool start : Pool Shared Local} {events : List (Event Action)} {count : Nat}
    (few : ∀ event ∈ events, event.1 < count)
    (implies : ∀ reached event, (∀ i, count ≤ i → reached.threads i = start.threads i) →
      weak reached event → strong reached event)
    (untouched : ∀ i, count ≤ i → pool.threads i = start.threads i)
    (meets : Meets thread weak pool events) : Meets thread strong pool events := by
  induction events generalizing pool with
  | nil => trivial
  | cons event events ih =>
      refine ⟨implies pool event untouched meets.1, fun next stepped => ?_⟩
      refine ih (fun other inside => few other (.tail _ inside)) (fun i beyond => ?_)
        (meets.2 next stepped)
      obtain ⟨shared, own, -, rfl⟩ := step_some stepped
      have apart : i ≠ event.1 := by
        have here := few event (.head _)
        omega
      exact (Function.update_of_ne apart ..).trans (untouched i beyond)

theorem meets_trivial (pool : Pool Shared Local) (events : List (Event Action)) :
    Meets thread (fun _ _ => True) pool events :=
  meets_iff.mpr (Machine.meets_trivial pool events)

/-- Where the other threads keep their part, the rest is about the thread that acted. -/
theorem Everywhere.update_iff {whole : Shared → Prop} {each : Nat → Shared → Local → Prop}
    {threads : Nat → Local} {me : Nat} {shared : Shared} {own : Local}
    (others : ∀ j, j ≠ me → each j shared (threads j)) :
    Everywhere whole each ⟨shared, Function.update threads me own⟩ ↔
      whole shared ∧ each me shared own := by
  refine and_congr_right fun _ => ⟨fun h => ?_, fun h j => ?_⟩
  · simpa using h me
  · by_cases same : j = me
    · subst same
      simpa using h
    · simpa [Function.update_of_ne same] using others j same

/-- The rule of non-interference: an action keeps the invariant when it does for
    the thread that takes it and, through the shared state, for any other. -/
theorem Everywhere.step {whole : Shared → Prop} {each : Nat → Shared → Local → Prop}
    {pool next : Pool Shared Local} {event : Event Action} (h : Everywhere whole each pool)
    (stepped : Interleaving.step thread pool event = some next)
    (own : ∀ shared local', thread event.1 pool.shared (pool.threads event.1) event.2 =
      some (shared, local') → whole shared ∧ each event.1 shared local')
    (other : ∀ shared local' j, thread event.1 pool.shared (pool.threads event.1) event.2 =
      some (shared, local') → j ≠ event.1 → each j pool.shared (pool.threads j) →
        each j shared (pool.threads j)) :
    Everywhere whole each next := by
  obtain ⟨shared, local', acted, rfl⟩ := step_some stepped
  exact (Everywhere.update_iff fun j apart => other shared local' j acted apart (h.2 j)).mpr
    (own shared local' acted)

/-! ### Histories -/

variable {History : Type}

/-- Threads beside a history of their actions, which no action reads. -/
def noted (note : Nat → Shared → Local → Action → History → History)
    (thread : Thread Shared Local Action) : Thread (Shared × History) Local Action :=
  fun me (shared, history) own action =>
    (thread me shared own action).map fun (shared', own') =>
      ((shared', note me shared own action history), own')

def Pool.unnoted (pool : Pool (Shared × History) Local) : Pool Shared Local :=
  ⟨pool.shared.1, pool.threads⟩

variable (note : Nat → Shared → Local → Action → History → History)

theorem step_noted (pool : Pool (Shared × History) Local) (event : Event Action) :
    (step (noted note thread) pool event).map Pool.unnoted = step thread pool.unnoted event := by
  simp only [step, noted, Pool.unnoted, Option.map_map]
  rfl

/-- The runs beside a history are the runs without it. -/
theorem run_noted (pool : Pool (Shared × History) Local) (events : List (Event Action)) :
    (run (noted note thread) pool events).map Pool.unnoted = run thread pool.unnoted events := by
  induction events generalizing pool with
  | nil => rfl
  | cons event events ih =>
      simp only [run, ← step_noted note]
      cases step (noted note thread) pool event with
      | none => rfl
      | some next => exact ih next

variable {note}

theorem noted_some {me : Nat} {shared : Shared} {history : History} {own : Local} {action : Action}
    {after : (Shared × History) × Local}
    (h : noted note thread me (shared, history) own action = some after) :
    ∃ shared' own', thread me shared own action = some (shared', own') ∧
      after = ((shared', note me shared own action history), own') := by
  simp only [noted, Option.map_eq_some_iff, Prod.exists] at h
  obtain ⟨shared', own', acted, rfl⟩ := h
  exact ⟨shared', own', acted, rfl⟩

end QuadControl.Lib.Interleaving
