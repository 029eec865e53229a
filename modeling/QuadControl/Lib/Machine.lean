import Mathlib.Data.List.Infix

/-! # Runs of a machine

A machine is a step that an input may take from a state, or not. What holds of every
state on the way of a run is proved from single steps.
-/

namespace QuadControl.Lib.Machine

variable {State Input : Type} (step : State → Input → Option State)

def run (state : State) : List Input → Option State
  | [] => some state
  | input :: inputs => (step state input).bind fun next => run next inputs

/-- Every input of a run meets a condition on it and the state before it. -/
def Meets (condition : State → Input → Prop) (state : State) : List Input → Prop
  | [] => True
  | input :: inputs =>
      condition state input ∧ ∀ next, step state input = some next → Meets condition next inputs

/-- A property of every state on the way of a run. -/
def Throughout (property : State → Prop) (state : State) (inputs : List Input) : Prop :=
  ∀ before reached, before <+: inputs → run step state before = some reached → property reached

variable {step}

/-- What every input that meets the condition preserves holds at the end of every run
    whose inputs do. -/
theorem run_invariant {condition : State → Input → Prop} {invariant : State → Prop}
    (preserved : ∀ state input next, invariant state → condition state input →
      step state input = some next → invariant next)
    {state final : State} {inputs : List Input} (start : invariant state)
    (meets : Meets step condition state inputs) (ran : run step state inputs = some final) :
    invariant final := by
  induction inputs generalizing state with
  | nil =>
      obtain rfl := Option.some.inj ran
      exact start
  | cons input inputs ih =>
      simp only [run, Option.bind_eq_some_iff] at ran
      obtain ⟨next, stepped, ran⟩ := ran
      exact ih (preserved state input next start meets.1 stepped) (meets.2 next stepped) ran

theorem run_snoc {state reached next : State} {inputs : List Input} {input : Input}
    (ran : run step state inputs = some reached) (stepped : step reached input = some next) :
    run step state (inputs ++ [input]) = some next := by
  induction inputs generalizing state with
  | nil =>
      obtain rfl := Option.some.inj ran
      simp [run, stepped]
  | cons earlier inputs ih =>
      simp only [run, Option.bind_eq_some_iff] at ran
      obtain ⟨second, first, ran⟩ := ran
      simp [run, first, ih ran]

theorem run_append (state : State) (first second : List Input) :
    run step state (first ++ second) = (run step state first).bind fun next =>
      run step next second := by
  induction first generalizing state with
  | nil => rfl
  | cons input first ih =>
      simp only [List.cons_append, run, ih, Option.bind_assoc]

theorem meets_of_forall {condition : State → Input → Prop} {inputs : List Input}
    (all : ∀ input ∈ inputs, ∀ state, condition state input) (state : State) :
    Meets step condition state inputs := by
  induction inputs generalizing state with
  | nil => trivial
  | cons input inputs ih =>
      have later := ih fun input inside => all input (.tail _ inside)
      exact ⟨all input (.head _) state, fun next _ => later next⟩

theorem meets_trivial (state : State) (inputs : List Input) :
    Meets step (fun _ _ => True) state inputs :=
  meets_of_forall (fun _ _ _ => trivial) state

theorem run_preserves {invariant : State → Prop}
    (preserved : ∀ state input next, invariant state → step state input = some next →
      invariant next)
    {state final : State} {inputs : List Input} (start : invariant state)
    (ran : run step state inputs = some final) : invariant final :=
  run_invariant (fun state input next holds _ => preserved state input next holds) start
    (meets_trivial state inputs) ran

/-- Where every step lowers a measure, a run has no more steps than that. -/
theorem length_add_measure_le {measure : State → Nat} {invariant : State → Prop}
    (preserved : ∀ state input next, invariant state → step state input = some next →
      invariant next)
    (lowers : ∀ state input next, invariant state → step state input = some next →
      measure next < measure state)
    {state final : State} {inputs : List Input} (start : invariant state)
    (ran : run step state inputs = some final) :
    inputs.length + measure final ≤ measure state := by
  induction inputs generalizing state with
  | nil =>
      obtain rfl := Option.some.inj ran
      simp
  | cons input inputs ih =>
      simp only [run, Option.bind_eq_some_iff] at ran
      obtain ⟨next, stepped, ran⟩ := ran
      have lower := lowers state input next start stepped
      have rest := ih (preserved state input next start stepped) ran
      simp only [List.length_cons]
      omega

/-- Where there is always a step that leaves less to do, until the goal is reached, a run reaches
    it. -/
theorem run_reaches {condition : State → Input → Prop} {invariant : Nat → State → Prop}
    {goal : State → Prop}
    (progress : ∀ bound state, invariant bound state → ¬ goal state → ∃ input next less,
      condition state input ∧ step state input = some next ∧ invariant less next ∧ less < bound)
    {bound : Nat} {state : State} (start : invariant bound state) :
    ∃ inputs final left, Meets step condition state inputs ∧ run step state inputs = some final ∧
      invariant left final ∧ goal final := by
  induction bound using Nat.strong_induction_on generalizing state with
  | h bound ih =>
      by_cases done : goal state
      · exact ⟨[], state, bound, trivial, rfl, start, done⟩
      · obtain ⟨input, next, less, meets, stepped, holds, lower⟩ := progress bound state start done
        obtain ⟨inputs, final, left, meets', ran, rest⟩ := ih less lower holds
        refine ⟨input :: inputs, final, left, ⟨meets, fun next' stepped' => ?_⟩, ?_, rest⟩
        · obtain rfl := Option.some.inj (stepped.symm.trans stepped')
          exact meets'
        · simp only [run, stepped, Option.bind_some, ran]

/-- An invariant that may look at the inputs so far. -/
theorem run_history {invariant : List Input → State → Prop}
    (preserved : ∀ inputs state input next, invariant inputs state →
      step state input = some next → invariant (inputs ++ [input]) next)
    {past : List Input} {state final : State} {inputs : List Input} (start : invariant past state)
    (ran : run step state inputs = some final) : invariant (past ++ inputs) final := by
  induction inputs generalizing past state with
  | nil =>
      obtain rfl := Option.some.inj ran
      rwa [List.append_nil]
  | cons input inputs ih =>
      simp only [run, Option.bind_eq_some_iff] at ran
      obtain ⟨next, stepped, ran⟩ := ran
      have later := ih (preserved past state input next start stepped) ran
      rwa [List.append_assoc, List.singleton_append] at later

theorem Meets.mono {weak strong : State → Input → Prop}
    (implies : ∀ state input, strong state input → weak state input) {state : State}
    {inputs : List Input} (h : Meets step strong state inputs) : Meets step weak state inputs := by
  induction inputs generalizing state with
  | nil => trivial
  | cons input inputs ih => exact ⟨implies state input h.1, fun next h' => ih (h.2 next h')⟩

/-- Where an input that misses the condition dooms the state, and for good, a run that does
    not end in a doomed state meets the condition all along. -/
theorem meets_of_not_doomed {condition allowed : State → Input → Prop}
    {invariant doomed : State → Prop}
    (preserved : ∀ state input next, invariant state → allowed state input →
      step state input = some next → invariant next)
    (dooms : ∀ state input next, invariant state → step state input = some next →
      ¬ condition state input → doomed next)
    (lasts : ∀ state input next, doomed state → allowed state input →
      step state input = some next → doomed next)
    {state final : State} {inputs : List Input} (start : invariant state)
    (may : Meets step allowed state inputs) (ran : run step state inputs = some final)
    (saved : ¬ doomed final) : Meets step condition state inputs := by
  induction inputs generalizing state with
  | nil => trivial
  | cons input inputs ih =>
      simp only [run, Option.bind_eq_some_iff] at ran
      obtain ⟨next, stepped, ran⟩ := ran
      have later := may.2 next stepped
      constructor
      · by_contra missed
        have doom := dooms state input next start stepped missed
        exact saved (run_invariant lasts doom later ran)
      · intro next' stepped'
        obtain rfl := Option.some.inj (stepped.symm.trans stepped')
        exact ih (preserved state input next start may.1 stepped) later ran

theorem throughout_cons {property : State → Prop} {state next : State} {input : Input}
    {inputs : List Input} (stepped : step state input = some next) :
    Throughout step property state (input :: inputs) ↔
      property state ∧ Throughout step property next inputs := by
  constructor
  · intro throughout
    refine ⟨throughout [] state List.nil_prefix rfl, fun before reached start ran => ?_⟩
    refine throughout (input :: before) reached (List.cons_prefix_cons.mpr ⟨rfl, start⟩) ?_
    simp only [run, stepped, Option.bind_some, ran]
  · rintro ⟨holds, throughout⟩ before reached start ran
    cases before with
    | nil =>
        obtain rfl := Option.some.inj ran
        exact holds
    | cons first before =>
        obtain ⟨rfl, rest⟩ := List.cons_prefix_cons.mp start
        simp only [run, stepped, Option.bind_some] at ran
        exact throughout before reached rest ran

/-- Where the condition on an allowed input says exactly whether its step keeps a property,
    a run of allowed inputs has the property throughout just when they all meet the condition. -/
theorem allowed_throughout_iff {condition allowed : State → Input → Prop}
    {invariant property : State → Prop}
    (preserved : ∀ state input next, invariant state → allowed state input →
      step state input = some next → invariant next)
    (decides : ∀ state input next, invariant state → property state → allowed state input →
      step state input = some next → (property next ↔ condition state input))
    {state final : State} {inputs : List Input} (start : invariant state) (holds : property state)
    (may : Meets step allowed state inputs) (ran : run step state inputs = some final) :
    Throughout step property state inputs ↔ Meets step condition state inputs := by
  induction inputs generalizing state with
  | nil =>
      refine iff_of_true (fun before reached start ran => ?_) trivial
      obtain rfl := List.prefix_nil.mp start
      obtain rfl := Option.some.inj ran
      exact holds
  | cons input inputs ih =>
      simp only [run, Option.bind_eq_some_iff] at ran
      obtain ⟨next, stepped, ran⟩ := ran
      have here := decides state input next start holds may.1 stepped
      have later := fun holds' =>
        ih (preserved state input next start may.1 stepped) holds' (may.2 next stepped) ran
      rw [throughout_cons stepped]
      constructor
      · intro throughout
        have holds' := throughout.2 [] next List.nil_prefix rfl
        refine ⟨here.mp holds', fun next' stepped' => ?_⟩
        obtain rfl := Option.some.inj (stepped.symm.trans stepped')
        exact (later holds').mp throughout.2
      · intro meets
        exact ⟨holds, (later (here.mpr meets.1)).mpr (meets.2 next stepped)⟩

theorem run_throughout_iff {condition : State → Input → Prop} {invariant property : State → Prop}
    (preserved : ∀ state input next, invariant state → step state input = some next →
      invariant next)
    (decides : ∀ state input next, invariant state → property state →
      step state input = some next → (property next ↔ condition state input))
    {state final : State} {inputs : List Input} (start : invariant state) (holds : property state)
    (ran : run step state inputs = some final) :
    Throughout step property state inputs ↔ Meets step condition state inputs :=
  allowed_throughout_iff (fun state input next holds _ => preserved state input next holds)
    (fun state input next holds has _ => decides state input next holds has) start holds
    (meets_trivial state inputs) ran

/-- What every input that meets the condition preserves holds all the way of a run whose
    inputs do. -/
theorem throughout_of_meets {condition : State → Input → Prop} {invariant : State → Prop}
    (preserved : ∀ state input next, invariant state → condition state input →
      step state input = some next → invariant next)
    {state : State} {inputs : List Input} (start : invariant state)
    (meets : Meets step condition state inputs) : Throughout step invariant state inputs := by
  induction inputs generalizing state with
  | nil =>
      intro before reached prefixed ran
      obtain rfl := List.prefix_nil.mp prefixed
      obtain rfl := Option.some.inj ran
      exact start
  | cons input inputs ih =>
      intro before reached prefixed ran
      cases before with
      | nil =>
          obtain rfl := Option.some.inj ran
          exact start
      | cons first before =>
          obtain ⟨rfl, rest⟩ := List.cons_prefix_cons.mp prefixed
          simp only [run, Option.bind_eq_some_iff] at ran
          obtain ⟨next, stepped, ran⟩ := ran
          exact ih (preserved state first next start meets.1 stepped) (meets.2 next stepped) before
            reached rest ran

/-- Where a step into a state with the property has to meet the condition, a run that has
    the property throughout meets it all along. -/
theorem meets_of_throughout {condition : State → Input → Prop} {invariant property : State → Prop}
    (preserved : ∀ state input next, invariant state → condition state input →
      step state input = some next → invariant next)
    (needs : ∀ state input next, invariant state → step state input = some next → property next →
      condition state input)
    {state final : State} {inputs : List Input} (start : invariant state)
    (ran : run step state inputs = some final)
    (throughout : Throughout step property state inputs) : Meets step condition state inputs := by
  induction inputs generalizing state with
  | nil => trivial
  | cons input inputs ih =>
      simp only [run, Option.bind_eq_some_iff] at ran
      obtain ⟨next, stepped, ran⟩ := ran
      have later := ((throughout_cons stepped).mp throughout).2
      have now := needs state input next start stepped (later [] next List.nil_prefix rfl)
      refine ⟨now, fun next' stepped' => ?_⟩
      obtain rfl := Option.some.inj (stepped.symm.trans stepped')
      exact ih (preserved state input next start now stepped) ran later

theorem Throughout.mono {strong weak : State → Prop} (implies : ∀ state, strong state → weak state)
    {state : State} {inputs : List Input} (h : Throughout step strong state inputs) :
    Throughout step weak state inputs :=
  fun before reached start ran => implies reached (h before reached start ran)

/-- A property of the last state that a step keeps backwards, as long as another one holds
    throughout, holds throughout. -/
theorem Throughout.backwards {invariant property earlier : State → Prop}
    (preserved : ∀ state input next, invariant state → step state input = some next →
      invariant next)
    (back : ∀ state input next, invariant state → step state input = some next →
      property next → earlier next → earlier state)
    {state final : State} {inputs : List Input} (start : invariant state)
    (ran : run step state inputs = some final)
    (throughout : Throughout step property state inputs) (last : earlier final) :
    Throughout step (fun state => property state ∧ earlier state) state inputs := by
  induction inputs generalizing state with
  | nil =>
      obtain rfl := Option.some.inj ran
      intro before reached prefixed ran'
      obtain rfl := List.prefix_nil.mp prefixed
      obtain rfl := Option.some.inj ran'
      exact ⟨throughout [] _ List.nil_prefix rfl, last⟩
  | cons input inputs ih =>
      simp only [run, Option.bind_eq_some_iff] at ran
      obtain ⟨next, stepped, ran⟩ := ran
      obtain ⟨here, rest⟩ := (throughout_cons stepped).mp throughout
      have later := ih (preserved state input next start stepped) ran rest
      obtain ⟨holds, earlier⟩ := later [] next List.nil_prefix rfl
      rw [throughout_cons stepped]
      exact ⟨⟨here, back state input next start stepped holds earlier⟩, later⟩

/-- Conditions that can be decided can be checked along a run. -/
instance Meets.decidable (condition : State → Input → Prop)
    [∀ state input, Decidable (condition state input)] (state : State) (inputs : List Input) :
    Decidable (Meets step condition state inputs) :=
  match inputs with
  | [] => isTrue trivial
  | input :: inputs =>
      match stepped : step state input with
      | none => decidable_of_iff (condition state input)
          ⟨fun now => ⟨now, fun next h => by rw [stepped] at h; cases h⟩, And.left⟩
      | some next =>
          have := Meets.decidable condition next inputs
          decidable_of_iff (condition state input ∧ Meets step condition next inputs)
            ⟨fun h => ⟨h.1, fun next' h' => by
                obtain rfl := Option.some.inj (stepped.symm.trans h')
                exact h.2⟩,
              fun h => ⟨h.1, h.2 next stepped⟩⟩

end QuadControl.Lib.Machine
