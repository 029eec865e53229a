import QuadControl.Lib.Machine

/-! # The ladder that ends a group of child processes

`terminate_all` on Unix signals every process group, polls the children within one shared
budget, signals again, polls again, kills, and waits for one child after the other.
Children exit whenever they do, between any two of its steps; the answers of
`escalated`, of the clock and of the polls are inputs. Whether the wait for a child that
was not reaped before fails is a property of the child.
-/

namespace QuadControl.Process

open Lib Lib.Machine

inductive Signal where
  | interrupt
  | terminate
  | kill
  deriving Repr, DecidableEq

inductive Phase where
  | running
  | exited
  | reaped
  deriving Repr, DecidableEq

/-- A child, whether its own wait fails, and what its group was sent, the latest first. -/
structure Child where
  phase : Phase
  waitFails : Bool
  signals : List Signal
  deriving Repr, DecidableEq

def Child.exit (child : Child) : Child := { child with phase := .exited }

def Child.reap (child : Child) : Child := { child with phase := .reaped }

def Child.send (child : Child) (signal : Signal) : Child :=
  { child with signals := signal :: child.signals }

/-- The rungs with a shared wait. -/
inductive Rung where
  | interrupt
  | terminate
  deriving Repr, DecidableEq

def Rung.signal : Rung → Signal
  | .interrupt => .interrupt
  | .terminate => .terminate

/-- Where `terminate_all` stands, at the number of a child in its loops. -/
inductive Point where
  | start
  | signalling (rung : Rung) (index : Nat)
  -- `wait_all_for`: in a round of polls, and past one that found a child unfinished.
  | polling (rung : Rung) (index : Nat)
  | pausing (rung : Rung)
  | killing (index : Nat)
  | reaping (index : Nat)
  | returned (ok : Bool)
  deriving Repr, DecidableEq

structure State where
  children : List Child
  point : Point
  deriving Repr, DecidableEq

inductive Input where
  | exits (index : Nat)
  | escalated (answer : Bool)
  -- `escalated() || start.elapsed() >= timeout`.
  | check (escalated elapsed : Bool)
  | tryWait (fails : Bool)
  | go
  deriving Repr, DecidableEq

def initial (children : List Child) : State := ⟨children, .start⟩

namespace State

variable (state : State)

def goto (point : Point) : State := { state with point := point }

def replace (index : Nat) (child : Child) : State :=
  { state with children := state.children.set index child }

/-- The end of a rung's wait without success. -/
def climb : Rung → State
  | .interrupt => state.goto (.signalling .terminate 0)
  | .terminate => state.goto (.killing 0)

/-- `terminate_all_impl`. -/
def step : Input → Option State
  | .exits index => do
      let child ← state.children[index]?
      if child.phase = .running then some (state.replace index child.exit) else none
  | .escalated answer =>
      if state.point = .start then
        some (state.goto (if answer then .signalling .terminate 0 else .signalling .interrupt 0))
      else none
  | .check escalated elapsed =>
      match state.point with
      | .pausing rung =>
          some (if escalated || elapsed then state.climb rung else state.goto (.polling rung 0))
      | _ => none
  | .tryWait fails =>
      match state.point with
      | .polling rung index => do
          let child ← state.children[index]?
          if child.phase = .reaped then some (state.goto (.polling rung (index + 1)))
          else if ¬ fails ∧ child.phase = .exited then
            some ((state.replace index child.reap).goto (.polling rung (index + 1)))
          else some (state.goto (.pausing rung))
      | _ => none
  | .go =>
      match state.point with
      | .signalling rung index =>
          match state.children[index]? with
          | some child =>
              some ((state.replace index (child.send rung.signal)).goto
                (.signalling rung (index + 1)))
          | none => some (state.goto (.polling rung 0))
      | .polling _ index =>
          if state.children[index]? = none then some (state.goto (.returned true)) else none
      | .killing index =>
          match state.children[index]? with
          | some child =>
              some ((state.replace index (child.send .kill)).goto (.killing (index + 1)))
          | none => some (state.goto (.reaping 0))
      | .reaping index =>
          match state.children[index]? with
          | some child =>
              if child.phase = .reaped then some (state.goto (.reaping (index + 1)))
              else if child.waitFails then some (state.goto (.returned false))
              else if child.phase = .exited then
                some ((state.replace index child.reap).goto (.reaping (index + 1)))
              else none
          | none => some (state.goto (.returned true))
      | _ => none

end State

/-! ### What a step does -/

/-- The children before the loop's place that the place speaks for. -/
def Point.passed : Point → Nat
  | .polling _ index | .reaping index => index
  | _ => 0

/-- The wait for the child at the last loop's place fails. -/
def FailsWait (state : State) (input : Input) (index : Nat) : Prop :=
  input = .go ∧ state.point = .reaping index ∧
    ∃ child, state.children[index]? = some child ∧ child.phase ≠ .reaped ∧ child.waitFails = true

/-- What a step can do, the failing wait apart. -/
inductive Turn (state : State) : State → Prop
  | exit {index : Nat} {child : Child} (here : state.children[index]? = some child)
      (running : child.phase = .running) : Turn state (state.replace index child.exit)
  | send {index : Nat} {child : Child} {signal : Signal} {next : Point}
      (here : state.children[index]? = some child) (fresh : next.passed = 0)
      (goes : ∀ ok, next ≠ .returned ok) :
      Turn state ((state.replace index (child.send signal)).goto next)
  | move {next : Point} (fresh : next.passed = 0) (goes : ∀ ok, next ≠ .returned ok) :
      Turn state (state.goto next)
  | pass {child : Child} {next : Point} (here : state.children[state.point.passed]? = some child)
      (reaped : child.phase = .reaped) (further : next.passed = state.point.passed + 1)
      (goes : ∀ ok, next ≠ .returned ok) : Turn state (state.goto next)
  | reap {child : Child} {next : Point} (here : state.children[state.point.passed]? = some child)
      (further : next.passed = state.point.passed + 1) (goes : ∀ ok, next ≠ .returned ok) :
      Turn state ((state.replace state.point.passed child.reap).goto next)
  | finish (all : state.children[state.point.passed]? = none) :
      Turn state (state.goto (.returned true))

variable {state next : State} {input : Input}

theorem step_of_failsWait {index : Nat} (fails : FailsWait state input index) :
    state.step input = some (state.goto (.returned false)) := by
  obtain ⟨rfl, here, child, found, unreaped, waits⟩ := fails
  simp only [State.step, here, found, unreaped, waits, if_true, if_false]

theorem step_cases (stepped : state.step input = some next) :
    Turn state next ∨
      ∃ index, FailsWait state input index ∧ next = state.goto (.returned false) := by
  cases input with
  | exits index =>
      simp only [State.step, Option.bind_eq_bind, Option.bind_eq_some_iff,
        Option.ite_none_right_eq_some, Option.some.injEq] at stepped
      obtain ⟨child, here, running, rfl⟩ := stepped
      exact .inl (.exit here running)
  | escalated answer =>
      simp only [State.step, Option.ite_none_right_eq_some, Option.some.injEq] at stepped
      obtain ⟨-, rfl⟩ := stepped
      cases answer <;> exact .inl (.move rfl nofun)
  | check escalated elapsed =>
      simp only [State.step] at stepped
      split at stepped
      · obtain rfl := Option.some.inj stepped
        split
        · rename_i rung _ _
          cases rung <;> exact .inl (.move rfl nofun)
        · exact .inl (.move rfl nofun)
      · cases stepped
  | tryWait fails =>
      simp only [State.step] at stepped
      split at stepped
      case h_1 rung index here =>
        have passed : state.point.passed = index := by rw [here]; rfl
        subst passed
        simp only [Option.bind_eq_bind, Option.bind_eq_some_iff] at stepped
        obtain ⟨child, found, stepped⟩ := stepped
        split at stepped
        case isTrue reaped =>
          obtain rfl := Option.some.inj stepped
          exact .inl (.pass found reaped rfl nofun)
        case isFalse =>
          split at stepped
          · obtain rfl := Option.some.inj stepped
            exact .inl (.reap found rfl nofun)
          · obtain rfl := Option.some.inj stepped
            exact .inl (.move rfl nofun)
      case h_2 => cases stepped
  | go =>
      simp only [State.step] at stepped
      split at stepped
      case h_1 rung index here =>
        split at stepped
        · obtain rfl := Option.some.inj stepped
          exact .inl (.send ‹_› rfl nofun)
        · obtain rfl := Option.some.inj stepped
          exact .inl (.move rfl nofun)
      case h_2 rung index here =>
        have passed : state.point.passed = index := by rw [here]; rfl
        subst passed
        simp only [Option.ite_none_right_eq_some, Option.some.injEq] at stepped
        obtain ⟨all, rfl⟩ := stepped
        exact .inl (.finish all)
      case h_3 index here =>
        split at stepped
        · obtain rfl := Option.some.inj stepped
          exact .inl (.send ‹_› rfl nofun)
        · obtain rfl := Option.some.inj stepped
          exact .inl (.move rfl nofun)
      case h_4 index here =>
        have passed : state.point.passed = index := by rw [here]; rfl
        subst passed
        split at stepped
        case h_1 child found =>
          split at stepped
          case isTrue reaped =>
            obtain rfl := Option.some.inj stepped
            exact .inl (.pass found reaped rfl nofun)
          case isFalse unreaped =>
            split at stepped
            case isTrue fails =>
              obtain rfl := Option.some.inj stepped
              exact .inr ⟨_, ⟨rfl, here, child, found, unreaped, fails⟩, rfl⟩
            case isFalse =>
              simp only [Option.ite_none_right_eq_some, Option.some.injEq] at stepped
              obtain ⟨-, rfl⟩ := stepped
              exact .inl (.reap found rfl nofun)
        case h_2 all =>
          obtain rfl := Option.some.inj stepped
          exact .inl (.finish all)
      case h_5 => cases stepped

/-! ### Who is reaped -/

/-- What the ladder promises when it returns: children whose own wait does not fail are
    reaped, and all of them after a success. -/
structure Spares (state : State) : Prop where
  others : ∀ ok, state.point = .returned ok → ∀ child ∈ state.children, child.waitFails = false →
    child.phase = .reaped
  all : state.point = .returned true → ∀ child ∈ state.children, child.phase = .reaped

/-- Behind a child whose wait fails there is none left whose own wait would not. -/
def Spared (state : State) (input : Input) : Prop :=
  ∀ index, FailsWait state input index →
    ∀ later ∈ state.children.drop (index + 1), later.waitFails = false → later.phase = .reaped

/-- The loops have reaped what they passed. -/
structure Sound (state : State) : Prop where
  passed : ∀ index < state.point.passed, ∀ child, state.children[index]? = some child →
    child.phase = .reaped
  all : state.point = .returned true → ∀ child ∈ state.children, child.phase = .reaped

theorem spares_initial (children : List Child) : Spares (initial children) := ⟨nofun, nofun⟩

theorem sound_initial (children : List Child) : Sound (initial children) := ⟨nofun, nofun⟩

theorem State.getElem?_replace {index other : Nat} {child new : Child}
    (found : (state.replace index new).children[other]? = some child) :
    other = index ∧ child = new ∨ other ≠ index ∧ state.children[other]? = some child := by
  simp only [State.replace, List.getElem?_set] at found
  split at found
  case isTrue same =>
    obtain ⟨-, rfl⟩ := Option.ite_none_right_eq_some.mp found |>.imp_right Option.some.inj
    exact .inl ⟨same.symm, rfl⟩
  case isFalse apart => exact .inr ⟨Ne.symm apart, found⟩

/-- A child that is written over stays reaped if it was. -/
theorem Sound.replace (sound : Sound state) {index : Nat} {child new : Child}
    (here : state.children[index]? = some child)
    (keeps : child.phase = .reaped → new.phase = .reaped) :
    ∀ other < state.point.passed, ∀ found, (state.replace index new).children[other]? = some found →
      found.phase = .reaped := by
  intro other before found there
  rcases State.getElem?_replace there with ⟨rfl, rfl⟩ | ⟨-, there⟩
  · exact keeps (sound.passed _ before _ here)
  · exact sound.passed _ before _ there

theorem Sound.turn (sound : Sound state) (turn : Turn state next) : Sound next := by
  cases turn with
  | @exit index child here running =>
      refine ⟨sound.replace here (by rw [running]; nofun), fun ok => ?_⟩
      have reaped := sound.all ok child (List.mem_of_getElem? here)
      rw [running] at reaped
      cases reaped
  | send here fresh goes =>
      refine ⟨fun index before => ?_, fun ok => absurd ok (goes true)⟩
      rw [State.goto, fresh] at before
      cases before
  | move fresh goes =>
      refine ⟨fun index before => ?_, fun ok => absurd ok (goes true)⟩
      rw [State.goto, fresh] at before
      cases before
  | @pass child next here reaped further goes =>
      refine ⟨fun index before found there => ?_, fun ok => absurd ok (goes true)⟩
      rw [State.goto, further] at before
      rcases Nat.lt_succ_iff_lt_or_eq.mp before with earlier | rfl
      · exact sound.passed index earlier found there
      · obtain rfl := Option.some.inj (here.symm.trans there)
        exact reaped
  | @reap child next here further goes =>
      refine ⟨fun index before found there => ?_, fun ok => absurd ok (goes true)⟩
      rw [State.goto, further] at before
      rcases State.getElem?_replace there with ⟨-, rfl⟩ | ⟨apart, there⟩
      · rfl
      · exact sound.passed index (by omega) found there
  | finish all =>
      refine ⟨nofun, fun _ child inside => ?_⟩
      obtain ⟨index, found⟩ := List.mem_iff_getElem?.mp inside
      have beyond := List.getElem?_eq_none_iff.mp all
      have within : index < state.children.length := (List.getElem?_eq_some_iff.mp found).1
      exact sound.passed index (by omega) child found

/-- All but a failing wait keeps the promise. -/
theorem Spares.turn (spares : Spares state) (sound : Sound state) (turn : Turn state next) :
    Spares next := by
  have all := (sound.turn turn).all
  refine ⟨fun ok returned child inside own => ?_, all⟩
  cases turn with
  | @exit index exiting here running =>
      obtain ⟨other, found⟩ := List.mem_iff_getElem?.mp inside
      rcases State.getElem?_replace found with ⟨-, rfl⟩ | ⟨-, found⟩
      · have reaped := spares.others ok returned exiting (List.mem_of_getElem? here) own
        rw [running] at reaped
        cases reaped
      · exact spares.others ok returned child (List.mem_of_getElem? found) own
  | send _ _ goes | move _ goes | pass _ _ _ goes | reap _ _ goes => exact absurd returned (goes ok)
  | finish => exact all rfl child inside

/-- After a failing wait the promise is kept when the children behind are spared. -/
theorem spares_failed_iff (sound : Sound state) {index : Nat}
    (fails : FailsWait state input index) :
    Spares (state.goto (.returned false)) ↔
      ∀ later ∈ state.children.drop (index + 1),
        later.waitFails = false → later.phase = .reaped := by
  obtain ⟨-, here, failing, found, -, waits⟩ := fails
  constructor
  · intro spares later behind own
    exact spares.others false rfl later (List.mem_of_mem_drop behind) own
  · intro spared
    refine ⟨fun ok _ child inside own => ?_, nofun⟩
    obtain ⟨other, there⟩ := List.mem_iff_getElem?.mp inside
    rcases Nat.lt_trichotomy other index with before | rfl | behind
    · exact sound.passed other (by rw [here]; exact before) child there
    · obtain rfl := Option.some.inj (found.symm.trans there)
      rw [waits] at own
      cases own
    · refine spared child (List.mem_iff_getElem?.mpr ⟨other - (index + 1), ?_⟩) own
      rw [List.getElem?_drop, show index + 1 + (other - (index + 1)) = other by omega]
      exact there

theorem Sound.step (sound : Sound state) (stepped : state.step input = some next) : Sound next := by
  rcases step_cases stepped with turn | ⟨index, -, rfl⟩
  · exact sound.turn turn
  · exact ⟨nofun, nofun⟩

theorem spares_step_iff (sound : Sound state) (spares : Spares state)
    (stepped : state.step input = some next) : Spares next ↔ Spared state input := by
  by_cases failing : ∃ index, FailsWait state input index
  · obtain ⟨index, fails⟩ := failing
    obtain rfl := Option.some.inj ((step_of_failsWait fails).symm.trans stepped)
    rw [spares_failed_iff sound fails]
    refine ⟨fun spared other fails' => ?_, fun spared => spared index fails⟩
    obtain rfl : index = other := by
      have same := fails.2.1.symm.trans fails'.2.1
      injection same
    exact spared
  · rcases step_cases stepped with turn | ⟨index, fails, -⟩
    · exact iff_of_true (spares.turn sound turn) fun index fails => absurd ⟨index, fails⟩ failing
    · exact absurd ⟨index, fails⟩ failing

/-- In a run over any children, however they exit and whichever polls and waits fail, a
    success means that all are reaped; and the ladder keeps its promise exactly when no
    failing wait has a child behind it that was not reaped and could be. -/
theorem terminateAll_spares_iff (children : List Child) {inputs : List Input} {final : State}
    (ran : run State.step (initial children) inputs = some final) :
    (final.point = .returned true → ∀ child ∈ final.children, child.phase = .reaped) ∧
      (Throughout State.step Spares (initial children) inputs ↔
        Meets State.step Spared (initial children) inputs) := by
  have preserved : ∀ state input next, Sound state → state.step input = some next → Sound next :=
    fun _ _ _ sound stepped => sound.step stepped
  have start := sound_initial children
  refine ⟨(run_preserves preserved start ran).all, ?_⟩
  exact run_throughout_iff preserved
    (fun _ _ _ sound spares stepped => spares_step_iff sound spares stepped) start
    (spares_initial children) ran

instance (state : State) (input : Input) (index : Nat) : Decidable (FailsWait state input index) :=
  match found : state.children[index]? with
  | none => isFalse fun ⟨_, _, child, here, _⟩ => by rw [found] at here; cases here
  | some child =>
      decidable_of_iff
        (input = .go ∧ state.point = .reaping index ∧ child.phase ≠ .reaped ∧ child.waitFails = true)
        ⟨fun ⟨go, here, fails⟩ => ⟨go, here, child, found, fails⟩,
          fun ⟨go, here, _, same, fails⟩ => by
            obtain rfl := Option.some.inj (found.symm.trans same)
            exact ⟨go, here, fails⟩⟩

/-- Only a child of the group can be the one whose wait fails. -/
instance (state : State) (input : Input) : Decidable (Spared state input) :=
  decidable_of_iff
    (∀ index < state.children.length, FailsWait state input index →
      ∀ later ∈ state.children.drop (index + 1), later.waitFails = false → later.phase = .reaped)
    ⟨fun spared index fails =>
        have ⟨_, _, _, found, _⟩ := fails
        spared index (List.getElem?_eq_some_iff.mp found).1 fails,
      fun spared index _ => spared index⟩

/-- The user escalates at once, two children are killed, and both exit. -/
def killed : List Input :=
  [.escalated true, .go, .go, .go, .tryWait false, .check true false, .go, .go, .go, .exits 0,
    .exits 1]

theorem terminateAll_spares_iff_last :
    ∃ final, run State.step (initial [⟨.running, false, []⟩, ⟨.running, true, []⟩])
        (killed ++ [Input.go, .go]) = some final ∧ final.point = .returned false ∧
      Throughout State.step Spares (initial [⟨.running, false, []⟩, ⟨.running, true, []⟩])
        (killed ++ [Input.go, .go]) :=
  ⟨_, rfl, rfl, (terminateAll_spares_iff _ rfl).2.mpr (by decide)⟩

/-- The wait for the first child fails, and the second, which has exited, is never waited for. -/
theorem terminateAll_abandons :
    ¬ ∀ children inputs final, run State.step (initial children) inputs = some final →
      Spares final := by
  intro spares
  have left := (spares [⟨.running, true, []⟩, ⟨.running, false, []⟩] (killed ++ [Input.go]) _ rfl).others
    false rfl ⟨.exited, false, [.kill, .terminate]⟩ (by decide) rfl
  cases left

end QuadControl.Process
