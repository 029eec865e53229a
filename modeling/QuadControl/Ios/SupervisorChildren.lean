import QuadControl.Ios.SupervisorReports

/-! # The child processes of an iOS session

Every process that was spawned was waited for, or is on the supervisor's hands: among the
children, at the place of the start-up that has not pushed it yet, or still to be reaped.
Where a terminal status is written nothing is on its hands.
-/

namespace QuadControl.Ios.Supervisor

open Lib

/-- What is left on the supervisor's hands. -/
def owed (children : List Child) : Point → List Nat
  | .settling _ _ pid | .losing _ _ pid _ => children.map Child.pid ++ [pid]
  | .reaping _ left => left.map Child.pid
  | .reporting _ | .sending | .finished => []
  | _ => children.map Child.pid

theorem Moves.owed {point next : Point} (moves : Moves point next) (children : List Child) :
    owed children next = owed children point := by
  cases moves with
  | unready wait => cases wait <;> rfl
  | _ => rfl

theorem Moves.ne_losing {point next : Point} (moves : Moves point next) {forward : Forward}
    {attempts pid : Nat} {tail : Text} : next ≠ .losing forward attempts pid tail := by
  rintro rfl
  cases moves

namespace Session

variable {options : Options} {session next : Session} {choice : Choice} {input : Input}

/-- The invariant of a run. -/
structure Accounted (session : Session) : Prop where
  held : ∀ pid < session.spawned, pid ∈ session.waited ∨ pid ∈ owed session.children session.point
  gone : ∀ pid ∈ session.waited, session.isExited pid = true
  losing : ∀ forward attempts pid tail, session.point = .losing forward attempts pid tail →
    session.isExited pid = true

theorem accounted_initial (port : Holder) : Accounted (initial port) := ⟨nofun, nofun, nofun⟩

theorem MayEnd.owed (may : session.MayEnd choice) (children : List Child) :
    owed children session.point = children.map Child.pid := by
  unfold MayEnd at may
  split at may <;> simp_all [Supervisor.owed]

theorem Accounted.of (accounted : Accounted session) (exited : next.exited = session.exited)
    (held : ∀ pid < next.spawned, pid ∈ next.waited ∨ pid ∈ owed next.children next.point)
    (waited : ∀ pid ∈ next.waited, pid ∈ session.waited ∨ session.isExited pid = true)
    (elsewhere : ∀ forward attempts pid tail, next.point ≠ .losing forward attempts pid tail) :
    Accounted next where
  held := held
  gone := by
    intro pid inside
    rw [isExited, exited]
    exact (waited pid inside).elim (accounted.gone pid) id
  losing forward attempts pid tail here := absurd here (elsewhere forward attempts pid tail)

/-- A step that spawns nothing and waits for nothing keeps what it has on its hands. -/
theorem Accounted.onward (accounted : Accounted session) (spawned : next.spawned = session.spawned)
    (exited : next.exited = session.exited) (waited : next.waited = session.waited)
    (keeps : owed session.children session.point ⊆ owed next.children next.point)
    (elsewhere : ∀ forward attempts pid tail, next.point ≠ .losing forward attempts pid tail) :
    Accounted next := by
  refine accounted.of exited ?_ (fun pid inside => .inl (waited ▸ inside)) elsewhere
  intro pid below
  rw [waited]
  exact (accounted.held pid (spawned ▸ below)).imp_right fun owes => keeps owes

/-- What is spawned goes on the supervisor's hands. -/
theorem Accounted.spawn (accounted : Accounted session)
    (spawned : next.spawned = session.spawned + 1) (exited : next.exited = session.exited)
    (waited : next.waited = session.waited)
    (keeps : owed session.children session.point ++ [session.spawned] ⊆
      owed next.children next.point)
    (elsewhere : ∀ forward attempts pid tail, next.point ≠ .losing forward attempts pid tail) :
    Accounted next := by
  refine accounted.of exited ?_ (fun pid inside => .inl (waited ▸ inside)) elsewhere
  intro pid below
  rw [waited]
  by_cases last : pid = session.spawned
  · exact .inr (keeps (by simp [last]))
  · have earlier : pid < session.spawned := by omega
    exact (accounted.held pid earlier).imp_right fun owes => keeps (List.mem_append_left _ owes)

/-- What has exited is waited for. -/
theorem Accounted.wait {pid : Nat} (accounted : Accounted session)
    (gone : session.isExited pid = true) (spawned : next.spawned = session.spawned)
    (exited : next.exited = session.exited) (waited : next.waited = session.waited ++ [pid])
    (keeps : owed session.children session.point ⊆ pid :: owed next.children next.point)
    (elsewhere : ∀ forward attempts pid tail, next.point ≠ .losing forward attempts pid tail) :
    Accounted next := by
  have either : ∀ other, other ∈ next.waited ↔ other ∈ session.waited ∨ other = pid := by
    intro other
    rw [waited, List.mem_append, List.mem_singleton]
  refine accounted.of exited ?_ ?_ elsewhere
  · intro other below
    rw [either]
    rcases accounted.held other (spawned ▸ below) with inside | owes
    · exact .inl (.inl inside)
    · rcases List.mem_cons.mp (keeps owes) with same | owes
      · exact .inl (.inr same)
      · exact .inr owes
  · intro other inside
    rcases (either other).mp inside with inside | rfl
    · exact .inl inside
    · exact .inr gone

theorem Accounted.terminate {outcome : Outcome} (accounted : Accounted session)
    (owes : owed session.children session.point = session.children.map Child.pid) :
    Accounted (session.terminate outcome) := by
  unfold Session.terminate
  split
  · rename_i childless
    refine accounted.onward rfl rfl rfl ?_ nofun
    rw [owes, childless]
    exact List.nil_subset _
  · refine accounted.onward rfl rfl rfl ?_ nofun
    rw [owes]
    exact List.Subset.refl _

theorem Accounted.turn (accounted : Accounted session) (turn : Turn options session choice next) :
    Accounted next := by
  cases turn with
  | moves moves =>
      refine accounted.onward rfl rfl rfl ?_ fun _ _ _ _ => moves.ne_losing
      rw [← moves.owed]
      exact List.Subset.refl _
  | ends may =>
      refine accounted.onward rfl rfl rfl ?_ (by rintro _ _ _ _ ⟨⟩)
      rw [may.owed]
      exact List.Subset.refl _
  | refuse here | tunnelReady here | create here | beginConfigure here | startProxy here
  | store here | publish here | stopping here | stopProxy here | take here | signal here
  | leave here | clear here | report here | send here =>
      refine accounted.onward rfl rfl rfl ?_ (by rintro _ _ _ _ ⟨⟩)
      rw [here]
      exact List.Subset.refl _
  | handle here first =>
      have onward : ∀ point, owed session.children session.point ⊆ owed session.children point →
          (∀ forward attempts pid tail, point ≠ .losing forward attempts pid tail) →
          Accounted ((session.setStatus .starting).goto point) := fun point keeps elsewhere =>
        accounted.onward rfl rfl rfl keeps elsewhere
      rcases first with ⟨rfl, -⟩ | rfl
      · exact onward _ (by rw [here]; exact List.Subset.refl _) (by rintro _ _ _ _ ⟨⟩)
      · exact onward _ (by rw [here]; exact List.Subset.refl _) (by rintro _ _ _ _ ⟨⟩)
  -- a process is spawned, pushed, or found to have exited
  | spawnChild here =>
      rcases here with ⟨here, -, rfl⟩ | ⟨here, -, rfl⟩
      · refine accounted.spawn rfl rfl rfl ?_ (by rintro _ _ _ _ ⟨⟩)
        simp [here, owed, push, Session.spawn, note, Session.goto]
      · refine accounted.spawn rfl rfl rfl ?_ (by rintro _ _ _ _ ⟨⟩)
        simp [here, owed, push, Session.spawn, note, Session.goto]
  | spawnForward here =>
      refine accounted.spawn rfl rfl rfl ?_ (by rintro _ _ _ _ ⟨⟩)
      rw [here]
      exact List.Subset.refl _
  | settled here further =>
      rcases further with rfl | rfl
      · exact accounted.onward rfl rfl rfl (by simp [here, owed, push, Session.goto])
          (by rintro _ _ _ _ ⟨⟩)
      · exact accounted.onward rfl rfl rfl (by simp [here, owed, push, Session.goto])
          (by rintro _ _ _ _ ⟨⟩)
  | exited here gone =>
      refine ⟨?_, accounted.gone, ?_⟩
      · have held := accounted.held
        rwa [here] at held
      · intro forward attempts pid tail there
        cases there
        exact gone
  | lost here further =>
      have gone := accounted.losing _ _ _ _ here
      rcases further with ⟨error, rfl⟩ | ⟨attempts, rfl⟩
      · exact accounted.wait gone rfl rfl rfl (by simp [here, owed, Session.wait, Session.goto])
          (by rintro _ _ _ _ ⟨⟩)
      · exact accounted.wait gone rfl rfl rfl (by simp [here, owed, Session.wait, Session.goto])
          (by rintro _ _ _ _ ⟨⟩)
  -- the end
  | untaken here | undeleted here => exact accounted.terminate (by rw [here]; rfl)
  | @delete _ _ id here =>
      have noted : Accounted (session.note (.deleted id)) :=
        ⟨accounted.held, accounted.gone, accounted.losing⟩
      exact noted.terminate (by rw [note, here]; rfl)
  | reap here exited =>
      exact accounted.wait exited rfl rfl rfl (by simp [here, owed, Session.goto])
        (by rintro _ _ _ _ ⟨⟩)

theorem accounted_of_step (session : Session) (input : Input) (next : Session)
    (accounted : Accounted session) (stepped : session.step options input = some next) :
    Accounted next := by
  rcases step_cases stepped with ⟨choice, -, turn⟩ | ⟨-, rests⟩
  · exact accounted.turn turn
  · constructor
    · rw [rests.spawned, rests.waited, rests.children, rests.point]
      exact accounted.held
    · rw [rests.waited]
      exact fun pid inside => rests.exited pid (accounted.gone pid inside)
    · rw [rests.point]
      exact fun forward attempts pid tail here =>
        rests.exited pid (accounted.losing forward attempts pid tail here)

/-- With a terminal status, all that was spawned is gone, and was waited for. -/
theorem children_waited (options : Options) (port : Holder) (inputs : List Input)
    (reached : Session) (ran : Machine.run (step options) (initial port) inputs = some reached)
    (terminal : reached.status.isTerminal = true) :
    ∀ pid < reached.spawned, pid ∈ reached.waited ∧ reached.isExited pid = true := by
  intro pid below
  have sound := Machine.run_preserves sound_of_step (sound_initial port) ran
  have accounted := Machine.run_preserves accounted_of_step (accounted_initial port) ran
  have nothing : owed reached.children reached.point = [] := by
    rcases Point.of_settled (sound.written.settled_of_terminal terminal) with here | here
    · simp [here, owed]
    · simp [here, owed]
  rcases accounted.held pid below with inside | owes
  · exact ⟨inside, accounted.gone pid inside⟩
  · simp [nothing] at owes

/-- A stop while the tunnel is waited for. -/
theorem children_waited_tunnel :
    ∃ reached, Machine.run (step ⟨[], true⟩) (initial .free)
        [.go (.version none), .go (.spawn none), .requestStop, .go .go, .go .go, .go .go, .go .go,
          .go .go, .exits 0 0, .go (.gone true), .go .go, .go .go, .go .go] = some reached ∧
      reached.spawned = 1 ∧ reached.status = .exited .requested ∧
        ∀ pid < reached.spawned, pid ∈ reached.waited ∧ reached.isExited pid = true := by
  have ends : (Machine.run (step ⟨[], true⟩) (initial .free)
      [.go (.version none), .go (.spawn none), .requestStop, .go .go, .go .go, .go .go, .go .go,
        .go .go, .exits 0 0, .go (.gone true), .go .go, .go .go, .go .go]).map
      (fun session => (session.spawned, session.status)) = some (1, .exited .requested) := by
    decide +kernel
  obtain ⟨reached, ran, seen⟩ := Option.map_eq_some_iff.mp ends
  simp only [Prod.mk.injEq] at seen
  obtain ⟨one, exited⟩ := seen
  refine ⟨reached, ran, one, exited, ?_⟩
  exact children_waited ⟨[], true⟩ .free _ reached ran (by rw [exited]; rfl)

end Session

end QuadControl.Ios.Supervisor
