import QuadControl.Ios.SupervisorReports

/-! # Who died first

When a child of a running session exits, its upstream ends soon. The supervisor's loop looks
at the proxy before it looks at the children, so that what it reports depends on which of
the two it comes to first.
-/

namespace QuadControl.Ios.Supervisor

open Lib

theorem Moves.ne_settling {point next : Point} (moves : Moves point next) {forward : Forward}
    {attempts pid : Nat} : next ≠ .settling forward attempts pid := by
  rintro rfl
  cases moves

namespace Session

/-- What the session ends with, from where its outcome is known. -/
def verdict (session : Session) : Option Status :=
  match session.point with
  | .ending outcome | .stoppingProxy outcome | .taking outcome | .deleting outcome
  | .signalling outcome _ | .leaving outcome _ | .reaping outcome _ | .reporting outcome =>
      some outcome.status
  | .sending | .finished => some session.status
  | _ => none

def HasRun (session : Session) : Prop := ∃ port, .running port ∈ session.statuses

/-- A child that was spawned has exited. -/
def Died (session : Session) (kind : ChildKind) (code : Int) : Prop :=
  ∃ pid, .spawned kind pid ∈ session.deeds ∧ session.exited pid = some code

/-- A session that has run ends with a child that did exit. -/
def Attributed (session : Session) : Prop :=
  ∀ status, session.verdict = some status → session.HasRun →
    ∃ kind code, status = .exited (.childExited kind code) ∧ session.Died kind code

/-- No stop is requested, and the upstream ends only behind a child. -/
def Quiet (session : Session) : Input → Prop
  | .requestStop => False
  | .upstream _ => ∃ child ∈ session.children, session.isExited child.pid = true
  | _ => True

/-- The supervisor does not look at the proxy when the upstream has ended. -/
def Prompt (session : Session) : Input → Prop
  | .go _ => session.point = .watching → session.proxy ≠ some .failed ∧ session.proxy ≠ some .closed
  | _ => True

instance Quiet.decidable (session : Session) (input : Input) : Decidable (session.Quiet input) :=
  match input with
  | .requestStop => inferInstanceAs (Decidable False)
  | .upstream _ =>
      inferInstanceAs (Decidable (∃ child ∈ session.children, session.isExited child.pid = true))
  | .go _ | .client _ | .clone _ | .exits _ _ | .foreignBinds | .childBinds _ | .releases =>
      inferInstanceAs (Decidable True)

/-- The children were spawned as what they are. -/
structure Owned (session : Session) : Prop where
  children : ∀ child ∈ session.children, .spawned child.kind child.pid ∈ session.deeds
  settling : ∀ forward attempts pid, session.point = .settling forward attempts pid →
    .spawned forward.kind pid ∈ session.deeds

/-- The invariant of a run. -/
structure Steady (session : Session) : Prop where
  sound : Sound session
  owned : Owned session
  unasked : session.verdict = none → session.stops = 0

variable {options : Options} {session next : Session} {choice : Choice} {input : Input}

theorem Owned.of (owned : Owned session) (children : next.children ⊆ session.children)
    (deeds : session.deeds ⊆ next.deeds)
    (elsewhere : ∀ forward attempts pid, next.point ≠ .settling forward attempts pid) :
    Owned next where
  children child inside := deeds (owned.children child (children inside))
  settling forward attempts pid here := absurd here (elsewhere forward attempts pid)

theorem Owned.terminate {outcome : Outcome} (owned : Owned session) :
    Owned (session.terminate outcome) := by
  unfold Session.terminate
  split
  · exact owned.of (List.Subset.refl _) (List.Subset.refl _) nofun
  · exact owned.of (List.Subset.refl _) (List.Subset.refl _) nofun

theorem Owned.turn (owned : Owned session) (turn : Turn options session choice next) :
    Owned next := by
  cases turn with
  | moves moves =>
      exact owned.of (List.Subset.refl _) (List.Subset.refl _) fun _ _ _ => moves.ne_settling
  | ends | refuse | exited | beginConfigure | startProxy | store | publish | stopping | stopProxy
  | take | leave | reap | report | send =>
      exact owned.of (List.Subset.refl _) (List.Subset.refl _) nofun
  | handle here first =>
      refine owned.of (List.Subset.refl _) (List.Subset.refl _) ?_
      rcases first with ⟨rfl, -⟩ | rfl
      · nofun
      · nofun
  | lost here further =>
      refine owned.of (List.Subset.refl _) (List.Subset.refl _) ?_
      rcases further with ⟨error, rfl⟩ | ⟨attempts, rfl⟩
      · nofun
      · nofun
  | tunnelReady | create | signal =>
      exact owned.of (List.Subset.refl _) (List.subset_append_left _ _) nofun
  | clear => exact owned.of (List.nil_subset _) (List.Subset.refl _) nofun
  | untaken | undeleted => exact owned.terminate
  | @delete _ _ id =>
      have noted : Owned (session.note (.deleted id)) :=
        ⟨fun child inside => List.mem_append_left _ (owned.children child inside),
          fun forward attempts pid here =>
            List.mem_append_left _ (owned.settling forward attempts pid here)⟩
      exact noted.terminate
  -- a child is spawned, and pushed
  | @spawnChild _ kind point here =>
      have elsewhere : ∀ forward attempts pid, point ≠ .settling forward attempts pid := by
        rcases here with ⟨-, -, rfl⟩ | ⟨-, -, rfl⟩
        · nofun
        · nofun
      refine ⟨fun child inside => ?_, fun forward attempts pid here =>
        absurd here (elsewhere forward attempts pid)⟩
      rcases List.mem_append.mp inside with earlier | new
      · exact List.mem_append_left _ (owned.children child earlier)
      · obtain rfl := List.mem_singleton.mp new
        exact List.mem_append_right _ (.head _)
  | @spawnForward _ forward attempts here =>
      refine ⟨fun child inside => List.mem_append_left _ (owned.children child inside), ?_⟩
      rintro forward attempts pid same
      cases same
      exact List.mem_append_right _ (.head _)
  | settled here further =>
      refine ⟨fun child inside => ?_, ?_⟩
      · rcases List.mem_append.mp inside with earlier | new
        · exact owned.children child earlier
        · obtain rfl := List.mem_singleton.mp new
          exact owned.settling _ _ _ here
      · rcases further with rfl | rfl
        · nofun
        · nofun

theorem Owned.rests (owned : Owned session) (rests : Rests session next) : Owned next where
  children := by
    rw [rests.children, rests.deeds]
    exact owned.children
  settling := by
    rw [rests.point, rests.deeds]
    exact owned.settling

theorem Turn.exited_eq (turn : Turn options session choice next) : next.exited = session.exited := by
  cases turn with
  | _ => rfl

theorem exited_of_step {pid : Nat} {code : Int} (stepped : session.step options input = some next)
    (exited : session.exited pid = some code) : next.exited pid = some code := by
  cases input with
  | go choice =>
      rw [(turn_of_supervise stepped).exited_eq]
      exact exited
  | exits other code' =>
      simp only [step, Option.ite_none_right_eq_some, Option.some.injEq] at stepped
      obtain ⟨⟨-, running⟩, rfl⟩ := stepped
      have differ : pid ≠ other := by
        rintro rfl
        simp [isExited, exited] at running
      simpa [exit, Function.update_of_ne differ] using exited
  | clone event =>
      simp only [step, Option.ite_none_right_eq_some, Option.map_eq_some_iff] at stepped
      obtain ⟨-, wda, -, rfl⟩ := stepped
      exact exited
  | releases =>
      obtain rfl := Option.some.inj stepped
      exact exited
  | requestStop | client | upstream | foreignBinds | childBinds =>
      simp only [step, Option.ite_none_right_eq_some, Option.some.injEq] at stepped
      obtain ⟨-, rfl⟩ := stepped
      exact exited

/-! ### Steps -/

theorem verdict_terminate (outcome : Outcome) :
    (session.terminate outcome).verdict = some outcome.status := by
  unfold Session.terminate
  split
  · rfl
  · rfl

theorem hasRun_of_setStatus {status : Status} (other : ∀ port, status ≠ .running port)
    (ran : (session.setStatus status).HasRun) : session.HasRun := by
  obtain ⟨port, inside⟩ := ran
  rcases List.mem_append.mp inside with earlier | last
  · exact ⟨port, earlier⟩
  · exact absurd (List.mem_singleton.mp last).symm (other port)

theorem Outcome.status_ne_running (outcome : Outcome) (port : Nat) :
    outcome.status ≠ .running port := by
  rcases outcome with error | reason
  · nofun
  · nofun

/-- An outcome that is known stays. -/
theorem Turn.settles {status : Status} (turn : Turn options session choice next)
    (known : session.verdict = some status) :
    next.verdict = some status ∧ (next.HasRun → session.HasRun) ∧ session.deeds ⊆ next.deeds := by
  cases turn with
  | moves moves =>
      generalize here : session.point = point at moves
      cases moves with
      | escalate =>
          simp only [verdict, here] at known
          exact ⟨known, id, List.Subset.refl _⟩
      | _ => simp [verdict, here] at known
  | ends may =>
      unfold MayEnd at may
      split at may <;> simp_all [verdict]
  | refuse here | handle here | tunnelReady here | spawnForward here | settled here | exited here
  | lost here | create here | beginConfigure here | startProxy here | store here | publish here =>
      simp [verdict, here] at known
  | spawnChild here =>
      rcases here with ⟨here, -⟩ | ⟨here, -⟩
      · simp [verdict, here] at known
      · simp [verdict, here] at known
  | stopping here =>
      simp only [verdict, here] at known
      exact ⟨known, hasRun_of_setStatus nofun, List.Subset.refl _⟩
  | stopProxy here | take here | leave here | reap here | clear here =>
      simp only [verdict, here] at known
      exact ⟨known, id, List.Subset.refl _⟩
  | signal here =>
      simp only [verdict, here] at known
      exact ⟨known, id, List.subset_append_left _ _⟩
  | untaken here | undeleted here =>
      simp only [verdict, here] at known
      exact ⟨(verdict_terminate _).trans known, id, List.Subset.refl _⟩
  | delete here =>
      simp only [verdict, here] at known
      exact ⟨(verdict_terminate _).trans known, id, List.subset_append_left _ _⟩
  | report here =>
      simp only [verdict, here] at known
      exact ⟨known, hasRun_of_setStatus (Outcome.status_ne_running _), List.Subset.refl _⟩
  | send here =>
      simp only [verdict, here] at known
      exact ⟨known, id, List.Subset.refl _⟩

/-- The requests to stop are left alone as long as no outcome is known. -/
theorem Turn.unasked (turn : Turn options session choice next) (unknown : next.verdict = none) :
    next.stops = session.stops := by
  cases turn with
  | ends => cases unknown
  | _ => rfl

theorem phase_of_unknown (unknown : session.verdict = none) :
    session.point.phase = .before ∨ session.point.phase = .starting ∨
      session.point.phase = .running := by
  unfold verdict at unknown
  cases here : session.point <;> simp_all [Point.phase]

theorem Sound.unrun (sound : Sound session)
    (early : session.point.phase = .before ∨ session.point.phase = .starting) :
    ¬ session.HasRun := by
  rintro ⟨port, inside⟩
  have written := sound.written
  generalize session.status = status at written
  generalize session.statuses = statuses at written inside
  rcases early with here | here
  · rw [here] at written
    cases written
    cases inside
  · rw [here] at written
    cases written
    simp [begun] at inside

theorem Sound.hasRun (sound : Sound session) (here : session.point.phase = .running) :
    session.HasRun := by
  have written := sound.written
  unfold HasRun
  generalize session.status = status at written
  generalize session.statuses = statuses at written
  rw [here] at written
  cases written with
  | running port => exact ⟨port, by simp [begun]⟩

/-- An outcome that is known before the session runs is one of a session that never ran. -/
theorem Turn.unrun {status : Status} (turn : Turn options session choice next)
    (sound : Sound session) (starts : session.point.phase ≠ .running)
    (unknown : session.verdict = none) (known : next.verdict = some status) : ¬ next.HasRun := by
  have unran : ¬ session.HasRun := by
    rcases phase_of_unknown unknown with here | here | here
    · exact sound.unrun (.inl here)
    · exact sound.unrun (.inr here)
    · exact absurd here starts
  cases turn with
  | ends | lost => exact unran
  | moves moves =>
      generalize here : session.point = point at moves
      cases moves with
      | escalate => simp [verdict, here] at unknown
      | _ => cases known
  | handle here first =>
      rcases first with ⟨rfl, -⟩ | rfl
      · cases known
      · cases known
  | spawnChild here =>
      rcases here with ⟨-, -, rfl⟩ | ⟨-, -, rfl⟩
      · cases known
      · cases known
  | settled here further =>
      rcases further with rfl | rfl
      · cases known
      · cases known
  | refuse | tunnelReady | spawnForward | exited | create | beginConfigure | startProxy | store
  | publish => cases known
  | stopping here | stopProxy here | take here | leave here | reap here | clear here | signal here
  | untaken here | undeleted here | delete here | report here | send here =>
      simp [verdict, here] at unknown

theorem point_of_running (here : session.point.phase = .running) :
    session.point = .listening ∨ session.point = .watching ∨ session.point = .looking := by
  cases point : session.point <;> simp_all [Point.phase]

/-- What the loop of a running session does that no stop was requested from. -/
theorem running_of_supervise (here : session.point.phase = .running) (unasked : session.stops = 0)
    (stepped : session.supervise options choice = some next) :
    (next.verdict = none ∧
      (session.point = .watching → session.proxy ≠ some .failed ∧ session.proxy ≠ some .closed)) ∨
    (session.point = .watching ∧ ∃ outcome : Outcome, next = session.goto (.ending outcome) ∧
      ((session.proxy = some .failed ∧ outcome = .error .proxyFailed) ∨
        session.proxy = some .closed ∧ outcome = .ok .upstreamClosed)) ∨
    session.point = .looking ∧ ∃ child code, child ∈ session.children ∧
      session.exited child.pid = some code ∧
      next = session.finish (.childExited child.kind code) := by
  rcases point_of_running here with point | point | point
  · cases choice <;> simp only [supervise, point, reduceCtorEq, Option.some.injEq] at stepped
    rw [Session.receive, unasked] at stepped
    subst stepped
    exact .inl ⟨rfl, fun watching => absurd (point.symm.trans watching) nofun⟩
  · cases choice <;> simp only [supervise, point, reduceCtorEq, Option.some.injEq] at stepped
    split at stepped
    · rename_i failed
      exact .inr (.inl ⟨point, _, stepped.symm, .inl ⟨failed, rfl⟩⟩)
    · rename_i closed
      exact .inr (.inl ⟨point, _, stepped.symm, .inr ⟨closed, rfl⟩⟩)
    · rename_i alive
      subst stepped
      exact .inl ⟨rfl, fun _ => by simp [alive]⟩
    · rename_i absent
      subst stepped
      exact .inl ⟨rfl, fun _ => by simp [absent]⟩
  · have elsewhere : session.point ≠ .watching := fun watching =>
      absurd (point.symm.trans watching) nofun
    cases choice <;> simp only [supervise, point, reduceCtorEq] at stepped
    rename_i dead
    cases dead with
    | none =>
        obtain rfl := Option.some.inj stepped
        exact .inl ⟨rfl, fun watching => absurd watching elsewhere⟩
    | some dead =>
        obtain ⟨child, tail⟩ := dead
        dsimp only at stepped
        split at stepped
        · rename_i member
          obtain ⟨code, exited, rfl⟩ := Option.map_eq_some_iff.mp stepped
          exact .inr (.inr ⟨point, child, code, member, exited, rfl⟩)
        · cases stepped

theorem steady_initial (port : Holder) : Steady (initial port) :=
  ⟨sound_initial port, ⟨nofun, nofun⟩, fun _ => rfl⟩

theorem verdict_rests (rests : Rests session next) : next.verdict = session.verdict := by
  unfold verdict
  rw [rests.point, rests.status]

theorem stops_of_quiet (quiet : session.Quiet input) (outside : ∀ choice, input ≠ .go choice)
    (stepped : session.step options input = some next) : next.stops = session.stops := by
  cases input with
  | go choice => exact absurd rfl (outside choice)
  | requestStop => exact quiet.elim
  | clone event =>
      simp only [step, Option.ite_none_right_eq_some, Option.map_eq_some_iff] at stepped
      obtain ⟨-, wda, -, rfl⟩ := stepped
      rfl
  | releases =>
      obtain rfl := Option.some.inj stepped
      rfl
  | exits | client | upstream | foreignBinds | childBinds =>
      simp only [step, Option.ite_none_right_eq_some, Option.some.injEq] at stepped
      obtain ⟨-, rfl⟩ := stepped
      rfl

theorem steady_of_step (session : Session) (input : Input) (next : Session)
    (steady : Steady session) (quiet : session.Quiet input)
    (stepped : session.step options input = some next) : Steady next := by
  have sound := sound_of_step session input next steady.sound stepped
  rcases step_cases stepped with ⟨choice, -, turn⟩ | ⟨outside, rests⟩
  · refine ⟨sound, steady.owned.turn turn, fun unknown => ?_⟩
    rw [turn.unasked unknown]
    refine steady.unasked (Option.eq_none_iff_forall_ne_some.mpr fun status known => ?_)
    rw [(turn.settles known).1] at unknown
    cases unknown
  · refine ⟨sound, steady.owned.rests rests, fun unknown => ?_⟩
    rw [stops_of_quiet quiet outside stepped]
    exact steady.unasked ((verdict_rests rests).symm.trans unknown)

/-- What was attributed stays so, when the outcome stays. -/
theorem Attributed.onward (attributed : session.Attributed)
    (verdict : next.verdict = session.verdict) (ran : next.HasRun → session.HasRun)
    (deeds : session.deeds ⊆ next.deeds)
    (exited : ∀ pid code, session.exited pid = some code → next.exited pid = some code) :
    next.Attributed := by
  intro status known hasRun
  obtain ⟨kind, code, rfl, pid, spawned, gone⟩ := attributed status (verdict ▸ known) (ran hasRun)
  exact ⟨kind, code, rfl, pid, deeds spawned, exited pid code gone⟩

/-- A step takes the right reason just when it does not look at a proxy that has ended. -/
theorem attributed_of_step (session : Session) (input : Input) (next : Session)
    (steady : Steady session) (attributed : session.Attributed)
    (stepped : session.step options input = some next) :
    next.Attributed ↔ session.Prompt input := by
  have exited : ∀ pid code, session.exited pid = some code → next.exited pid = some code :=
    fun pid code => exited_of_step stepped
  rcases step_cases stepped with ⟨choice, rfl, turn⟩ | ⟨outside, rests⟩
  · by_cases here : session.point.phase = .running
    · have unknown : session.verdict = none := by
        unfold verdict
        rcases point_of_running here with point | point | point <;> rw [point]
      rcases running_of_supervise here (steady.unasked unknown) stepped with
        ⟨later, prompt⟩ | ⟨point, outcome, rfl, ended⟩ | ⟨point, child, code, member, gone, rfl⟩
      · refine iff_of_true (fun status known => ?_) prompt
        rw [later] at known
        cases known
      · refine iff_of_false (fun wrong => ?_) fun prompt => ?_
        · obtain ⟨kind, code, same, -⟩ := wrong outcome.status rfl (steady.sound.hasRun here)
          rcases ended with ⟨-, rfl⟩ | ⟨-, rfl⟩
          · cases same
          · cases same
        · rcases ended with ⟨failed, -⟩ | ⟨closed, -⟩
          · exact (prompt point).1 failed
          · exact (prompt point).2 closed
      · refine iff_of_true ?_ fun watching => absurd (point.symm.trans watching) nofun
        intro status known _
        cases known
        exact ⟨child.kind, code, rfl, child.pid, steady.owned.children child member, gone⟩
    · refine iff_of_true ?_ fun watching => absurd (by rw [watching]; rfl) here
      cases unknown : session.verdict with
      | none => exact fun status known ran => absurd ran (turn.unrun steady.sound here unknown known)
      | some status =>
          obtain ⟨stays, ran, deeds⟩ := turn.settles unknown
          exact attributed.onward (stays.trans unknown.symm) ran deeds exited
  · refine iff_of_true ?_ ?_
    · have ran : next.HasRun → session.HasRun := by
        unfold HasRun
        rw [rests.statuses]
        exact id
      exact attributed.onward (verdict_rests rests) ran (rests.deeds ▸ List.Subset.refl _) exited
    · cases input with
      | go choice => exact absurd rfl (outside choice)
      | _ => trivial

end Session

/-- In a run without a request to stop whose upstream ends only behind a child, the session
    ends with a child that did exit just as long as the supervisor never looks at the proxy
    when the upstream has ended. -/
theorem attributed_iff (options : Options) (port : Holder) (inputs : List Session.Input)
    (final : Session)
    (ran : Machine.run (Session.step options) (.initial port) inputs = some final)
    (quiet : Machine.Meets (Session.step options) Session.Quiet (.initial port) inputs) :
    Machine.Throughout (Session.step options) Session.Attributed (.initial port) inputs ↔
      Machine.Meets (Session.step options) Session.Prompt (.initial port) inputs :=
  Machine.allowed_throughout_iff Session.steady_of_step
    (fun session input next steady attributed _ =>
      Session.attributed_of_step session input next steady attributed)
    (Session.steady_initial port) nofun quiet ran

/-- A launch, up to the session that runs. -/
def launchedIdle : List Session.Input :=
  [.go (.version none), .go (.spawn none), .childBinds 0, .go .go, .go (.child none),
    .go (.tunnels (some [['u']])), .go (.spawn none), .go (.reserve true), .go (.spawn none),
    .go (.settle none), .go (.reserve true), .go (.spawn none), .go (.settle none), .go .go,
    .go (.child none), .go (.status true), .go (.session (some ['A'])), .go .go, .clone (0, .go),
    .clone (0, .answer (.ok ⟨none, none, none, none, none, none, none⟩)), .go .go,
    .go (.proxy (some 9100)), .go .go, .go .go]

/-- The forward of the stream exits, and is found before its upstream ends. -/
def foundDead : List Session.Input :=
  launchedIdle ++ [Session.Input.go .go, .exits 3 1, .go .go, .upstream .closed,
    .go (.child (some (⟨.forwardMjpeg, 3⟩, [])))]

/-- The forward of the stream exits, and its upstream ends before it is found. -/
def foundClosed : List Session.Input :=
  launchedIdle ++ [Session.Input.exits 3 1, .upstream .closed, .go .go, .go .go]

theorem attributed_iff_foundDead :
    (Machine.run (Session.step ⟨['u'], true⟩) (.initial .free) foundDead).map Session.verdict =
        some (some (.exited (.childExited .forwardMjpeg 1))) ∧
    (Machine.Throughout (Session.step ⟨['u'], true⟩) Session.Attributed (.initial .free) foundDead ↔
      Machine.Meets (Session.step ⟨['u'], true⟩) Session.Prompt (.initial .free) foundDead) := by
  have ends : (Machine.run (Session.step ⟨['u'], true⟩) (.initial .free) foundDead).map
      Session.verdict = some (some (.exited (.childExited .forwardMjpeg 1))) := by
    decide +kernel
  have quiet : Machine.Meets (Session.step ⟨['u'], true⟩) Session.Quiet (.initial .free)
      foundDead := by
    decide +kernel
  obtain ⟨final, ran, -⟩ := Option.map_eq_some_iff.mp ends
  exact ⟨ends, attributed_iff ⟨['u'], true⟩ .free foundDead final ran quiet⟩

/-- The child that exited first is not what the session ends with. -/
theorem not_attributed :
    ∃ inputs reached, Machine.run (Session.step ⟨['u'], true⟩) (.initial .free) inputs =
        some reached ∧
      Machine.Meets (Session.step ⟨['u'], true⟩) Session.Quiet (.initial .free) inputs ∧
      reached.verdict = some (.exited .upstreamClosed) ∧ ¬ reached.Attributed := by
  have ends : (Machine.run (Session.step ⟨['u'], true⟩) (.initial .free) foundClosed).map
      (fun session => (session.verdict, session.statuses)) =
        some (some (.exited .upstreamClosed), [.starting, .running 9100]) := by
    decide +kernel
  have quiet : Machine.Meets (Session.step ⟨['u'], true⟩) Session.Quiet (.initial .free)
      foundClosed := by
    decide +kernel
  obtain ⟨reached, ran, seen⟩ := Option.map_eq_some_iff.mp ends
  obtain ⟨verdict, statuses⟩ := Prod.mk.injEq .. ▸ seen
  refine ⟨foundClosed, reached, ran, quiet, verdict, fun attributed => ?_⟩
  obtain ⟨kind, code, same, -⟩ := attributed _ verdict ⟨9100, by simp [statuses]⟩
  cases same

end QuadControl.Ios.Supervisor
