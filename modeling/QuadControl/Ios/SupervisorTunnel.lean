import QuadControl.Ios.SupervisorTurns

/-! # Whose tunnel an iOS session waits for

The information port is probed before the tunnel is spawned, and asked afterwards by its
number alone. Between the probe and the bind of the child another process may take the
port, and then it is that process that answers.
-/

namespace QuadControl.Ios.Supervisor

open Lib

/-- The runner is spawned behind an answer of the session's own tunnel that lists the
    device, and no other answer lets the session proceed. -/
structure OwnTunnel (udid : Text) (deeds : List Deed) : Prop where
  answers : ∀ holder listed, .tunnelReady holder listed ∈ deeds →
    ∃ pid, holder = .child pid ∧ Deed.spawned .tunnel pid ∈ deeds
  runner : ∀ before runner, before ++ [Deed.spawned .runWda runner] <+: deeds →
    ∃ pid listed, Deed.spawned .tunnel pid ∈ before ∧ Deed.tunnelReady (.child pid) listed ∈ before ∧
      udid ∈ listed

/-- Deeds that have nothing to do with it. -/
def Deed.isApart : Deed → Bool
  | .spawned .runWda _ | .tunnelReady _ _ => false
  | _ => true

section

variable {udid : Text} {deeds : List Deed}

theorem OwnTunnel.nil : OwnTunnel udid [] where
  answers := nofun
  runner before runner starts := by simp at starts

theorem OwnTunnel.apart {deed : Deed} (own : OwnTunnel udid deeds) (apart : deed.isApart = true) :
    OwnTunnel udid (deeds ++ [deed]) where
  answers := by
    intro holder listed inside
    rcases List.mem_append.mp inside with inside | last
    · obtain ⟨pid, held, spawned⟩ := own.answers holder listed inside
      exact ⟨pid, held, List.mem_append_left _ spawned⟩
    · obtain rfl := List.mem_singleton.mp last
      cases apart
  runner := by
    intro before runner starts
    rcases List.prefix_concat_iff.mp starts with all | earlier
    · obtain ⟨-, rfl⟩ := List.append_singleton_inj.mp all
      cases apart
    · exact own.runner before runner earlier

theorem ownTunnel_ready_iff {holder : Holder} {listed : List Text} (own : OwnTunnel udid deeds) :
    OwnTunnel udid (deeds ++ [Deed.tunnelReady holder listed]) ↔
      ∃ pid, holder = .child pid ∧ Deed.spawned .tunnel pid ∈ deeds := by
  constructor
  · intro after
    obtain ⟨pid, held, spawned⟩ := after.answers holder listed (by simp)
    exact ⟨pid, held, by simpa using spawned⟩
  · rintro ⟨pid, rfl, spawned⟩
    constructor
    · intro holder listed inside
      rcases List.mem_append.mp inside with inside | last
      · obtain ⟨pid, held, spawned⟩ := own.answers holder listed inside
        exact ⟨pid, held, List.mem_append_left _ spawned⟩
      · cases List.mem_singleton.mp last
        exact ⟨pid, rfl, List.mem_append_left _ spawned⟩
    · intro before runner starts
      rcases List.prefix_concat_iff.mp starts with all | earlier
      · cases (List.append_singleton_inj.mp all).2
      · exact own.runner before runner earlier

/-- The runner is spawned behind an answer. -/
theorem OwnTunnel.runs {runner : Nat} (own : OwnTunnel udid deeds)
    (ready : ∃ holder listed, .tunnelReady holder listed ∈ deeds ∧ udid ∈ listed) :
    OwnTunnel udid (deeds ++ [Deed.spawned .runWda runner]) where
  answers := by
    intro holder listed inside
    obtain ⟨pid, held, spawned⟩ := own.answers holder listed (by simpa using inside)
    exact ⟨pid, held, List.mem_append_left _ spawned⟩
  runner := by
    intro before other starts
    rcases List.prefix_concat_iff.mp starts with all | earlier
    · obtain ⟨rfl, -⟩ := List.append_singleton_inj.mp all
      obtain ⟨holder, listed, answered, lists⟩ := ready
      obtain ⟨pid, rfl, spawned⟩ := own.answers holder listed answered
      exact ⟨pid, listed, spawned, answered, lists⟩
    · exact own.runner before other earlier

end

/-! ### Runs -/

/-- The start-up, up to the answer it waits for. -/
def Point.awaitsTunnel : Point → Bool
  | spawningTunnel | polling .tunnel | checking .tunnel | asking .tunnel | timing .tunnel => true
  | _ => false

theorem Moves.awaitsTunnel {point next : Point} (moves : Moves point next) :
    next.awaitsTunnel = point.awaitsTunnel := by
  cases moves with
  | check wait | ask wait | unready wait | again wait => cases wait <;> rfl
  | _ => rfl

theorem Moves.ne_spawningRunner {point next : Point} (moves : Moves point next) :
    next ≠ .spawningRunner := by
  cases moves <;> nofun

namespace Session

variable {options : Options} {session next : Session} {choice : Choice} {input : Input}

theorem awaitsTunnel_terminate (session : Session) (outcome : Outcome) :
    (session.terminate outcome).point.awaitsTunnel = false := by
  unfold terminate
  split <;> rfl

theorem terminate_ne_spawningRunner (session : Session) (outcome : Outcome) :
    (session.terminate outcome).point ≠ .spawningRunner := by
  unfold terminate
  split <;> nofun

/-- The invariant of a run. -/
structure Tunnelled (options : Options) (session : Session) : Prop where
  own : session.point.awaitsTunnel = true → ∀ pid, session.port = .child pid →
    Deed.spawned .tunnel pid ∈ session.deeds
  children : ∀ pid, ⟨.tunnel, pid⟩ ∈ session.children → Deed.spawned .tunnel pid ∈ session.deeds
  ready : session.point = .spawningRunner →
    ∃ holder listed, .tunnelReady holder listed ∈ session.deeds ∧ options.udid ∈ listed

theorem tunnelled_initial (port : Holder) : Tunnelled options (initial port) := ⟨nofun, nofun, nofun⟩

/-- A step that leaves the stage, or moves on in it. -/
theorem Tunnelled.onward (tunnelled : Tunnelled options session) (port : next.port = session.port)
    (deeds : session.deeds ⊆ next.deeds)
    (children : ∀ pid, ⟨.tunnel, pid⟩ ∈ next.children → ⟨.tunnel, pid⟩ ∈ session.children)
    (stage : next.point.awaitsTunnel = true → session.point.awaitsTunnel = true)
    (unready : next.point ≠ .spawningRunner) : Tunnelled options next where
  own := by
    intro awaits pid held
    exact deeds (tunnelled.own (stage awaits) pid (port ▸ held))
  children pid inside := deeds (tunnelled.children pid (children pid inside))
  ready here := absurd here unready

/-- The tunnel is spawned, or the runner. -/
theorem Tunnelled.spawnChild {kind : ChildKind} {point : Point}
    (tunnelled : Tunnelled options session)
    (stage : point.awaitsTunnel = true → session.point.awaitsTunnel = true)
    (unready : point ≠ .spawningRunner) :
    Tunnelled options (((session.spawn kind).push kind session.spawned).goto point) where
  own awaits pid held := List.mem_append_left _ (tunnelled.own (stage awaits) pid held)
  children := by
    intro pid inside
    rcases List.mem_append.mp inside with earlier | new
    · exact List.mem_append_left _ (tunnelled.children pid earlier)
    · cases List.mem_singleton.mp new
      exact List.mem_append_right _ (.head _)
  ready here := absurd here unready

theorem Tunnelled.turn (tunnelled : Tunnelled options session)
    (turn : Turn options session choice next) : Tunnelled options next := by
  have leaves : ∀ {next : Session}, next.port = session.port → session.deeds ⊆ next.deeds →
      (∀ pid, ⟨.tunnel, pid⟩ ∈ next.children → ⟨.tunnel, pid⟩ ∈ session.children) →
      next.point.awaitsTunnel = false → next.point ≠ .spawningRunner → Tunnelled options next := by
    intro next port deeds children out unready
    refine tunnelled.onward port deeds children ?_ unready
    simp [out]
  have more : ∀ deed, session.deeds ⊆ session.deeds ++ [deed] := fun deed =>
    List.subset_append_left _ _
  cases turn with
  | moves moves =>
      refine tunnelled.onward rfl (List.Subset.refl _) (fun _ => id) ?_ moves.ne_spawningRunner
      exact fun awaits => moves.awaitsTunnel ▸ awaits
  | refuse | ends | exited | beginConfigure | startProxy | store | publish | stopping | stopProxy
  | take | leave | reap | report | send =>
      exact leaves rfl (List.Subset.refl _) (fun _ => id) rfl nofun
  | clear => exact leaves rfl (List.Subset.refl _) nofun rfl nofun
  | spawnForward | create | signal => exact leaves rfl (more _) (fun _ => id) rfl nofun
  | handle here first =>
      rcases first with ⟨rfl, free⟩ | rfl
      · refine ⟨fun _ pid held => ?_, tunnelled.children, nofun⟩
        cases free.symm.trans held
      · exact leaves rfl (List.Subset.refl _) (fun _ => id) rfl nofun
  | spawnChild here =>
      rcases here with ⟨here, -, rfl⟩ | ⟨here, -, rfl⟩
      · exact tunnelled.spawnChild (fun _ => by rw [here]; rfl) nofun
      · exact tunnelled.spawnChild nofun nofun
  | tunnelReady here held lists =>
      refine ⟨nofun, fun pid inside => more _ (tunnelled.children pid inside), fun _ => ?_⟩
      exact ⟨session.port, _, List.mem_append_right _ (.head _), lists⟩
  | @settled _ forward _ pid _ here further =>
      have old : ∀ tunnel, ⟨.tunnel, tunnel⟩ ∈ session.children ++ [⟨forward.kind, pid⟩] →
          ⟨.tunnel, tunnel⟩ ∈ session.children := by
        intro tunnel inside
        rcases List.mem_append.mp inside with earlier | new
        · exact earlier
        · cases forward <;> cases List.mem_singleton.mp new
      rcases further with rfl | rfl
      · exact leaves rfl (List.Subset.refl _) old rfl nofun
      · exact leaves rfl (List.Subset.refl _) old rfl nofun
  | lost here further =>
      rcases further with ⟨error, rfl⟩ | ⟨attempts, rfl⟩
      · exact leaves rfl (List.Subset.refl _) (fun _ => id) rfl nofun
      · exact leaves rfl (List.Subset.refl _) (fun _ => id) rfl nofun
  | untaken | undeleted =>
      exact leaves rfl (List.Subset.refl _) (fun _ => id) (awaitsTunnel_terminate _ _)
        (terminate_ne_spawningRunner _ _)
  | delete =>
      exact leaves rfl (more _) (fun _ => id) (awaitsTunnel_terminate _ _)
        (terminate_ne_spawningRunner _ _)

theorem tunnelled_of_step (session : Session) (input : Input) (next : Session)
    (tunnelled : Tunnelled options session) (stepped : session.step options input = some next) :
    Tunnelled options next := by
  rcases step_cases stepped with ⟨choice, -, turn⟩ | ⟨-, rests⟩
  · exact tunnelled.turn turn
  · constructor
    · intro awaits pid held
      rw [rests.point] at awaits
      rw [rests.deeds]
      rcases rests.port with same | free | foreign | ⟨own, bound, child⟩
      · exact tunnelled.own awaits pid (same ▸ held)
      · cases free.symm.trans held
      · cases foreign.symm.trans held
      · cases bound.symm.trans held
        exact tunnelled.children pid child
    · rw [rests.children, rests.deeds]
      exact tunnelled.children
    · rw [rests.point, rests.deeds]
      exact tunnelled.ready

/-- What a step of the supervisor does. -/
theorem Turn.does (turn : Turn options session choice next) :
    next.deeds = session.deeds ∨
      (∃ deed, deed.isApart = true ∧ next.deeds = session.deeds ++ [deed]) ∨
      (session.point = .spawningRunner ∧
        next.deeds = session.deeds ++ [Deed.spawned .runWda session.spawned]) ∨
      ∃ listed, choice = .tunnels (some listed) ∧ session.point = .asking .tunnel ∧
        session.port ≠ .free ∧ options.udid ∈ listed ∧
        next.deeds = session.deeds ++ [Deed.tunnelReady session.port listed] := by
  cases turn with
  | spawnChild here =>
      rcases here with ⟨-, rfl, -⟩ | ⟨here, rfl, -⟩
      · exact .inr (.inl ⟨_, rfl, rfl⟩)
      · exact .inr (.inr (.inl ⟨here, rfl⟩))
  | @spawnForward _ forward _ here =>
      refine .inr (.inl ⟨.spawned forward.kind session.spawned, ?_, rfl⟩)
      cases forward <;> rfl
  | create | delete | signal => exact .inr (.inl ⟨_, rfl, rfl⟩)
  | tunnelReady here held lists => exact .inr (.inr (.inr ⟨_, rfl, here, held, lists, rfl⟩))
  | _ => exact .inl rfl

/-- Another process answers for the tunnel, and lists the device. -/
def isFooled (options : Options) (session : Session) (input : Input) : Bool :=
  match session.point, session.port, input with
  | .asking .tunnel, .foreign, .go (.tunnels (some listed)) => options.udid ∈ listed
  | _, _, _ => false

theorem isFooled_iff : session.isFooled options input = true ↔
    ∃ listed, input = .go (.tunnels (some listed)) ∧ session.point = .asking .tunnel ∧
      session.port = .foreign ∧ options.udid ∈ listed := by
  unfold isFooled
  split
  · simp_all
  · rename_i others
    refine iff_of_false (by simp) ?_
    rintro ⟨listed, asked, here, held, -⟩
    exact others listed here held asked

theorem supervise_asking {listed : Option (List Text)} (here : session.point = .asking .tunnel) :
    session.supervise options (.tunnels listed) = session.askTunnels options listed := by
  cases session
  cases here
  rfl

/-- Such an answer is taken for the tunnel's. -/
theorem deeds_of_fooled (fooled : session.isFooled options input = true)
    (stepped : session.step options input = some next) :
    ∃ listed, next.deeds = session.deeds ++ [Deed.tunnelReady .foreign listed] := by
  obtain ⟨listed, rfl, here, held, lists⟩ := isFooled_iff.mp fooled
  refine ⟨listed, ?_⟩
  rw [step, supervise_asking here] at stepped
  simp only [askTunnels, held, lists, if_true, reduceCtorEq, if_false,
    Option.some.injEq] at stepped
  rw [← stepped]
  rfl

theorem OwnTunnel.step (tunnelled : Tunnelled options session)
    (own : OwnTunnel options.udid session.deeds) (fair : session.isFooled options input = false)
    (stepped : session.step options input = some next) : OwnTunnel options.udid next.deeds := by
  rcases step_cases stepped with ⟨choice, rfl, turn⟩ | ⟨-, rests⟩
  · rcases turn.does with same | ⟨deed, apart, one⟩ | ⟨here, one⟩ |
      ⟨listed, rfl, here, held, lists, one⟩
    · exact same ▸ own
    · exact one ▸ own.apart apart
    · exact one ▸ own.runs (tunnelled.ready here)
    · rw [one, ownTunnel_ready_iff own]
      cases holder : session.port with
      | free => exact absurd holder held
      | foreign => simp [isFooled_iff.mpr ⟨listed, rfl, here, holder, lists⟩] at fair
      | child pid => exact ⟨pid, rfl, tunnelled.own (by rw [here]; rfl) pid holder⟩
  · exact rests.deeds ▸ own

theorem ownTunnel_step_iff (tunnelled : Tunnelled options session)
    (own : OwnTunnel options.udid session.deeds) (stepped : session.step options input = some next) :
    OwnTunnel options.udid next.deeds ↔ session.isFooled options input = false := by
  constructor
  · intro after
    by_contra fooled
    obtain ⟨listed, one⟩ := deeds_of_fooled (Bool.not_eq_false _ ▸ fooled) stepped
    obtain ⟨pid, held, -⟩ := (ownTunnel_ready_iff own).mp (one ▸ after)
    cases held
  · exact fun fair => OwnTunnel.step tunnelled own fair stepped

end Session

/-- The session proceeds on nothing but its own tunnel just when no other process answers
    for it with the device. -/
theorem ownTunnel_throughout_iff (options : Options) (port : Holder) (inputs : List Session.Input)
    (final : Session)
    (ran : Machine.run (Session.step options) (.initial port) inputs = some final) :
    Machine.Throughout (Session.step options) (fun session => OwnTunnel options.udid session.deeds)
        (.initial port) inputs ↔
      Machine.Meets (Session.step options)
        (fun session input => session.isFooled options input = false) (.initial port) inputs :=
  Machine.run_throughout_iff Session.tunnelled_of_step
    (fun _ _ _ => Session.ownTunnel_step_iff) (Session.tunnelled_initial port) .nil ran

/-- A launch up to the runner, with whatever happens to the port behind the probe. -/
def launched (udid : Text) (binds : Session.Input) : List Session.Input :=
  [.go (.version none), .go (.spawn none), binds, .go .go, .go (.child none),
    .go (.tunnels (some [udid])), .go (.spawn none)]

/-- The tunnel takes the port. -/
theorem ownTunnel_throughout_iff_child :
    Machine.Throughout (Session.step ⟨['u'], true⟩)
        (fun session => OwnTunnel ['u'] session.deeds) (.initial .free)
        (launched ['u'] (.childBinds 0)) ∧
      (Machine.run (Session.step ⟨['u'], true⟩) (.initial .free)
        (launched ['u'] (.childBinds 0))).map Session.spawned = some 2 := by
  have meets : Machine.Meets (Session.step ⟨['u'], true⟩)
      (fun session input => session.isFooled ⟨['u'], true⟩ input = false) (.initial .free)
      (launched ['u'] (.childBinds 0)) := by
    decide +kernel
  have two : (Machine.run (Session.step ⟨['u'], true⟩) (.initial .free)
      (launched ['u'] (.childBinds 0))).map Session.spawned = some 2 := by
    decide +kernel
  obtain ⟨final, ran, -⟩ := Option.map_eq_some_iff.mp two
  exact ⟨(ownTunnel_throughout_iff ⟨['u'], true⟩ .free _ final ran).mpr meets, two⟩

/-- Another process takes it first, and the runner is spawned on its answer. -/
theorem not_ownTunnel :
    ∃ inputs reached, Machine.run (Session.step ⟨['u'], true⟩) (.initial .free) inputs =
        some reached ∧
      .spawned .runWda 1 ∈ reached.deeds ∧ ¬ OwnTunnel ['u'] reached.deeds := by
  have fooled : (Machine.run (Session.step ⟨['u'], true⟩) (.initial .free)
      (launched ['u'] .foreignBinds)).map Session.deeds =
        some [.spawned .tunnel 0, .tunnelReady .foreign [['u']], .spawned .runWda 1] := by
    decide +kernel
  obtain ⟨reached, ran, deeds⟩ := Option.map_eq_some_iff.mp fooled
  refine ⟨launched ['u'] .foreignBinds, reached, ran, by simp [deeds], fun own => ?_⟩
  obtain ⟨pid, held, -⟩ := own.answers .foreign [['u']] (by simp [deeds])
  cases held

end QuadControl.Ios.Supervisor
