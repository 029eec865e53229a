import QuadControl.Ios.SupervisorClient
import QuadControl.Ios.WdaSessions

/-! # The end of the session on the device

The shutdown deletes the session through the client that it takes from the handles' cell.
The session is created before: when what follows fails before the client is stored, the
shutdown finds no client and signals the children with the session still there.
-/

namespace QuadControl.Ios.Supervisor

open Lib

/-- How far the session on the device has come. -/
inductive Stage where
  | early
  | made
  | held
  | closing
  | deleting
  | past
  deriving Repr, DecidableEq

def Point.stage : Point → Stage
  | beginning | configuring | startingProxy | storing _ => .made
  | publishing _ | listening | watching | looking => .held
  | ending _ | stoppingProxy _ | taking _ => .closing
  | deleting _ => .deleting
  | signalling _ _ | leaving _ _ | reaping _ _ | reporting _ | sending | finished => .past
  | _ => .early

theorem Moves.stage {point next : Point} (moves : Moves point next) : next.stage = point.stage := by
  cases moves with
  | unready wait => cases wait <;> rfl
  | _ => rfl

/-- Deeds of the shutdown. -/
def Deed.isEnding : Deed → Bool
  | .deleted _ | .signalled _ => true
  | _ => false

/-- Deeds that have nothing to do with the session on the device. -/
def Deed.isNeutral : Deed → Bool
  | .spawned _ _ | .tunnelReady _ _ => true
  | _ => false

/-- The session was deleted, and no child was signalled before. -/
def DeletedFirst (id : Text) (deeds : List Deed) : Prop :=
  ∃ before, before ++ [Deed.deleted id] <+: deeds ∧ ∀ signal, .signalled signal ∉ before

theorem DeletedFirst.append {id : Text} {deeds : List Deed} (first : DeletedFirst id deeds)
    (more : List Deed) : DeletedFirst id (deeds ++ more) := by
  obtain ⟨before, starts, unsignalled⟩ := first
  exact ⟨before, starts.trans (List.prefix_append _ _), unsignalled⟩

theorem DeletedFirst.mem {id : Text} {deeds : List Deed} (first : DeletedFirst id deeds) :
    .deleted id ∈ deeds := by
  obtain ⟨before, starts, -⟩ := first
  exact starts.subset (by simp)

theorem deletedFirst_concat {id : Text} {deeds : List Deed}
    (unended : ∀ deed ∈ deeds, deed.isEnding = false) : DeletedFirst id (deeds ++ [Deed.deleted id]) :=
  ⟨deeds, List.prefix_rfl, fun _ inside => nomatch unended _ inside⟩

/-- The client holds the id that was stored last. -/
def Current (shared : Wda.Shared Text) : Prop :=
  shared.client.sessionId = shared.ledger.stored.head?

theorem Current.step {me : Nat} {shared shared' : Wda.Shared Text} {own own' : Wda.Local Text Text}
    {action : Wda.Action Text Text} (current : Current shared)
    (step : Wda.Step me shared own action shared' own') : Current shared' := by
  cases step with
  | store => rfl
  | begin => exact (Wda.Shared.record_sessionId ..).trans current
  | _ => exact current

/-- The clones of the client only add to the ids. -/
theorem clones_step {wda wda' : Clones} {event : Interleaving.Event (Wda.Action Text Text)}
    (stepped : Interleaving.step Wda.advance wda event = some wda') (current : Current wda.shared) :
    Current wda'.shared ∧ wda.shared.ledger.stored ⊆ wda'.shared.ledger.stored := by
  obtain ⟨shared, own, acted, rfl⟩ := Interleaving.step_some stepped
  have step := Wda.Step.of_advance acted
  exact ⟨current.step step, step.stored_subset.1⟩

namespace Session

variable {options : Options} {session next : Session} {choice : Choice} {input : Input}

def stored (session : Session) : List Text := session.wda.shared.ledger.stored

/-- Once the shutdown is past it, the session that was created is deleted, or the one that
    has replaced it. -/
def Deletes (session : Session) : Prop :=
  session.point.stage = .past → ∀ id, .created id ∈ session.deeds →
    ∃ current ∈ session.stored, DeletedFirst current session.deeds

/-- The start-up fails between the creation and the client. -/
def abandons (session : Session) (input : Input) : Bool :=
  match session.point, input with
  | .configuring, .go _ =>
      match (session.wda.threads 0).call with
      | .idle (some (.error _)) => true
      | _ => false
  | .startingProxy, .go (.proxy none) => true
  | _, _ => false

/-- The invariant of a run. -/
structure Prepared (session : Session) : Prop where
  held : ClientHeld session
  client : session.point.stage = .held → session.client = true
  creates : session.client = true → ∃ id, .created id ∈ session.deeds
  unended : session.point.stage ≠ .past → ∀ deed ∈ session.deeds, deed.isEnding = false
  uncreated : session.point.stage = .early → ∀ id, .created id ∉ session.deeds
  made : session.point.stage = .made → ∃ id, .created id ∈ session.deeds
  current : Current session.wda.shared
  stored : ∀ id, .created id ∈ session.deeds → id ∈ session.stored

/-- Beside the supervisor, the ids only grow as well. -/
theorem Rests.stored (rests : Rests session next) (current : Current session.wda.shared) :
    Current next.wda.shared ∧ session.stored ⊆ next.stored := by
  rcases rests.wda with same | ⟨event, wda⟩
  · rw [Session.stored, Session.stored, same]
    exact ⟨current, List.Subset.refl _⟩
  · exact clones_step wda current

theorem prepared_initial (port : Holder) : Prepared (initial port) where
  held := nofun
  client := nofun
  creates := nofun
  unended _ := nofun
  uncreated _ := nofun
  made := nofun
  current := rfl
  stored := nofun

theorem stage_terminate (session : Session) (outcome : Outcome) :
    (session.terminate outcome).point.stage = .past := by
  unfold terminate
  split <;> rfl

theorem MayEnd.stage (may : session.MayEnd choice) :
    session.point.stage = .early ∨ session.point.stage = .held ∨
      session.point.stage = .made ∧ session.abandons (.go choice) = true := by
  unfold MayEnd at may
  split at may
  case h_1 here =>
      obtain ⟨error, failed⟩ := may
      exact .inr (.inr ⟨by rw [here]; rfl, by simp [abandons, here, failed]⟩)
  all_goals simp_all [Point.stage, abandons]

/-- A step that stays in its stage, or ends the run. -/
theorem Prepared.onward (prepared : Prepared session) (held : ClientHeld next)
    (client : next.client = session.client) (wda : next.wda = session.wda)
    (deeds : session.deeds ⊆ next.deeds)
    (new : ∀ deed ∈ next.deeds, deed ∈ session.deeds ∨ deed.isNeutral = true)
    (stage : next.point.stage = session.point.stage ∨
      next.point.stage = .closing ∧ session.point.stage ≠ .past) : Prepared next := by
  have created : ∀ id, .created id ∈ next.deeds → .created id ∈ session.deeds := by
    intro id inside
    simpa [Deed.isNeutral] using new _ inside
  have back : ∀ stage, stage ≠ .closing → next.point.stage = stage → session.point.stage = stage := by
    intro other unclosed here
    rcases stage with same | ⟨closing, -⟩
    · exact same.symm.trans here
    · exact absurd (here.symm.trans closing) unclosed
  refine ⟨held, ?_, ?_, ?_, ?_, ?_, ?_, ?_⟩
  · exact fun here => client ▸ prepared.client (back .held nofun here)
  · intro there
    obtain ⟨id, inside⟩ := prepared.creates (client ▸ there)
    exact ⟨id, deeds inside⟩
  · intro unpast deed inside
    have before : session.point.stage ≠ .past := by
      rcases stage with same | ⟨-, before⟩
      · exact same ▸ unpast
      · exact before
    rcases new deed inside with earlier | neutral
    · exact prepared.unended before deed earlier
    · cases deed <;> first | rfl | cases neutral
  · exact fun here id inside => prepared.uncreated (back .early nofun here) id (created id inside)
  · intro here
    obtain ⟨id, inside⟩ := prepared.made (back .made nofun here)
    exact ⟨id, deeds inside⟩
  · exact wda ▸ prepared.current
  · intro id inside
    rw [Session.stored, wda]
    exact prepared.stored id (created id inside)

/-- A step without a deed. -/
theorem Prepared.stays (prepared : Prepared session) (held : ClientHeld next)
    (client : next.client = session.client) (wda : next.wda = session.wda)
    (deeds : next.deeds = session.deeds)
    (stage : next.point.stage = session.point.stage ∨
      next.point.stage = .closing ∧ session.point.stage ≠ .past) : Prepared next :=
  prepared.onward held client wda (deeds ▸ List.Subset.refl _)
    (fun _ inside => .inl (deeds ▸ inside)) stage

/-- A step with a deed that is not about the session. -/
theorem Prepared.notes {deed : Deed} (prepared : Prepared session) (held : ClientHeld next)
    (client : next.client = session.client) (wda : next.wda = session.wda)
    (deeds : next.deeds = session.deeds ++ [deed]) (neutral : deed.isNeutral = true)
    (stage : next.point.stage = session.point.stage) : Prepared next := by
  refine prepared.onward held client wda (deeds ▸ List.subset_append_left _ _) ?_ (.inl stage)
  intro other inside
  rw [deeds, List.mem_append, List.mem_singleton] at inside
  rcases inside with earlier | rfl
  · exact .inl earlier
  · exact .inr neutral

/-- Past the session, nothing is asked of the deeds any more. -/
theorem Prepared.passes (prepared : Prepared session) (held : ClientHeld next)
    (client : next.client = session.client) (wda : next.wda = session.wda)
    (deeds : session.deeds ⊆ next.deeds)
    (new : ∀ deed ∈ next.deeds, deed ∈ session.deeds ∨ deed.isEnding = true)
    (past : next.point.stage = .past) : Prepared next := by
  have elsewhere : ∀ {stage}, next.point.stage = stage → stage ≠ .past → False :=
    fun here unpast => unpast (here.symm.trans past)
  refine ⟨held, fun here => (elsewhere here nofun).elim, ?_, fun unpast => absurd past unpast,
    fun here => (elsewhere here nofun).elim, fun here => (elsewhere here nofun).elim, ?_, ?_⟩
  · intro there
    obtain ⟨id, inside⟩ := prepared.creates (client ▸ there)
    exact ⟨id, deeds inside⟩
  · exact wda ▸ prepared.current
  · intro id inside
    rw [Session.stored, wda]
    exact prepared.stored id (by simpa [Deed.isEnding] using new _ inside)

/-- The deed that passes it. -/
theorem Prepared.passesWith {deed : Deed} (prepared : Prepared session) (held : ClientHeld next)
    (client : next.client = session.client) (wda : next.wda = session.wda)
    (deeds : next.deeds = session.deeds ++ [deed]) (ending : deed.isEnding = true)
    (past : next.point.stage = .past) : Prepared next := by
  refine prepared.passes held client wda (deeds ▸ List.subset_append_left _ _) ?_ past
  intro other inside
  rw [deeds, List.mem_append, List.mem_singleton] at inside
  rcases inside with earlier | rfl
  · exact .inl earlier
  · exact .inr ending

theorem Prepared.turn (prepared : Prepared session) (turn : Turn options session choice next) :
    Prepared next := by
  have held := prepared.held.turn turn
  cases turn with
  | moves moves => exact prepared.stays held rfl rfl rfl (.inl moves.stage)
  | ends may =>
      refine prepared.stays held rfl rfl rfl (.inr ⟨rfl, ?_⟩)
      rcases may.stage with here | here | ⟨here, -⟩ <;> simp [here]
  | refuse here | publish here | startProxy here | exited here | stopping here | stopProxy here
  | leave here | reap here | clear here | report here | send here =>
      exact prepared.stays held rfl rfl rfl (.inl (by rw [here]; rfl))
  | handle here first =>
      rcases first with ⟨rfl, -⟩ | rfl
      · exact prepared.stays held rfl rfl rfl (.inl (by rw [here]; rfl))
      · exact prepared.stays held rfl rfl rfl (.inl (by rw [here]; rfl))
  | settled here further =>
      rcases further with rfl | rfl
      · exact prepared.stays held rfl rfl rfl (.inl (by rw [here]; rfl))
      · exact prepared.stays held rfl rfl rfl (.inl (by rw [here]; rfl))
  | lost here further =>
      rcases further with ⟨error, rfl⟩ | ⟨attempts, rfl⟩
      · exact prepared.stays held rfl rfl rfl (.inr ⟨rfl, by rw [here]; rintro ⟨⟩⟩)
      · exact prepared.stays held rfl rfl rfl (.inl (by rw [here]; rfl))
  | spawnChild here =>
      rcases here with ⟨here, -, rfl⟩ | ⟨here, -, rfl⟩
      · exact prepared.notes held rfl rfl rfl rfl (by rw [here]; rfl)
      · exact prepared.notes held rfl rfl rfl rfl (by rw [here]; rfl)
  | tunnelReady here | spawnForward here =>
      exact prepared.notes held rfl rfl rfl rfl (by rw [here]; rfl)
  -- the session is created, and its settings go out
  | @create _ id here =>
      have absent : ∀ other, .created other ∉ session.deeds :=
        prepared.uncreated (by rw [here]; rfl)
      refine
        { held
          client := by rintro ⟨⟩
          creates := fun _ => ⟨id, by simp [Session.create, note, Session.goto]⟩
          unended := ?_
          uncreated := by rintro ⟨⟩
          made := fun _ => ⟨id, by simp [Session.create, note, Session.goto]⟩
          current := rfl
          stored := ?_ }
      · intro _ deed inside
        rcases List.mem_append.mp inside with earlier | last
        · exact prepared.unended (by rw [here]; rintro ⟨⟩) deed earlier
        · rw [List.mem_singleton.mp last]
          rfl
      · intro other inside
        rcases List.mem_append.mp inside with earlier | last
        · exact absurd earlier (absent other)
        · cases List.mem_singleton.mp last
          exact .head _
  | beginConfigure here began =>
      obtain ⟨current, stored⟩ := clones_step began prepared.current
      have made : session.point.stage = .made := by rw [here]; rfl
      exact
        { held, current
          client := by rintro ⟨⟩
          creates := prepared.creates
          unended := fun _ => prepared.unended (by simp [made])
          uncreated := by rintro ⟨⟩
          made := fun _ => prepared.made made
          stored := fun id inside => stored (prepared.stored id inside) }
  | store here =>
      have made : session.point.stage = .made := by rw [here]; rfl
      exact
        { prepared with
          held
          client := fun _ => rfl
          creates := fun _ => prepared.made made
          unended := fun _ => prepared.unended (by simp [made])
          uncreated := by rintro ⟨⟩
          made := by rintro ⟨⟩ }
  -- the shutdown
  | take here there =>
      have closing : session.point.stage = .closing := by rw [here]; rfl
      exact
        { prepared with
          held
          client := by rintro ⟨⟩
          creates := by rintro ⟨⟩
          unended := fun _ => prepared.unended (by simp [closing])
          uncreated := by rintro ⟨⟩
          made := by rintro ⟨⟩ }
  | untaken here | undeleted here =>
      exact prepared.passes held rfl rfl (List.Subset.refl _) (fun _ => .inl) (stage_terminate ..)
  | delete here => exact prepared.passesWith held rfl rfl rfl rfl (stage_terminate ..)
  | signal here => exact prepared.passesWith held rfl rfl rfl rfl rfl

theorem prepared_of_step (session : Session) (input : Input) (next : Session)
    (prepared : Prepared session) (stepped : session.step options input = some next) :
    Prepared next := by
  rcases step_cases stepped with ⟨choice, -, turn⟩ | ⟨-, rests⟩
  · exact prepared.turn turn
  · have held := clientHeld_of_step session input next prepared.held stepped
    obtain ⟨current, stored⟩ := rests.stored prepared.current
    refine ⟨held, ?_, ?_, ?_, ?_, ?_, current, ?_⟩
    · rw [rests.point, rests.client]
      exact prepared.client
    · rw [rests.client, rests.deeds]
      exact prepared.creates
    · rw [rests.point, rests.deeds]
      exact prepared.unended
    · rw [rests.point, rests.deeds]
      exact prepared.uncreated
    · rw [rests.point, rests.deeds]
      exact prepared.made
    · rw [rests.deeds]
      exact fun id inside => stored (prepared.stored id inside)

/-! ### Runs whose start-up is not abandoned -/

/-- The shutdown finds the client of what was created. -/
structure Kept (session : Session) : Prop where
  client : session.point.stage = .closing → ∀ id, .created id ∈ session.deeds →
    session.client = true
  deletes : Deletes session

theorem kept_initial (port : Holder) : Kept (initial port) := ⟨nofun, nofun⟩

theorem Deletes.append {more : List Deed} (deletes : Deletes session)
    (past : session.point.stage = .past) (stored : session.stored ⊆ next.stored)
    (deeds : next.deeds = session.deeds ++ more)
    (none : ∀ id, .created id ∉ more) : Deletes next := by
  intro _ id inside
  rw [deeds] at inside ⊢
  have earlier : .created id ∈ session.deeds := by simpa [none] using inside
  obtain ⟨current, is, first⟩ := deletes past id earlier
  exact ⟨current, stored is, first.append more⟩

theorem Kept.stays (kept : Kept session) (client : next.client = session.client)
    (stored : session.stored ⊆ next.stored) (deeds : next.deeds = session.deeds)
    (stage : next.point.stage = session.point.stage) : Kept next where
  client := by
    intro closing id inside
    rw [client]
    exact kept.client (stage ▸ closing) id (deeds ▸ inside)
  deletes past := by
    have same : next.deeds = session.deeds ++ [] := by simp [deeds]
    exact kept.deletes.append (stage ▸ past) stored same (by simp) past

theorem Kept.elsewhere (unclosed : next.point.stage ≠ .closing) (unpast : next.point.stage ≠ .past) :
    Kept next :=
  ⟨fun closing => absurd closing unclosed, fun past => absurd past unpast⟩

theorem Kept.turn (prepared : Prepared session) (kept : Kept session)
    (fair : session.abandons (.go choice) = false) (turn : Turn options session choice next) :
    Kept next := by
  cases turn with
  | moves moves => exact kept.stays rfl (List.Subset.refl _) rfl moves.stage
  | ends may =>
      refine ⟨fun _ id inside => ?_, nofun⟩
      rcases may.stage with here | here | ⟨-, abandoned⟩
      · exact absurd inside (prepared.uncreated here id)
      · exact prepared.client here
      · simp [fair] at abandoned
  | lost here further =>
      rcases further with ⟨error, rfl⟩ | ⟨attempts, rfl⟩
      · refine ⟨fun _ id inside => ?_, nofun⟩
        exact absurd inside (prepared.uncreated (by rw [here]; rfl) id)
      · exact kept.stays rfl (List.Subset.refl _) rfl (by rw [here]; rfl)
  | refuse | create | beginConfigure | startProxy | store | publish | exited | tunnelReady
  | spawnForward | take => exact .elsewhere nofun nofun
  | handle here first =>
      rcases first with ⟨rfl, -⟩ | rfl <;> exact .elsewhere nofun nofun
  | settled here further =>
      rcases further with rfl | rfl <;> exact .elsewhere nofun nofun
  | spawnChild here =>
      rcases here with ⟨-, -, rfl⟩ | ⟨-, -, rfl⟩ <;> exact .elsewhere nofun nofun
  | stopping here | stopProxy here | leave here | reap here | clear here | report here
  | send here => exact kept.stays rfl (List.Subset.refl _) rfl (by rw [here]; rfl)
  -- the shutdown passes the session
  | untaken here absent =>
      refine ⟨fun closing => ?_, fun _ id inside => ?_⟩
      · cases closing.symm.trans (stage_terminate ..)
      · cases absent.symm.trans (kept.client (by rw [here]; rfl) id inside)
  | undeleted here unset =>
      refine ⟨fun closing => ?_, fun _ id inside => ?_⟩
      · cases closing.symm.trans (stage_terminate ..)
      · have empty : session.stored = [] :=
          List.head?_eq_none_iff.mp (prepared.current.symm.trans unset)
        simpa [empty] using prepared.stored id inside
  | @delete _ _ current here set =>
      refine ⟨fun closing => ?_, fun _ id inside => ⟨current, ?_, ?_⟩⟩
      · cases closing.symm.trans (stage_terminate ..)
      · exact List.mem_of_mem_head? (prepared.current.symm.trans set)
      · exact deletedFirst_concat (prepared.unended (by rw [here]; nofun))
  | signal here =>
      refine ⟨nofun, ?_⟩
      exact kept.deletes.append (by rw [here]; rfl) (List.Subset.refl _) rfl (by simp)

theorem kept_of_step (prepared : Prepared session) (kept : Kept session)
    (fair : session.abandons input = false) (stepped : session.step options input = some next) :
    Kept next := by
  rcases step_cases stepped with ⟨choice, rfl, turn⟩ | ⟨-, rests⟩
  · exact kept.turn prepared fair turn
  · obtain ⟨-, stored⟩ := rests.stored prepared.current
    exact kept.stays rests.client stored rests.deeds (by rw [rests.point])

/-! ### Runs whose start-up is abandoned -/

/-- The shutdown does not find the client of what was created. -/
structure Doomed (session : Session) : Prop where
  created : ∃ id, .created id ∈ session.deeds
  absent : session.client = false
  undeleted : ∀ id, .deleted id ∉ session.deeds
  late : session.point.stage = .closing ∨ session.point.stage = .past

theorem fails_of_abandons (abandoned : session.abandons input = true)
    (stepped : session.step options input = some next) :
    session.point.stage = .made ∧ ∃ error, next = session.fail error := by
  unfold abandons at abandoned
  split at abandoned
  case h_1 choice here =>
      refine ⟨by rw [here]; rfl, ?_⟩
      split at abandoned
      case h_1 error failed =>
          cases choice <;> simp [step, supervise, here, configured, failed] at stepped
          exact ⟨_, stepped.symm⟩
      case h_2 => cases abandoned
  case h_2 here =>
      refine ⟨by rw [here]; rfl, .proxyFailed, ?_⟩
      simpa [step, supervise, here] using stepped.symm
  case h_3 => cases abandoned

theorem Prepared.dooms (prepared : Prepared session) (abandoned : session.abandons input = true)
    (stepped : session.step options input = some next) : Doomed next := by
  obtain ⟨made, error, rfl⟩ := fails_of_abandons abandoned stepped
  refine ⟨prepared.made made, ?_, ?_, .inl rfl⟩
  · by_contra there
    have holds := prepared.held (Bool.not_eq_false _ ▸ there)
    cases here : session.point <;> simp [here, Point.stage, Point.holdsClient] at made holds
  · intro id inside
    cases prepared.unended (by simp [made]) _ inside

theorem Doomed.onward (doomed : Doomed session) (client : next.client = session.client)
    (deeds : session.deeds ⊆ next.deeds)
    (undeleted : ∀ id, .deleted id ∈ next.deeds → .deleted id ∈ session.deeds)
    (late : next.point.stage = .closing ∨ next.point.stage = .past) : Doomed next where
  created := doomed.created.imp fun _ inside => deeds inside
  absent := client.trans doomed.absent
  undeleted id inside := doomed.undeleted id (undeleted id inside)
  late := late

theorem Doomed.turn (doomed : Doomed session) (turn : Turn options session choice next) :
    Doomed next := by
  have late := doomed.late
  cases turn with
  | moves moves =>
      exact doomed.onward rfl (List.Subset.refl _) (fun _ => id) (moves.stage ▸ late)
  | ends may => rcases may.stage with here | here | ⟨here, -⟩ <;> simp [here] at late
  | refuse here | handle here | tunnelReady here | spawnForward here | settled here | exited here
  | lost here | create here | beginConfigure here | startProxy here | store here | publish here
  | undeleted here | delete here => simp [here, Point.stage] at late
  | spawnChild here =>
      rcases here with ⟨here, -⟩ | ⟨here, -⟩ <;> simp [here, Point.stage] at late
  | stopping | stopProxy => exact doomed.onward rfl (List.Subset.refl _) (fun _ => id) (.inl rfl)
  | take here there => cases doomed.absent.symm.trans there
  | untaken =>
      exact doomed.onward rfl (List.Subset.refl _) (fun _ => id) (.inr (stage_terminate ..))
  | signal =>
      exact doomed.onward rfl (List.subset_append_left _ _) (by simp [note, Session.goto]) (.inr rfl)
  | leave | reap | clear | report | send =>
      exact doomed.onward rfl (List.Subset.refl _) (fun _ => id) (.inr rfl)

theorem doomed_of_step (doomed : Doomed session) (stepped : session.step options input = some next) :
    Doomed next := by
  rcases step_cases stepped with ⟨choice, -, turn⟩ | ⟨-, rests⟩
  · exact doomed.turn turn
  · exact doomed.onward rests.client (rests.deeds ▸ List.Subset.refl _)
      (fun _ => rests.deeds ▸ id) (rests.point ▸ doomed.late)

theorem Doomed.not_deletes (doomed : Doomed session) (past : session.point.stage = .past) :
    ¬ Deletes session := by
  intro deletes
  obtain ⟨id, created⟩ := doomed.created
  obtain ⟨current, -, first⟩ := deletes past id created
  exact doomed.undeleted current first.mem

end Session

/-- The shutdown deletes the session that was created before it signals a child when the
    start-up is not abandoned between the creation and the client, and, once the shutdown is
    past that, only then. -/
theorem wda_deleted (options : Options) (port : Holder) (inputs : List Session.Input)
    (final : Session)
    (ran : Machine.run (Session.step options) (.initial port) inputs = some final) :
    (Machine.Meets (Session.step options) (fun session input => session.abandons input = false)
        (.initial port) inputs →
      Machine.Throughout (Session.step options) Session.Deletes (.initial port) inputs) ∧
    (final.point.stage = .past → final.Deletes →
      Machine.Meets (Session.step options) (fun session input => session.abandons input = false)
        (.initial port) inputs) := by
  constructor
  · intro meets
    have preserved : ∀ session input next, (Session.Prepared session ∧ Session.Kept session) →
        session.abandons input = false → Session.step options session input = some next →
        Session.Prepared next ∧ Session.Kept next := by
      rintro session input next ⟨prepared, kept⟩ fair stepped
      exact ⟨Session.prepared_of_step session input next prepared stepped,
        Session.kept_of_step prepared kept fair stepped⟩
    have start := And.intro (Session.prepared_initial port) (Session.kept_initial port)
    exact (Machine.throughout_of_meets preserved start meets).mono fun _ holds => holds.2.deletes
  · intro past deletes
    have preserved : ∀ session input next, Session.Prepared session → True →
        Session.step options session input = some next → Session.Prepared next :=
      fun session input next prepared _ => Session.prepared_of_step session input next prepared
    have dooms : ∀ session input next, Session.Prepared session →
        Session.step options session input = some next → ¬ session.abandons input = false →
        Session.Doomed next :=
      fun _ _ _ prepared stepped abandoned =>
        prepared.dooms (Bool.not_eq_false _ ▸ abandoned) stepped
    exact Machine.meets_of_not_doomed preserved dooms
      (fun _ _ _ doomed _ => Session.doomed_of_step doomed) (Session.prepared_initial port)
      (Machine.meets_trivial _ _) ran fun doomed => doomed.not_deletes past deletes

/-- A launch with its four children, up to the start of the proxy. -/
def configured : List Session.Input :=
  [.go (.version none), .go (.spawn none), .childBinds 0, .go .go, .go (.child none),
    .go (.tunnels (some [['u']])), .go (.spawn none), .go (.reserve true), .go (.spawn none),
    .go (.settle none), .go (.reserve true), .go (.spawn none), .go (.settle none), .go .go,
    .go (.child none), .go (.status true), .go (.session (some ['A'])), .go .go, .clone (0, .go),
    .clone (0, .answer (.ok ⟨none, none, none, none, none, none, none⟩)), .go .go]

/-- It runs and is stopped, and its children exit when they are interrupted. -/
def stopped : List Session.Input :=
  configured ++ [Session.Input.go (.proxy (some 9100)), .go .go, .go .go, .requestStop, .go .go,
    .go .go, .go .go, .go .go, .go .go, .go .go, .exits 3 0, .exits 2 0, .exits 1 0, .exits 0 0, .go (.gone true),
    .go .go, .go .go, .go .go, .go .go, .go .go, .go .go, .go .go]

theorem wda_deleted_stopped :
    Machine.Throughout (Session.step ⟨['u'], true⟩) Session.Deletes (.initial .free) stopped ∧
      (Machine.run (Session.step ⟨['u'], true⟩) (.initial .free) stopped).map
        (fun session => (session.point, session.waited, session.deeds.drop 5)) =
          some (.finished, [0, 1, 2, 3],
            [.created ['A'], .deleted ['A'], .signalled .interrupt]) := by
  have meets : Machine.Meets (Session.step ⟨['u'], true⟩)
      (fun session input => session.abandons input = false) (.initial .free) stopped := by
    decide +kernel
  have ends : (Machine.run (Session.step ⟨['u'], true⟩) (.initial .free) stopped).map
      (fun session => (session.point, session.waited, session.deeds.drop 5)) =
        some (.finished, [0, 1, 2, 3],
          [.created ['A'], .deleted ['A'], .signalled .interrupt]) := by
    decide +kernel
  obtain ⟨final, ran, -⟩ := Option.map_eq_some_iff.mp ends
  exact ⟨(wda_deleted ⟨['u'], true⟩ .free stopped final ran).1 meets, ends⟩

/-- Its proxy does not start, and the children are signalled. -/
def proxyless : List Session.Input :=
  configured ++ [Session.Input.go (.proxy none), .go .go, .go .go, .go .go, .go .go]

/-- The children are signalled, and the session was never deleted. -/
theorem not_deleted :
    ∃ inputs reached, Machine.run (Session.step ⟨['u'], true⟩) (.initial .free) inputs =
        some reached ∧
      .created ['A'] ∈ reached.deeds ∧ .signalled .interrupt ∈ reached.deeds ∧
      ¬ reached.Deletes := by
  have ends : (Machine.run (Session.step ⟨['u'], true⟩) (.initial .free) proxyless).map
      (fun session => (session.point.stage, session.deeds.drop 5)) =
        some (.past, [.created ['A'], .signalled .interrupt]) := by
    decide +kernel
  have undeleted : (Machine.run (Session.step ⟨['u'], true⟩) (.initial .free) proxyless).map
      (fun session => session.deeds.take 5) =
        some [.spawned .tunnel 0, .tunnelReady (.child 0) [['u']], .spawned .runWda 1,
          .spawned .forwardHttp 2, .spawned .forwardMjpeg 3] := by
    decide +kernel
  obtain ⟨reached, ran, seen⟩ := Option.map_eq_some_iff.mp ends
  simp only [ran, Option.map_some, Option.some.injEq, Prod.mk.injEq] at seen undeleted
  have deeds := List.take_append_drop 5 reached.deeds
  rw [undeleted, seen.2] at deeds
  refine ⟨proxyless, reached, ran, by simp [← deeds], by simp [← deeds], fun deletes => ?_⟩
  obtain ⟨current, -, first⟩ := deletes seen.1 ['A'] (by simp [← deeds])
  simpa [← deeds] using first.mem

end QuadControl.Ios.Supervisor
