import QuadControl.Android.PairingRound

/-! # Pair processes in flight

Every process that leaves the loop leaves a failure behind, so that a loop that goes on
with no process in flight has not spawned one yet. A lost service is therefore met with
a process in flight, and a round ends in a failure only once none is left.
-/

namespace QuadControl.Android.Wireless

open Lib

/-! ### What a round keeps -/

namespace Loop

/-- Two loops that differ in where they stand, and in the round's mark, only. -/
structure Alike (loop other : Loop) : Prop where
  secret : other.secret = loop.secret
  pairs : other.pairs = loop.pairs
  roundId : other.roundId = loop.roundId
  spawned : other.spawned = loop.spawned
  started : other.started = loop.started
  polls : other.polls = loop.polls
  failure : other.failure = loop.failure
  id : other.round.id = loop.round.id
  closed : other.round.closed = loop.round.closed
  guid : other.round.guid = loop.round.guid

theorem Alike.refl (loop : Loop) : loop.Alike loop :=
  ⟨rfl, rfl, rfl, rfl, rfl, rfl, rfl, rfl, rfl, rfl⟩

theorem alike_goTo (loop : Loop) (phase : Phase) : loop.Alike (loop.goTo phase) :=
  ⟨rfl, rfl, rfl, rfl, rfl, rfl, rfl, rfl, rfl, rfl⟩

theorem alike_giveUp (loop : Loop) (first : WirelessError) : loop.Alike (loop.giveUp first) :=
  loop.alike_goTo _

theorem alike_finishPolling (loop : Loop) : loop.Alike loop.finishPolling := by
  unfold finishPolling
  split
  · split <;> exact ⟨rfl, rfl, rfl, rfl, rfl, rfl, rfl, rfl, rfl, rfl⟩
  · exact loop.alike_goTo _

theorem alike_pollFrom (loop : Loop) (index : Nat) : loop.Alike (loop.pollFrom index) := by
  unfold pollFrom
  split
  · exact loop.alike_goTo _
  · exact loop.alike_finishPolling

theorem alike_spawnNext (loop : Loop) (services : List MdnsService) :
    loop.Alike (loop.spawnNext services) := by
  induction services with
  | nil => exact loop.alike_pollFrom 0
  | cons service rest ih =>
      unfold spawnNext
      split
      · exact ih
      · exact loop.alike_goTo _

/-- The round is the one the loop was entered with, its processes are numbered, one an
    endpoint, and none is polled after it was reported finished. -/
structure Tracked (round : RoundState) (loop : Loop) : Prop where
  roundId : loop.roundId = round.id
  id : loop.round.id = round.id
  closed : loop.round.closed = round.closed
  guid : loop.round.guid = round.guid
  endpoints : loop.started.map Process.endpoint = loop.spawned
  distinct : loop.spawned.Nodup
  numbered : loop.started.map Process.number = List.range loop.started.length
  pairs : loop.pairs.Sublist loop.started
  order : loop.polls.Pairwise fun later earlier => earlier.2 = true → later.1 ≠ earlier.1

/-- No process in flight was reported finished. -/
def Unfinished (loop : Loop) : Prop :=
  ∀ entry ∈ loop.polls, entry.2 = true →
    entry.1 < loop.started.length ∧ ∀ process ∈ loop.pairs, process.number ≠ entry.1

theorem Tracked.alike {round : RoundState} {loop other : Loop} (tracked : Tracked round loop)
    (alike : loop.Alike other) : Tracked round other where
  roundId := alike.roundId.trans tracked.roundId
  id := alike.id.trans tracked.id
  closed := alike.closed.trans tracked.closed
  guid := alike.guid.trans tracked.guid
  endpoints := by simpa only [alike.started, alike.spawned] using tracked.endpoints
  distinct := by simpa only [alike.spawned] using tracked.distinct
  numbered := by simpa only [alike.started] using tracked.numbered
  pairs := by simpa only [alike.pairs, alike.started] using tracked.pairs
  order := by simpa only [alike.polls] using tracked.order

theorem Unfinished.alike {loop other : Loop} (unfinished : loop.Unfinished)
    (alike : loop.Alike other) : other.Unfinished := by
  unfold Unfinished at unfinished ⊢
  rw [alike.polls, alike.started, alike.pairs]
  exact unfinished

theorem Tracked.fail {round : RoundState} {loop : Loop} (tracked : Tracked round loop)
    (error : WirelessError) : Tracked round (loop.fail error) :=
  ⟨tracked.roundId, tracked.id, tracked.closed, tracked.guid, tracked.endpoints, tracked.distinct,
    tracked.numbered, tracked.pairs, tracked.order⟩

theorem Tracked.number_lt {round : RoundState} {loop : Loop} (tracked : Tracked round loop)
    {process : Process} (inFlight : process ∈ loop.pairs) :
    process.number < loop.started.length := by
  have counted : process.number ∈ loop.started.map Process.number :=
    List.mem_map_of_mem (tracked.pairs.subset inFlight)
  rw [tracked.numbered] at counted
  exact List.mem_range.mp counted

theorem Tracked.numbers_nodup {round : RoundState} {loop : Loop} (tracked : Tracked round loop) :
    (loop.pairs.map Process.number).Nodup := by
  have all : (loop.started.map Process.number).Nodup := by
    rw [tracked.numbered]
    exact List.nodup_range
  exact all.sublist (tracked.pairs.map _)

theorem Tracked.push {round : RoundState} {loop : Loop} (tracked : Tracked round loop)
    {endpoint : Text} (fresh : endpoint ∉ loop.spawned) (started : Nat) :
    Tracked round (loop.push endpoint started) where
  roundId := tracked.roundId
  id := tracked.id
  closed := tracked.closed
  guid := tracked.guid
  endpoints := by simp [Loop.push, tracked.endpoints]
  distinct := by
    refine List.nodup_append.mpr ⟨tracked.distinct, by simp, fun seen inside new same => ?_⟩
    obtain rfl := List.mem_singleton.mp same
    rintro rfl
    exact fresh inside
  numbered := by simp [Loop.push, tracked.numbered, List.range_succ]
  pairs := tracked.pairs.append (List.Sublist.refl _)
  order := tracked.order

theorem Unfinished.push {loop : Loop} (unfinished : loop.Unfinished) (endpoint : Text)
    (started : Nat) : (loop.push endpoint started).Unfinished := by
  intro entry inside finished
  obtain ⟨below, gone⟩ := unfinished entry inside finished
  refine ⟨by simp only [Loop.push, List.length_append]; omega, fun process inFlight => ?_⟩
  rcases List.mem_append.mp inFlight with before | new
  · exact gone process before
  · obtain rfl := List.mem_singleton.mp new
    exact (Nat.ne_of_lt below).symm

/-- What is taken out of a list by its index is the only one with its key. -/
theorem ne_of_mem_eraseIdx {α β : Type} {key : α → β} {list : List α} {index : Nat} {item other : α}
    (distinct : (list.map key).Nodup) (here : list[index]? = some item)
    (left : other ∈ list.eraseIdx index) : key other ≠ key item := by
  induction list generalizing index with
  | nil => cases here
  | cons first rest ih =>
      obtain ⟨apart, distinct⟩ := List.nodup_cons.mp distinct
      cases index with
      | zero =>
          obtain rfl := Option.some.inj here
          exact fun same => apart (same ▸ List.mem_map_of_mem left)
      | succ index =>
          have later : rest[index]? = some item := by simpa using here
          rcases List.mem_cons.mp left with rfl | left
          · exact fun same => apart (same ▸ List.mem_map_of_mem (List.mem_of_getElem? later))
          · exact ih distinct later left

/-- Only what is in flight is polled. -/
theorem Tracked.recordPoll {round : RoundState} {loop : Loop} (tracked : Tracked round loop)
    (unfinished : loop.Unfinished) {process : Process} (inFlight : process ∈ loop.pairs)
    (finished : Bool) : Tracked round (loop.recordPoll process finished) where
  roundId := tracked.roundId
  id := tracked.id
  closed := tracked.closed
  guid := tracked.guid
  endpoints := tracked.endpoints
  distinct := tracked.distinct
  numbered := tracked.numbered
  pairs := tracked.pairs
  order := List.pairwise_cons.mpr
    ⟨fun earlier inside finished => (unfinished earlier inside finished).2 process inFlight,
      tracked.order⟩

theorem Tracked.remove {round : RoundState} {loop : Loop} (tracked : Tracked round loop)
    (index : Nat) (error : WirelessError) : Tracked round (loop.remove index error) :=
  ⟨tracked.roundId, tracked.id, tracked.closed, tracked.guid, tracked.endpoints, tracked.distinct,
    tracked.numbered, (List.eraseIdx_sublist _ _).trans tracked.pairs, tracked.order⟩

theorem Unfinished.recordPoll {loop : Loop} (unfinished : loop.Unfinished) (process : Process) :
    (loop.recordPoll process false).Unfinished := by
  intro entry inside finished
  rcases List.mem_cons.mp inside with rfl | before
  · cases finished
  · exact unfinished entry before finished

/-- A process that was reported finished is taken out. -/
theorem Unfinished.remove {round : RoundState} {loop : Loop} (unfinished : loop.Unfinished)
    (tracked : Tracked round loop) {index : Nat} {process : Process}
    (here : loop.pairs[index]? = some process) (error : WirelessError) :
    ((loop.recordPoll process true).remove index error).Unfinished := by
  intro entry inside finished
  rcases List.mem_cons.mp inside with rfl | before
  · exact ⟨tracked.number_lt (List.mem_of_getElem? here), fun other inFlight =>
      ne_of_mem_eraseIdx tracked.numbers_nodup here inFlight⟩
  · obtain ⟨below, gone⟩ := unfinished entry before finished
    exact ⟨below, fun other inFlight => gone other (List.mem_of_mem_eraseIdx inFlight)⟩

/-! ### Processes in flight and the end of a round -/

/-- What holds when the loop comes to look at what is in flight. -/
structure Ready (loop : Loop) : Prop where
  inFlight : loop.spawned ≠ [] → loop.round.pairInFlight = true
  explained : loop.spawned ≠ [] → loop.pairs = [] → loop.failure ≠ none
  timedOut : loop.pairTimedOut = true → loop.failure ≠ none
  lost : loop.serviceLost = true → loop.spawned ≠ []

/-- The phase fits the rest. -/
def Fits (loop : Loop) : Prop :=
  match loop.phase with
  | .polling index => index < loop.pairs.length
  | .spawning service _ => service.endpoint ∉ loop.spawned
  | .returned _ _ => False
  | _ => True

/-- A loop that has not returned. -/
structure Underway (loop : Loop) : Prop where
  ready : loop.Ready
  failing : loop.failure ≠ none → loop.pairs ≠ []
  fits : loop.Fits

/-- A loop that has returned: with a failure only when no process is in flight. -/
def Ended (loop : Loop) : Prop :=
  ∃ event result, loop.phase = .returned event result ∧ (event.isFailure = true → loop.pairs = [])

/-- Between any two steps. -/
def Sound (loop : Loop) : Prop := loop.Underway ∨ loop.Ended

theorem Underway.pairs_ne_nil {loop : Loop} (underway : loop.Underway)
    (spawned : loop.spawned ≠ []) : loop.pairs ≠ [] :=
  fun empty => underway.failing (underway.ready.explained spawned empty) empty

theorem Ready.of_goTo {loop : Loop} (ready : loop.Ready) (phase : Phase) :
    (loop.goTo phase).Ready :=
  ⟨ready.inFlight, ready.explained, ready.timedOut, ready.lost⟩

theorem Ready.idle {loop : Loop} (ready : loop.Ready) (unspawned : loop.spawned = []) :
    loop.idle.Ready :=
  ⟨fun spawned => absurd unspawned spawned, ready.explained, ready.timedOut, ready.lost⟩

theorem Ready.fail {loop : Loop} (ready : loop.Ready) (error : WirelessError) :
    (loop.fail error).Ready :=
  ⟨ready.inFlight, fun _ _ => by simp [Loop.fail], fun _ => by simp [Loop.fail], ready.lost⟩

theorem Ready.remove {loop : Loop} (ready : loop.Ready) (index : Nat) (error : WirelessError) :
    (loop.remove index error).Ready :=
  ⟨ready.inFlight, fun _ _ => by simp [Loop.remove], fun _ => by simp [Loop.remove], ready.lost⟩

theorem Ready.push {loop : Loop} (ready : loop.Ready) (endpoint : Text) (started : Nat) :
    (loop.push endpoint started).Ready :=
  ⟨fun _ => rfl, fun _ empty => by simp [Loop.push] at empty, ready.timedOut,
    fun _ => by simp [Loop.push]⟩

theorem Ready.recordPoll {loop : Loop} (ready : loop.Ready) (process : Process) (finished : Bool) :
    (loop.recordPoll process finished).Ready :=
  ⟨ready.inFlight, ready.explained, ready.timedOut, ready.lost⟩

/-- What a lost service changes. -/
structure Lost (loop other : Loop) : Prop where
  alike : loop.Alike other
  inFlight : other.round.pairInFlight = loop.round.pairInFlight
  pairTimedOut : other.pairTimedOut = loop.pairTimedOut
  serviceLost : other.serviceLost = true → loop.spawned ≠ []

theorem Ready.lose {loop : Loop} (ready : loop.Ready) : loop.Lost loop.lose := by
  unfold Loop.lose
  split
  · rename_i lost
    rcases loop.round.observeForRound_serviceLost loop.roundId (ready.inFlight lost.1) with
      ignored | waits
    · simp only [ignored]
      exact ⟨⟨rfl, rfl, rfl, rfl, rfl, rfl, rfl, rfl, rfl, rfl⟩, rfl, rfl, fun _ => lost.1⟩
    · simp only [waits]
      exact ⟨⟨rfl, rfl, rfl, rfl, rfl, rfl, rfl, rfl, rfl, rfl⟩, rfl, rfl, fun _ => lost.1⟩
  · exact ⟨.refl loop, rfl, rfl, ready.lost⟩

theorem Ready.of_lost {loop other : Loop} (ready : loop.Ready) (lost : loop.Lost other) :
    other.Ready where
  inFlight := by
    rw [lost.alike.spawned, lost.inFlight]
    exact ready.inFlight
  explained := by
    rw [lost.alike.spawned, lost.alike.pairs, lost.alike.failure]
    exact ready.explained
  timedOut := by
    rw [lost.pairTimedOut, lost.alike.failure]
    exact ready.timedOut
  lost := by
    rw [lost.alike.spawned]
    exact lost.serviceLost

theorem Sound.giveUp {loop : Loop} (first : WirelessError) (none : loop.pairs = []) :
    (loop.giveUp first).Sound :=
  .inr ⟨_, _, rfl, fun _ => none⟩

theorem Sound.pollFrom {loop : Loop} (ready : loop.Ready) (index : Nat) :
    (loop.pollFrom index).Sound := by
  unfold Loop.pollFrom
  split
  · rename_i inside
    have inFlight : loop.pairs ≠ [] := List.ne_nil_of_length_pos (Nat.zero_lt_of_lt inside)
    exact .inl ⟨ready.of_goTo _, fun _ => inFlight, inside⟩
  · unfold finishPolling
    split
    · rename_i gone
      split
      · exact .giveUp _ gone
      · rename_i blameless
        have unspawned : loop.spawned = [] := by
          by_contra spawned
          exact ready.explained spawned gone blameless
        exact .inl ⟨(ready.idle unspawned).of_goTo _, fun failing => absurd blameless failing, trivial⟩
    · rename_i inFlight
      exact .inl ⟨ready.of_goTo _, fun _ => inFlight, trivial⟩

theorem Sound.spawnNext {loop : Loop} (ready : loop.Ready)
    (failing : loop.failure ≠ none → loop.pairs ≠ []) (services : List MdnsService) :
    (loop.spawnNext services).Sound := by
  induction services with
  | nil => exact .pollFrom ready 0
  | cons service rest ih =>
      unfold Loop.spawnNext
      split
      · exact ih
      · rename_i fresh
        exact .inl ⟨ready.of_goTo _, failing, fresh⟩

theorem Underway.step {loop next : Loop} {input : Input} (underway : loop.Underway)
    (step : Step loop input next) : next.Sound := by
  have ready := underway.ready
  cases step with
  | cancel | expire now => exact .inr ⟨_, _, rfl, fun failed => by cases failed⟩
  | turn input phase plain =>
      refine .inl ⟨ready.of_goTo _, underway.failing, ?_⟩
      rcases plain with rfl | rfl <;> trivial
  | queryPostponed answer error failed inFlight => exact .pollFrom (ready.fail error) 0
  | queryFailed answer error phase failed gone => exact .giveUp _ gone
  | lose answer => exact .pollFrom (ready.of_lost ready.lose) 0
  | find answer services => exact .spawnNext ready underway.failing services
  | spawn service rest started phase =>
      exact .spawnNext (ready.push _ _) (fun _ => by simp [Loop.push]) rest
  | spawnPostponed failure inFlight => exact .pollFrom (ready.fail failure.error) 0
  | spawnFailed failure gone => exact .giveUp _ gone
  | wait index process report here => exact .pollFrom (ready.recordPoll process false) _
  | succeed index process report guid here judged =>
      exact .inr ⟨_, _, rfl, fun failed => by cases failed⟩
  | remove index process report error phase here judged =>
      exact .pollFrom ((ready.recordPoll process true).remove index error) index

theorem Tracked.step {round : RoundState} {loop next : Loop} {input : Input}
    (tracked : Tracked round loop) (underway : loop.Underway) (unfinished : loop.Unfinished)
    (step : Step loop input next) : Tracked round next := by
  cases step with
  | cancel | expire | turn => exact tracked.alike (loop.alike_goTo _)
  | queryPostponed answer error failed inFlight => exact (tracked.fail error).alike (alike_pollFrom _ 0)
  | queryFailed | spawnFailed => exact tracked.alike (loop.alike_giveUp _)
  | lose answer => exact (tracked.alike underway.ready.lose.alike).alike (alike_pollFrom _ 0)
  | find answer services => exact tracked.alike (loop.alike_spawnNext services)
  | spawn service rest started phase =>
      have fresh : service.endpoint ∉ loop.spawned := by
        simpa only [Fits, phase] using underway.fits
      exact (tracked.push fresh started).alike (alike_spawnNext _ rest)
  | spawnPostponed failure inFlight =>
      exact (tracked.fail failure.error).alike (alike_pollFrom _ 0)
  | wait index process report here =>
      exact (tracked.recordPoll unfinished (List.mem_of_getElem? here) false).alike
        (alike_pollFrom _ _)
  | succeed index process report guid here judged =>
      exact (tracked.recordPoll unfinished (List.mem_of_getElem? here) true).alike
        (alike_goTo _ _)
  | remove index process report error phase here judged =>
      have polled := tracked.recordPoll unfinished (List.mem_of_getElem? here) true
      exact (polled.remove index error).alike (alike_pollFrom _ _)

theorem Unfinished.step {round : RoundState} {loop next : Loop} {input : Input}
    (unfinished : loop.Unfinished) (tracked : Tracked round loop) (underway : loop.Underway)
    (step : Step loop input next) (going : next.phase.isReturned = false) : next.Unfinished := by
  cases step with
  | cancel | expire | turn => exact unfinished.alike (loop.alike_goTo _)
  | queryPostponed answer error failed inFlight =>
      have same : (loop.fail error).Unfinished := unfinished
      exact same.alike (alike_pollFrom _ 0)
  | queryFailed | spawnFailed => exact unfinished.alike (loop.alike_giveUp _)
  | lose answer => exact (unfinished.alike underway.ready.lose.alike).alike (alike_pollFrom _ 0)
  | find answer services => exact unfinished.alike (loop.alike_spawnNext services)
  | spawn service rest started phase =>
      exact (unfinished.push service.endpoint started).alike (alike_spawnNext _ rest)
  | spawnPostponed failure inFlight =>
      have same : (loop.fail failure.error).Unfinished := unfinished
      exact same.alike (alike_pollFrom _ 0)
  | wait index process report here =>
      exact (unfinished.recordPoll process).alike (alike_pollFrom _ _)
  | succeed => cases going
  | remove index process report error phase here judged =>
      exact (unfinished.remove tracked here error).alike (alike_pollFrom _ _)

/-! ### Runs of the loop -/

/-- What holds of a loop between any two steps of a round. -/
structure Held (round : RoundState) (loop : Loop) : Prop where
  sound : loop.Sound
  tracked : Tracked round loop
  unfinished : loop.phase.isReturned = false → loop.Unfinished

theorem Sound.start (secret : PairingSecret) (round : RoundState) (pairs : List Process)
    (now : Nat) : (Loop.start secret round pairs now).Sound :=
  .inl ⟨⟨fun spawned => absurd rfl spawned, fun spawned => absurd rfl spawned,
    fun timedOut => (by cases timedOut), fun lost => (by cases lost)⟩,
    fun failing => absurd rfl failing, trivial⟩

theorem Held.start (secret : PairingSecret) (round : RoundState) (now : Nat) :
    Held round (Loop.start secret round [] now) where
  sound := .start secret round [] now
  tracked := ⟨rfl, rfl, rfl, rfl, rfl, List.nodup_nil, rfl, List.Sublist.refl _, List.Pairwise.nil⟩
  unfinished := fun _ _ inside => by cases inside

theorem Sound.underway {loop next : Loop} {input : Input} (sound : loop.Sound)
    (stepped : loop.advance input = some next) :
    loop.Underway ∧ loop.phase.isReturned = false := by
  rcases sound with underway | ⟨event, result, phase, -⟩
  · refine ⟨underway, ?_⟩
    have fits := underway.fits
    unfold Fits at fits
    split at fits <;> simp_all [Phase.isReturned]
  · rw [advance_of_returned (by rw [phase]; rfl)] at stepped
    cases stepped

theorem Held.step {round : RoundState} {loop next : Loop} {input : Input} (held : Held round loop)
    (stepped : loop.advance input = some next) : Held round next := by
  obtain ⟨underway, going⟩ := held.sound.underway stepped
  have unfinished := held.unfinished going
  have step := Step.of_advance stepped
  exact ⟨underway.step step, held.tracked.step underway unfinished step,
    unfinished.step held.tracked underway step⟩

/-- What a round promises, whatever its environment does. -/
structure Behaved (round : RoundState) (loop : Loop) : Prop where
  /-- It ends in a failure only when no process is in flight. -/
  ending : ∀ event result, loop.phase = .returned event result → event.isFailure = true →
    loop.pairs = []
  /-- No endpoint has two processes. -/
  distinct : (loop.started.map Process.endpoint).Nodup
  /-- The round is not closed in the loop. -/
  stays : loop.round.closed = round.closed ∧ loop.round.id = round.id
  /-- Services that are gone while a process is in flight are noted, and no more. -/
  vanished : ∀ answer found, loop.phase = .querying → adbMdnsServices answer = .ok found →
    findPairingServices found loop.secret.serviceName = [] → loop.pairs ≠ [] →
    ∃ next, loop.advance (.answered answer) = some next ∧ next.phase = .polling 0 ∧
      next.pairs = loop.pairs ∧ next.round.closed = loop.round.closed ∧ next.serviceLost = true ∧
      (loop.serviceLost = false → loop.round.closed = false →
        next.round.serviceLostPending = true)
  /-- A process that exits with a GUID ends the round well. -/
  success : ∀ index process report output guid, loop.phase = .polling index →
    loop.pairs[index]? = some process → process.poll report = .ok (some output) →
    output.status = 0 → findGuid output.stdout = some guid →
    ∃ next, loop.advance (.child report) = some next ∧
      next.phase = .returned (.pairSucceeded guid) (.ok guid)
  /-- No process is polled after it was reported finished. -/
  once : loop.polls.Pairwise fun later earlier => earlier.2 = true → later.1 ≠ earlier.1

theorem advance_of_vanished {loop : Loop} {answer : Except AdbFailure (Output (List MdnsService))}
    {found : List MdnsService} (phase : loop.phase = .querying)
    (answered : adbMdnsServices answer = .ok found)
    (gone : findPairingServices found loop.secret.serviceName = []) :
    loop.advance (.answered answer) = some (loop.lose.pollFrom 0) := by
  simp only [Loop.advance, phase, answered, gone]

theorem advance_of_success {loop : Loop} {index : Nat} {process : Process} {report : ChildReport}
    {output : Output Text} {guid : Text} (phase : loop.phase = .polling index)
    (here : loop.pairs[index]? = some process) (polled : process.poll report = .ok (some output))
    (status : output.status = 0) (found : findGuid output.stdout = some guid) :
    loop.advance (.child report) =
      some ((loop.recordPoll process true).goTo (.returned (.pairSucceeded guid) (.ok guid))) := by
  simp only [Loop.advance, phase, here, polled, judge, status, found, if_true]

theorem serviceLost_lose {loop : Loop} (spawned : loop.spawned ≠ []) :
    loop.lose.serviceLost = true := by
  unfold Loop.lose
  split
  · rfl
  · rename_i known
    simpa [spawned] using known

theorem pending_lose {loop : Loop} (spawned : loop.spawned ≠ []) (known : loop.serviceLost = false)
    (current : loop.roundId = loop.round.id) (isOpen : loop.round.closed = false)
    (inFlight : loop.round.pairInFlight = true) : loop.lose.round.serviceLostPending = true := by
  simp [Loop.lose, spawned, known, RoundState.observeForRound, RoundState.observe, current, isOpen,
    inFlight]

theorem Tracked.spawned_ne_nil {round : RoundState} {loop : Loop} (tracked : Tracked round loop)
    (inFlight : loop.pairs ≠ []) : loop.spawned ≠ [] := by
  intro none
  have unstarted : loop.started = [] := by
    rw [← tracked.endpoints] at none
    exact List.map_eq_nil_iff.mp none
  have left := tracked.pairs
  rw [unstarted] at left
  exact inFlight (List.sublist_nil.mp left)

theorem Held.behaved {round : RoundState} {loop : Loop} (held : Held round loop) :
    Behaved round loop where
  ending := by
    intro event result phase failed
    rcases held.sound with underway | ⟨event', result', phase', ending⟩
    · have fits := underway.fits
      simp only [Fits, phase] at fits
    · rw [phase] at phase'
      cases phase'
      exact ending failed
  distinct := by
    rw [held.tracked.endpoints]
    exact held.tracked.distinct
  stays := ⟨held.tracked.closed, held.tracked.id⟩
  vanished := by
    intro answer found phase answered gone inFlight
    have stepped := advance_of_vanished phase answered gone
    obtain ⟨underway, -⟩ := held.sound.underway stepped
    have lost := underway.ready.lose
    have left : 0 < loop.lose.pairs.length := by
      rw [lost.alike.pairs]
      exact List.length_pos_iff.mpr inFlight
    have spawned := held.tracked.spawned_ne_nil inFlight
    refine ⟨_, stepped, ?_⟩
    rw [pollFrom, if_pos left]
    refine ⟨rfl, lost.alike.pairs, lost.alike.closed, serviceLost_lose spawned, fun known isOpen => ?_⟩
    exact pending_lose spawned known (held.tracked.roundId.trans held.tracked.id.symm) isOpen
      (underway.ready.inFlight spawned)
  success := by
    intro index process report output guid phase here polled status found
    exact ⟨_, advance_of_success phase here polled status found, rfl⟩
  once := held.tracked.order

theorem pairingRound_behaved (secret : PairingSecret) (round : RoundState) (now : Nat)
    (inputs : List Input) (loop : Loop)
    (ran : Machine.run Loop.advance (Loop.start secret round [] now) inputs = some loop) :
    Behaved round loop :=
  (Machine.run_preserves (fun _ _ _ held stepped => Held.step held stepped)
    (Held.start secret round now) ran).behaved

/-- The secret of a round for the service `s`. -/
def sampleSecret : PairingSecret := ⟨['s'], ['p'], ['q']⟩

def samplePairing : MdnsService := ⟨['s'], pairingService, ['h'], 7⟩

/-- The service goes away while its process runs, and the process succeeds all the same. -/
def lostAndPaired : List Input :=
  [.cancelled false, .time 0, .answered (.ok ⟨0, [samplePairing], []⟩), .spawned (.ok 1),
    .child (.running 2 (.ok ())), .cancelled false, .time 3, .answered (.ok ⟨0, [], []⟩),
    .child (.exited (.ok ⟨0, "[guid=adb-X]".toList, []⟩))]

theorem pairingRound_behaved_lostAndPaired :
    ∃ loop, Machine.run Loop.advance (Loop.start sampleSecret (.new 1) [] 0) lostAndPaired =
      some loop ∧ loop.phase = .returned (.pairSucceeded "adb-X".toList) (.ok "adb-X".toList) ∧
      Behaved (.new 1) loop :=
  ⟨_, rfl, rfl, pairingRound_behaved sampleSecret (.new 1) 0 lostAndPaired _ rfl⟩

end Loop

end QuadControl.Android.Wireless
