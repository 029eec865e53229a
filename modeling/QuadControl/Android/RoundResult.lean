import QuadControl.Android.PairInFlight

/-! # The event and the error of a round

A round returns an event for its state and an error for its user. Both come from one
classification, in which a lost service outranks the timeout of a pair process, and that
outranks the failure that came first; but the first failure may be a query of services
that has timed out, whose error is that of a pair process's timeout.
-/

namespace QuadControl.Android.Wireless

open Lib

/-- An error that has no event of its own. -/
def WirelessError.isOther : WirelessError → Bool
  | .cancelled | .roundTimedOut | .serviceLost | .timedOut => false
  | _ => true

/-- The event and the result name the same cause. -/
structure SameCause (event : RoundEvent) (result : Except WirelessError Text) : Prop where
  succeeded : ∀ guid, event = .pairSucceeded guid ↔ result = .ok guid
  cancelled : event = .cancelled ↔ result = .error .cancelled
  timeout : event = .timeout ↔ result = .error .roundTimedOut
  serviceLost : event = .serviceLost ↔ result = .error .serviceLost
  pairTimedOut : event = .pairTimedOut ↔ result = .error .timedOut
  failed : event = .pairFailed ↔ ∃ error, result = .error error ∧ error.isOther = true

theorem sameCause_classify (serviceLost pairTimedOut : Bool) (first : WirelessError) :
    SameCause (classifyRoundFailure serviceLost pairTimedOut first).1
        (.error (classifyRoundFailure serviceLost pairTimedOut first).2) ↔
      serviceLost = true ∨ pairTimedOut = true ∨ first.isOther = true := by
  cases serviceLost with
  | true =>
      refine iff_of_true ?_ (.inl rfl)
      constructor <;> simp [classifyRoundFailure, WirelessError.isOther]
  | false =>
      cases pairTimedOut with
      | true =>
          refine iff_of_true ?_ (.inr (.inl rfl))
          constructor <;> simp [classifyRoundFailure, WirelessError.isOther]
      | false =>
          simp only [classifyRoundFailure, Bool.false_eq_true, if_false, false_or]
          constructor
          · intro same
            obtain ⟨error, first, other⟩ := same.failed.mp rfl
            cases first
            exact other
          · intro other
            constructor <;> cases first <;> simp_all [WirelessError.isOther]

namespace Loop

/-- No query that timed out is to blame for the end of the round: none ends it by itself,
    and where the last process fails otherwise than by its time, it was not the first
    failure, or something else outranks it. -/
def Attributable (loop : Loop) : Input → Prop
  | .answered (.error .timedOut) => loop.pairs ≠ []
  | .child report => ∀ process error, loop.pairs = [process] →
      judge loop.secret.password (process.poll report) = .failed error → error ≠ .timedOut →
      loop.failure = some .timedOut → loop.serviceLost = true ∨ loop.pairTimedOut = true
  | _ => True

/-- The first failure is one the round may be blamed on. -/
def Known (loop : Loop) : Prop :=
  ∀ error, loop.failure = some error → error = .timedOut ∨ error.isOther = true

theorem Known.alike {loop other : Loop} (known : loop.Known) (alike : loop.Alike other) :
    other.Known := by
  unfold Known
  rw [alike.failure]
  exact known

theorem Known.insert {loop other : Loop} {error : WirelessError} (known : loop.Known)
    (inserted : other.failure = some (loop.failure.getD error))
    (kind : error = .timedOut ∨ error.isOther = true) : other.Known := by
  intro first same
  rw [inserted] at same
  cases failure : loop.failure with
  | none =>
      rw [failure] at same
      cases same
      exact kind
  | some before =>
      rw [failure] at same
      cases same
      exact known before failure

theorem adbMdnsServices_error {answer : Except AdbFailure (Output (List MdnsService))}
    {error : WirelessError} (failed : adbMdnsServices answer = .error error) :
    answer = .error .timedOut ∧ error = .timedOut ∨
      answer ≠ .error .timedOut ∧ error.isOther = true := by
  unfold adbMdnsServices at failed
  split at failed
  · rename_i failure
    cases failed
    cases failure with
    | timedOut => exact .inl ⟨rfl, rfl⟩
    | notFound | io | outputTooLarge => exact .inr ⟨by simp, rfl⟩
  · split at failed
    · cases failed
      exact .inr ⟨by simp, rfl⟩
    · cases failed

theorem poll_error {process : Process} {report : ChildReport} {error : WirelessError}
    (polled : process.poll report = .error error) : error = .timedOut ∨ error.isOther = true := by
  unfold Process.poll at polled
  split at polled
  · cases polled
    exact .inr rfl
  · rename_i failure
    cases polled
    cases failure <;> exact .inr rfl
  · cases polled
  · split at polled
    · split at polled <;> cases polled
      · exact .inr rfl
      · exact .inl rfl
    · cases polled

theorem judge_failed {password : Text} {process : Process} {report : ChildReport}
    {error : WirelessError} (judged : judge password (process.poll report) = .failed error) :
    error = .timedOut ∨ error.isOther = true := by
  unfold judge at judged
  split at judged
  · cases judged
  · split at judged
    · split at judged
      · cases judged
      · cases judged
        exact .inr rfl
    · cases judged
      exact .inr rfl
  · rename_i polled
    cases judged
    exact poll_error polled

theorem Known.step {loop next : Loop} {input : Input} (known : loop.Known)
    (underway : loop.Underway) (step : Step loop input next) : next.Known := by
  cases step with
  | cancel | expire | turn => exact known.alike (loop.alike_goTo _)
  | queryPostponed answer error failed inFlight =>
      have kind := (adbMdnsServices_error failed).imp And.right And.right
      have failing : (loop.fail error).Known := known.insert rfl kind
      exact failing.alike (alike_pollFrom _ 0)
  | queryFailed | spawnFailed => exact known.alike (loop.alike_giveUp _)
  | lose answer => exact (known.alike underway.ready.lose.alike).alike (alike_pollFrom _ 0)
  | find answer services => exact known.alike (loop.alike_spawnNext services)
  | spawn service rest started phase =>
      have same : (loop.push service.endpoint started).Known := known
      exact same.alike (alike_spawnNext _ rest)
  | spawnPostponed failure inFlight =>
      have kind : failure.error.isOther = true := by cases failure <;> rfl
      have failing : (loop.fail failure.error).Known := known.insert rfl (.inr kind)
      exact failing.alike (alike_pollFrom _ 0)
  | wait index process report here =>
      have same : (loop.recordPoll process false).Known := known
      exact same.alike (alike_pollFrom _ _)
  | succeed index process report guid here judged =>
      have same : (loop.recordPoll process true).Known := known
      exact same.alike (alike_goTo _ _)
  | remove index process report error phase here judged =>
      have failing : ((loop.recordPoll process true).remove index error).Known :=
        known.insert rfl (judge_failed judged)
      exact failing.alike (alike_pollFrom _ _)

/-! ### Where a loop returns -/

theorem giveUp_returned {loop : Loop} {first : WirelessError} {event : RoundEvent}
    {result : Except WirelessError Text}
    (returned : (loop.giveUp first).phase = .returned event result) :
    SameCause event result ↔
      loop.serviceLost = true ∨ loop.pairTimedOut = true ∨ first.isOther = true := by
  obtain ⟨rfl, rfl⟩ := Phase.returned.inj returned
  exact sameCause_classify _ _ first

/-- A loop that goes on polling returns only when nothing is left, with what came first. -/
theorem pollFrom_returned {loop : Loop} {index : Nat} {event : RoundEvent}
    {result : Except WirelessError Text}
    (returned : (loop.pollFrom index).phase = .returned event result) :
    loop.pairs = [] ∧ ∃ first, loop.failure = some first ∧
      (SameCause event result ↔
        loop.serviceLost = true ∨ loop.pairTimedOut = true ∨ first.isOther = true) := by
  unfold pollFrom finishPolling at returned
  split at returned
  · cases returned
  · split at returned
    · rename_i gone
      split at returned
      · rename_i first failure
        exact ⟨gone, first, failure, giveUp_returned returned⟩
      · cases returned
    · cases returned

theorem spawnNext_returned {loop : Loop} {services : List MdnsService} {event : RoundEvent}
    {result : Except WirelessError Text}
    (returned : (loop.spawnNext services).phase = .returned event result) :
    loop.pairs = [] ∧ loop.failure ≠ none := by
  induction services with
  | nil =>
      obtain ⟨gone, first, failure, -⟩ := pollFrom_returned returned
      exact ⟨gone, by simp [failure]⟩
  | cons service rest ih =>
      unfold spawnNext at returned
      split at returned
      · exact ih returned
      · cases returned

/-- With no process in flight nothing has happened yet. -/
theorem Underway.blameless {loop : Loop} (underway : loop.Underway) (gone : loop.pairs = []) :
    loop.failure = none ∧ loop.serviceLost = false ∧ loop.pairTimedOut = false := by
  have failure : loop.failure = none := by
    by_contra failing
    exact underway.failing failing gone
  refine ⟨failure, ?_, ?_⟩
  · refine Bool.eq_false_iff.mpr fun lost => ?_
    exact underway.pairs_ne_nil (underway.ready.lost lost) gone
  · refine Bool.eq_false_iff.mpr fun timedOut => ?_
    exact underway.ready.timedOut timedOut failure

theorem eq_singleton_of_eraseIdx {α : Type} {list : List α} {index : Nat} {item : α}
    (here : list[index]? = some item) (gone : list.eraseIdx index = []) : list = [item] := by
  cases list with
  | nil => cases here
  | cons first rest =>
      cases index with
      | zero =>
          obtain rfl := Option.some.inj here
          obtain rfl : rest = [] := gone
          rfl
      | succ index => cases gone

/-- The end of the last process, in the terms of its classification. -/
theorem Known.attributable_remove {loop : Loop} {process : Process} {report : ChildReport}
    {error : WirelessError} (known : loop.Known) (only : loop.pairs = [process])
    (judged : judge loop.secret.password (process.poll report) = .failed error) :
    loop.Attributable (.child report) ↔
      loop.serviceLost = true ∨ (loop.pairTimedOut || error = .timedOut) = true ∨
        (loop.failure.getD error).isOther = true := by
  constructor
  · intro attributable
    by_cases own : error = .timedOut
    · exact .inr (.inl (by simp [own]))
    · cases failure : loop.failure with
      | none => exact .inr (.inr ((judge_failed judged).resolve_left own))
      | some first =>
          rcases known first failure with rfl | other
          · rcases attributable process error only judged own failure with lost | timedOut
            · exact .inl lost
            · exact .inr (.inl (by simp [timedOut]))
          · exact .inr (.inr other)
  · intro outranked other error' only' judged' own failure
    obtain rfl : process = other := by simpa [only] using only'
    obtain rfl : error = error' := Judgement.failed.inj (judged.symm.trans judged')
    simpa [own, failure, WirelessError.isOther] using outranked

/-- A step that returns names one cause just when the end can be attributed. -/
theorem Underway.sameCause_iff {loop next : Loop} {input : Input} {event : RoundEvent}
    {result : Except WirelessError Text} (underway : loop.Underway) (known : loop.Known)
    (step : Step loop input next) (returned : next.phase = .returned event result) :
    SameCause event result ↔ loop.Attributable input := by
  cases step with
  | cancel =>
      cases returned
      refine iff_of_true ?_ trivial
      constructor <;> simp [WirelessError.isOther]
  | expire now =>
      cases returned
      refine iff_of_true ?_ trivial
      constructor <;> simp [WirelessError.isOther]
  | turn input phase plain =>
      rcases plain with rfl | rfl <;> cases returned
  | queryPostponed answer error failed inFlight =>
      exact absurd (pollFrom_returned returned).1 inFlight
  | queryFailed answer error phase failed gone =>
      obtain ⟨failure, lost, timedOut⟩ := underway.blameless gone
      rw [giveUp_returned returned, lost, timedOut, failure]
      rcases adbMdnsServices_error failed with ⟨rfl, rfl⟩ | ⟨other, kind⟩
      · exact iff_of_false (by simp [WirelessError.isOther]) fun inFlight => inFlight gone
      · refine iff_of_true (.inr (.inr kind)) ?_
        unfold Attributable
        split
        · rename_i same
          exact absurd (Input.answered.inj same) other
        · trivial
        · trivial
  | lose answer =>
      have alike := underway.ready.lose.alike
      obtain ⟨gone, first, failure, -⟩ := pollFrom_returned returned
      rw [alike.pairs] at gone
      rw [alike.failure, (underway.blameless gone).1] at failure
      cases failure
  | find answer services =>
      obtain ⟨gone, failing⟩ := spawnNext_returned returned
      exact absurd (underway.blameless gone).1 failing
  | spawn service rest started phase =>
      have gone := (spawnNext_returned returned).1
      simp [Loop.push] at gone
  | spawnPostponed failure inFlight => exact absurd (pollFrom_returned returned).1 inFlight
  | spawnFailed failure gone =>
      obtain ⟨blameless, lost, timedOut⟩ := underway.blameless gone
      rw [giveUp_returned returned, blameless]
      refine iff_of_true (.inr (.inr ?_)) trivial
      cases failure <;> rfl
  | wait index process report here =>
      have gone : loop.pairs = [] := (pollFrom_returned returned).1
      simp [gone] at here
  | succeed index process report guid here judged =>
      cases returned
      refine iff_of_true ?_ ?_
      · constructor <;> simp
      · intro other error only failed
        obtain rfl : process = other := by
          simpa [only] using List.mem_of_getElem? here
        rw [judged] at failed
        cases failed
  | remove index process report error phase here judged =>
      obtain ⟨gone, first, failure, same⟩ := pollFrom_returned returned
      have only := eq_singleton_of_eraseIdx here gone
      obtain rfl := Option.some.inj failure
      rw [same, known.attributable_remove only judged]
      rfl

theorem known_of_run {secret : PairingSecret} {round : RoundState} {pairs : List Process}
    {now : Nat} {inputs : List Input} {loop : Loop}
    (ran : Machine.run Loop.advance (Loop.start secret round pairs now) inputs = some loop) :
    loop.Sound ∧ loop.Known := by
  have preserved : ∀ before input after, (before.Sound ∧ before.Known) →
      Loop.advance before input = some after → after.Sound ∧ after.Known := by
    intro before input after holds stepped
    obtain ⟨underway, -⟩ := holds.1.underway stepped
    have step := Step.of_advance stepped
    exact ⟨underway.step step, holds.2.step underway step⟩
  exact Machine.run_preserves preserved
    ⟨.start secret round pairs now, fun _ failed => by cases failed⟩ ran

/-- A round's event and its result name one cause, unless the error of a query that timed
    out is the one it ends with. -/
theorem pairingRound_sameCause_iff (secret : PairingSecret) (round : RoundState)
    (pairs : List Process) (now : Nat) (inputs : List Input) (loop : Loop) (input : Input)
    (next : Loop) (event : RoundEvent) (result : Except WirelessError Text)
    (ran : Machine.run Loop.advance (Loop.start secret round pairs now) inputs = some loop)
    (stepped : loop.advance input = some next) (returned : next.phase = .returned event result) :
    SameCause event result ↔ loop.Attributable input := by
  obtain ⟨sound, known⟩ := known_of_run ran
  obtain ⟨underway, -⟩ := sound.underway stepped
  exact underway.sameCause_iff known (Step.of_advance stepped) returned

/-- A query times out while a process is in flight, and then the process does. -/
def queryAndPairTimedOut : List Input :=
  [.cancelled false, .time 0, .answered (.ok ⟨0, [samplePairing], []⟩), .spawned (.ok 1),
    .child (.running 2 (.ok ())), .cancelled false, .time 3, .answered (.error .timedOut)]

theorem pairingRound_sameCause_iff_queryAndPairTimedOut :
    ∃ loop, Machine.run Loop.advance (Loop.start sampleSecret (.new 1) [] 0)
        queryAndPairTimedOut = some loop ∧
      (SameCause .pairTimedOut (.error .timedOut) ↔
        loop.Attributable (.child (.running (2 * commandTimeout) (.ok ())))) := by
  refine ⟨_, rfl, ?_⟩
  exact pairingRound_sameCause_iff sampleSecret (.new 1) [] 0 queryAndPairTimedOut _
    (.child (.running (2 * commandTimeout) (.ok ()))) _ _ _ rfl rfl rfl

/-- The first query times out: the event is that of a failed pairing, the error that of a
    pair process that timed out. -/
theorem pairingRound_mixes_timedOut_query :
    ∃ loop, Machine.run Loop.advance (Loop.start sampleSecret (.new 1) [] 0)
        [.cancelled false, .time 0, .answered (.error .timedOut)] = some loop ∧
      loop.phase = .returned .pairFailed (.error .timedOut) ∧
      ¬ SameCause .pairFailed (.error .timedOut) :=
  ⟨_, rfl, rfl, fun same => by cases same.pairTimedOut.mpr rfl⟩

end Loop

end QuadControl.Android.Wireless
