import QuadControl.Android.PairQr
import QuadControl.Android.RoundResult

/-! # Cancellation of the `pair-qr` command

A wait of the command is cancelled by the token or by a signal. What follows the first
wait looks at the token only, so that after a signal alone the command goes on to its
fallback. There it connects, or fails for another reason, unless the token is tripped
before the service it has found is connected to.
-/

namespace QuadControl.Android.Wireless.PairQr

open Lib

/-- A wait that was cancelled. -/
def cancelledWait : Happening := .waited (.error .cancelled)

/-- Nothing is issued after a wait that was cancelled. -/
def Silent (history : List Happening) : Prop :=
  history.Pairwise fun later earlier => earlier = cancelledWait → ∀ command, later ≠ .issued command

/-- After a wait that was cancelled no command is issued, and the command returns that. -/
structure Final (state : PairQr) : Prop where
  silent : Silent state.history
  result : cancelledWait ∈ state.history →
    ∀ result, state.stage = .returned result → result = .error .cancelled

/-- In the fallback after a wait that was cancelled, the service is found, and the token is
    tripped before it is connected to. -/
def Heeded (state : PairQr) (input : Input) : Prop :=
  cancelledWait ∈ state.history →
    match state.stage, input with
    | .querying paired, .services answer =>
        match adbMdnsServices answer with
        | .error _ => False
        | .ok services => (connectServiceForGuid services paired.guid).isSome = true
    | .found _ _, .check => state.token = true
    | _, _ => True

/-- Where a command may stand after a wait that was cancelled. -/
inductive Stopping : Stage → Prop
  | waited (paired attempt) : Stopping (.waited paired attempt (.error .cancelled))
  | querying (paired) : Stopping (.querying paired)
  | found (paired service) : Stopping (.found paired service)
  | returned (result) : Stopping (.returned result)

/-- What a step adds to the history. -/
inductive Adds (state next : PairQr) : Prop
  | nothing (same : next.history = state.history)
  | wait (paired attempt outcome) (added : next.history = .waited outcome :: state.history)
      (stage : next.stage = .waited paired attempt outcome)
  | command (command) (added : next.history = .issued command :: state.history)
      (busy : (∃ loop, state.stage = .round loop) ∨
        ∃ paired service, state.stage = .found paired service ∧ state.token = false)

theorem Adds.of_advanceLoop {state next : PairQr} {loop : Loop} {input : Wireless.Input}
    (stage : state.stage = .round loop) (stepped : state.advanceLoop loop input = some next) :
    state.Adds next := by
  unfold advanceLoop at stepped
  split at stepped
  · obtain ⟨later, -, rfl⟩ := Option.map_eq_some_iff.mp stepped
    split
    · exact .command _ rfl (.inl ⟨loop, stage⟩)
    · exact .nothing rfl
  · cases stepped

theorem history_closeRound (state : PairQr) (loop : Loop) (reap : Process → Reaping)
    (event : RoundEvent) (outcome : Except WirelessError Text) :
    (state.closeRound loop reap event outcome).history = state.history := by
  unfold closeRound
  dsimp only
  split <;> rfl

theorem history_afterWait (state : PairQr) (paired : Paired) (attempt : Attempt)
    (outcome : Except WirelessError Text) :
    (state.afterWait paired attempt outcome).history = state.history := by
  unfold afterWait
  split
  · rfl
  · split <;> rfl
  · split <;> rfl

/-- A wait ends in its own step, a command is issued in the round or the fallback, and no
    other step adds to the history. -/
theorem Adds.of_advance {state next : PairQr} {input : Input}
    (stepped : state.advance input = some next) : state.Adds next := by
  unfold advance at stepped
  split at stepped
  case h_7 stage => exact .of_advanceLoop stage stepped
  case h_8 =>
    split at stepped
    · obtain rfl := Option.some.inj stepped
      exact .nothing (state.history_closeRound _ _ _ _)
    · cases stepped
  case h_11 | h_12 =>
    split at stepped
    · obtain rfl := Option.some.inj stepped
      first
      | exact .nothing rfl
      | exact .wait _ _ _ rfl rfl
    · obtain rfl := Option.some.inj stepped
      first
      | exact .nothing rfl
      | exact .wait _ _ _ rfl rfl
  case h_13 =>
    split at stepped
    · obtain rfl := Option.some.inj stepped
      exact .wait _ _ _ rfl rfl
    · obtain rfl := Option.some.inj stepped
      exact .wait _ _ _ rfl rfl
    · obtain rfl := Option.some.inj stepped
      exact .nothing rfl
  case h_14 =>
    obtain rfl := Option.some.inj stepped
    exact .nothing (state.history_afterWait _ _ _)
  case h_16 paired service stage =>
    split at stepped
    · obtain rfl := Option.some.inj stepped
      exact .nothing rfl
    · rename_i untripped
      obtain rfl := Option.some.inj stepped
      exact .command _ rfl (.inr ⟨paired, service, stage, Bool.eq_false_iff.mpr untripped⟩)
  case h_22 => cases stepped
  all_goals
    repeat' split at stepped
    all_goals
      obtain rfl := Option.some.inj stepped
      exact .nothing rfl

/-! ### What may follow -/

theorem silent_of_uncancelled {history : List Happening} (uncancelled : cancelledWait ∉ history) :
    Silent history := by
  apply List.pairwise_of_forall_mem_list
  intro later _ earlier inside same
  exact absurd (same ▸ inside) uncancelled

theorem Silent.wait {history : List Happening} (silent : Silent history)
    (outcome : Except WirelessError Text) : Silent (.waited outcome :: history) := by
  apply List.Pairwise.cons _ silent
  intro earlier _ _ command issued
  cases issued

theorem not_silent_command {history : List Happening} (cancelled : cancelledWait ∈ history)
    (command : Command) : ¬ Silent (.issued command :: history) := by
  intro silent
  exact (List.pairwise_cons.mp silent).1 _ cancelled rfl command rfl

theorem Final.of_uncancelled {state : PairQr} (uncancelled : cancelledWait ∉ state.history) :
    state.Final :=
  ⟨silent_of_uncancelled uncancelled, fun cancelled => absurd cancelled uncancelled⟩

/-- A step that adds nothing keeps the command final, if it does not return otherwise. -/
theorem Final.of_same {state next : PairQr} (final : state.Final)
    (same : next.history = state.history)
    (result : ∀ result, next.stage = .returned result → result = .error .cancelled) :
    next.Final := by
  constructor
  · rw [same]
    exact final.silent
  · intro _
    exact result

/-- The first wait that is cancelled is followed by nothing yet. -/
theorem Adds.of_uncancelled {state next : PairQr} (adds : state.Adds next)
    (uncancelled : cancelledWait ∉ state.history) :
    next.Final ∧ (cancelledWait ∈ next.history → Stopping next.stage) := by
  cases adds with
  | nothing same =>
      rw [← same] at uncancelled
      exact ⟨.of_uncancelled uncancelled, fun cancelled => absurd cancelled uncancelled⟩
  | wait paired attempt outcome added stage =>
      refine ⟨⟨?_, ?_⟩, ?_⟩
      · rw [added]
        exact (silent_of_uncancelled uncancelled).wait outcome
      · intro _ result returned
        rw [stage] at returned
        cases returned
      · intro cancelled
        rw [added] at cancelled
        rcases List.mem_cons.mp cancelled with own | before
        · obtain rfl := (Happening.waited.inj own).symm
          rw [stage]
          exact .waited paired attempt
        · exact absurd before uncancelled
  | command command added =>
      have still : cancelledWait ∉ next.history := by
        rw [added]
        intro cancelled
        rcases List.mem_cons.mp cancelled with own | before
        · cases own
        · exact uncancelled before
      exact ⟨.of_uncancelled still, fun cancelled => absurd cancelled still⟩

/-! ### After a wait was cancelled -/

/-- The token is tripped, or a signal comes. -/
structure Background (state next : PairQr) : Prop where
  stage : next.stage = state.stage
  history : next.history = state.history

/-- In a stage that takes one input only, a step is that input's, or in the background. -/
theorem advance_background {state next : PairQr} {input : Input}
    (stepped : state.advance input = some next) (background : input = .trip ∨ input = .signal) :
    Background state next := by
  rcases background with rfl | rfl
  all_goals
    simp only [advance] at stepped
    obtain rfl := Option.some.inj stepped
    exact ⟨rfl, rfl⟩

theorem advance_returned {state next : PairQr} {input : Input}
    {result : Except WirelessError (Text × Nat × CloseReason)}
    (stage : state.stage = .returned result) (stepped : state.advance input = some next) :
    input = .trip ∨ input = .signal := by
  cases input with
  | trip => exact .inl rfl
  | signal => exact .inr rfl
  | _ =>
      simp only [advance, stage] at stepped
      cases stepped

theorem advance_waited {state next : PairQr} {input : Input} {paired : Paired} {attempt : Attempt}
    {outcome : Except WirelessError Text} (stage : state.stage = .waited paired attempt outcome)
    (stepped : state.advance input = some next) :
    (input = .trip ∨ input = .signal) ∨
      input = .check ∧ next = state.afterWait paired attempt outcome := by
  cases input with
  | trip => exact .inl (.inl rfl)
  | signal => exact .inl (.inr rfl)
  | check =>
      simp only [advance, stage] at stepped
      exact .inr ⟨rfl, (Option.some.inj stepped).symm⟩
  | _ =>
      simp only [advance, stage] at stepped
      cases stepped

theorem advance_querying {state next : PairQr} {input : Input} {paired : Paired}
    (stage : state.stage = .querying paired) (stepped : state.advance input = some next) :
    (input = .trip ∨ input = .signal) ∨ ∃ answer, input = .services answer := by
  cases input with
  | trip => exact .inl (.inl rfl)
  | signal => exact .inl (.inr rfl)
  | services answer => exact .inr ⟨answer, rfl⟩
  | _ =>
      simp only [advance, stage] at stepped
      cases stepped

theorem advance_found {state next : PairQr} {input : Input} {paired : Paired}
    {service : MdnsService} (stage : state.stage = .found paired service)
    (stepped : state.advance input = some next) :
    (input = .trip ∨ input = .signal) ∨ input = .check := by
  cases input with
  | trip => exact .inl (.inl rfl)
  | signal => exact .inl (.inr rfl)
  | check => exact .inr rfl
  | _ =>
      simp only [advance, stage] at stepped
      cases stepped

/-- What is to be shown of a step after a wait that was cancelled. -/
structure Decided (state : PairQr) (input : Input) (next : PairQr) : Prop where
  final : next.Final ↔ state.Heeded input
  stopping : next.Final → Stopping next.stage

theorem Background.decided {state next : PairQr} {input : Input} (final : state.Final)
    (cancelled : cancelledWait ∈ state.history) (stopping : Stopping state.stage)
    (background : input = .trip ∨ input = .signal) (same : Background state next) :
    Decided state input next := by
  have kept : next.Final := by
    apply final.of_same same.history
    intro result returned
    rw [same.stage] at returned
    exact final.result cancelled result returned
  constructor
  · refine iff_of_true kept fun _ => ?_
    rcases background with rfl | rfl
    all_goals split <;> trivial
  · intro _
    rw [same.stage]
    exact stopping

theorem decided_waited {state next : PairQr} {input : Input} {paired : Paired} {attempt : Attempt}
    (final : state.Final)
    (stage : state.stage = .waited paired attempt (.error .cancelled))
    (checked : input = .check)
    (next_eq : next = state.afterWait paired attempt (.error .cancelled)) :
    Decided state input next := by
  subst checked next_eq
  have kept : (state.afterWait paired attempt (.error .cancelled)).Final ∧
      Stopping (state.afterWait paired attempt (.error .cancelled)).stage := by
    cases attempt with
    | first =>
        simp only [afterWait]
        split
        · exact ⟨final.of_same rfl fun result returned => (Stage.returned.inj returned).symm,
            .returned _⟩
        · exact ⟨final.of_same rfl (fun result returned => by cases returned), .querying _⟩
    | second =>
        simp only [afterWait]
        split
        · exact ⟨final.of_same rfl fun result returned => (Stage.returned.inj returned).symm,
            .returned _⟩
        · exact ⟨final.of_same rfl fun result returned => (Stage.returned.inj returned).symm,
            .returned _⟩
  constructor
  · refine iff_of_true kept.1 fun _ => ?_
    rw [stage]
    trivial
  · intro _
    exact kept.2

/-- A query that fails, or finds no service, makes the command return for another reason. -/
theorem decided_querying {state next : PairQr} {paired : Paired}
    {answer : Except AdbFailure (Output (List MdnsService))} (final : state.Final)
    (cancelled : cancelledWait ∈ state.history) (stage : state.stage = .querying paired)
    (stepped : state.advance (.services answer) = some next) :
    Decided state (.services answer) next := by
  simp only [advance, stage] at stepped
  split at stepped
  · rename_i error failed
    obtain rfl := Option.some.inj stepped
    have other : error ≠ .cancelled := by
      rintro rfl
      rcases Loop.adbMdnsServices_error failed with ⟨-, equal⟩ | ⟨-, kind⟩
      · cases equal
      · cases kind
    have broken : ¬ (state.fail error).Final := by
      intro after
      have same := after.result cancelled _ rfl
      exact other (Except.error.inj same)
    constructor
    · apply iff_of_false broken
      intro heeded
      have found := heeded cancelled
      simp only [stage, failed] at found
    · intro after
      exact absurd after broken
  · rename_i services listed
    split at stepped
    · rename_i missing
      obtain rfl := Option.some.inj stepped
      have broken : ¬ (state.fail .noMatchingService).Final := by
        intro after
        cases after.result cancelled _ rfl
      constructor
      · apply iff_of_false broken
        intro heeded
        have found := heeded cancelled
        simp [stage, listed, missing] at found
      · intro after
        exact absurd after broken
    · rename_i service found
      obtain rfl := Option.some.inj stepped
      constructor
      · refine iff_of_true (final.of_same rfl fun result returned => by cases returned) fun _ => ?_
        simp [stage, listed, found]
      · intro _
        exact .found paired service

/-- The service that was found is connected to, unless the token is tripped. -/
theorem decided_found {state next : PairQr} {paired : Paired} {service : MdnsService}
    (final : state.Final) (cancelled : cancelledWait ∈ state.history)
    (stage : state.stage = .found paired service)
    (stepped : state.advance .check = some next) : Decided state .check next := by
  simp only [advance, stage] at stepped
  split at stepped
  · rename_i tripped
    obtain rfl := Option.some.inj stepped
    constructor
    · refine iff_of_true (final.of_same rfl ?_) fun _ => ?_
      · intro result returned
        exact (Stage.returned.inj returned).symm
      · rw [stage]
        exact tripped
    · intro _
      exact .returned _
  · rename_i untripped
    obtain rfl := Option.some.inj stepped
    have broken : ¬ ((state.record (.issued (.connect service.endpoint))).goTo
        (.connecting paired)).Final := by
      intro after
      exact not_silent_command cancelled _ after.silent
    constructor
    · apply iff_of_false broken
      intro heeded
      have tripped := heeded cancelled
      rw [stage] at tripped
      exact untripped tripped
    · intro after
      exact absurd after broken

theorem Stopping.step {state next : PairQr} {input : Input} (stopping : Stopping state.stage)
    (final : state.Final) (cancelled : cancelledWait ∈ state.history)
    (stepped : state.advance input = some next) : Decided state input next := by
  have background := fun idle => (advance_background stepped idle).decided final cancelled stopping idle
  cases stage : state.stage with
  | returned result => exact background (advance_returned stage stepped)
  | waited paired attempt outcome =>
      rw [stage] at stopping
      cases stopping
      rcases advance_waited stage stepped with idle | ⟨checked, next_eq⟩
      · exact background idle
      · exact decided_waited final stage checked next_eq
  | querying paired =>
      rcases advance_querying stage stepped with idle | ⟨answer, rfl⟩
      · exact background idle
      · exact decided_querying final cancelled stage stepped
  | found paired service =>
      rcases advance_found stage stepped with idle | rfl
      · exact background idle
      · exact decided_found final cancelled stage stepped
  | _ =>
      rw [stage] at stopping
      cases stopping

/-! ### Runs -/

/-- As long as the command is final, it stands where it may. -/
def Placed (state : PairQr) : Prop :=
  state.Final → cancelledWait ∈ state.history → Stopping state.stage

theorem Final.before {state next : PairQr} {input : Input} (final : next.Final)
    (stepped : state.advance input = some next) : state.Final := by
  constructor
  · cases Adds.of_advance stepped with
    | nothing same => exact same ▸ final.silent
    | wait paired attempt outcome added => exact (List.pairwise_cons.mp (added ▸ final.silent)).2
    | command command added => exact (List.pairwise_cons.mp (added ▸ final.silent)).2
  · intro cancelled result returned
    have same := advance_background stepped (advance_returned returned stepped)
    apply final.result
    · rw [same.history]
      exact cancelled
    · rw [same.stage]
      exact returned

theorem Placed.step {state next : PairQr} {input : Input} (placed : state.Placed)
    (stepped : state.advance input = some next) : next.Placed := by
  intro final
  have before := final.before stepped
  by_cases cancelled : cancelledWait ∈ state.history
  · intro _
    exact ((placed before cancelled).step before cancelled stepped).stopping final
  · exact ((Adds.of_advance stepped).of_uncancelled cancelled).2

theorem final_iff_heeded {state next : PairQr} {input : Input} (placed : state.Placed)
    (final : state.Final) (stepped : state.advance input = some next) :
    next.Final ↔ state.Heeded input := by
  by_cases cancelled : cancelledWait ∈ state.history
  · exact ((placed final cancelled).step final cancelled stepped).final
  · apply iff_of_true ((Adds.of_advance stepped).of_uncancelled cancelled).1
    intro inside
    exact absurd inside cancelled

/-- Cancellation is final throughout a run just when every step of it heeds the waits that
    were cancelled. -/
theorem pairQr_final_iff (secret : PairingSecret) (token : Bool) (signals : Nat)
    (inputs : List Input) (state : PairQr)
    (ran : Machine.run PairQr.advance (start secret token signals) inputs = some state) :
    Machine.Throughout PairQr.advance Final (start secret token signals) inputs ↔
      Machine.Meets PairQr.advance Heeded (start secret token signals) inputs := by
  have uncancelled : cancelledWait ∉ (start secret token signals).history := List.not_mem_nil
  have placed : (start secret token signals).Placed := fun _ inside => absurd inside uncancelled
  exact Machine.run_throughout_iff (fun _ _ _ placed stepped => Placed.step placed stepped)
    (fun _ _ _ placed final stepped => final_iff_heeded placed final stepped) placed
    (.of_uncancelled uncancelled) ran

/-! ### Two runs -/

/-- The way of a command to its first wait. -/
def untilFirstWait : List Input :=
  [.checked (.ok ()), .rendered (.ok ['#']) 0, .loop (.cancelled false), .loop (.time 0),
    .loop (.answered (.ok ⟨0, [Loop.samplePairing], []⟩)), .loop (.spawned (.ok 1)),
    .loop (.child (.exited (.ok ⟨0, "[guid=adb-X]".toList, []⟩))), .reaped fun _ => .exited,
    .time 2, .entered 2 2, .time 2]

/-- What leads from a wait to a service that can be connected to. -/
def thenFallback : List Input :=
  [.check, .check, .services (.ok ⟨0, [⟨"adb-X".toList, connectService, ['h'], 9⟩], []⟩)]

/-- A signal, and then the token before the connection: the command ends as cancelled. -/
theorem pairQr_final_iff_signalThenToken :
    ∃ state, Machine.run PairQr.advance (start Loop.sampleSecret false 0)
        (untilFirstWait ++ [Input.signal] ++ thenFallback ++ [Input.trip, .check]) = some state ∧
      state.stage = .returned (.error .cancelled) ∧
      (Machine.Throughout PairQr.advance Final (start Loop.sampleSecret false 0)
        (untilFirstWait ++ [Input.signal] ++ thenFallback ++ [Input.trip, .check]) ↔
      Machine.Meets PairQr.advance Heeded (start Loop.sampleSecret false 0)
        (untilFirstWait ++ [Input.signal] ++ thenFallback ++ [Input.trip, .check])) :=
  ⟨_, rfl, rfl, pairQr_final_iff Loop.sampleSecret false 0 _ _ rfl⟩

/-- A signal alone: the first wait is cancelled, and the command connects to the device. -/
theorem pairQr_connects_after_cancelledWait :
    ∃ state, Machine.run PairQr.advance (start Loop.sampleSecret false 0)
        (untilFirstWait ++ [Input.signal] ++ thenFallback ++ [Input.check]) = some state ∧
      state.history = [.issued (.connect "h:9".toList), cancelledWait,
        .issued (.pair "h:7".toList)] ∧
      ¬ state.Final := by
  refine ⟨_, rfl, rfl, ?_⟩
  intro final
  exact not_silent_command (List.mem_cons_self) _ final.silent

end QuadControl.Android.Wireless.PairQr
