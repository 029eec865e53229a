import QuadControl.Process.RingBuffer
import QuadControl.Process.Terminate

/-! # A mirror that is waited for on the command line

`wait_or_stop_on_signal_with_stderr` polls the child until it exits or a signal is noticed, ends
it with the ladder of `terminate` in the latter case, waits for it, and joins the thread that
drains its standard error. Signals to the wrapper are counted by its handler, in eight bits.
-/

namespace QuadControl.Android.Interrupting

open Lib Lib.Utf8 Process Process.Terminate

/-- `STDERR_LIMIT`. -/
def stderrLimit : Nat := 64 * 1024

/-- What the loop sleeps between two polls, in milliseconds. -/
def nap : Nat := 25

inductive Stage where
  | polling
  | asking
  | napping
  | stopping
  | waiting
  | joining
  /-- With the code and the end of standard error, if no call failed. -/
  | returned (result : Option (Int × Text))
  deriving Repr, DecidableEq

structure State where
  /-- The child and its ladder, whose clock counts the code's own time from the first signal on. -/
  ladder : Ladder
  stage : Stage
  signals : Nat
  askedAt : Option Nat
  /-- The code of a child that has exited; it has none where a signal ended it. -/
  exit : Option (Option Int)
  stderr : RingBuffer
  /-- Whether the thread is still reading, and all it has read. -/
  draining : Bool
  drained : Bytes
  deriving Repr, DecidableEq

inductive Input where
  | tick
  | signal
  | exits (code : Option Int)
  | drains (data : Bytes)
  | closes
  | tryWait (fails : Bool)
  | wait (fails : Bool)
  | go
  deriving Repr, DecidableEq

/-- After the child was spawned and the handlers are installed. -/
def initial : State where
  ladder := ⟨.zero, .running, [], false, .start⟩
  stage := .polling
  signals := 0
  askedAt := none
  exit := none
  stderr := RingBuffer.new stderrLimit
  draining := true
  drained := []

namespace State

variable (state : State)

/-- `SIGNAL_COUNT`. -/
def signalCount : Nat := state.signals % 256

def signalRequested : Bool := state.signalCount ≠ 0

def signalEscalated : Bool := 1 < state.signalCount

def goto (stage : Stage) : State := { state with stage := stage }

def climb (ladder : Ladder) : State := { state with ladder := ladder }

/-- `signal_handler`. -/
def handle : State :=
  { state with
    signals := state.signals + 1
    askedAt := some (state.askedAt.getD state.ladder.clock.now)
    ladder := if state.askedAt = none
      then { state.ladder with clock := { state.ladder.clock with own := 0 } }
      else state.ladder }

/-- A step of `stop`. -/
def stop : Option State :=
  match state.ladder.point with
  | .start | .again | .asking _ =>
      (state.ladder.step (.escalated state.signalEscalated)).map state.climb
  | .sending _ | .waiting _ => (state.ladder.step .go).map state.climb
  | .returned true => some (state.goto .waiting)
  | .returned false => some (state.goto (.returned none))
  | .polling _ | .reaping => none

/-- `wait_or_stop_on_signal_with_stderr`, and what happens around it. -/
def step (lossy : Bytes → Text) : Input → Option State
  | .tick => (state.ladder.step .tick).map state.climb
  | .signal => some state.handle
  | .exits code =>
      (state.ladder.step .exits).map fun ladder =>
        { state with ladder := ladder, exit := some code }
  | .drains data =>
      if state.draining then
        some { state with stderr := state.stderr.push data, drained := state.drained ++ data }
      else none
  | .closes => if state.draining then some { state with draining := false } else none
  | .tryWait fails =>
      match state.stage with
      | .polling =>
          some (if fails then state.goto (.returned none)
            else if state.ladder.phase = .exited then
              (state.climb state.ladder.reap).goto .waiting
            else state.goto .asking)
      | .stopping => (state.ladder.step (.tryWait fails)).map state.climb
      | _ => none
  | .wait fails =>
      match state.stage with
      | .stopping => (state.ladder.step (.wait fails)).map state.climb
      | .waiting =>
          if state.ladder.phase = .reaped then some (state.goto .joining)
          else if fails then some (state.goto (.returned none))
          else if state.ladder.phase = .exited then
            some ((state.climb state.ladder.reap).goto .joining)
          else none
      | _ => none
  | .go =>
      match state.stage with
      | .asking =>
          some (if state.signalRequested then state.goto .stopping
            else { state with
              ladder := { state.ladder with clock := state.ladder.clock.sleep nap }
              stage := .napping })
      | .napping => if state.ladder.clock.sleeps then none else some (state.goto .polling)
      | .stopping => state.stop
      | .joining =>
          if state.draining then none
          else
            some (state.goto
              (.returned (some (state.exit.join.getD 1, lossy state.stderr.bytes))))
      | _ => none

end State

/-! ### When the ladder is climbed -/

/-- Nothing has been asked of the ladder. -/
def Stage.isLoop : Stage → Bool
  | .polling | .asking | .napping => true
  | _ => false

/-- The ladder was not climbed. -/
structure Untouched (ladder : Ladder) : Prop where
  sent : ladder.sent = []
  wakes : ladder.clock.wakeAt ≤ ladder.clock.now + nap
  point : ladder.point = .start ∨ ladder.point = .returned true

/-- What holds of the ladder, and of the signals that it is climbed for. -/
structure Asked (state : State) : Prop where
  orderly : state.ladder.Orderly
  ended : state.ladder.point = .returned true → state.ladder.phase = .reaped
  killed : state.ladder.point = .reaping → .kill ∈ state.ladder.sent.map Sent.signal
  timed : ∀ askedAt, state.askedAt = some askedAt → state.signals < 256 →
    state.ladder.Timed (askedAt + nap)
  unasked : state.askedAt = none → state.signals = 0 ∧ Untouched state.ladder
  asked : state.signals = 0 → state.askedAt = none
  urged : state.ladder.urged = true → 2 ≤ state.signals
  loop : state.stage.isLoop = true → state.ladder.point = .start
  stopping : state.stage = .stopping → state.askedAt ≠ none

variable {lossy : Bytes → Text} {state next : State} {ladder : Ladder}

theorem asked_initial : Asked initial where
  orderly := Ladder.orderly_start _ (by rintro ⟨⟩)
  ended := by rintro ⟨⟩
  killed := by rintro ⟨⟩
  timed _ asked := by cases asked
  unasked _ := ⟨rfl, rfl, Nat.zero_le _, .inl rfl⟩
  asked _ := rfl
  urged := by rintro ⟨⟩
  loop _ := rfl
  stopping := by rintro ⟨⟩

/-- A step of the ladder, or of its child. -/
theorem Asked.climb {input : Terminate.Input} (asked : Asked state)
    (turned : state.ladder.Turn input ladder)
    (unasked : state.askedAt = none → Untouched ladder)
    (urged : ladder.urged = true → 2 ≤ state.signals)
    (loop : state.stage.isLoop = true → ladder.point = .start) : Asked (state.climb ladder) where
  orderly := asked.orderly.turn turned
  ended := turned.reaped asked.ended
  killed := turned.killed asked.killed
  timed askedAt here few := (asked.timed askedAt here few).turn turned
  unasked none := ⟨(asked.unasked none).1, unasked none⟩
  asked := asked.asked
  urged := urged
  loop := loop
  stopping := asked.stopping

/-- A step of the ladder's own. -/
theorem Asked.climbs (asked : Asked state) (stopping : state.stage = .stopping)
    {input : Terminate.Input} (stepped : state.ladder.step input = some ladder)
    (escalated : input = .escalated true → 2 ≤ state.signals) : Asked (state.climb ladder) := by
  refine asked.climb (Ladder.turn_of_step stepped) ?_ ?_ ?_
  · intro none
    exact absurd none (asked.stopping stopping)
  · intro urged
    rcases (Ladder.turn_of_step stepped).escalated urged with before | answered
    · exact asked.urged before
    · exact escalated answered
  · intro looping
    rw [stopping] at looping
    cases looping

theorem Asked.goto (asked : Asked state) {stage : Stage}
    (loop : stage.isLoop = true → state.stage.isLoop = true)
    (stopping : stage = .stopping → state.askedAt ≠ none) : Asked (state.goto stage) where
  orderly := asked.orderly
  ended := asked.ended
  killed := asked.killed
  timed := asked.timed
  unasked := asked.unasked
  asked := asked.asked
  urged := asked.urged
  loop looping := asked.loop (loop looping)
  stopping := stopping

theorem Asked.handle (asked : Asked state) : Asked state.handle := by
  have more : ∀ {ladder : Ladder}, ladder.urged = state.ladder.urged → ladder.urged = true →
      2 ≤ state.signals + 1 :=
    fun same urged => Nat.le_succ_of_le (asked.urged (same.symm.trans urged))
  by_cases fresh : state.askedAt = none
  · obtain ⟨none, sent, wakes, point⟩ := asked.unasked fresh
    have same : state.handle =
        { state with
          signals := state.signals + 1
          askedAt := some state.ladder.clock.now
          ladder := { state.ladder with clock := { state.ladder.clock with own := 0 } } } := by
      rw [State.handle, fresh]
      rfl
    rw [same]
    refine ⟨?_, asked.ended, asked.killed, ?_, by rintro ⟨⟩, nofun, more rfl, asked.loop, fun _ => nofun⟩
    · refine asked.orderly.rests rfl id (List.Sublist.refl _) asked.orderly.live
        fun _ waited => ?_
      cases here : state.ladder.point <;> rw [here] at waited <;> exact waited
    · rintro askedAt here -
      obtain rfl := Option.some.inj here
      refine ⟨?_, ?_⟩
      · rcases point with here | here <;> rw [here]
        · exact ⟨Nat.le_add_right .., wakes⟩
        · trivial
      · intro sent' inside
        rw [sent] at inside
        cases inside
  · obtain ⟨askedAt, here⟩ := Option.ne_none_iff_exists'.mp fresh
    have same : state.handle = { state with signals := state.signals + 1 } := by
      rw [State.handle, here]
      rfl
    rw [same]
    refine ⟨asked.orderly, asked.ended, asked.killed, fun askedAt here few => ?_, fun none => absurd none fresh,
      nofun, more rfl, asked.loop, asked.stopping⟩
    exact asked.timed askedAt here (Nat.lt_of_succ_lt few)

/-- Time passes, or the child exits. -/
theorem Untouched.tick (untouched : Untouched ladder) :
    Untouched { ladder with clock := ladder.clock.tick } :=
  ⟨untouched.sent, untouched.wakes.trans (Nat.add_le_add_right (Nat.le_succ _) _), untouched.point⟩

theorem Asked.tick (asked : Asked state) :
    Asked (state.climb { state.ladder with clock := state.ladder.clock.tick }) :=
  asked.climb .tick (fun none => (asked.unasked none).2.tick) asked.urged asked.loop

theorem Asked.exits (asked : Asked state) (running : state.ladder.phase = .running)
    (code : Option Int) :
    Asked { state with ladder := { state.ladder with phase := .exited }, exit := some code } := by
  have climbed := asked.climb (.exit running)
    (fun none => ⟨(asked.unasked none).2.sent, (asked.unasked none).2.wakes,
      (asked.unasked none).2.point⟩) asked.urged asked.loop
  exact ⟨climbed.orderly, climbed.ended, climbed.killed, climbed.timed, climbed.unasked, climbed.asked,
    climbed.urged, climbed.loop, climbed.stopping⟩

/-- The child is found to have exited. -/
theorem Asked.reap (asked : Asked state) {stage : Stage} (loop : stage.isLoop = false)
    (other : stage ≠ .stopping) : Asked ((state.climb state.ladder.reap).goto stage) where
  orderly := asked.orderly.rests rfl id (Point.past_sublist _) (fun _ => rfl)
    fun _ _ => trivial
  ended _ := rfl
  killed := by rintro ⟨⟩
  timed askedAt here few := (asked.timed askedAt here few).onward rfl rfl trivial
  unasked none :=
    have before := (asked.unasked none).2
    ⟨(asked.unasked none).1, before.sent, before.wakes, .inr rfl⟩
  asked := asked.asked
  urged := asked.urged
  loop looping := by cases loop.symm.trans looping
  stopping stopping := absurd stopping other

/-- No signal has been noticed, and the loop sleeps. -/
theorem Asked.naps (asked : Asked state) (here : state.stage = .asking)
    (calm : state.signalRequested = false) :
    Asked { state with
      ladder := { state.ladder with clock := state.ladder.clock.sleep nap }
      stage := .napping } := by
  have start : state.ladder.point = .start := asked.loop (by rw [here]; rfl)
  refine ⟨?_, asked.ended, asked.killed, ?_, ?_, asked.asked, asked.urged, fun _ => start, by rintro ⟨⟩⟩
  · refine asked.orderly.rests rfl id (List.Sublist.refl _) asked.orderly.live fun _ waited => ?_
    rw [start] at waited ⊢
    exact waited
  · intro askedAt asked' few
    have none : state.signals = 0 := by
      have count : state.signalCount = 0 := of_decide_eq_false calm |> Decidable.not_not.mp
      rwa [State.signalCount, Nat.mod_eq_of_lt few] at count
    cases (asked.asked none).symm.trans asked'
  · intro none
    have before := (asked.unasked none).2
    exact ⟨(asked.unasked none).1, before.sent, le_rfl, before.point⟩

theorem two_le_of_escalated (escalated : state.signalEscalated = true) : 2 ≤ state.signals := by
  have count : 1 < state.signals % 256 := of_decide_eq_true escalated
  exact count.trans_le (Nat.mod_le _ _)

theorem Asked.stop (asked : Asked state) (here : state.stage = .stopping)
    (stopped : state.stop = some next) : Asked next := by
  unfold State.stop at stopped
  split at stopped
  case h_1 | h_2 | h_3 =>
    obtain ⟨ladder, climbed, rfl⟩ := Option.map_eq_some_iff.mp stopped
    exact asked.climbs here climbed fun same =>
      two_le_of_escalated (Terminate.Input.escalated.inj same)
  case h_4 | h_5 =>
    obtain ⟨ladder, climbed, rfl⟩ := Option.map_eq_some_iff.mp stopped
    exact asked.climbs here climbed (by rintro ⟨⟩)
  case h_6 =>
    obtain rfl := Option.some.inj stopped
    exact asked.goto (by rintro ⟨⟩) (by rintro ⟨⟩)
  case h_7 =>
    obtain rfl := Option.some.inj stopped
    exact asked.goto (by rintro ⟨⟩) (by rintro ⟨⟩)
  case h_8 | h_9 => cases stopped

theorem Asked.step {input : Input} (asked : Asked state)
    (stepped : state.step lossy input = some next) : Asked next := by
  cases input with
  | tick =>
      obtain rfl := Option.some.inj stepped
      exact asked.tick
  | signal =>
      obtain rfl := Option.some.inj stepped
      exact asked.handle
  | exits code =>
      obtain ⟨ladder, exited, rfl⟩ := Option.map_eq_some_iff.mp stepped
      obtain ⟨running, same⟩ := Option.ite_none_right_eq_some.mp exited
      obtain rfl := Option.some.inj same
      exact asked.exits running code
  | drains data =>
      obtain ⟨-, same⟩ := Option.ite_none_right_eq_some.mp stepped
      obtain rfl := Option.some.inj same
      exact ⟨asked.orderly, asked.ended, asked.killed, asked.timed, asked.unasked, asked.asked, asked.urged,
        asked.loop, asked.stopping⟩
  | closes =>
      obtain ⟨-, same⟩ := Option.ite_none_right_eq_some.mp stepped
      obtain rfl := Option.some.inj same
      exact ⟨asked.orderly, asked.ended, asked.killed, asked.timed, asked.unasked, asked.asked, asked.urged,
        asked.loop, asked.stopping⟩
  | tryWait fails =>
      rw [State.step] at stepped
      split at stepped
      case h_1 here =>
        obtain rfl := Option.some.inj stepped
        have looping : state.stage.isLoop = true := by rw [here]; rfl
        split
        · exact asked.goto (by rintro ⟨⟩) (by rintro ⟨⟩)
        · split
          · exact asked.reap rfl (by rintro ⟨⟩)
          · exact asked.goto (fun _ => looping) (by rintro ⟨⟩)
      case h_2 here =>
        obtain ⟨ladder, climbed, rfl⟩ := Option.map_eq_some_iff.mp stepped
        exact asked.climbs here climbed (by rintro ⟨⟩)
      case h_3 => cases stepped
  | wait fails =>
      rw [State.step] at stepped
      split at stepped
      case h_1 here =>
        obtain ⟨ladder, climbed, rfl⟩ := Option.map_eq_some_iff.mp stepped
        exact asked.climbs here climbed (by rintro ⟨⟩)
      case h_2 here =>
        split at stepped
        · obtain rfl := Option.some.inj stepped
          exact asked.goto (by rintro ⟨⟩) (by rintro ⟨⟩)
        · split at stepped
          · obtain rfl := Option.some.inj stepped
            exact asked.goto (by rintro ⟨⟩) (by rintro ⟨⟩)
          · obtain ⟨-, same⟩ := Option.ite_none_right_eq_some.mp stepped
            obtain rfl := Option.some.inj same
            exact asked.reap rfl (by rintro ⟨⟩)
      case h_3 => cases stepped
  | go =>
      rw [State.step] at stepped
      split at stepped
      case h_1 here =>
        obtain rfl := Option.some.inj stepped
        split
        case isTrue requested =>
          refine asked.goto (by rintro ⟨⟩) fun _ none => ?_
          have zero : state.signals = 0 := (asked.unasked none).1
          have some : state.signals % 256 ≠ 0 := of_decide_eq_true requested
          exact some (by rw [zero])
        case isFalse calm => exact asked.naps here (Bool.eq_false_iff.mpr calm)
      case h_2 here =>
        obtain ⟨-, same⟩ := Option.ite_none_left_eq_some.mp stepped
        obtain rfl := Option.some.inj same
        exact asked.goto (fun _ => by rw [here]; rfl) (by rintro ⟨⟩)
      case h_3 here => exact asked.stop here stepped
      case h_4 here =>
        obtain ⟨-, same⟩ := Option.ite_none_left_eq_some.mp stepped
        obtain rfl := Option.some.inj same
        exact asked.goto (by rintro ⟨⟩) (by rintro ⟨⟩)
      case h_5 => cases stepped

/-! ### What is returned -/

/-- The child has been reaped. -/
def Stage.isReaped : Stage → Bool
  | .waiting | .joining | .returned (some _) => true
  | _ => false

/-- What is known of the child: how it exited, and what it wrote. -/
structure Known (lossy : Bytes → Text) (state : State) : Prop where
  exit : state.ladder.phase ≠ .running → state.exit ≠ none
  reaped : state.stage.isReaped = true → state.ladder.phase = .reaped
  stderr : state.stderr.Holds stderrLimit state.drained
  returned : ∀ code tail, state.stage = .returned (some (code, tail)) →
    state.draining = false ∧ code = state.exit.join.getD 1 ∧
      tail = lossy (state.drained.rtake stderrLimit)

theorem known_initial : Known lossy initial where
  exit running := absurd rfl running
  reaped := by rintro ⟨⟩
  stderr := RingBuffer.holds_new (by decide)
  returned _ _ := by rintro ⟨⟩

theorem Known.climb {input : Terminate.Input} (known : Known lossy state)
    (turned : state.ladder.Turn input ladder) (own : input ≠ .exits)
    (kept : state.stage.isReaped = true → ladder.phase = state.ladder.phase) :
    Known lossy (state.climb ladder) where
  exit ended := known.exit (turned.phase own ended)
  reaped reaped := (kept reaped).trans (known.reaped reaped)
  stderr := known.stderr
  returned := known.returned

theorem Known.climbs {input : Terminate.Input} (known : Known lossy state)
    (stopping : state.stage = .stopping) (stepped : state.ladder.step input = some ladder)
    (own : input ≠ .exits) : Known lossy (state.climb ladder) := by
  refine known.climb (Ladder.turn_of_step stepped) own fun reaped => ?_
  rw [stopping] at reaped
  cases reaped

theorem Known.goto (known : Known lossy state) {stage : Stage}
    (reaped : stage.isReaped = true → state.ladder.phase = .reaped)
    (unfinished : ∀ result, stage ≠ .returned (some result)) : Known lossy (state.goto stage) where
  exit := known.exit
  reaped := reaped
  stderr := known.stderr
  returned _ _ here := absurd here (unfinished _)

/-- The child is found to have exited. -/
theorem Known.reap (known : Known lossy state) (exited : state.ladder.phase = .exited)
    {stage : Stage} (unfinished : ∀ result, stage ≠ .returned (some result)) :
    Known lossy ((state.climb state.ladder.reap).goto stage) where
  exit _ := known.exit (by rw [exited]; rintro ⟨⟩)
  reaped _ := rfl
  stderr := known.stderr
  returned _ _ here := absurd here (unfinished _)

theorem Known.stop (known : Known lossy state) (asked : Asked state)
    (here : state.stage = .stopping) (stopped : state.stop = some next) : Known lossy next := by
  unfold State.stop at stopped
  split at stopped
  case h_1 | h_2 | h_3 | h_4 | h_5 =>
    obtain ⟨ladder, climbed, rfl⟩ := Option.map_eq_some_iff.mp stopped
    exact known.climbs here climbed (by rintro ⟨⟩)
  case h_6 ended =>
    obtain rfl := Option.some.inj stopped
    exact known.goto (fun _ => asked.ended ended) (by rintro _ ⟨⟩)
  case h_7 =>
    obtain rfl := Option.some.inj stopped
    exact known.goto (by rintro ⟨⟩) (by rintro _ ⟨⟩)
  case h_8 | h_9 => cases stopped

theorem Known.step {input : Input} (known : Known lossy state) (asked : Asked state)
    (stepped : state.step lossy input = some next) : Known lossy next := by
  cases input with
  | tick =>
      obtain rfl := Option.some.inj stepped
      exact known.climb .tick (by rintro ⟨⟩) fun _ => rfl
  | signal =>
      obtain rfl := Option.some.inj stepped
      have phase : state.handle.ladder.phase = state.ladder.phase := by
        unfold State.handle
        dsimp only
        split <;> rfl
      exact ⟨fun ended => known.exit (phase ▸ ended), fun reaped => phase.trans (known.reaped reaped),
        known.stderr, known.returned⟩
  | exits code =>
      obtain ⟨ladder, exited, rfl⟩ := Option.map_eq_some_iff.mp stepped
      obtain ⟨running, same⟩ := Option.ite_none_right_eq_some.mp exited
      obtain rfl := Option.some.inj same
      have unreaped : state.stage.isReaped = true → False := fun reaped => by
        cases running.symm.trans (known.reaped reaped)
      refine ⟨fun _ => nofun, fun reaped => (unreaped reaped).elim, known.stderr, ?_⟩
      intro code' tail here
      exact (unreaped (congrArg Stage.isReaped here)).elim
  | drains data =>
      obtain ⟨draining, same⟩ := Option.ite_none_right_eq_some.mp stepped
      obtain rfl := Option.some.inj same
      refine ⟨known.exit, known.reaped, known.stderr.push data, fun code tail here => ?_⟩
      cases draining.symm.trans (known.returned code tail here).1
  | closes =>
      obtain ⟨-, same⟩ := Option.ite_none_right_eq_some.mp stepped
      obtain rfl := Option.some.inj same
      exact ⟨known.exit, known.reaped, known.stderr,
        fun code tail here => ⟨rfl, (known.returned code tail here).2⟩⟩
  | tryWait fails =>
      rw [State.step] at stepped
      split at stepped
      case h_1 here =>
        obtain rfl := Option.some.inj stepped
        split
        · exact known.goto (by rintro ⟨⟩) (by rintro _ ⟨⟩)
        · split
          case isTrue exited => exact known.reap exited (by rintro _ ⟨⟩)
          case isFalse => exact known.goto (by rintro ⟨⟩) (by rintro _ ⟨⟩)
      case h_2 here =>
        obtain ⟨ladder, climbed, rfl⟩ := Option.map_eq_some_iff.mp stepped
        exact known.climbs here climbed (by rintro ⟨⟩)
      case h_3 => cases stepped
  | wait fails =>
      rw [State.step] at stepped
      split at stepped
      case h_1 here =>
        obtain ⟨ladder, climbed, rfl⟩ := Option.map_eq_some_iff.mp stepped
        exact known.climbs here climbed (by rintro ⟨⟩)
      case h_2 here =>
        split at stepped
        case isTrue reaped =>
          obtain rfl := Option.some.inj stepped
          exact known.goto (fun _ => reaped) (by rintro _ ⟨⟩)
        case isFalse =>
          split at stepped
          · obtain rfl := Option.some.inj stepped
            exact known.goto (by rintro ⟨⟩) (by rintro _ ⟨⟩)
          · obtain ⟨exited, same⟩ := Option.ite_none_right_eq_some.mp stepped
            obtain rfl := Option.some.inj same
            exact known.reap exited (by rintro _ ⟨⟩)
      case h_3 => cases stepped
  | go =>
      rw [State.step] at stepped
      split at stepped
      case h_1 here =>
        obtain rfl := Option.some.inj stepped
        split
        · exact known.goto (by rintro ⟨⟩) (by rintro _ ⟨⟩)
        · exact ⟨known.exit, by rintro ⟨⟩, known.stderr, by rintro _ _ ⟨⟩⟩
      case h_2 here =>
        obtain ⟨-, same⟩ := Option.ite_none_left_eq_some.mp stepped
        obtain rfl := Option.some.inj same
        exact known.goto (by rintro ⟨⟩) (by rintro _ ⟨⟩)
      case h_3 here => exact known.stop asked here stepped
      case h_4 here =>
        obtain ⟨closed, same⟩ := Option.ite_none_left_eq_some.mp stepped
        obtain rfl := Option.some.inj same
        have reaped : state.ladder.phase = .reaped := known.reaped (by rw [here]; rfl)
        refine ⟨known.exit, fun _ => reaped, known.stderr, fun code tail there => ?_⟩
        obtain ⟨rfl, rfl⟩ := Prod.mk.inj (Option.some.inj (Stage.returned.inj there))
        exact ⟨Bool.eq_false_iff.mpr closed, rfl, congrArg lossy known.stderr.tail⟩
      case h_5 => cases stepped

/-! ### All of it -/

/-- A step of the wrapper itself. -/
def Input.isOwn : Input → Bool
  | .tryWait _ | .wait _ | .go => true
  | _ => false

/-- What it waits for, without a limit, is a child that was killed, or the end of a pipe that
    others may hold open once the child is reaped. -/
def State.Blocked (state : State) : Prop :=
  state.ladder.phase = .running ∧ .kill ∈ state.ladder.sent.map Sent.signal ∨
    state.ladder.phase = .reaped ∧ state.draining = true

theorem progress (asked : Asked state) (known : Known lossy state)
    (unfinished : ∀ result, state.stage ≠ .returned result) (awake : state.ladder.clock.sleeps = false)
    (free : ¬ state.Blocked) :
    ∃ input next, input.isOwn = true ∧ state.step lossy input = some next := by
  cases here : state.stage with
  | polling => exact ⟨.tryWait false, _, rfl, by rw [State.step, here]⟩
  | asking => exact ⟨.go, _, rfl, by rw [State.step, here]⟩
  | napping => exact ⟨.go, _, rfl, by rw [State.step, here, awake]; rfl⟩
  | stopping =>
      cases point : state.ladder.point with
      | start | again =>
          exact ⟨.go, _, rfl, by
            simp only [State.step, here, State.stop, point, Ladder.step, awake]; rfl⟩
      | asking rung =>
          exact ⟨.go, _, rfl, by
            simp only [State.step, here, State.stop, point, Ladder.step, awake]; rfl⟩
      | sending signal =>
          exact ⟨.go, _, rfl, by
            simp only [State.step, here, State.stop, point, Ladder.step, awake]; rfl⟩
      | waiting rung =>
          exact ⟨.go, _, rfl, by
            simp only [State.step, here, State.stop, point, Ladder.step, awake]; rfl⟩
      | polling rung =>
          exact ⟨.tryWait false, _, rfl, by simp only [State.step, here, point, Ladder.step]; rfl⟩
      | reaping =>
          have exited : state.ladder.phase = .exited := by
            cases phase : state.ladder.phase with
            | running => exact absurd (.inl ⟨phase, asked.killed point⟩) free
            | exited => rfl
            | reaped => cases point.symm.trans (asked.orderly.live phase)
          exact ⟨.wait false, _, rfl, by
            simp only [State.step, here, point, Ladder.step, exited]; rfl⟩
      | returned ok =>
          cases ok <;> exact ⟨.go, _, rfl, by simp only [State.step, here, State.stop, point]; rfl⟩
  | waiting =>
      have reaped : state.ladder.phase = .reaped := known.reaped (by rw [here]; rfl)
      exact ⟨.wait false, _, rfl, by rw [State.step, here, reaped]; rfl⟩
  | joining =>
      have reaped : state.ladder.phase = .reaped := known.reaped (by rw [here]; rfl)
      have closed : state.draining = false :=
        Bool.eq_false_iff.mpr fun draining => free (.inr ⟨reaped, draining⟩)
      exact ⟨.go, _, rfl, by rw [State.step, here, closed]; rfl⟩
  | returned result => exact absurd here (unfinished result)

structure Sound (lossy : Bytes → Text) (state : State) : Prop where
  asked : Asked state
  known : Known lossy state

/-- What a user can rely on, whenever and however often they interrupt. -/
structure Interrupted (lossy : Bytes → Text) (state : State) : Prop where
  /-- Signals climb, and none is sent to a child that was reaped. -/
  climbs : (state.ladder.sent.map Sent.signal).Sublist [.kill, .terminate, .interrupt]
  unreaped : ∀ sent ∈ state.ladder.sent, sent.phase ≠ .reaped
  /-- None is sent unasked, and asked once, the child is given its time. -/
  silent : state.signals = 0 → state.ladder.sent = []
  patient : state.signals < 2 → Patient state.ladder.sent
  /-- Asked, it is in time, as long as the count does not come round. -/
  sent : ∀ askedAt, state.askedAt = some askedAt → state.signals < 256 →
    ∀ sent ∈ state.ladder.sent,
      sent.sentAt ≤ askedAt + nap + sent.signal.before + state.ladder.clock.own
  ended : ∀ askedAt, state.askedAt = some askedAt → state.signals < 256 → state.ladder.Climbing →
    state.ladder.clock.now ≤ askedAt + nap + Signal.kill.before + state.ladder.clock.own
  /-- It goes on, unless it sleeps or is blocked. -/
  goesOn : (∀ result, state.stage ≠ .returned result) → state.ladder.clock.sleeps = false →
    ¬ state.Blocked → ∃ input next, input.isOwn = true ∧ state.step lossy input = some next
  /-- The code is the child's, and the text the end of what it wrote. -/
  returned : ∀ code tail, state.stage = .returned (some (code, tail)) →
    state.ladder.phase = .reaped ∧ (∃ status, state.exit = some status ∧ code = status.getD 1) ∧
      tail = lossy (state.drained.rtake stderrLimit)

theorem interrupted {events : List Input} {final : State}
    (ran : Machine.run (fun state => state.step lossy) initial events = some final) :
    Interrupted lossy final := by
  obtain ⟨asked, known⟩ : Sound lossy final :=
    Machine.run_preserves
      (fun _ _ _ sound stepped => ⟨sound.asked.step stepped, sound.known.step sound.asked stepped⟩)
      ⟨asked_initial, known_initial⟩ ran
  have unurged : final.signals < 2 → final.ladder.urged = false := fun few =>
    Bool.eq_false_iff.mpr fun urged => absurd (asked.urged urged) (Nat.not_le.mpr few)
  exact {
    climbs := asked.orderly.climbs.trans (Point.past_sublist _)
    unreaped := asked.orderly.unreaped
    silent := fun none => (asked.unasked (asked.asked none)).2.sent
    patient := fun few => asked.orderly.patient (unurged few)
    sent := fun askedAt here few => (asked.timed askedAt here few).sent
    ended := fun askedAt here few => (asked.timed askedAt here few).now_le
    goesOn := progress asked known
    returned := fun code tail here => by
      have reaped : final.ladder.phase = .reaped := known.reaped (by rw [here]; rfl)
      obtain ⟨status, exited⟩ := Option.ne_none_iff_exists'.mp
        (known.exit (by rw [reaped]; rintro ⟨⟩))
      obtain ⟨-, same, last⟩ := known.returned code tail here
      rw [exited] at same
      exact ⟨reaped, ⟨status, exited, same⟩, last⟩ }

/-- A nap, a signal, and a child that ends when it is sent one on, not without a last word. -/
def once : List Input :=
  [Input.tryWait false, .go] ++ List.replicate 25 Input.tick ++ [Input.go, .signal, .tryWait false, .go, .go,
    .go, .go, .go, .exits (some 130), .tryWait false, .go, .drains (encode "bye".toList), .wait false,
    .closes, .go]

theorem interrupted_once :
    ∃ final, Machine.run (fun state => state.step fun bytes => (decode? bytes).getD []) initial once =
        some final ∧
      final.stage = .returned (some (130, "bye".toList)) ∧
      final.ladder.sent = [⟨.interrupt, 25, .running⟩] ∧ Patient final.ladder.sent := by
  have runs : ((Machine.run (fun state => state.step fun bytes => (decode? bytes).getD []) initial
      once).map fun final => (final.stage, final.ladder.sent, final.signals)) =
        some (.returned (some (130, "bye".toList)), [⟨.interrupt, 25, .running⟩], 1) := by
    decide +kernel
  obtain ⟨final, ran, same⟩ := Option.map_eq_some_iff.mp runs
  obtain ⟨stage, rest⟩ := Prod.mk.inj same
  obtain ⟨sent, signals⟩ := Prod.mk.inj rest
  exact ⟨final, ran, stage, sent, (interrupted ran).patient (by rw [signals]; decide)⟩

end QuadControl.Android.Interrupting
