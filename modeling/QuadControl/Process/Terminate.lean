import QuadControl.Lib.Machine
import QuadControl.Lib.SleepClock
import QuadControl.Process.TerminateAll

/-! # The ladder that ends one child process

`terminate` on Unix signals the group of a child, polls the child, signals again, polls again,
kills, and waits for it. It asks `escalated` on the way and then climbs at once. The child exits
whenever it does, and time passes between any two steps.
-/

namespace QuadControl.Process

open Lib

/-! ### The rungs -/

/-- How long `wait_for` waits, in milliseconds. -/
def Rung.patience : Rung → Nat
  | .interrupt => 3000
  | .terminate => 2000

/-- What is sent when a rung's wait was in vain. -/
def Rung.next : Rung → Signal
  | .interrupt => .terminate
  | .terminate => .kill

/-- What `wait_for` sleeps between two polls. -/
def pause : Nat := 100

/-- The waits that can come before a signal, polls and sleeps included. -/
def Signal.before : Signal → Nat
  | .interrupt => 0
  | .terminate => Rung.interrupt.patience + pause
  | .kill => Rung.interrupt.patience + pause + (Rung.terminate.patience + pause)

/-- The waits before a rung, its own included. -/
def Rung.until (rung : Rung) : Nat := rung.signal.before + rung.patience + pause

theorem Rung.add_until (base : Nat) (rung : Rung) :
    base + rung.signal.before + rung.patience + pause = base + rung.until := by
  unfold Rung.until
  omega

@[simp] theorem Rung.before_next (rung : Rung) : rung.next.before = rung.until := by
  cases rung <;> rfl

/-- What can have been sent before a signal. -/
def Signal.past : Signal → List Signal
  | .interrupt => []
  | .terminate => [.interrupt]
  | .kill => [.terminate, .interrupt]

@[simp] theorem Rung.past_next (rung : Rung) :
    rung.next.past = rung.signal :: rung.signal.past := by
  cases rung <;> rfl

theorem Rung.next_injective {rung rung' : Rung} (same : rung.next = rung'.next) : rung = rung' := by
  cases rung <;> cases rung' <;> first | rfl | cases same

namespace Terminate

/-- Where it stands. -/
inductive Point where
  | start
  | sending (signal : Signal)
  -- Before the second question.
  | again
  -- `wait_for`: before the question whether time is left, the poll, and the last question.
  | waiting (rung : Rung)
  | polling (rung : Rung)
  | asking (rung : Rung)
  | reaping
  | returned (ok : Bool)
  deriving Repr, DecidableEq

/-- A signal that was sent, when, and what the child was then. -/
structure Sent where
  signal : Signal
  sentAt : Nat
  phase : Phase
  deriving Repr, DecidableEq

structure Ladder where
  clock : SleepClock
  phase : Phase
  /-- The latest first. -/
  sent : List Sent
  /-- `escalated` has answered so. -/
  urged : Bool
  point : Point
  deriving Repr, DecidableEq

inductive Input where
  | tick
  | exits
  | escalated (answer : Bool)
  | tryWait (fails : Bool)
  | wait (fails : Bool)
  | go
  deriving Repr, DecidableEq

namespace Ladder

variable (ladder : Ladder)

def goto (point : Point) : Ladder := { ladder with point := point }

/-- The child is reaped, and that was all. -/
def reap : Ladder := { ladder with phase := .reaped, point := .returned true }

def answered (answer : Bool) : Ladder := { ladder with urged := ladder.urged || answer }

/-- `wait_for` is called. -/
def await (rung : Rung) : Ladder := { ladder with clock := ladder.clock.start, point := .waiting rung }

def send (signal : Signal) : Ladder :=
  { ladder with sent := ⟨signal, ladder.clock.now, ladder.phase⟩ :: ladder.sent }

/-- What comes after a signal. -/
def proceed : Signal → Ladder
  | .interrupt => ladder.goto .again
  | .terminate => ladder.await .terminate
  | .kill => ladder.goto .reaping

/-- `terminate_impl` and `wait_for`; a step of theirs waits for a sleep to end. -/
def step : Input → Option Ladder
  | .tick => some { ladder with clock := ladder.clock.tick }
  | .exits => if ladder.phase = .running then some { ladder with phase := .exited } else none
  | .escalated answer =>
      if ladder.clock.sleeps then none
      else
        match ladder.point with
        | .start =>
            some ((ladder.answered answer).goto (if answer then .again else .sending .interrupt))
        | .again =>
            some (if answer then (ladder.answered answer).goto (.sending .terminate)
              else ladder.await .interrupt)
        | .asking rung =>
            some (if answer then (ladder.answered answer).goto (.sending rung.next)
              else { ladder with clock := ladder.clock.sleep pause, point := .waiting rung })
        | _ => none
  | .tryWait fails =>
      match ladder.point with
      | .polling rung =>
          some (if ¬ fails ∧ ladder.phase = .exited then ladder.reap else ladder.goto (.asking rung))
      | _ => none
  | .wait fails =>
      match ladder.point with
      | .reaping =>
          if fails then some (ladder.goto (.returned false))
          else if ladder.phase = .exited then some ladder.reap
          else none
      | _ => none
  | .go =>
      if ladder.clock.sleeps then none
      else
        match ladder.point with
        | .sending signal => some ((ladder.send signal).proceed signal)
        | .waiting rung =>
            some (ladder.goto (if ladder.clock.elapsed < rung.patience then .polling rung
              else .sending rung.next))
        | _ => none

/-! ### What a step does -/

/-- Everything a step can come to. -/
inductive Turn (ladder : Ladder) : Input → Ladder → Prop
  | tick : Turn ladder .tick { ladder with clock := ladder.clock.tick }
  | exit (running : ladder.phase = .running) : Turn ladder .exits { ladder with phase := .exited }
  | calm (here : ladder.point = .start) :
      Turn ladder (.escalated false) ((ladder.answered false).goto (.sending .interrupt))
  | urged (here : ladder.point = .start) :
      Turn ladder (.escalated true) ((ladder.answered true).goto .again)
  | await (here : ladder.point = .again) : Turn ladder (.escalated false) (ladder.await .interrupt)
  | skip (here : ladder.point = .again) :
      Turn ladder (.escalated true) ((ladder.answered true).goto (.sending .terminate))
  | poll {rung : Rung} (here : ladder.point = .waiting rung) (awake : ladder.clock.sleeps = false)
      (early : ladder.clock.elapsed < rung.patience) :
      Turn ladder .go (ladder.goto (.polling rung))
  | expire {rung : Rung} (here : ladder.point = .waiting rung)
      (late : rung.patience ≤ ladder.clock.elapsed) :
      Turn ladder .go (ladder.goto (.sending rung.next))
  | found {rung : Rung} {fails : Bool} (here : ladder.point = .polling rung)
      (exited : ladder.phase = .exited) : Turn ladder (.tryWait fails) ladder.reap
  | missed {rung : Rung} {fails : Bool} (here : ladder.point = .polling rung) :
      Turn ladder (.tryWait fails) (ladder.goto (.asking rung))
  | sleep {rung : Rung} (here : ladder.point = .asking rung) :
      Turn ladder (.escalated false)
        { ladder with clock := ladder.clock.sleep pause, point := .waiting rung }
  | climb {rung : Rung} (here : ladder.point = .asking rung) :
      Turn ladder (.escalated true) ((ladder.answered true).goto (.sending rung.next))
  | send {signal : Signal} (here : ladder.point = .sending signal) :
      Turn ladder .go ((ladder.send signal).proceed signal)
  | reap {fails : Bool} (here : ladder.point = .reaping) (exited : ladder.phase = .exited) :
      Turn ladder (.wait fails) ladder.reap
  | fail {fails : Bool} (here : ladder.point = .reaping) :
      Turn ladder (.wait fails) (ladder.goto (.returned false))

variable {ladder} {next : Ladder} {input : Input}

theorem turn_of_step (stepped : ladder.step input = some next) : ladder.Turn input next := by
  cases input with
  | tick =>
      obtain rfl := Option.some.inj stepped
      exact .tick
  | exits =>
      obtain ⟨running, same⟩ := Option.ite_none_right_eq_some.mp stepped
      obtain rfl := Option.some.inj same
      exact .exit running
  | escalated answer =>
      obtain ⟨awake, stepped⟩ := Option.ite_none_left_eq_some.mp stepped
      split at stepped
      case h_1 here =>
        obtain rfl := Option.some.inj stepped
        cases answer with
        | true => exact .urged here
        | false => exact .calm here
      case h_2 here =>
        obtain rfl := Option.some.inj stepped
        cases answer with
        | true => exact .skip here
        | false => exact .await here
      case h_3 here =>
        obtain rfl := Option.some.inj stepped
        cases answer with
        | true => exact .climb here
        | false => exact .sleep here
      case h_4 => cases stepped
  | tryWait fails =>
      rw [step] at stepped
      split at stepped
      case h_1 here =>
        obtain rfl := Option.some.inj stepped
        split
        case isTrue found => exact .found here found.2
        case isFalse => exact .missed here
      case h_2 => cases stepped
  | wait fails =>
      rw [step] at stepped
      split at stepped
      case h_1 here =>
        split at stepped
        · obtain rfl := Option.some.inj stepped
          exact .fail here
        · obtain ⟨exited, same⟩ := Option.ite_none_right_eq_some.mp stepped
          obtain rfl := Option.some.inj same
          exact .reap here exited
      case h_2 => cases stepped
  | go =>
      obtain ⟨awake, stepped⟩ := Option.ite_none_left_eq_some.mp stepped
      split at stepped
      case h_1 here =>
        obtain rfl := Option.some.inj stepped
        exact .send here
      case h_2 here =>
        obtain rfl := Option.some.inj stepped
        split
        case isTrue early => exact .poll here (Bool.eq_false_iff.mpr awake) early
        case isFalse late => exact .expire here (Nat.not_lt.mp late)
      case h_3 => cases stepped

theorem Turn.escalated (turned : ladder.Turn input next) (urged : next.urged = true) :
    ladder.urged = true ∨ input = .escalated true := by
  cases turned with
  | urged | skip | climb => exact .inr rfl
  | calm => exact .inl ((Bool.or_false _).symm.trans urged)
  | @send signal => cases signal <;> exact .inl urged
  | _ => exact .inl urged

/-- Only the child itself exits. -/
theorem Turn.phase (turned : ladder.Turn input next) (own : input ≠ .exits)
    (ended : next.phase ≠ .running) : ladder.phase ≠ .running := by
  cases turned with
  | exit => exact absurd rfl own
  | found here exited | reap here exited =>
      rw [exited]
      rintro ⟨⟩
  | @send signal => cases signal <;> exact ended
  | _ => exact ended

/-! ### The order of signals, and what is waited for -/

end Ladder

/-- Each signal but the first was sent a wait after the one before it. -/
inductive Patient : List Sent → Prop
  | nil : Patient []
  | first (sentAt : Nat) (phase : Phase) : Patient [⟨.interrupt, sentAt, phase⟩]
  | next {rung : Rung} {sentAt later : Nat} {phase : Phase} {past : List Sent} (now : Phase)
      (before : Patient (⟨rung.signal, sentAt, phase⟩ :: past))
      (waited : sentAt + rung.patience ≤ later) :
      Patient (⟨rung.next, later, now⟩ :: ⟨rung.signal, sentAt, phase⟩ :: past)

/-- What can have been sent when it stands there. -/
def Point.past : Point → List Signal
  | .start => []
  | .sending signal => signal.past
  | .again => [.interrupt]
  | .waiting rung | .polling rung | .asking rung => rung.signal :: rung.signal.past
  | .reaping | .returned _ => [.kill, .terminate, .interrupt]

theorem Point.past_sublist (point : Point) :
    point.past.Sublist [.kill, .terminate, .interrupt] := by
  cases point with
  | sending signal => cases signal <;> decide
  | waiting rung | polling rung | asking rung => cases rung <;> decide
  | start | again | reaping => decide
  | returned ok => exact List.Sublist.refl _

/-- The signal of a rung was the last one, at that time or before. -/
def LastBy (rung : Rung) (time : Nat) (sent : List Sent) : Prop :=
  ∃ sentAt phase past, sent = ⟨rung.signal, sentAt, phase⟩ :: past ∧ sentAt ≤ time

theorem LastBy.mono {rung : Rung} {time later : Nat} {sent : List Sent}
    (last : LastBy rung time sent) (more : time ≤ later) : LastBy rung later sent := by
  obtain ⟨sentAt, phase, past, same, before⟩ := last
  exact ⟨sentAt, phase, past, same, before.trans more⟩

namespace Ladder

variable (ladder : Ladder)

/-- What the place tells of the last signal, if nobody urged. -/
def Waited : Point → Prop
  | .start => ladder.sent = []
  | .sending signal =>
      (signal = .interrupt → ladder.sent = []) ∧ ∀ rung : Rung, signal = rung.next →
        ∃ sentAt, LastBy rung sentAt ladder.sent ∧ sentAt + rung.patience ≤ ladder.clock.now
  | .again => LastBy .interrupt ladder.clock.now ladder.sent
  | .waiting rung | .polling rung | .asking rung => LastBy rung ladder.clock.startedAt ladder.sent
  | .reaping | .returned _ => True

/-- The signals climb, each at most once and none of them to a child that was reaped, and they
    do so with patience if nobody urged. -/
structure Orderly : Prop where
  climbs : (ladder.sent.map Sent.signal).Sublist ladder.point.past
  unreaped : ∀ sent ∈ ladder.sent, sent.phase ≠ .reaped
  live : ladder.phase = .reaped → ladder.point = .returned true
  patient : ladder.urged = false → Patient ladder.sent
  waited : ladder.urged = false → ladder.Waited ladder.point

variable {ladder} {next : Ladder} {input : Input}

theorem orderly_start (clock : SleepClock) {phase : Phase} (unreaped : phase ≠ .reaped) :
    Orderly ⟨clock, phase, [], false, .start⟩ where
  climbs := .slnil
  unreaped := nofun
  live reaped := absurd reaped unreaped
  patient _ := .nil
  waited _ := rfl

/-- Where nothing is sent. -/
theorem Orderly.rests (orderly : ladder.Orderly) (sent : next.sent = ladder.sent)
    (urged : next.urged = false → ladder.urged = false)
    (past : ladder.point.past.Sublist next.point.past)
    (live : next.phase = .reaped → next.point = .returned true)
    (waited : next.urged = false → ladder.Waited ladder.point → next.Waited next.point) :
    next.Orderly where
  climbs := by
    rw [sent]
    exact orderly.climbs.trans past
  unreaped := by
    rw [sent]
    exact orderly.unreaped
  live := live
  patient unurged := by
    rw [sent]
    exact orderly.patient (urged unurged)
  waited unurged := waited unurged (orderly.waited (urged unurged))

/-- From one place to the next. -/
theorem Orderly.onward (orderly : ladder.Orderly) {point : Point} (here : ladder.point = point)
    (other : point ≠ .returned true) (sent : next.sent = ladder.sent)
    (phase : next.phase = ladder.phase) (urged : next.urged = false → ladder.urged = false)
    (past : point.past.Sublist next.point.past)
    (waited : next.urged = false → ladder.Waited point → next.Waited next.point) :
    next.Orderly := by
  subst here
  exact orderly.rests sent urged past
    (fun reaped => absurd (orderly.live (phase.symm.trans reaped)) other) waited

theorem Waited.tick {point : Point} (waited : ladder.Waited point) :
    Waited { ladder with clock := ladder.clock.tick } point := by
  have later : ladder.clock.now ≤ ladder.clock.tick.now := SleepClock.now_le_tick
  cases point with
  | start => exact waited
  | sending signal =>
      refine ⟨waited.1, fun rung same => ?_⟩
      obtain ⟨sentAt, last, before⟩ := waited.2 rung same
      exact ⟨sentAt, last, before.trans later⟩
  | again => exact LastBy.mono waited later
  | waiting rung | polling rung | asking rung => exact waited
  | reaping | returned ok => trivial

/-- A signal is sent after the wait of the one before it. -/
theorem Orderly.send (orderly : ladder.Orderly) {signal : Signal}
    (here : ladder.point = .sending signal) : ((ladder.send signal).proceed signal).Orderly := by
  have alive : ladder.phase ≠ .reaped := by
    intro reaped
    cases here.symm.trans (orderly.live reaped)
  have climbs := orderly.climbs
  rw [here] at climbs
  have climbed : ((ladder.send signal).sent.map Sent.signal).Sublist (signal :: signal.past) :=
    climbs.cons_cons signal
  have unreaped : ∀ sent ∈ (ladder.send signal).sent, sent.phase ≠ .reaped :=
    List.forall_mem_cons.mpr ⟨alive, orderly.unreaped⟩
  have patient : ladder.urged = false → Patient (ladder.send signal).sent := by
    intro unurged
    have waited := orderly.waited unurged
    rw [here] at waited
    have inductive' : ∀ rung : Rung, signal = rung.next → Patient (ladder.send signal).sent := by
      rintro rung rfl
      obtain ⟨time, ⟨sentAt, phase, past, same, before⟩, late⟩ := waited.2 rung rfl
      have patient := orderly.patient unurged
      rw [same] at patient
      rw [Ladder.send, same]
      exact .next ladder.phase patient (by omega)
    cases signal with
    | interrupt =>
        rw [Ladder.send, waited.1 rfl]
        exact .first _ _
    | terminate => exact inductive' .interrupt rfl
    | kill => exact inductive' .terminate rfl
  have live : ladder.phase = .reaped → ∀ point : Point, point = .returned true :=
    fun reaped => absurd reaped alive
  cases signal with
  | interrupt =>
      exact ⟨climbed, unreaped, fun reaped => live reaped _, patient,
        fun _ => ⟨_, _, _, rfl, le_rfl⟩⟩
  | terminate =>
      exact ⟨climbed, unreaped, fun reaped => live reaped _, patient,
        fun _ => ⟨_, _, _, rfl, le_rfl⟩⟩
  | kill => exact ⟨climbed, unreaped, fun reaped => live reaped _, patient, fun _ => trivial⟩

theorem Orderly.turn (orderly : ladder.Orderly) (turned : ladder.Turn input next) : next.Orderly := by
  have calmly : (ladder.answered false).urged = false → ladder.urged = false :=
    fun unurged => (Bool.or_false _).symm.trans unurged
  have urgent : ∀ {P : Prop}, (ladder.answered true).urged = false → P := fun unurged => by
    cases (Bool.or_true ladder.urged).symm.trans unurged
  cases turned with
  | tick =>
      exact orderly.rests rfl id (List.Sublist.refl _) orderly.live fun _ waited => waited.tick
  | exit running =>
      exact orderly.rests rfl id (List.Sublist.refl _) (by rintro ⟨⟩) fun _ waited => waited
  | calm here =>
      refine orderly.onward here (by rintro ⟨⟩) rfl rfl calmly .slnil fun _ waited =>
        ⟨fun _ => waited, fun rung next => ?_⟩
      cases rung <;> cases next
  | urged here => exact orderly.onward here (by rintro ⟨⟩) rfl rfl urgent (List.nil_sublist _) urgent
  | await here =>
      exact orderly.onward here (by rintro ⟨⟩) rfl rfl id (List.Sublist.refl _) fun _ waited => waited
  | skip here =>
      exact orderly.onward here (by rintro ⟨⟩) rfl rfl urgent (List.Sublist.refl _) urgent
  | poll here =>
      exact orderly.onward here (by rintro ⟨⟩) rfl rfl id (List.Sublist.refl _) fun _ waited => waited
  | @expire rung here late =>
      refine orderly.onward here (by rintro ⟨⟩) rfl rfl id ?_ fun _ waited => ⟨?_, ?_⟩
      · rw [goto, Point.past, Point.past, Rung.past_next]
      · intro first
        cases rung <;> cases first
      · intro rung' same
        obtain rfl := Rung.next_injective same
        have ended : ladder.clock.startedAt + rung.patience ≤ ladder.clock.now := by
          unfold SleepClock.elapsed at late
          cases rung <;> simp only [Rung.patience] at late ⊢ <;> omega
        exact ⟨_, waited, ended⟩
  | found here exited =>
      exact orderly.rests rfl id (Point.past_sublist _) (fun _ => rfl) fun _ _ => trivial
  | missed here =>
      exact orderly.onward here (by rintro ⟨⟩) rfl rfl id (List.Sublist.refl _) fun _ waited => waited
  | sleep here =>
      exact orderly.onward here (by rintro ⟨⟩) rfl rfl id (List.Sublist.refl _) fun _ waited => waited
  | climb here =>
      refine orderly.onward here (by rintro ⟨⟩) rfl rfl urgent ?_ urgent
      rw [goto, Point.past, Point.past, Rung.past_next]
  | send here => exact orderly.send here
  | reap here exited =>
      exact orderly.rests rfl id (Point.past_sublist _) (fun _ => rfl) fun _ _ => trivial
  | fail here =>
      exact orderly.onward here (by rintro ⟨⟩) rfl rfl id (List.Sublist.refl _) fun _ _ => trivial

/-- It returns without a failure only once the child is reaped. -/
theorem Turn.reaped (turned : ladder.Turn input next)
    (before : ladder.point = .returned true → ladder.phase = .reaped)
    (ended : next.point = .returned true) : next.phase = .reaped := by
  cases turned with
  | tick => exact before ended
  | exit running => cases running.symm.trans (before ended)
  | found | reap => rfl
  | @send signal => cases signal <;> cases ended
  | _ => cases ended

/-- It waits without a limit only for a child that was killed. -/
theorem Turn.killed (turned : ladder.Turn input next)
    (before : ladder.point = .reaping → .kill ∈ ladder.sent.map Sent.signal)
    (reaping : next.point = .reaping) : .kill ∈ next.sent.map Sent.signal := by
  cases turned with
  | tick | exit => exact before reaping
  | @send signal =>
      cases signal with
      | kill => exact .head _
      | interrupt | terminate => cases reaping
  | _ => cases reaping

/-! ### Time -/

/-- What the place tells of the time, from when the ladder was begun. -/
def InTime (base : Nat) (clock : SleepClock) : Point → Prop
  | .start | .again => clock.By base
  | .sending signal => clock.By (base + signal.before)
  | .waiting rung => clock.Waits (base + rung.signal.before) (base + rung.until)
  | .polling rung | .asking rung =>
      clock.Waits (base + rung.signal.before) (base + rung.signal.before + rung.patience)
  | .reaping | .returned _ => True

/-- But for its own time, it waits as long as it should and no longer. -/
structure Timed (base : Nat) (ladder : Ladder) : Prop where
  inTime : InTime base ladder.clock ladder.point
  sent : ∀ sent ∈ ladder.sent, sent.sentAt ≤ base + sent.signal.before + ladder.clock.own

variable {base : Nat}

theorem InTime.tick {clock : SleepClock} {point : Point} (inTime : InTime base clock point) :
    InTime base clock.tick point := by
  cases point with
  | start | again => exact SleepClock.By.tick inTime
  | sending signal => exact SleepClock.By.tick inTime
  | waiting rung | polling rung | asking rung => exact SleepClock.Waits.tick inTime
  | reaping | returned ok => trivial

/-- Where nothing is sent and the clock is kept, but for a wait or a sleep that begins. -/
theorem Timed.onward (timed : ladder.Timed base) (sent : next.sent = ladder.sent)
    (own : next.clock.own = ladder.clock.own) (inTime : InTime base next.clock next.point) :
    next.Timed base where
  inTime := inTime
  sent := by
    rw [sent, own]
    exact timed.sent

theorem Timed.send (timed : ladder.Timed base) {signal : Signal}
    (here : ladder.point = .sending signal) : ((ladder.send signal).proceed signal).Timed base := by
  have inTime := timed.inTime
  rw [here] at inTime
  have sent : ∀ sent ∈ (ladder.send signal).sent,
      sent.sentAt ≤ base + sent.signal.before + ladder.clock.own :=
    List.forall_mem_cons.mpr ⟨inTime.now, timed.sent⟩
  cases signal with
  | interrupt => exact ⟨inTime, sent⟩
  | terminate => exact ⟨SleepClock.By.start inTime (by simp [Rung.until]; omega), sent⟩
  | kill => exact ⟨trivial, sent⟩

theorem Timed.turn (timed : ladder.Timed base) (turned : ladder.Turn input next) : next.Timed base := by
  have inTime := timed.inTime
  cases turned with
  | tick =>
      refine ⟨inTime.tick, fun sent inside => ?_⟩
      have own : ladder.clock.own ≤ ladder.clock.tick.own := SleepClock.own_le_tick
      exact (timed.sent sent inside).trans (Nat.add_le_add_left own _)
  | exit running => exact timed.onward rfl rfl inTime
  | calm here =>
      rw [here] at inTime
      exact timed.onward rfl rfl inTime
  | urged here =>
      rw [here] at inTime
      exact timed.onward rfl rfl inTime
  | await here =>
      rw [here] at inTime
      exact timed.onward rfl rfl (SleepClock.By.start inTime (Nat.le_add_right ..))
  | skip here =>
      rw [here] at inTime
      exact timed.onward rfl rfl (SleepClock.By.mono inTime (Nat.le_add_right ..))
  | poll here awake early =>
      rw [here] at inTime
      exact timed.onward rfl rfl (SleepClock.Waits.poll inTime awake early)
  | expire here late =>
      rw [here] at inTime
      refine timed.onward rfl rfl ?_
      rw [goto, InTime, Rung.before_next]
      exact inTime.toBy
  | missed here =>
      rw [here] at inTime
      exact timed.onward rfl rfl inTime
  | sleep here =>
      rw [here] at inTime
      have waits := SleepClock.Waits.sleep inTime pause
      rw [Rung.add_until] at waits
      exact timed.onward rfl rfl waits
  | climb here =>
      rw [here] at inTime
      refine timed.onward rfl rfl ?_
      rw [goto, InTime, Rung.before_next]
      exact inTime.toBy.mono (Rung.add_until base _ ▸ Nat.le_add_right ..)
  | send here => exact timed.send here
  | found | reap | fail => exact timed.onward rfl rfl trivial

/-- The ladder is not over, and nothing has been killed. -/
def Climbing (ladder : Ladder) : Prop :=
  ladder.point ≠ .reaping ∧ ∀ ok, ladder.point ≠ .returned ok

theorem Timed.now_le (timed : ladder.Timed base) (climbing : ladder.Climbing) :
    ladder.clock.now ≤ base + Signal.kill.before + ladder.clock.own := by
  have inTime := timed.inTime
  obtain ⟨unreaped, unreturned⟩ := climbing
  cases here : ladder.point with
  | start | again =>
      rw [here] at inTime
      exact inTime.now.trans (by omega)
  | sending signal =>
      rw [here] at inTime
      have most : signal.before ≤ Signal.kill.before := by cases signal <;> decide
      exact inTime.now.trans (by omega)
  | waiting rung =>
      rw [here] at inTime
      have most : rung.until ≤ Signal.kill.before := by cases rung <;> decide
      exact inTime.now.trans (by omega)
  | polling rung | asking rung =>
      rw [here] at inTime
      have most : rung.signal.before + rung.patience ≤ Signal.kill.before := by
        cases rung <;> decide
      exact inTime.now.trans (by omega)
  | reaping => exact absurd here unreaped
  | returned ok => exact absurd here (unreturned ok)

end Ladder

end Terminate

end QuadControl.Process
