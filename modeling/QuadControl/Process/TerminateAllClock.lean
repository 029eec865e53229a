import QuadControl.Process.Terminate

/-! # The ladder of a group and the clock

`terminate_all` waits for all children at once, so that what it waits does not depend on how
many there are. Its steps are those of the ladder without a clock; here they note when a signal
was sent, ask the clock whether a wait is over, and sleep between two rounds of polls.
-/

namespace QuadControl.Process.TerminateAll

open Lib

/-- A signal that was sent to a child's group, and when. -/
structure Mark where
  index : Nat
  signal : Signal
  sentAt : Nat
  deriving Repr, DecidableEq

structure Timed where
  state : State
  clock : SleepClock
  /-- The latest first. -/
  marks : List Mark
  /-- `escalated` has answered so. -/
  urged : Bool
  deriving Repr, DecidableEq

inductive Event where
  | tick
  | code (input : Input)
  deriving Repr, DecidableEq

def initial (children : List Child) : Timed := ⟨Process.initial children, .zero, [], false⟩

namespace Timed

variable (timed : Timed)

/-- What is sent at the loops' places. -/
def sends : Point → Option (Signal × Nat)
  | .signalling rung index => some (rung.signal, index)
  | .killing index => some (.kill, index)
  | _ => none

/-- What the clock has to say to a step: nothing happens during a sleep but exits of children,
    and the time that a wait took is what it is. -/
def admits : Input → Bool
  | .exits _ => true
  | .check _ elapsed =>
      match timed.state.point with
      | .pausing rung => !timed.clock.sleeps && elapsed == (rung.patience ≤ timed.clock.elapsed)
      | _ => false
  | _ => !timed.clock.sleeps

/-- A wait begins after the last signal of a rung, and a sleep after a round of polls. -/
def clockAfter : Input → SleepClock
  | .check false false => timed.clock.sleep pause
  | .go =>
      match timed.state.point with
      | .signalling _ index =>
          if timed.state.children[index]? = none then timed.clock.start else timed.clock
      | _ => timed.clock
  | _ => timed.clock

def marksAfter : Input → List Mark
  | .go =>
      match sends timed.state.point with
      | some (signal, index) =>
          if timed.state.children[index]? = none then timed.marks
          else ⟨index, signal, timed.clock.now⟩ :: timed.marks
      | none => timed.marks
  | _ => timed.marks

def urgedAfter : Input → Bool
  | .escalated answer | .check answer _ => timed.urged || answer
  | _ => timed.urged

/-- `terminate_all_impl` and `wait_all_for`, by the clock. -/
def step : Event → Option Timed
  | .tick => some { timed with clock := timed.clock.tick }
  | .code input =>
      if timed.admits input then
        (timed.state.step input).map fun next =>
          ⟨next, timed.clockAfter input, timed.marksAfter input, timed.urgedAfter input⟩
      else none

/-! ### What a step does -/

/-- Where the climb goes. -/
def above : Rung → Point
  | .interrupt => .signalling .terminate 0
  | .terminate => .killing 0

/-- Everything a step can come to, where time is concerned. -/
inductive Turn (timed : Timed) : Timed → Prop
  | tick : Turn timed { timed with clock := timed.clock.tick }
  | exit (next : State) (same : next.point = timed.state.point) : Turn timed { timed with state := next }
  | calm (here : timed.state.point = .start) (next : State)
      (there : next.point = .signalling .interrupt 0) :
      Turn timed { timed with state := next, urged := timed.urged || false }
  | urged (here : timed.state.point = .start) (next : State)
      (there : next.point = .signalling .terminate 0) :
      Turn timed { timed with state := next, urged := timed.urged || true }
  | send {signal : Signal} {index : Nat} (next : State)
      (here : sends timed.state.point = some (signal, index))
      (there : sends next.point = some (signal, index + 1)) :
      Turn timed { timed with state := next, marks := ⟨index, signal, timed.clock.now⟩ :: timed.marks }
  | await {rung : Rung} {index : Nat} (here : timed.state.point = .signalling rung index)
      (all : timed.state.children.length ≤ index) (next : State)
      (there : next.point = .polling rung 0) :
      Turn timed { timed with state := next, clock := timed.clock.start }
  | poll {rung : Rung} {index : Nat} (here : timed.state.point = .polling rung index)
      (next : State) (there : next.point = .polling rung (index + 1) ∨ next.point = .pausing rung ∨
        next.point = .returned true) : Turn timed { timed with state := next }
  | sleep {rung : Rung} (here : timed.state.point = .pausing rung)
      (awake : timed.clock.sleeps = false) (early : timed.clock.elapsed < rung.patience)
      (next : State) (there : next.point = .polling rung 0) :
      Turn timed
        { timed with
          state := next
          clock := timed.clock.sleep pause
          urged := timed.urged || false }
  | climb {rung : Rung} (here : timed.state.point = .pausing rung) (answer : Bool) (next : State)
      (ended : answer = false → rung.patience ≤ timed.clock.elapsed)
      (there : next.point = above rung) :
      Turn timed { timed with state := next, urged := timed.urged || answer }
  | killed {index : Nat} (here : timed.state.point = .killing index)
      (all : timed.state.children.length ≤ index) (next : State) (there : next.point = .reaping 0) :
      Turn timed { timed with state := next }
  | reap {index : Nat} (here : timed.state.point = .reaping index) (next : State)
      (there : (∃ index, next.point = .reaping index) ∨ ∃ ok, next.point = .returned ok) :
      Turn timed { timed with state := next }

variable {timed} {next : Timed} {event : Event}

theorem sends_above (rung : Rung) : sends (above rung) = some (rung.next, 0) := by
  cases rung <;> rfl

theorem turn_of_code {input : Input} {state : State} (admitted : timed.admits input = true)
    (stepped : timed.state.step input = some state) :
    timed.Turn ⟨state, timed.clockAfter input, timed.marksAfter input, timed.urgedAfter input⟩ := by
  cases input with
  | exits index =>
      simp only [State.step, Option.bind_eq_bind, Option.bind_eq_some_iff,
        Option.ite_none_right_eq_some, Option.some.injEq] at stepped
      obtain ⟨child, -, -, rfl⟩ := stepped
      exact .exit _ rfl
  | escalated answer =>
      simp only [State.step, Option.ite_none_right_eq_some, Option.some.injEq] at stepped
      obtain ⟨here, rfl⟩ := stepped
      cases answer with
      | true => exact .urged here _ rfl
      | false => exact .calm here _ rfl
  | check escalated elapsed =>
      simp only [State.step] at stepped
      split at stepped
      case h_1 rung here =>
        obtain rfl := Option.some.inj stepped
        simp only [admits, here, Bool.and_eq_true, Bool.not_eq_true', beq_iff_eq] at admitted
        obtain ⟨awake, rfl⟩ := admitted
        cases escalated with
        | true => exact .climb here true _ (by rintro ⟨⟩) (by cases rung <;> rfl)
        | false =>
            by_cases late : rung.patience ≤ timed.clock.elapsed
            · simp only [late, decide_true, Bool.or_true, if_true]
              exact .climb here false _ (fun _ => late) (by cases rung <;> rfl)
            · simp only [late, decide_false, Bool.or_false, Bool.false_eq_true, if_false]
              exact .sleep here awake (Nat.not_le.mp late) _ rfl
      case h_2 => cases stepped
  | tryWait fails =>
      simp only [State.step] at stepped
      split at stepped
      case h_1 rung index here =>
        simp only [Option.bind_eq_bind, Option.bind_eq_some_iff] at stepped
        obtain ⟨child, -, stepped⟩ := stepped
        split at stepped
        · obtain rfl := Option.some.inj stepped
          exact .poll here _ (.inl rfl)
        · split at stepped
          · obtain rfl := Option.some.inj stepped
            exact .poll here _ (.inl rfl)
          · obtain rfl := Option.some.inj stepped
            exact .poll here _ (.inr (.inl rfl))
      case h_2 => cases stepped
  | go =>
      simp only [State.step] at stepped
      split at stepped
      case h_1 rung index here =>
        split at stepped
        case h_1 child found =>
          obtain rfl := Option.some.inj stepped
          have some : timed.state.children[index]? ≠ none := by rw [found]; rintro ⟨⟩
          simp only [clockAfter, marksAfter, here, sends, some, if_false]
          exact .send _ (by rw [here]; rfl) rfl
        case h_2 none =>
          obtain rfl := Option.some.inj stepped
          simp only [clockAfter, marksAfter, here, sends, none, if_true]
          exact .await here (List.getElem?_eq_none_iff.mp none) _ rfl
      case h_2 rung index here =>
        obtain ⟨-, same⟩ := Option.ite_none_right_eq_some.mp stepped
        obtain rfl := Option.some.inj same
        simp only [clockAfter, marksAfter, here, sends]
        exact .poll here _ (.inr (.inr rfl))
      case h_3 index here =>
        split at stepped
        case h_1 child found =>
          obtain rfl := Option.some.inj stepped
          have some : timed.state.children[index]? ≠ none := by rw [found]; rintro ⟨⟩
          simp only [clockAfter, marksAfter, here, sends, some, if_false]
          exact .send _ (by rw [here]; rfl) rfl
        case h_2 none =>
          obtain rfl := Option.some.inj stepped
          simp only [clockAfter, marksAfter, here, sends, none, if_true]
          exact .killed here (List.getElem?_eq_none_iff.mp none) _ rfl
      case h_4 index here =>
        simp only [clockAfter, marksAfter, here, sends]
        split at stepped
        case h_1 child found =>
          split at stepped
          · obtain rfl := Option.some.inj stepped
            exact .reap here _ (.inl ⟨_, rfl⟩)
          · split at stepped
            · obtain rfl := Option.some.inj stepped
              exact .reap here _ (.inr ⟨_, rfl⟩)
            · obtain ⟨-, same⟩ := Option.ite_none_right_eq_some.mp stepped
              obtain rfl := Option.some.inj same
              exact .reap here _ (.inl ⟨_, rfl⟩)
        case h_2 =>
          obtain rfl := Option.some.inj stepped
          exact .reap here _ (.inr ⟨_, rfl⟩)
      case h_5 => cases stepped

theorem turn_of_step (stepped : timed.step event = some next) : timed.Turn next := by
  cases event with
  | tick =>
      obtain rfl := Option.some.inj stepped
      exact .tick
  | code input =>
      obtain ⟨admitted, stepped⟩ := Option.ite_none_right_eq_some.mp stepped
      obtain ⟨state, goes, rfl⟩ := Option.map_eq_some_iff.mp stepped
      exact turn_of_code admitted goes

/-! ### Who is signalled -/

/-- What a child's group was sent, the latest first. -/
def sentTo (marks : List Mark) (index : Nat) : List Signal :=
  (marks.filter fun mark => mark.index = index).map Mark.signal

/-- What the rounds before a signal's have sent; the first is left out if there was an escalation
    before it. -/
def behind (calm : Bool) (signal : Signal) : List Signal :=
  if calm then signal.past else signal.past.erase .interrupt

/-- A round has come to a child: those before it were sent its signal, and nobody has missed a
    round. -/
def Reaches (count : Nat) (marks : List Mark) (signal : Signal) (reached : Nat) : Prop :=
  ∃ calm, ∀ index < count, sentTo marks index =
    if index < reached then signal :: behind calm signal else behind calm signal

/-- Each round goes to every child, reaped or not, one after the other and once, before its wait
    begins, and the last to all before one of them is waited for. -/
def Signalled (count : Nat) (marks : List Mark) : Point → Prop
  | .start => marks = []
  | .signalling rung index => Reaches count marks rung.signal index
  | .polling rung _ | .pausing rung => Reaches count marks rung.signal count
  | .killing index => Reaches count marks .kill index
  | .reaping _ => Reaches count marks .kill count
  | .returned _ => ∃ signal, Reaches count marks signal count

section Signalled

variable {count : Nat} {marks : List Mark} {point : Point} {signal : Signal} {index : Nat}

theorem signalled_of_sends (sending : sends point = some (signal, index)) :
    Signalled count marks point ↔ Reaches count marks signal index := by
  cases point <;> cases sending <;> exact Iff.rfl

theorem Reaches.all (reaches : Reaches count marks signal index) (all : count ≤ index) :
    Reaches count marks signal count := by
  obtain ⟨calm, sent⟩ := reaches
  refine ⟨calm, fun other inside => ?_⟩
  rw [sent other inside, if_pos inside, if_pos (inside.trans_le all)]

theorem reaches_nil (calm : Bool) (none : behind calm signal = []) :
    Reaches count [] signal 0 :=
  ⟨calm, fun other _ => by rw [if_neg (Nat.not_lt_zero other), none]; rfl⟩

theorem Reaches.send (reaches : Reaches count marks signal index) (now : Nat) :
    Reaches count (⟨index, signal, now⟩ :: marks) signal (index + 1) := by
  obtain ⟨calm, sent⟩ := reaches
  refine ⟨calm, fun other inside => ?_⟩
  have before := sent other inside
  rw [sentTo] at before
  rw [sentTo, List.filter_cons]
  by_cases same : index = other
  · subst same
    rw [if_neg (Nat.lt_irrefl index)] at before
    simp [before]
  · have passed : other < index + 1 ↔ other < index := by omega
    simp [same, passed, before]

/-- The round that is over is behind the next. -/
theorem behind_next (calm : Bool) (rung : Rung) :
    ∃ calm', behind calm' rung.next = rung.signal :: behind calm rung.signal := by
  cases rung with
  | interrupt => exact ⟨true, by cases calm <;> rfl⟩
  | terminate => exact ⟨calm, by cases calm <;> rfl⟩

theorem Reaches.climb {rung : Rung} (reaches : Reaches count marks rung.signal count) :
    Reaches count marks rung.next 0 := by
  obtain ⟨calm, sent⟩ := reaches
  obtain ⟨calm', next⟩ := behind_next calm rung
  refine ⟨calm', fun other inside => ?_⟩
  rw [sent other inside, if_pos inside, if_neg (Nat.not_lt_zero other), next]

end Signalled

theorem length_of_step {state next : State} {input : Input} (stepped : state.step input = some next) :
    next.children.length = state.children.length := by
  rcases step_cases stepped with turn | ⟨index, -, rfl⟩
  · cases turn <;> simp [State.goto, State.replace]
  · rfl

theorem Signalled.turn (signalled : Signalled timed.state.children.length timed.marks timed.state.point)
    (turned : timed.Turn next) :
    Signalled timed.state.children.length next.marks next.state.point := by
  cases turned with
  | tick => exact signalled
  | exit state same => rwa [same]
  | calm here state there =>
      rw [here] at signalled
      rw [there, signalled]
      exact reaches_nil true rfl
  | urged here state there =>
      rw [here] at signalled
      rw [there, signalled]
      exact reaches_nil false rfl
  | send state here there =>
      exact (signalled_of_sends there).mpr (((signalled_of_sends here).mp signalled).send _)
  | await here all state there =>
      rw [here] at signalled
      rw [there]
      exact Reaches.all signalled all
  | poll here state there =>
      rw [here] at signalled
      rcases there with there | there | there <;> rw [there]
      · exact signalled
      · exact signalled
      · exact ⟨_, signalled⟩
  | sleep here awake early state there =>
      rw [here] at signalled
      rw [there]
      exact signalled
  | @climb rung here answer state ended there =>
      rw [here] at signalled
      rw [there]
      exact (signalled_of_sends (sends_above rung)).mpr (Reaches.climb signalled)
  | killed here all state there =>
      rw [here] at signalled
      rw [there]
      exact Reaches.all signalled all
  | reap here state there =>
      rw [here] at signalled
      rcases there with ⟨index, there⟩ | ⟨ok, there⟩ <;> rw [there]
      · exact signalled
      · exact ⟨_, signalled⟩

/-! ### What the place tells -/

/-- What can have been sent. -/
def past : Point → List Signal
  | .start => []
  | .signalling rung _ | .polling rung _ | .pausing rung => rung.signal :: rung.signal.past
  | .killing _ | .reaping _ | .returned _ => .kill :: Signal.kill.past

/-- The time, but for what is the code's own. -/
def InTime (clock : SleepClock) : Point → Prop
  | .start => clock.By 0
  | .signalling rung _ => clock.By rung.signal.before
  | .polling rung _ | .pausing rung => clock.Waits rung.signal.before rung.until
  | .killing _ => clock.By Signal.kill.before
  | .reaping _ | .returned _ => True

/-- The wait before a signal is over. -/
structure Since (clock : SleepClock) (marks : List Mark) (signal : Signal) : Prop where
  sent : ∀ mark ∈ marks, mark.signal = signal → mark.sentAt ≤ clock.now
  waited : ∀ rung : Rung, signal = rung.next → ∀ mark ∈ marks, mark.signal = rung.signal →
    mark.sentAt + rung.patience ≤ clock.now

/-- What was waited, if nobody urged. -/
def Waited (clock : SleepClock) (marks : List Mark) : Point → Prop
  | .signalling rung _ => Since clock marks rung.signal
  | .killing _ => Since clock marks .kill
  | .polling rung _ | .pausing rung =>
      ∀ mark ∈ marks, mark.signal = rung.signal → mark.sentAt ≤ clock.startedAt
  | .start | .reaping _ | .returned _ => True

/-- Between any two signals of one rung and of the next, the first of them waits. -/
def Apart (marks : List Mark) : Prop :=
  ∀ rung : Rung, ∀ early ∈ marks, ∀ late ∈ marks, early.signal = rung.signal →
    late.signal = rung.next → early.sentAt + rung.patience ≤ late.sentAt

structure Sound (timed : Timed) : Prop where
  inTime : InTime timed.clock timed.state.point
  sent : ∀ mark ∈ timed.marks, mark.sentAt ≤ mark.signal.before + timed.clock.own
  kinds : ∀ mark ∈ timed.marks, mark.signal ∈ past timed.state.point
  waited : timed.urged = false → Waited timed.clock timed.marks timed.state.point
  apart : timed.urged = false → Apart timed.marks

section Sends

variable {point : Point} {signal : Signal} {index : Nat} {clock : SleepClock} {marks : List Mark}

theorem inTime_of_sends (sending : sends point = some (signal, index)) :
    InTime clock point ↔ clock.By signal.before := by
  cases point <;> cases sending <;> exact Iff.rfl

theorem past_of_sends (sending : sends point = some (signal, index)) :
    past point = signal :: signal.past := by
  cases point <;> cases sending <;> rfl

theorem waited_of_sends (sending : sends point = some (signal, index)) :
    Waited clock marks point ↔ Since clock marks signal := by
  cases point <;> cases sending <;> exact Iff.rfl

end Sends

theorem mem_past_kill (signal : Signal) : signal ∈ Signal.kill :: Signal.kill.past := by
  cases signal <;> decide

theorem sound_initial (children : List Child) : (initial children).Sound where
  inTime := ⟨le_rfl, le_rfl⟩
  sent := nofun
  kinds := nofun
  waited _ := trivial
  apart _ := nofun

/-- Where nothing is sent, and the clock is not turned. -/
theorem Sound.onward (sound : timed.Sound) (marks : next.marks = timed.marks)
    (own : next.clock.own = timed.clock.own) (urged : next.urged = false → timed.urged = false)
    (inTime : InTime next.clock next.state.point)
    (kinds : ∀ signal ∈ past timed.state.point, signal ∈ past next.state.point)
    (waited : next.urged = false → Waited timed.clock timed.marks timed.state.point →
      Waited next.clock timed.marks next.state.point) : next.Sound where
  inTime := inTime
  sent := by
    rw [marks, own]
    exact sound.sent
  kinds := by
    rw [marks]
    exact fun mark inside => kinds _ (sound.kinds mark inside)
  waited unurged := by
    rw [marks]
    exact waited unurged (sound.waited (urged unurged))
  apart unurged := by
    rw [marks]
    exact sound.apart (urged unurged)

theorem InTime.tick {clock : SleepClock} {point : Point} (inTime : InTime clock point) :
    InTime clock.tick point := by
  cases point with
  | start => exact SleepClock.By.tick inTime
  | signalling rung => exact SleepClock.By.tick inTime
  | killing => exact SleepClock.By.tick inTime
  | polling rung | pausing rung => exact SleepClock.Waits.tick inTime
  | reaping | returned => trivial

theorem Since.tick {clock : SleepClock} {marks : List Mark} {signal : Signal}
    (since : Since clock marks signal) : Since clock.tick marks signal where
  sent mark inside same := (since.sent mark inside same).trans SleepClock.now_le_tick
  waited rung next mark inside same :=
    (since.waited rung next mark inside same).trans SleepClock.now_le_tick

theorem Sound.tick (sound : timed.Sound) : Sound { timed with clock := timed.clock.tick } where
  inTime := sound.inTime.tick
  sent mark inside :=
    (sound.sent mark inside).trans (Nat.add_le_add_left SleepClock.own_le_tick _)
  kinds := sound.kinds
  waited unurged := by
    have waited := sound.waited unurged
    cases here : timed.state.point with
    | signalling rung | killing =>
        rw [here] at waited
        exact Since.tick waited
    | start | reaping | returned => trivial
    | polling rung | pausing rung =>
        rw [here] at waited
        exact waited
  apart := sound.apart

theorem Sound.send (sound : timed.Sound) {signal : Signal} {index : Nat} {state : State}
    (here : sends timed.state.point = some (signal, index))
    (there : sends state.point = some (signal, index + 1)) :
    Sound { timed with
      state := state
      marks := ⟨index, signal, timed.clock.now⟩ :: timed.marks } := by
  have inTime := (inTime_of_sends here).mp sound.inTime
  have kinds := sound.kinds
  rw [past_of_sends here] at kinds
  refine ⟨(inTime_of_sends there).mpr inTime, ?_, ?_, fun unurged => ?_, fun unurged => ?_⟩
  · exact List.forall_mem_cons.mpr ⟨inTime.now, sound.sent⟩
  · rw [past_of_sends there]
    exact List.forall_mem_cons.mpr ⟨.head _, kinds⟩
  · have since := (waited_of_sends here).mp (sound.waited unurged)
    refine (waited_of_sends there).mpr ⟨?_, fun rung same => ?_⟩
    · exact List.forall_mem_cons.mpr ⟨fun _ => le_rfl, since.sent⟩
    · refine List.forall_mem_cons.mpr ⟨fun other => ?_, since.waited rung same⟩
      subst same
      cases rung <;> cases other
  · have since := (waited_of_sends here).mp (sound.waited unurged)
    intro rung early earlier late later first second
    rcases List.mem_cons.mp earlier with rfl | earlier
    · -- what comes after this signal has not been sent
      rcases List.mem_cons.mp later with rfl | later
      · cases rung <;> cases first.symm.trans second
      · have kind := kinds late later
        obtain rfl : signal = rung.signal := first
        rw [second] at kind
        cases rung <;> simp [Rung.next, Rung.signal, Signal.past] at kind
    · rcases List.mem_cons.mp later with rfl | later
      · exact since.waited rung second early earlier first
      · exact sound.apart unurged rung early earlier late later first second

/-- A poll goes on in its round, ends it, or ends the ladder. -/
theorem Sound.poll (sound : timed.Sound) {rung : Rung} {index : Nat} {state : State}
    (here : timed.state.point = .polling rung index)
    (there : state.point = .polling rung (index + 1) ∨ state.point = .pausing rung ∨
      state.point = .returned true) : Sound { timed with state := state } := by
  have inTime := sound.inTime
  rw [here] at inTime
  refine sound.onward rfl rfl id ?_ (fun signal inside => ?_) fun _ waited => ?_
  · rcases there with there | there | there <;> rw [there]
    · exact inTime
    · exact inTime
    · trivial
  · rw [here] at inside
    rcases there with there | there | there <;> rw [there]
    · exact inside
    · exact inside
    · exact mem_past_kill signal
  · rw [here] at waited
    rcases there with there | there | there <;> rw [there]
    · exact waited
    · exact waited
    · trivial

/-- The end of a wait in vain is late enough for the signal above, unless somebody urges. -/
theorem Sound.climb (sound : timed.Sound) {rung : Rung} {state : State}
    (here : timed.state.point = .pausing rung) (answer : Bool)
    (ended : answer = false → rung.patience ≤ timed.clock.elapsed)
    (there : state.point = above rung) :
    Sound { timed with state := state, urged := timed.urged || answer } := by
  have inTime := sound.inTime
  rw [here] at inTime
  have goes := sends_above rung
  rw [← there] at goes
  refine sound.onward rfl rfl (fun unurged => ?_) ?_ (fun signal inside => ?_)
    fun unurged waited => ?_
  · exact (Bool.or_eq_false_iff.mp unurged).1
  · refine (inTime_of_sends goes).mpr ?_
    rw [Rung.before_next]
    exact inTime.toBy
  · rw [here] at inside
    rw [past_of_sends goes, Rung.past_next]
    exact .tail _ inside
  · have late := ended (Bool.or_eq_false_iff.mp unurged).2
    rw [here] at waited
    refine (waited_of_sends goes).mpr ⟨fun mark inside same => ?_, fun rung' same mark inside kind => ?_⟩
    · -- the signal above has not been sent
      have before := sound.kinds mark inside
      rw [here, same] at before
      cases rung <;> simp [past, Rung.next, Rung.signal, Signal.past] at before
    · obtain rfl := Rung.next_injective same
      have sentAt := waited mark inside kind
      unfold SleepClock.elapsed at late
      have some : 0 < rung.patience := by cases rung <;> decide
      dsimp only
      omega

theorem Sound.turn (sound : timed.Sound) (turned : timed.Turn next) : next.Sound := by
  have inTime := sound.inTime
  have calmly : (timed.urged || false) = false → timed.urged = false :=
    fun unurged => (Bool.or_false _).symm.trans unurged
  have urgent : ∀ {P : Prop}, (timed.urged || true) = false → P := fun unurged => by
    cases (Bool.or_true timed.urged).symm.trans unurged
  cases turned with
  | tick => exact sound.tick
  | exit state same =>
      refine sound.onward rfl rfl id ?_ (fun _ inside => ?_) fun _ waited => ?_
      all_goals rw [same]
      all_goals assumption
  | calm here state there =>
      rw [here] at inTime
      refine sound.onward rfl rfl calmly ?_ (fun _ inside => ?_) fun _ _ => ?_
      · rw [there]
        exact inTime
      · rw [here] at inside
        cases inside
      · rw [there]
        have none : ∀ mark ∈ timed.marks, False := fun mark inside => by
          have kind := sound.kinds mark inside
          rw [here] at kind
          cases kind
        exact ⟨fun mark inside => (none mark inside).elim,
          fun _ _ mark inside => (none mark inside).elim⟩
  | urged here state there =>
      rw [here] at inTime
      refine sound.onward rfl rfl urgent ?_ (fun _ inside => ?_) urgent
      · rw [there]
        exact inTime.mono (Nat.zero_le _)
      · rw [here] at inside
        cases inside
  | send state here there => exact sound.send here there
  | @await rung index here all state there =>
      rw [here] at inTime
      refine sound.onward rfl rfl id ?_ (fun _ inside => ?_) fun _ waited => ?_
      · rw [there]
        exact SleepClock.By.start inTime (by simp [Rung.until]; omega)
      · rw [here] at inside
        rw [there]
        exact inside
      · rw [here] at waited
        rw [there]
        exact waited.sent
  | poll here state there => exact sound.poll here there
  | @sleep rung here awake early state there =>
      rw [here] at inTime
      refine sound.onward rfl rfl calmly ?_ (fun signal inside => ?_) fun _ waited => ?_
      · rw [there]
        exact (inTime.poll awake early).sleep pause
      · rw [here] at inside
        rw [there]
        exact inside
      · rw [here] at waited
        rw [there]
        exact waited
  | climb here answer state ended there => exact sound.climb here answer ended there
  | killed here all state there =>
      refine sound.onward rfl rfl id ?_ (fun signal _ => ?_) fun _ _ => ?_
      all_goals rw [there]
      · trivial
      · exact mem_past_kill signal
      · trivial
  | reap here state there =>
      refine sound.onward rfl rfl id ?_ (fun signal _ => ?_) fun _ _ => ?_
      · rcases there with ⟨index, there⟩ | ⟨ok, there⟩ <;> rw [there] <;> trivial
      · rcases there with ⟨index, there⟩ | ⟨ok, there⟩ <;> rw [there] <;> exact mem_past_kill signal
      · rcases there with ⟨index, there⟩ | ⟨ok, there⟩ <;> rw [there] <;> trivial

/-- The children are as many all along, and signalled alike. -/
def Alike (children : List Child) (timed : Timed) : Prop :=
  timed.state.children.length = children.length ∧
    Signalled children.length timed.marks timed.state.point

theorem Alike.step {children : List Child} (alike : Alike children timed)
    (stepped : timed.step event = some next) : Alike children next := by
  have turned := turn_of_step stepped
  obtain ⟨count, signalled⟩ := alike
  rw [← count] at signalled
  refine ⟨?_, count ▸ signalled.turn turned⟩
  cases event with
  | tick =>
      obtain rfl := Option.some.inj stepped
      exact count
  | code input =>
      obtain ⟨-, stepped⟩ := Option.ite_none_right_eq_some.mp stepped
      obtain ⟨state, goes, rfl⟩ := Option.map_eq_some_iff.mp stepped
      exact (length_of_step goes).trans count

example : Signal.kill.before = 5200 := rfl

/-- Two children, of which one takes its time. -/
def two : List Event :=
  [Event.code (.escalated false), .code .go, .tick, .code .go, .code .go, .code (.exits 0),
    .code (.tryWait false), .code (.tryWait false), .code (.check false false)] ++
  List.replicate 100 Event.tick ++
  [Event.code (.exits 1), .code (.tryWait false), .code (.tryWait false), .code .go]

end Timed

end QuadControl.Process.TerminateAll
