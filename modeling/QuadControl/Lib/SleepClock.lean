import Mathlib.Algebra.Order.Group.Nat

/-! # The clock of a program that polls

It notes when a wait begins, sleeps between two polls, and gives up when the wait has taken too
long. Time may pass between any two of its steps; what passes while it does not sleep is its own.
-/

namespace QuadControl.Lib

structure SleepClock where
  now : Nat
  own : Nat
  startedAt : Nat
  wakeAt : Nat
  deriving Repr, DecidableEq

namespace SleepClock

def zero : SleepClock := ⟨0, 0, 0, 0⟩

variable (clock : SleepClock)

def sleeps : Bool := clock.now < clock.wakeAt

def tick : SleepClock :=
  { clock with
    now := clock.now + 1
    own := if clock.sleeps then clock.own else clock.own + 1 }

/-- A wait begins. -/
def start : SleepClock := { clock with startedAt := clock.now }

def sleep (pause : Nat) : SleepClock := { clock with wakeAt := clock.now + pause }

def elapsed : Nat := clock.now - clock.startedAt

@[simp] theorem now_start : clock.start.now = clock.now := rfl

@[simp] theorem startedAt_start : clock.start.startedAt = clock.now := rfl

@[simp] theorem now_sleep (pause : Nat) : (clock.sleep pause).now = clock.now := rfl

@[simp] theorem startedAt_sleep (pause : Nat) : (clock.sleep pause).startedAt = clock.startedAt :=
  rfl

@[simp] theorem own_start : clock.start.own = clock.own := rfl

@[simp] theorem own_sleep (pause : Nat) : (clock.sleep pause).own = clock.own := rfl

@[simp] theorem startedAt_tick : clock.tick.startedAt = clock.startedAt := rfl

/-- But for its own time it is not later than the limit, and sleeps no longer. -/
structure By (limit : Nat) : Prop where
  now : clock.now ≤ limit + clock.own
  wakes : clock.wakeAt ≤ limit + clock.own

/-- The same, and the wait has begun by a limit of its own. -/
structure Waits (since limit : Nat) : Prop extends By clock limit where
  started : clock.startedAt ≤ since + clock.own

variable {clock} {limit limit' since : Nat}

theorem now_le_tick : clock.now ≤ clock.tick.now := Nat.le_succ _

theorem own_le_tick : clock.own ≤ clock.tick.own := by
  unfold tick
  split
  · exact le_rfl
  · exact Nat.le_succ _

theorem By.tick (inTime : clock.By limit) : clock.tick.By limit := by
  obtain ⟨now, wakes⟩ := inTime
  by_cases asleep : clock.now < clock.wakeAt
  · constructor <;> simp only [SleepClock.tick, sleeps, asleep, decide_true, if_true] <;> omega
  · constructor <;> simp only [SleepClock.tick, sleeps, asleep, decide_false, Bool.false_eq_true,
      if_false] <;> omega

theorem By.mono (inTime : clock.By limit) (more : limit ≤ limit') : clock.By limit' where
  now := inTime.now.trans (Nat.add_le_add_right more _)
  wakes := inTime.wakes.trans (Nat.add_le_add_right more _)

theorem By.start (inTime : clock.By since) (more : since ≤ limit) : clock.start.Waits since limit :=
  have later := inTime.mono more
  ⟨⟨later.now, later.wakes⟩, inTime.now⟩

theorem Waits.tick (waiting : clock.Waits since limit) : clock.tick.Waits since limit :=
  ⟨waiting.toBy.tick, waiting.started.trans (Nat.add_le_add_left own_le_tick since)⟩

/-- A poll while there is time left. -/
theorem Waits.poll {budget : Nat} (waiting : clock.Waits since limit)
    (awake : clock.sleeps = false) (early : clock.elapsed < budget) :
    clock.Waits since (since + budget) := by
  obtain ⟨-, started⟩ := waiting
  have woken : clock.wakeAt ≤ clock.now := Nat.not_lt.mp (of_decide_eq_false awake)
  unfold elapsed at early
  exact ⟨⟨by omega, by omega⟩, started⟩

theorem Waits.sleep (waiting : clock.Waits since limit) (pause : Nat) :
    (clock.sleep pause).Waits since (limit + pause) := by
  obtain ⟨⟨now, wakes⟩, started⟩ := waiting
  constructor
  · constructor <;> simp only [SleepClock.sleep] <;> omega
  · exact started

end SleepClock

end QuadControl.Lib
