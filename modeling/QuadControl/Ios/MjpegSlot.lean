import Mathlib.Data.List.Basic
import QuadControl.Lib.Interleaving
import QuadControl.Lib.Utf8

/-! # The slot of the newest frame

The pump publishes into a slot that any number of writers take from, under one mutex. The
count of the writers and that of the drops are atomics outside it. Every thread moves
between two of its accesses to what is shared; a history beside the slot notes what was
published, taken and overwritten.
-/

namespace QuadControl.Ios.Mjpeg

open Lib Lib.Utf8 Lib.Interleaving

/-- `Slot`, with the `SlotState` its mutex guards and the thread that holds the mutex.
    Numbers are `u64`s that are counted up from zero. -/
structure Slot where
  frame : Option Bytes
  seq : Nat
  consumed : Bool
  drops : Nat
  stopping : Bool
  writers : Nat
  holder : Option Nat
  deriving Repr, DecidableEq

namespace Slot

def new : Slot where
  frame := none
  seq := 0
  consumed := false
  drops := 0
  stopping := false
  writers := 0
  holder := none

variable (slot : Slot)

def lock (me : Nat) : Option Slot :=
  if slot.holder = none then some { slot with holder := some me } else none

def unlock : Slot := { slot with holder := none }

def frames : Nat := slot.seq

/-- The end of `publish`, with the lock. -/
def store (frame : Bytes) : Slot :=
  { slot with
    frame := some frame
    seq := slot.seq + 1
    consumed := false }.unlock

end Slot

/-- Where a thread is. -/
inductive Point where
  /-- A connection that has no thread yet, or whoever stops the proxy. -/
  | outside
  /-- `pump_upstream`, between two frames. -/
  | pumping
  /-- `publish`, with the lock. -/
  | publishing (frame : Bytes)
  /-- Before the drop is counted. -/
  | counting (frame : Bytes)
  | storing (frame : Bytes)
  /-- `write_downstream`, outside `next_frame`. -/
  | serving (lastSeq : Nat)
  /-- `next_frame`, before the lock or in `wait_timeout`. -/
  | waiting (lastSeq : Nat)
  | locked (lastSeq : Nat)
  /-- Behind the look at `stopping`. -/
  | looking (lastSeq : Nat)
  | leaving
  | gone
  deriving Repr, DecidableEq

inductive Action where
  | publish (frame : Bytes)
  | go
  /-- A writer that is done, or whose socket fails. -/
  | leave
  | stop
  deriving Repr, DecidableEq

/-- The loop of `next_frame`, behind its look at `stopping`. -/
def look (slot : Slot) (lastSeq : Nat) : Slot × Point :=
  if lastSeq < slot.seq then ({ slot with consumed := true }.unlock, .serving slot.seq)
  else (slot.unlock, .waiting lastSeq)

def advance : Thread Slot Point Action := fun me slot point action =>
  match point, action with
  | .outside, .stop | .pumping, .stop => some ({ slot with stopping := true }, point)
  | .pumping, .publish frame => (slot.lock me).map fun slot => (slot, .publishing frame)
  | .publishing frame, .go =>
      if 0 < slot.seq ∧ slot.consumed = false ∧ 0 < slot.writers then
        some (slot, .counting frame)
      else some (slot, .storing frame)
  | .counting frame, .go => some ({ slot with drops := slot.drops + 1 }, .storing frame)
  | .storing frame, .go => some (slot.store frame, .pumping)
  | .outside, .go => some ({ slot with writers := slot.writers + 1 }, .serving 0)
  | .serving lastSeq, .go => some (slot, .waiting lastSeq)
  | .waiting lastSeq, .go => (slot.lock me).map fun slot => (slot, .locked lastSeq)
  | .locked lastSeq, .go =>
      if slot.stopping then some (slot.unlock, .leaving) else some (slot, .looking lastSeq)
  | .looking lastSeq, .go => some (look slot lastSeq)
  | .serving _, .leave | .leaving, .leave =>
      some ({ slot with writers := slot.writers - 1 }, .gone)
  | _, _ => none

/-- The pump is thread 0. -/
def initial : Pool Slot Point := ⟨.new, fun i => if i = 0 then .pumping else .outside⟩

/-! ### What happened -/

/-- A frame that `next_frame` returned, and how many were published by then. -/
structure Take where
  writer : Nat
  seq : Nat
  frame : Option Bytes
  newest : Nat
  deriving Repr, DecidableEq

/-- A frame that a publish overwrites, and whether a writer was registered at that. -/
structure Overwrite where
  seq : Nat
  registered : Bool
  deriving Repr, DecidableEq

structure History where
  published : List Bytes
  takes : List Take
  overwritten : List Overwrite
  /-- The writers between their `fetch_add` and their `fetch_sub`. -/
  registered : List Nat

namespace History

def empty : History := ⟨[], [], [], []⟩

variable (history : History)

def taken (seq : Nat) : Bool := history.takes.any fun take => take.seq = seq

/-- The frames that no writer took and that were overwritten with one registered. -/
def lost : List Overwrite :=
  history.overwritten.filter fun overwrite => overwrite.registered && !history.taken overwrite.seq

/-- What a writer took, in its order. -/
def received (writer : Nat) : List Take := history.takes.filter fun take => take.writer = writer

end History

def note (me : Nat) (slot : Slot) (point : Point) (action : Action) (history : History) :
    History :=
  match point, action with
  | .publishing _, .go =>
      if 0 < slot.seq then
        { history with
          overwritten := history.overwritten ++ [⟨slot.seq, !history.registered.isEmpty⟩] }
      else history
  | .storing frame, .go => { history with published := history.published ++ [frame] }
  | .outside, .go => { history with registered := me :: history.registered }
  | .looking lastSeq, .go =>
      if lastSeq < slot.seq then
        { history with
          takes := history.takes ++ [⟨me, slot.seq, slot.frame, history.published.length⟩] }
      else history
  | .serving _, .leave | .leaving, .leave =>
      { history with registered := history.registered.erase me }
  | _, _ => history

def advanceNoted : Thread (Slot × History) Point Action := noted note advance

def initialNoted : Pool (Slot × History) Point := ⟨(initial.shared, .empty), initial.threads⟩

theorem run_advanceNoted (events : List (Event Action)) :
    (run advanceNoted initialNoted events).map Pool.unnoted = run advance initial events :=
  run_noted note initialNoted events

/-! ### What a step can do -/

/-- The steps of a thread, with what is noted of each. -/
inductive Move (me : Nat) (slot : Slot) (history : History) : Point → Slot → History → Point → Prop
  | stop {point : Point} (quiet : point = .outside ∨ point = .pumping) :
      Move me slot history point { slot with stopping := true } history point
  | publish {frame : Bytes} (free : slot.holder = none) :
      Move me slot history .pumping { slot with holder := some me } history (.publishing frame)
  | count {frame : Bytes} {point : Point}
      (counts : point = if 0 < slot.seq ∧ slot.consumed = false ∧ 0 < slot.writers then
        .counting frame else .storing frame) :
      Move me slot history (.publishing frame) slot
        (note me slot (.publishing frame) .go history) point
  | drop {frame : Bytes} :
      Move me slot history (.counting frame) { slot with drops := slot.drops + 1 } history
        (.storing frame)
  | store {frame : Bytes} :
      Move me slot history (.storing frame) (slot.store frame)
        { history with published := history.published ++ [frame] } .pumping
  | register :
      Move me slot history .outside { slot with writers := slot.writers + 1 }
        { history with registered := me :: history.registered } (.serving 0)
  | call {lastSeq : Nat} :
      Move me slot history (.serving lastSeq) slot history (.waiting lastSeq)
  | lock {lastSeq : Nat} (free : slot.holder = none) :
      Move me slot history (.waiting lastSeq) { slot with holder := some me } history
        (.locked lastSeq)
  | stopped {lastSeq : Nat} :
      Move me slot history (.locked lastSeq) slot.unlock history .leaving
  | running {lastSeq : Nat} :
      Move me slot history (.locked lastSeq) slot history (.looking lastSeq)
  | take {lastSeq : Nat} (newer : lastSeq < slot.seq) :
      Move me slot history (.looking lastSeq) { slot with consumed := true }.unlock
        { history with
          takes := history.takes ++ [⟨me, slot.seq, slot.frame, history.published.length⟩] }
        (.serving slot.seq)
  | wait {lastSeq : Nat} (old : ¬ lastSeq < slot.seq) :
      Move me slot history (.looking lastSeq) slot.unlock history (.waiting lastSeq)
  | leave {point : Point} (done : point = .leaving ∨ ∃ lastSeq, point = .serving lastSeq) :
      Move me slot history point { slot with writers := slot.writers - 1 }
        { history with registered := history.registered.erase me } .gone

theorem Slot.lock_eq_some {slot slot' : Slot} {me : Nat} :
    slot.lock me = some slot' ↔ slot.holder = none ∧ { slot with holder := some me } = slot' := by
  simp only [lock, Option.ite_none_right_eq_some, Option.some.injEq]

theorem Move.of_advance {me : Nat} {slot slot' : Slot} {history : History} {point point' : Point}
    {action : Action} (acted : advance me slot point action = some (slot', point')) :
    Move me slot history point slot' (note me slot point action history) point' := by
  unfold advance at acted
  split at acted
  case h_1 =>
    cases acted
    exact .stop (.inl rfl)
  case h_2 =>
    cases acted
    exact .stop (.inr rfl)
  case h_3 frame =>
    simp only [Option.map_eq_some_iff, Slot.lock_eq_some, Prod.mk.injEq] at acted
    obtain ⟨_, ⟨free, rfl⟩, rfl, rfl⟩ := acted
    exact .publish free
  case h_4 frame =>
    split at acted
    · rename_i counts
      cases acted
      exact .count (if_pos counts).symm
    · rename_i counts
      cases acted
      exact .count (if_neg counts).symm
  case h_5 =>
    cases acted
    exact .drop
  case h_6 =>
    cases acted
    exact .store
  case h_7 =>
    cases acted
    exact .register
  case h_8 =>
    cases acted
    exact .call
  case h_9 =>
    simp only [Option.map_eq_some_iff, Slot.lock_eq_some, Prod.mk.injEq] at acted
    obtain ⟨_, ⟨free, rfl⟩, rfl, rfl⟩ := acted
    exact .lock free
  case h_10 =>
    split at acted
    · cases acted
      exact .stopped
    · cases acted
      exact .running
  case h_11 =>
    simp only [look, note] at acted ⊢
    split at acted
    · rename_i newer
      cases acted
      rw [if_pos newer]
      exact .take newer
    · rename_i old
      cases acted
      rw [if_neg old]
      exact .wait old
  case h_12 =>
    cases acted
    exact .leave (.inr ⟨_, rfl⟩)
  case h_13 =>
    cases acted
    exact .leave (.inl rfl)
  case h_14 => cases acted

/-- Non-interference, by the moves. -/
theorem Move.everywhere {whole : Slot × History → Prop} {each : Nat → Slot × History → Point → Prop}
    {pool next : Pool (Slot × History) Point} {event : Event Action}
    (h : Everywhere whole each pool) (stepped : step advanceNoted pool event = some next)
    (own : ∀ slot history point,
      Move event.1 pool.shared.1 pool.shared.2 (pool.threads event.1) slot history point →
        whole (slot, history) ∧ each event.1 (slot, history) point)
    (other : ∀ slot history point j,
      Move event.1 pool.shared.1 pool.shared.2 (pool.threads event.1) slot history point →
        j ≠ event.1 → each j pool.shared (pool.threads j) →
          each j (slot, history) (pool.threads j)) : Everywhere whole each next := by
  refine h.step stepped (fun shared point acted => ?_) fun shared point j acted => ?_
  · obtain ⟨slot, point, acted, same⟩ := noted_some acted
    cases same
    exact own _ _ _ (.of_advance acted)
  · obtain ⟨slot, point, acted, same⟩ := noted_some acted
    cases same
    exact other _ _ _ j (.of_advance acted)

end QuadControl.Ios.Mjpeg
