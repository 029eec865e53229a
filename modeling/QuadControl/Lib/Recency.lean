import Mathlib.Data.List.Dedup
import Mathlib.Data.List.Infix

/-! # What was seen most recently

The distinct elements of a history, the one seen last first; and a short list that is
kept from one sighting to the next, which is the beginning of it.
-/

namespace QuadControl.Lib

variable {α : Type*} [DecidableEq α]

/-- The distinct elements of a history by their last sighting, newest first. -/
def recency (history : List α) : List α := history.dedup.reverse

/-- A sighting puts the element at the front of a list of limited length. -/
def touch (limit : Nat) (list : List α) (x : α) : List α :=
  (x :: list.filter (· ≠ x)).take limit

/-- After the last sighting of `y` there was one of `x`. -/
def SeenLater (history : List α) (x y : α) : Prop :=
  ∃ before after, history = before ++ x :: after ∧ y ∈ before ∧ y ∉ x :: after

variable {history : List α} {x : α}

theorem recency_nodup (history : List α) : (recency history).Nodup :=
  List.nodup_reverse.mpr history.nodup_dedup

theorem mem_recency : x ∈ recency history ↔ x ∈ history := by
  rw [recency, List.mem_reverse, List.mem_dedup]

theorem dedup_concat (history : List α) (x : α) :
    (history ++ [x]).dedup = history.dedup.filter (· ≠ x) ++ [x] := by
  induction history with
  | nil => rfl
  | cons y rest ih =>
      by_cases seen : y ∈ rest
      · rw [List.cons_append, List.dedup_cons_of_mem (List.mem_append_left _ seen),
          List.dedup_cons_of_mem seen, ih]
      · by_cases same : y = x
        · subst same
          rw [List.cons_append, List.dedup_cons_of_mem (by simp), List.dedup_cons_of_notMem seen,
            ih, List.filter_cons_of_neg (by simp)]
        · have fresh : y ∉ rest ++ [x] := by simp [seen, same]
          rw [List.cons_append, List.dedup_cons_of_notMem fresh, List.dedup_cons_of_notMem seen, ih,
            List.filter_cons_of_pos (by simpa using same), List.cons_append]

theorem recency_concat (history : List α) (x : α) :
    recency (history ++ [x]) = x :: (recency history).filter (· ≠ x) := by
  rw [recency, dedup_concat, List.reverse_append, List.reverse_singleton, List.singleton_append,
    ← List.filter_reverse, recency]

/-- The order is that of the last sightings. -/
theorem recency_pairwise (history : List α) : (recency history).Pairwise (SeenLater history) := by
  induction history using List.reverseRecOn with
  | nil => exact .nil
  | append_singleton history x ih =>
      rw [recency_concat, List.pairwise_cons]
      constructor
      · intro y inside
        obtain ⟨inside, other⟩ := List.mem_filter.mp inside
        exact ⟨history, [], rfl, mem_recency.mp inside, by simpa using other⟩
      · refine (ih.filter _).imp_of_mem ?_
        rintro y z inside inside' ⟨before, after, rfl, earlier, gone⟩
        have other : z ≠ x := by simpa using (List.mem_filter.mp inside').2
        refine ⟨before, after ++ [x], by simp, earlier, ?_⟩
        rw [← List.cons_append, List.mem_append, List.mem_singleton]
        exact not_or.mpr ⟨gone, other⟩

/-- What a list without duplicates loses with one element is at most one place. -/
theorem take_filter_take {list : List α} (nodup : list.Nodup) (limit : Nat) (x : α) :
    ((list.take (limit + 1)).filter (· ≠ x)).take limit = (list.filter (· ≠ x)).take limit := by
  have kept : (list.take (limit + 1)).filter (· ≠ x) = (list.take (limit + 1)).erase x := by
    rw [(nodup.sublist (List.take_sublist _ _)).erase_eq_filter x]
    exact List.filter_congr fun y _ => by rw [Bool.eq_iff_iff]; simp
  conv_rhs => rw [← List.take_append_drop (limit + 1) list, List.filter_append]
  rcases le_or_gt list.length (limit + 1) with short | long
  · rw [List.drop_eq_nil_of_le short, List.filter_nil, List.append_nil]
  · have full : (list.take (limit + 1)).length = limit + 1 := List.length_take_of_le long.le
    have enough : limit ≤ ((list.take (limit + 1)).filter (· ≠ x)).length := by
      rw [kept]
      have := List.le_length_erase (l := list.take (limit + 1)) (a := x)
      omega
    rw [List.take_append_of_le_length enough]

theorem touch_take {list : List α} (nodup : list.Nodup) (limit : Nat) (x : α) :
    touch limit (list.take limit) x = (x :: list.filter (· ≠ x)).take limit := by
  cases limit with
  | zero => rfl
  | succ limit => rw [touch, List.take_succ_cons, List.take_succ_cons, take_filter_take nodup]

/-- A list that only ever keeps its first places still has the newest of the history. -/
theorem foldl_touch (limit : Nat) (history : List α) :
    history.foldl (touch limit) [] = (recency history).take limit := by
  induction history using List.reverseRecOn with
  | nil => simp [recency]
  | append_singleton history x ih =>
      rw [List.foldl_append, ih, List.foldl_cons, List.foldl_nil,
        touch_take (recency_nodup history), recency_concat]

end QuadControl.Lib
