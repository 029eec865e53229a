import QuadControl.Lib.Replace

/-! # Escapes undone by a replacement

What replacing does at the start of a text, and the escape of one character by a word of two
that a replacement undoes. Undoing reads an occurrence of the word that was there before as an
escape too, so that it gives back the texts without one and no others.
-/

namespace QuadControl.Lib

namespace Text

variable {p new s : Text} {a b c x : Char}

theorem replaceFrom_skip (k : Nat) (s : Text) :
    replaceFrom p new k s = replaceFrom p new 0 (s.drop k) := by
  induction k generalizing s with
  | zero => rfl
  | succ k ih =>
      cases s with
      | nil => rfl
      | cons x rest => rw [replaceFrom, ih, List.drop_succ_cons]

theorem replace_append (nonempty : p ≠ []) (s : Text) :
    replace p new (p ++ s) = new ++ replace p new s := by
  cases p with
  | nil => exact absurd rfl nonempty
  | cons x p =>
      have start : (x :: p).isPrefixOf (x :: (p ++ s)) = true := by
        rw [List.isPrefixOf_iff_prefix]
        exact List.prefix_append (x :: p) s
      rw [replace, List.cons_append, replaceFrom, if_pos start, replaceFrom_skip, replace]
      simp

theorem replace_cons_of_unmatched (other : ¬ p <+: x :: s) :
    replace p new (x :: s) = x :: replace p new s := by
  rw [← List.isPrefixOf_iff_prefix] at other
  rw [replace, replaceFrom, if_neg other, replace]

/-- Replacing one character goes character by character. -/
theorem replace_singleton (s : Text) :
    replace [c] new s = s.flatMap fun x => if x = c then new else [x] := by
  induction s with
  | nil => rfl
  | cons x s ih =>
      rw [List.flatMap_cons, ← ih]
      by_cases same : x = c
      · subst same
        rw [if_pos rfl]
        exact replace_append (List.cons_ne_nil _ _) s
      · rw [if_neg same]
        refine replace_cons_of_unmatched fun start => same ?_
        exact (List.cons_prefix_cons.mp start).1.symm

/-- A text as replacing goes through it: a match, or a character where none begins. -/
theorem replace_induction {motive : Text → Prop} (nonempty : p ≠ []) (nil : motive [])
    (matched : ∀ s, motive s → motive (p ++ s))
    (other : ∀ x s, ¬ p <+: x :: s → motive s → motive (x :: s)) (s : Text) : motive s := by
  induction hlen : s.length using Nat.strong_induction_on generalizing s with
  | _ n ih =>
      subst hlen
      by_cases start : p <+: s
      · obtain ⟨rest, rfl⟩ := start
        have positive := List.length_pos_iff.mpr nonempty
        refine matched rest (ih rest.length ?_ rest rfl)
        rw [List.length_append]
        omega
      · cases s with
        | nil => exact nil
        | cons x rest => exact other x rest start (ih rest.length (Nat.lt_succ_self _) rest rfl)

/-! ### The texts a replacement leaves alone -/

theorem length_replace_le (nonempty : p ≠ []) (shorter : new.length ≤ p.length) (s : Text) :
    (replace p new s).length ≤ s.length := by
  induction s using replace_induction nonempty with
  | nil => exact Nat.le_refl _
  | matched s ih =>
      rw [replace_append nonempty, List.length_append, List.length_append]
      exact Nat.add_le_add shorter ih
  | other x s none ih =>
      rw [replace_cons_of_unmatched none]
      exact Nat.succ_le_succ ih

theorem length_replace_lt (nonempty : p ≠ []) (shorter : new.length < p.length)
    (inside : p <:+: s) : (replace p new s).length < s.length := by
  induction s using replace_induction nonempty with
  | nil => exact absurd (List.infix_nil.mp inside) nonempty
  | matched s ih =>
      rw [replace_append nonempty, List.length_append, List.length_append]
      exact Nat.add_lt_add_of_lt_of_le shorter (length_replace_le nonempty shorter.le s)
  | other x s none ih =>
      rw [replace_cons_of_unmatched none]
      rcases List.infix_cons_iff.mp inside with start | later
      · exact absurd start none
      · exact Nat.succ_lt_succ (ih later)

theorem replace_eq_self (absent : ¬ p <:+: s) : replace p new s = s := by
  induction s with
  | nil => rfl
  | cons x s ih =>
      rw [replace_cons_of_unmatched fun start => absent start.isInfix,
        ih fun later => absent (List.infix_cons later)]

/-- A replacement by something shorter leaves the texts without a match alone, and no others. -/
theorem replace_eq_self_iff (shorter : new.length < p.length) :
    replace p new s = s ↔ ¬ p <:+: s := by
  have nonempty : p ≠ [] := List.length_pos_iff.mp (by omega)
  refine ⟨fun same inside => ?_, replace_eq_self⟩
  exact absurd (congrArg List.length same) (length_replace_lt nonempty shorter inside).ne

/-! ### The escape of one character -/

/-- A character that begins no word before the escape begins none behind it either. -/
theorem not_prefix_escaped (other : a ≠ b) (none : ¬ [a, b] <+: x :: s) :
    ¬ [a, b] <+: x :: replace [c] [a, b] s := by
  intro start
  obtain ⟨rfl, second⟩ := List.cons_prefix_cons.mp start
  cases s with
  | nil => exact absurd (List.prefix_nil.mp second) (List.cons_ne_nil _ _)
  | cons y s =>
      rw [replace_singleton, List.flatMap_cons] at second
      by_cases same : y = c
      · rw [if_pos same] at second
        exact other (List.cons_prefix_cons.mp second).1.symm
      · rw [if_neg same] at second
        obtain ⟨rfl, -⟩ := List.cons_prefix_cons.mp second
        exact none ⟨s, rfl⟩

/-- Undoing the escape undoes every occurrence of its word, whichever way it came there. -/
theorem replace_escaped (other : a ≠ b) (left : a ≠ c) (right : b ≠ c) (s : Text) :
    replace [a, b] [c] (replace [c] [a, b] s) = replace [a, b] [c] s := by
  have nonempty : [a, b] ≠ [] := List.cons_ne_nil _ _
  induction s using replace_induction nonempty with
  | nil => rfl
  | matched s ih =>
      have kept : replace [c] [a, b] ([a, b] ++ s) = [a, b] ++ replace [c] [a, b] s := by
        simp [replace_singleton, left, right]
      rw [kept, replace_append nonempty, replace_append nonempty, ih]
  | other x s none ih =>
      by_cases same : x = c
      · subst same
        have escaped : replace [x] [a, b] (x :: s) = [a, b] ++ replace [x] [a, b] s :=
          replace_append (List.cons_ne_nil _ _) s
        rw [escaped, replace_append nonempty, replace_cons_of_unmatched none, ih]
        rfl
      · have kept : replace [c] [a, b] (x :: s) = x :: replace [c] [a, b] s := by
          simp [replace_singleton, same]
        rw [kept, replace_cons_of_unmatched (not_prefix_escaped other none),
          replace_cons_of_unmatched none, ih]

/-- The texts that undoing the escape gives back. -/
theorem replace_escaped_eq_self_iff (other : a ≠ b) (left : a ≠ c) (right : b ≠ c) :
    replace [a, b] [c] (replace [c] [a, b] s) = s ↔ ¬ [a, b] <:+: s := by
  rw [replace_escaped other left right]
  exact replace_eq_self_iff (Nat.lt_succ_self _)

end Text

end QuadControl.Lib
