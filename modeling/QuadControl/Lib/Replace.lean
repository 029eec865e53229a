import QuadControl.Lib.Text

/-! # What a replacement leaves of its pattern

Replacing a pattern by a word between two brackets the pattern does not use leaves no
occurrence of it: a bracket stands between what is new and what was there, and no
occurrence crosses it.
-/

namespace QuadControl.Lib

variable {α : Type*}

/-- No occurrence crosses an element the pattern does not have. -/
theorem infix_of_append_cons {p s t : List α} {c : α} (absent : c ∉ p)
    (inside : p <:+: s ++ c :: t) : p <:+: s ∨ p <:+: t := by
  induction s with
  | nil =>
      rcases List.infix_cons_iff.mp inside with start | later
      · cases p with
        | nil => exact .inl List.infix_rfl
        | cons x rest =>
            obtain ⟨rfl, -⟩ := List.cons_prefix_cons.mp start
            exact absurd List.mem_cons_self absent
      · exact .inr later
  | cons x s ih =>
      rcases List.infix_cons_iff.mp inside with start | later
      · -- An occurrence at the start ends before the element.
        have upTo : x :: s ++ [c] <+: x :: s ++ c :: t := ⟨t, by simp⟩
        rcases List.prefix_or_prefix_of_prefix start upTo with short | long
        · rcases List.prefix_concat_iff.mp short with whole | short
          · exact absurd (by simp [whole]) absent
          · exact .inl short.isInfix
        · exact absurd (long.mem (by simp)) absent
      · exact (ih later).imp_left List.infix_cons

namespace Text

variable {p word s : Text} {c d : Char}

/-- A replacement that begins with a character a text does not have makes no new
    beginning of that text. -/
theorem prefix_of_prefix_replaceFrom {q : Text} (absent : c ∉ q)
    (start : q <+: replaceFrom p (c :: word) 0 s) : q <+: s := by
  induction s generalizing q with
  | nil => exact start
  | cons x rest ih =>
      cases q with
      | nil => exact List.nil_prefix
      | cons y q =>
          obtain ⟨other, absent⟩ := not_or.mp (List.mem_cons.not.mp absent)
          unfold replaceFrom at start
          split at start
          · exact absurd (List.cons_prefix_cons.mp start).1.symm other
          · obtain ⟨rfl, later⟩ := List.cons_prefix_cons.mp start
            exact List.cons_prefix_cons.mpr ⟨rfl, ih absent later⟩

theorem not_infix_replaceFrom (nonempty : p ≠ []) (freshLeft : c ∉ p) (freshRight : d ∉ p)
    (other : ¬ p <:+: word) (skip : Nat) :
    ¬ p <:+: replaceFrom p (c :: word ++ [d]) skip s := by
  fun_induction replaceFrom p (c :: word ++ [d]) skip s with
  | case1 skip => exact fun inside => nonempty (List.infix_nil.mp inside)
  | case2 skip x rest ih => exact ih
  | case3 x rest _ ih =>
      intro inside
      rw [List.append_assoc, List.cons_append, List.singleton_append] at inside
      rcases infix_of_append_cons (s := []) freshLeft inside with before | after
      · exact nonempty (List.infix_nil.mp before)
      · exact (infix_of_append_cons freshRight after).elim other ih
  | case4 x rest unmatched ih =>
      intro inside
      rcases List.infix_cons_iff.mp inside with start | later
      · apply unmatched
        rw [List.isPrefixOf_iff_prefix]
        refine @prefix_of_prefix_replaceFrom p (word ++ [d]) (x :: rest) c p freshLeft ?_
        unfold replaceFrom
        rwa [if_neg unmatched]
      · exact ih later

/-- Replacing leaves no occurrence of the pattern: neither one of the text, nor one that
    the replacements make with each other or with what stands around them. -/
theorem not_infix_replace (nonempty : p ≠ []) (freshLeft : c ∉ p) (freshRight : d ∉ p)
    (other : ¬ p <:+: word) : ¬ p <:+: replace p (c :: word ++ [d]) s :=
  not_infix_replaceFrom nonempty freshLeft freshRight other 0

end Text

end QuadControl.Lib
