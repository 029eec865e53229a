import QuadControl.Lib.Words

/-! # The parts of a text that is cut

A text's parts between a separator, where the text is put together of two: the last part of the
one and the first part of the other become one part, the others stay as they are.
-/

namespace QuadControl.Lib

namespace Text

variable {β : Type*} {c : Char} {s t : Text}

/-- The part behind the last separator. -/
def lastPart (c : Char) (s : Text) : Text := (splitOn c s).getLastD []

/-- The part before the first separator. -/
def firstPart (c : Char) (s : Text) : Text := (splitOn c s).headD []

theorem splitOn_eq_concat (c : Char) (s : Text) :
    splitOn c s = (splitOn c s).dropLast ++ [lastPart c s] := by
  rw [lastPart, List.getLastD_eq_getLast?, List.getLast?_eq_some_getLast (splitOn_ne_nil c s)]
  exact (List.dropLast_concat_getLast _).symm

theorem splitOn_eq_cons (c : Char) (s : Text) :
    splitOn c s = firstPart c s :: (splitOn c s).tail := by
  obtain ⟨part, parts, shape⟩ := List.exists_cons_of_ne_nil (splitOn_ne_nil c s)
  rw [firstPart, shape]
  rfl

theorem splitOn_cons_of_ne {x : Char} (other : x ≠ c) (s : Text) :
    splitOn c (x :: s) = (x :: firstPart c s) :: (splitOn c s).tail := by
  rw [splitOn, if_neg other, splitOn_eq_cons c s]
  rfl

theorem splitOn_append_of_eq {parts : List Text} {last : Text} (t : Text)
    (shape : splitOn c s = parts ++ [last]) :
    splitOn c (s ++ t) = parts ++ (last ++ firstPart c t) :: (splitOn c t).tail := by
  induction s generalizing parts last with
  | nil =>
      obtain ⟨rfl, rfl⟩ : parts = [] ∧ last = [] := by
        have alone : [] ++ [[]] = parts ++ [last] := shape
        obtain ⟨rfl, single⟩ := List.append_inj' alone rfl
        exact ⟨rfl, (List.singleton_inj.mp single).symm⟩
      exact splitOn_eq_cons c t
  | cons x s ih =>
      have whole := splitOn_eq_concat c s
      have behind := ih whole
      by_cases same : x = c
      · have separated (rest : Text) : splitOn c (x :: rest) = [] :: splitOn c rest := by
          rw [splitOn, if_pos same]
        rw [separated, whole, ← List.cons_append] at shape
        obtain ⟨rfl, single⟩ := List.append_inj' shape rfl
        rw [List.cons_append, separated, behind, List.singleton_inj.mp single]
        rfl
      · rw [splitOn_cons_of_ne same, firstPart] at shape
        rw [List.cons_append, splitOn_cons_of_ne same, firstPart, behind]
        -- The character joins the first part, which may be the last one too.
        cases before : (splitOn c s).dropLast with
        | nil =>
            rw [whole, before] at shape
            have joined : [] ++ [x :: lastPart c s] = parts ++ [last] := shape
            obtain ⟨rfl, single⟩ := List.append_inj' joined rfl
            rw [← List.singleton_inj.mp single]
            rfl
        | cons part between =>
            rw [whole, before] at shape
            have joined : (x :: part) :: between ++ [lastPart c s] = parts ++ [last] := shape
            obtain ⟨rfl, single⟩ := List.append_inj' joined rfl
            rw [← List.singleton_inj.mp single]
            rfl

theorem splitOn_append_parts (c : Char) (s t : Text) :
    splitOn c (s ++ t) =
      (splitOn c s).dropLast ++ (lastPart c s ++ firstPart c t) :: (splitOn c t).tail :=
  splitOn_append_of_eq t (splitOn_eq_concat c s)

theorem firstPart_of_absent (absent : c ∉ s) : firstPart c s = s := by
  rw [firstPart, splitOn_of_absent absent]
  rfl

theorem lastPart_of_absent (absent : c ∉ s) : lastPart c s = s := by
  rw [lastPart, splitOn_of_absent absent]
  rfl

theorem lastPart_append_of_absent (absent : c ∉ t) : lastPart c (s ++ t) = lastPart c s ++ t := by
  rw [lastPart, splitOn_append_parts, splitOn_of_absent absent, firstPart_of_absent absent]
  simp

theorem firstPart_append_of_absent (absent : c ∉ s) :
    firstPart c (s ++ t) = s ++ firstPart c t := by
  rw [firstPart, splitOn_append_parts, splitOn_of_absent absent, lastPart_of_absent absent]
  rfl

/-- A separator ends the first part, whatever is behind it. -/
theorem firstPart_append_of_mem (present : c ∈ s) (t : Text) :
    firstPart c (s ++ t) = firstPart c s := by
  induction s with
  | nil => cases present
  | cons x s ih =>
      by_cases same : x = c
      · rw [firstPart, firstPart, List.cons_append, splitOn, splitOn, if_pos same, if_pos same]
        rfl
      · have later := ih ((List.mem_cons.mp present).resolve_left (Ne.symm same))
        rw [firstPart, firstPart, List.cons_append, splitOn_cons_of_ne same,
          splitOn_cons_of_ne same, later]
        rfl

/-- What is read of the parts of two texts together, where the two parts that become one are
    read as they are apart. -/
theorem filterMap_splitOn_append {f : Text → Option β}
    (apart : (f (lastPart c s ++ firstPart c t)).toList =
      (f (lastPart c s)).toList ++ (f (firstPart c t)).toList) :
    (splitOn c (s ++ t)).filterMap f = (splitOn c s).filterMap f ++ (splitOn c t).filterMap f := by
  have read (part : Text) (parts : List Text) :
      (part :: parts).filterMap f = (f part).toList ++ parts.filterMap f := by
    cases shown : f part <;> simp [shown]
  rw [splitOn_append_parts, splitOn_eq_concat c s, splitOn_eq_cons c t, List.filterMap_append,
    List.filterMap_append, read, read, read, apart]
  simp

/-- The parts of lines that are all ended. -/
theorem splitOn_lines {lines : List Text} (whole : ∀ line ∈ lines, c ∉ line) :
    splitOn c (lines.flatMap (· ++ [c])) = lines ++ [[]] := by
  induction lines with
  | nil => rfl
  | cons line lines ih =>
      rw [List.flatMap_cons, List.append_assoc, List.singleton_append,
        splitOn_append (whole line List.mem_cons_self),
        ih fun other inside => whole other (List.mem_cons_of_mem _ inside)]
      rfl

/-! ### What stops at a separator -/

theorem stripPrefix_append_of_absent {p : Text} (absent : c ∉ p) (s t : Text) :
    stripPrefix p (s ++ c :: t) = (stripPrefix p s).map (· ++ c :: t) := by
  induction p generalizing s with
  | nil => simp [stripPrefix, List.isPrefixOf?]
  | cons x p ih =>
      obtain ⟨other, absent⟩ := not_or.mp (List.mem_cons.not.mp absent)
      cases s with
      | nil => simp [stripPrefix, List.isPrefixOf?, Ne.symm other]
      | cons y s =>
          have later := ih absent s
          simp only [stripPrefix] at later
          by_cases same : x = y
          · simp [stripPrefix, List.isPrefixOf?, same, later]
          · simp [stripPrefix, List.isPrefixOf?, same]

theorem takeWhile_append_of_neg {p : Char → Bool} (stops : p c = false) (s t : Text) :
    (s ++ c :: t).takeWhile p = s.takeWhile p := by
  induction s with
  | nil => rw [List.nil_append, List.takeWhile_cons_of_neg (by simp [stops]), List.takeWhile_nil]
  | cons x s ih => simp [List.takeWhile_cons, ih]

theorem dropWhile_append_of_neg {p : Char → Bool} (stops : p c = false) (s t : Text) :
    (s ++ c :: t).dropWhile p = s.dropWhile p ++ c :: t := by
  induction s with
  | nil => rw [List.nil_append, List.dropWhile_cons_of_neg (by simp [stops])]; rfl
  | cons x s ih =>
      rw [List.cons_append, List.dropWhile_cons, List.dropWhile_cons, ih]
      split <;> rfl

end Text

end QuadControl.Lib
