import QuadControl.Apple.AndroidDisplay
import QuadControl.Lib.Parts

/-! # The sizes of lines

What a text of several lines says of the display's size against what its lines say: the text
gives the first match only. A line that is cut says as much apart as in one, if no match
is cut and its matches are not on both sides.
-/

namespace QuadControl.Apple

open Lib

/-- The positive numbers of a match. -/
def positive (pair : Text × Text) : Option CGSize := do
  let width ← parseInt pair.1
  let height ← parseInt pair.2
  if 0 < width ∧ 0 < height then some ⟨width, height⟩ else none

/-- The prefix of the current size. -/
def cur : Text := "cur".toList

/-- The current size a line states. -/
def stated (line : Text) : Option CGSize := sizeOf cur line

/-- The sizes that the lines of a text state. -/
def sizes (text : Text) : List CGSize := (Text.splitOn '\n' text).filterMap stated

/-- Two parts of a line whose matches are all in one of them. -/
def Apart (part rest : Text) : Prop :=
  (∀ tail ∈ part.tails, tail ≠ [] → sizeHere cur (tail ++ rest) = sizeHere cur tail) ∧
    (findSize cur part = none ∨ findSize cur rest = none)

instance (part rest : Text) : Decidable (Apart part rest) :=
  inferInstanceAs (Decidable (_ ∧ _))

/-- The first match in a text is that of the last of its lines that states a size. -/
def Agrees (text : Text) : Prop :=
  ((Text.splitOn '\n' text).findSome? (findSize cur)).bind positive = (sizes text).getLast?

instance (text : Text) : Decidable (Agrees text) := inferInstanceAs (Decidable (_ = _))

variable {name part middle rest : Text}

theorem sizeOf_eq (name text : Text) : sizeOf name text = (findSize name text).bind positive := rfl

theorem stated_eq (line : Text) : stated line = (findSize cur line).bind positive := rfl

@[simp] theorem sizeHere_nil (name : Text) : sizeHere name [] = none := by
  cases name <;> rfl

@[simp] theorem findSize_nil (name : Text) : findSize name [] = none := rfl

/-! ### Lines -/

/-- No match goes beyond its line. -/
theorem sizeHere_line (oneLine : '\n' ∉ name) (line rest : Text) :
    sizeHere name (line ++ '\n' :: rest) = sizeHere name line := by
  have prefixed : '\n' ∉ name ++ ['='] := by simp [oneLine]
  have digit : isDecimalDigit '\n' = false := by decide
  unfold sizeHere
  rw [Text.stripPrefix_append_of_absent prefixed]
  cases Text.stripPrefix (name ++ ['=']) line with
  | none => rfl
  | some behind =>
      simp only [Option.map_some, Option.bind_eq_bind, Option.bind_some,
        Text.takeWhile_append_of_neg digit, Text.dropWhile_append_of_neg digit,
        Text.stripPrefix_append_of_absent (by decide : '\n' ∉ ['x'])]
      cases Text.stripPrefix ['x'] (behind.dropWhile isDecimalDigit) with
      | none => rfl
      | some behind =>
          simp only [Option.map_some, Option.bind_some, Text.takeWhile_append_of_neg digit]

theorem findSize_line (oneLine : '\n' ∉ name) (line rest : Text) :
    findSize name (line ++ '\n' :: rest) = (findSize name line).or (findSize name rest) := by
  induction line with
  | nil =>
      have ended := sizeHere_line oneLine [] rest
      rw [List.nil_append, sizeHere_nil] at ended
      rw [List.nil_append, findSize_nil, findSize, ended]
  | cons c line ih =>
      have here := sizeHere_line oneLine (c :: line) rest
      rw [List.cons_append] at here
      rw [List.cons_append, findSize, findSize, here, ih, Option.or_assoc]

/-- The first match is the first one of the first line that has one. -/
theorem findSize_splitOn (oneLine : '\n' ∉ name) (text : Text) :
    findSize name text = (Text.splitOn '\n' text).findSome? (findSize name) := by
  induction hlen : text.length using Nat.strong_induction_on generalizing text with
  | _ n ih =>
      subst hlen
      by_cases more : '\n' ∈ text
      · obtain ⟨line, rest, rfl, absent⟩ := List.eq_append_cons_of_mem more
        rw [findSize_line oneLine, Text.splitOn_append absent, List.findSome?_cons,
          ih rest.length (by simp; omega) rest rfl]
        cases findSize name line <;> rfl
      · rw [Text.splitOn_of_absent more, List.findSome?_singleton]

/-! ### Lines that are cut -/

theorem findSize_append
    (uncut : ∀ tail ∈ part.tails, tail ≠ [] → sizeHere name (tail ++ rest) = sizeHere name tail) :
    findSize name (part ++ rest) = (findSize name part).or (findSize name rest) := by
  induction part with
  | nil => rfl
  | cons c part ih =>
      have here := uncut (c :: part) (by simp) (List.cons_ne_nil _ _)
      have later := ih fun tail inside => uncut tail (by simp [inside])
      rw [List.cons_append] at here
      rw [List.cons_append, findSize, findSize, here, later, Option.or_assoc]

/-- A line states apart what it states in one, and once. -/
theorem Apart.stated (apart : Apart part rest) :
    (stated (part ++ rest)).toList = (Apple.stated part).toList ++ (Apple.stated rest).toList := by
  rw [stated_eq, stated_eq, stated_eq, findSize_append apart.1]
  rcases apart.2 with before | behind
  · rw [before]; rfl
  · rw [behind]; simp

theorem Apart.of_nil (rest : Text) : Apart [] rest :=
  ⟨fun _ inside nonempty => absurd (List.mem_singleton.mp inside) nonempty, .inl rfl⟩

/-- Of a line that is cut twice the first two parts are apart. -/
theorem Apart.narrow (first : Apart part (middle ++ rest)) (second : Apart (part ++ middle) rest) :
    Apart part middle := by
  refine ⟨fun tail inside nonempty => ?_, first.2.imp_right fun behind => ?_⟩
  · have suffix : tail ++ middle ∈ (part ++ middle).tails := by
      obtain ⟨front, rfl⟩ := (List.mem_tails _ _).mp inside
      exact (List.mem_tails _ _).mpr ⟨front, by simp⟩
    have longer := second.1 (tail ++ middle) suffix (by simp [nonempty])
    rw [← longer, List.append_assoc]
    exact first.1 tail inside nonempty
  · have whole := @findSize_append cur middle rest fun tail inside => second.1 tail (by
      obtain ⟨front, rfl⟩ := (List.mem_tails _ _).mp inside
      exact (List.mem_tails _ _).mpr ⟨part ++ front, by simp⟩)
    rw [behind] at whole
    exact (Option.or_eq_none_iff.mp whole.symm).1

theorem sizes_append {before behind : Text}
    (apart : Apart (Text.lastPart '\n' before) (Text.firstPart '\n' behind)) :
    sizes (before ++ behind) = sizes before ++ sizes behind :=
  Text.filterMap_splitOn_append apart.stated

/-- What is read between two cuts begins apart from what is before it. -/
theorem Apart.first {before text behind : Text}
    (cut : Apart (Text.lastPart '\n' before) (Text.firstPart '\n' (text ++ behind)))
    (next : Apart (Text.lastPart '\n' (before ++ text)) (Text.firstPart '\n' behind)) :
    Apart (Text.lastPart '\n' before) (Text.firstPart '\n' text) := by
  by_cases ended : '\n' ∈ text
  · rwa [Text.firstPart_append_of_mem ended] at cut
  · rw [Text.firstPart_append_of_absent ended] at cut
    rw [Text.lastPart_append_of_absent ended] at next
    rw [Text.firstPart_of_absent ended]
    exact cut.narrow next

end QuadControl.Apple
