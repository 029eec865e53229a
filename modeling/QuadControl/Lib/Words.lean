import QuadControl.Lib.Text

/-! # Lines and words

Output of a program is read line by line and word by word: how text that was put together
of lines, words and blanks comes apart again, and what is found behind the first or the last
of some pattern in a word.
-/

namespace QuadControl.Lib

/-! ### First hits -/

section

variable {α β : Type} {p : α → Bool}

theorem findIdx?_hit {before : List α} {x : α} (after : List α) (missed : ∀ y ∈ before, p y = false)
    (hit : p x = true) : (before ++ x :: after).findIdx? p = some before.length := by
  have none : before.findIdx? p = none := List.findIdx?_eq_none_iff.mpr missed
  simp [List.findIdx?_append, List.findIdx?_cons, none, hit]

theorem findIdx?_some {l : List α} {i : Nat} (found : l.findIdx? p = some i) :
    ∃ (before : List α) (x : α) (after : List α), l = before ++ x :: after ∧ before.length = i ∧
      p x = true ∧ ∀ y ∈ before, p y = false := by
  induction l generalizing i with
  | nil => cases found
  | cons y l ih =>
      rw [List.findIdx?_cons] at found
      split at found
      · rename_i hit
        cases found
        exact ⟨[], y, l, rfl, rfl, hit, nofun⟩
      · rename_i missed
        obtain ⟨j, later, rfl⟩ := Option.map_eq_some_iff.mp found
        obtain ⟨before, x, after, rfl, rfl, hit, earlier⟩ := ih later
        refine ⟨y :: before, x, after, rfl, rfl, hit, ?_⟩
        simpa [missed] using earlier

/-- Two filters of which one keeps what the other keeps, and maybe more, and that come to the
    same list, agree everywhere. -/
theorem filterMap_agree {f g : α → Option β} {l : List α}
    (keeps : ∀ a ∈ l, g a = none ∨ f a = g a) (same : l.filterMap f = l.filterMap g) :
    ∀ a ∈ l, f a = g a := by
  have shorter : ∀ l : List α, (∀ a ∈ l, g a = none ∨ f a = g a) →
      (l.filterMap g).length ≤ (l.filterMap f).length := by
    intro l keeps
    induction l with
    | nil => simp
    | cons a l ih =>
        have rest := ih fun b inside => keeps b (.tail _ inside)
        rcases keeps a (.head _) with none | equal
        · cases kept : f a <;> simp [none, kept] <;> omega
        · cases kept : g a <;> simp [equal, kept, rest]
  induction l with
  | nil => nofun
  | cons a l ih =>
      have later := fun b (inside : b ∈ l) => keeps b (.tail _ inside)
      have here : f a = g a := by
        rcases keeps a (.head _) with none | equal
        · cases kept : f a with
          | none => exact none.symm
          | some b =>
              have lengths := congrArg List.length same
              have rest := shorter l later
              simp only [List.filterMap_cons, none, kept, List.length_cons] at lengths
              omega
        · exact equal
      have same' : l.filterMap f = l.filterMap g := by
        cases kept : g a with
        | none => simpa [List.filterMap_cons, here, kept] using same
        | some b => simpa [List.filterMap_cons, here, kept] using same
      intro b inside
      rcases List.mem_cons.mp inside with rfl | inside
      · exact here
      · exact ih later same' b inside

end

namespace Text

/-! ### Lines -/

/-- A line loses the carriage return before its line feed. -/
def stripReturn (line : Text) : Text := (stripSuffix ['\r'] line).getD line

/-- `lines`: a line feed ends a line, and the last line may lack it. -/
def lines (s : Text) : List Text :=
  let pieces := splitOn '\n' s
  pieces.dropLast.map stripReturn ++ (pieces.getLast?.toList.filter (· ≠ []))

theorem splitOn_ne_nil (c : Char) (s : Text) : splitOn c s ≠ [] := by
  cases s with
  | nil => exact List.cons_ne_nil _ _
  | cons x rest =>
      unfold splitOn
      split
      · exact List.cons_ne_nil _ _
      · split <;> exact List.cons_ne_nil _ _

theorem stripReturn_eq_self {line : Text} (plain : line.getLast? ≠ some '\r') :
    stripReturn line = line := by
  have none : stripSuffix ['\r'] line = none := by
    rw [stripSuffix, Option.map_eq_none_iff, Option.eq_none_iff_forall_ne_some]
    intro rest found
    have shape := stripPrefix_eq_some.mp found
    exact plain (by rw [← List.head?_reverse, shape]; rfl)
  rw [stripReturn, none]
  rfl

/-- Lines that were printed, each with its line feed, are read. -/
theorem lines_printed {printed : List Text} (plain : ∀ line ∈ printed, '\n' ∉ line)
    (solid : ∀ line ∈ printed, line.getLast? ≠ some '\r') :
    lines (printed.flatMap (· ++ ['\n'])) = printed := by
  induction printed with
  | nil => rfl
  | cons line printed ih =>
      have rest := ih (fun other inside => plain other (.tail _ inside))
        (fun other inside => solid other (.tail _ inside))
      have split : splitOn '\n' ((line :: printed).flatMap (· ++ ['\n'])) =
          line :: splitOn '\n' (printed.flatMap (· ++ ['\n'])) := by
        rw [List.flatMap_cons, List.append_assoc]
        exact splitOn_append (plain line (.head _))
      obtain ⟨piece, pieces, shape⟩ :=
        List.exists_cons_of_ne_nil (splitOn_ne_nil '\n' (printed.flatMap (· ++ ['\n'])))
      simp only [lines, shape] at rest
      simp only [lines, split, shape, List.dropLast_cons_cons, List.map_cons,
        List.getLast?_cons_cons, stripReturn_eq_self (solid line (.head _)), List.cons_append, rest]

/-- A blank parts words. -/
theorem splitWhitespace_blank {s t : Text} {c : Char} (blank : isWhitespace c = true) :
    splitWhitespace (s ++ c :: t) = splitWhitespace s ++ splitWhitespace t := by
  simp only [splitWhitespace, List.splitOnP_append_cons s t blank, List.filter_append]

theorem splitWhitespace_skip {gap t : Text} (blank : ∀ c ∈ gap, isWhitespace c = true) :
    splitWhitespace (gap ++ t) = splitWhitespace t := by
  induction gap with
  | nil => rfl
  | cons c gap ih =>
      have parted := splitWhitespace_blank (s := []) (t := gap ++ t) (blank c (.head _))
      exact parted.trans (ih fun d inside => blank d (.tail _ inside))

/-- So does a gap of them. -/
theorem splitWhitespace_gap {s gap t : Text} (nonempty : gap ≠ [])
    (blank : ∀ c ∈ gap, isWhitespace c = true) :
    splitWhitespace (s ++ gap ++ t) = splitWhitespace s ++ splitWhitespace t := by
  obtain ⟨c, rest, rfl⟩ := List.exists_cons_of_ne_nil nonempty
  rw [List.append_assoc, List.cons_append, splitWhitespace_blank (blank c (.head _)),
    splitWhitespace_skip fun d inside => blank d (.tail _ inside)]

theorem splitWhitespace_word {s : Text} (nonempty : s ≠ [])
    (solid : ∀ c ∈ s, isWhitespace c = false) : splitWhitespace s = [s] := by
  simp [splitWhitespace, List.splitOnP_eq_singleton solid, nonempty]

/-- A gap at the end is none. -/
theorem splitWhitespace_ending {s ending : Text} (blank : ∀ c ∈ ending, isWhitespace c = true) :
    splitWhitespace (s ++ ending) = splitWhitespace s := by
  by_cases nonempty : ending = []
  · rw [nonempty, List.append_nil]
  · have parted := splitWhitespace_gap (s := s) (t := []) nonempty blank
    rw [List.append_nil] at parted
    exact parted.trans (List.append_nil _)

/-- What is trimmed off is no word. -/
theorem splitWhitespace_trim (s : Text) : splitWhitespace (trim s) = splitWhitespace s := by
  have front : splitWhitespace (trimEnd s) = splitWhitespace (trim s) := by
    conv_lhs => rw [← List.takeWhile_append_dropWhile (p := isWhitespace) (l := trimEnd s)]
    exact splitWhitespace_skip fun c inside => List.mem_takeWhile_imp inside
  have back : splitWhitespace s = splitWhitespace (trimEnd s) := by
    conv_lhs => rw [← List.rdropWhile_append_rtakeWhile (p := isWhitespace) (l := s)]
    exact splitWhitespace_ending fun c inside => List.mem_rtakeWhile_imp inside
  rw [back, front]

theorem splitWhitespace_stripReturn (line : Text) :
    splitWhitespace (stripReturn line) = splitWhitespace line := by
  rw [stripReturn]
  cases stripped : stripSuffix ['\r'] line with
  | none => rfl
  | some rest =>
      rw [stripSuffix, Option.map_eq_some_iff] at stripped
      obtain ⟨reversed, here, rfl⟩ := stripped
      have shape : line = reversed.reverse ++ ['\r'] := by
        rw [← List.reverse_reverse line, stripPrefix_eq_some.mp here]
        simp
      have blank : isWhitespace '\r' = true := by decide
      rw [shape, splitWhitespace_blank blank, Option.getD_some]
      exact (List.append_nil _).symm

/-- The words of the lines are those of the text. -/
theorem splitWhitespace_lines (s : Text) :
    (lines s).flatMap splitWhitespace = splitWhitespace s := by
  have pieces : (splitOn '\n' s).flatMap splitWhitespace = splitWhitespace s := by
    induction size : s.length using Nat.strong_induction_on generalizing s with
    | _ length ih =>
        by_cases inside : '\n' ∈ s
        · obtain ⟨line, rest, rfl, absent⟩ := List.eq_append_cons_of_mem inside
          have shorter : rest.length < length := by
            rw [← size, List.length_append, List.length_cons]
            omega
          rw [splitOn_append absent, List.flatMap_cons, ih _ shorter rest rfl,
            splitWhitespace_blank (by decide)]
        · rw [splitOn_of_absent inside, List.flatMap_singleton]
  have parts := List.dropLast_concat_getLast (splitOn_ne_nil '\n' s)
  have last : ((splitOn '\n' s).getLast?.toList.filter (· ≠ [])).flatMap splitWhitespace =
      splitWhitespace ((splitOn '\n' s).getLast (splitOn_ne_nil '\n' s)) := by
    rw [List.getLast?_eq_some_getLast (splitOn_ne_nil '\n' s)]
    by_cases empty : (splitOn '\n' s).getLast (splitOn_ne_nil '\n' s) = []
    · rw [empty]
      rfl
    · simp [empty]
  have others : ((splitOn '\n' s).dropLast.map stripReturn).flatMap splitWhitespace =
      (splitOn '\n' s).dropLast.flatMap splitWhitespace := by
    rw [List.flatMap_map]
    exact congrArg (List.flatMap · _) (funext splitWhitespace_stripReturn)
  have whole := congrArg (List.flatMap splitWhitespace) parts
  rw [List.flatMap_append, List.flatMap_singleton, pieces] at whole
  rw [lines, List.flatMap_append, others, last, whole]

/-- The visible characters of ASCII. -/
def isGraphic (c : Char) : Bool := 0x21 ≤ c.toNat && c.toNat ≤ 0x7e

theorem isWhitespace_of_isGraphic {c : Char} (graphic : isGraphic c = true) :
    isWhitespace c = false := by
  simp only [isGraphic, Bool.and_eq_true, decide_eq_true_eq] at graphic
  simp only [isWhitespace, Bool.or_eq_false_iff, Bool.and_eq_false_iff, decide_eq_false_iff_not]
  omega

theorem isGraphic_of_isDigit {c : Char} (digit : c.isDigit = true) : isGraphic c = true := by
  rw [Char.isDigit_iff_toNat] at digit
  have low : '0'.toNat = 48 := rfl
  have high : '9'.toNat = 57 := rfl
  simp only [isGraphic, Bool.and_eq_true, decide_eq_true_eq]
  omega

theorem isGraphic_of_isAlphanum {c : Char} (alphanum : c.isAlphanum = true) :
    isGraphic c = true := by
  have kinds : (c.isUpper || c.isLower || c.isDigit) = true := alphanum
  rw [Bool.or_eq_true, Bool.or_eq_true] at kinds
  rcases kinds with (upper | lower) | digit
  · have : 65 ≤ c.toNat ∧ c.toNat ≤ 90 := of_decide_eq_true upper
    simp only [isGraphic, Bool.and_eq_true, decide_eq_true_eq]
    omega
  · have : 97 ≤ c.toNat ∧ c.toNat ≤ 122 :=
      (Bool.and_eq_true_iff.mp lower).imp of_decide_eq_true of_decide_eq_true
    simp only [isGraphic, Bool.and_eq_true, decide_eq_true_eq]
    omega
  · exact isGraphic_of_isDigit digit

theorem isGraphic_of_mem_toDigits {c : Char} {n : Nat} (inside : c ∈ Nat.toDigits 10 n) :
    isGraphic c = true :=
  isGraphic_of_isDigit (Nat.isDigit_of_mem_toDigits (by decide) (by decide) inside)

/-- A text of visible characters is one word. -/
theorem splitWhitespace_graphic {s : Text} (nonempty : s ≠ [])
    (graphic : ∀ c ∈ s, isGraphic c = true) : splitWhitespace s = [s] :=
  splitWhitespace_word nonempty fun c inside => isWhitespace_of_isGraphic (graphic c inside)

/-! ### Patterns -/

/-- `trim_end_matches(c)` for a character. -/
def trimEndMatches (c : Char) (s : Text) : Text := s.rdropWhile (· = c)

theorem trimEndMatches_eq_self {c : Char} {s : Text} (last : s.getLast? ≠ some c) :
    trimEndMatches c s = s :=
  List.rdropWhile_eq_self_iff.mpr fun nonempty same => last (by
    rw [List.getLast?_eq_some_getLast nonempty, of_decide_eq_true same])

theorem getLast?_trimEndMatches (c : Char) (s : Text) : (trimEndMatches c s).getLast? ≠ some c := by
  intro last
  have nonempty : trimEndMatches c s ≠ [] := by
    rintro empty
    simp [empty] at last
  rw [List.getLast?_eq_some_getLast nonempty, Option.some.injEq] at last
  exact List.rdropWhile_last_not _ s nonempty (decide_eq_true last)

theorem trimEndMatches_concat (c : Char) (s : Text) :
    trimEndMatches c (s ++ [c]) = trimEndMatches c s :=
  List.rdropWhile_concat_pos _ _ _ (by simp)

/-- `rsplit_once(c)`: the parts before and after the last one. -/
def rsplitOnce (c : Char) (s : Text) : Option (Text × Text) :=
  (splitOnce c s.reverse).map fun (after, before) => (before.reverse, after.reverse)

theorem rsplitOnce_append {c : Char} {before after : Text} (absent : c ∉ after) :
    rsplitOnce c (before ++ c :: after) = some (before, after) := by
  have split : splitOnce c (before ++ c :: after).reverse = some (after.reverse, before.reverse) :=
    splitOnce_eq_some.mpr ⟨by simp, by simpa using absent⟩
  rw [rsplitOnce, split]
  simp

theorem rsplitOnce_of_absent {c : Char} {s : Text} (absent : c ∉ s) : rsplitOnce c s = none := by
  rw [rsplitOnce, splitOnce_eq_none.mpr (by simpa using absent)]
  rfl

/-- `split_once` at a text. -/
def splitOnceAt (p : Text) : Text → Option (Text × Text)
  | [] => if p = [] then some ([], []) else none
  | c :: rest =>
      match stripPrefix p (c :: rest) with
      | some after => some ([], after)
      | none => (splitOnceAt p rest).map fun (before, after) => (c :: before, after)

theorem splitOnceAt_some {p s before after : Text} (nonempty : p ≠ [])
    (split : splitOnceAt p s = some (before, after)) :
    s = before ++ p ++ after ∧ ¬ p <:+: before := by
  induction s generalizing before with
  | nil => simp [splitOnceAt, nonempty] at split
  | cons c rest ih =>
      unfold splitOnceAt at split
      split at split
      case h_1 found =>
          cases split
          exact ⟨stripPrefix_eq_some.mp found, by simp [List.infix_nil, nonempty]⟩
      case h_2 missed =>
          simp only [Option.map_eq_some_iff, Prod.mk.injEq, Prod.exists] at split
          obtain ⟨before, after, split, rfl, rfl⟩ := split
          obtain ⟨rfl, fresh⟩ := ih split
          refine ⟨by simp, fun inside => ?_⟩
          rcases List.infix_cons_iff.mp inside with ⟨more, shape⟩ | inside
          · have found : stripPrefix p (c :: (before ++ p ++ after)) =
                some (more ++ p ++ after) := by
              rw [stripPrefix_eq_some]
              simp only [← List.cons_append, ← shape, List.append_assoc]
            cases missed.symm.trans found
          · exact fresh inside

/-- A pattern that starts with a character of its own is found where it was put. -/
theorem splitOnceAt_append {c : Char} {p before after : Text} (own : c ∉ p)
    (fresh : ¬ (c :: p) <:+: before) :
    splitOnceAt (c :: p) (before ++ (c :: p) ++ after) = some (before, after) := by
  induction before with
  | nil =>
      have found : stripPrefix (c :: p) (c :: (p ++ after)) = some after := stripPrefix_append ..
      simp only [List.nil_append, List.cons_append, splitOnceAt, found]
  | cons x before ih =>
      have missed : stripPrefix (c :: p) (x :: (before ++ (c :: p) ++ after)) = none := by
        rw [Option.eq_none_iff_forall_ne_some]
        intro rest found
        have starts : (c :: p) <+: x :: before ++ (c :: p ++ after) :=
          ⟨rest, by rw [← stripPrefix_eq_some.mp found]; simp⟩
        rcases List.prefix_or_prefix_of_prefix starts (List.prefix_append _ _) with within | within
        · exact fresh within.isInfix
        · -- the rest of the pattern would start again inside of it
          obtain ⟨rest, shape⟩ := within
          rw [← shape, List.prefix_append_right_inj] at starts
          cases rest with
          | nil => exact fresh (by rw [← shape]; simp)
          | cons d rest =>
              rw [shape] at starts
              obtain ⟨rfl, -⟩ := List.cons_prefix_cons.mp starts
              obtain ⟨-, rfl⟩ := List.cons.inj shape
              exact own (by simp)
      have later := ih fun inside => fresh (List.infix_cons_iff.mpr (.inr inside))
      simp only [List.cons_append, splitOnceAt, missed] at later ⊢
      simp only [List.append_assoc, List.cons_append] at later
      simp [later]

end Text

end QuadControl.Lib
