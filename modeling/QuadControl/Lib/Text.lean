import Mathlib.Algebra.Group.Nat.Defs
import Mathlib.Data.List.Basic
import Mathlib.Data.List.DropRight
import Mathlib.Data.List.Infix

/-! # Text as lists of characters

The string operations of a systems language's standard library (`strip_prefix`,
`split_once`, `trim`, `eq_ignore_ascii_case`), over lists of characters so that
a program using them can be evaluated and reasoned about by recursion.
-/

namespace QuadControl.Lib

/-- A string, one entry a character. -/
abbrev Text := List Char

instance : LawfulBEq Text := inferInstance

namespace Text

/-- `strip_prefix`: what follows `p`, when `s` starts with it. -/
def stripPrefix (p s : Text) : Option Text := p.isPrefixOf? s

/-- `split_once`: the parts before and after the first `c`. -/
def splitOnce (c : Char) : Text → Option (Text × Text)
  | [] => none
  | x :: rest =>
      if x = c then some ([], rest)
      else (splitOnce c rest).map fun (before, after) => (x :: before, after)

/-- Unicode's `White_Space`, which `trim` strips. -/
def isWhitespace (c : Char) : Bool :=
  (0x09 ≤ c.toNat && c.toNat ≤ 0x0d) || c.toNat = 0x20 || c.toNat = 0x85 || c.toNat = 0xa0 ||
    c.toNat = 0x1680 || (0x2000 ≤ c.toNat && c.toNat ≤ 0x200a) || c.toNat = 0x2028 ||
    c.toNat = 0x2029 || c.toNat = 0x202f || c.toNat = 0x205f || c.toNat = 0x3000

def trimStart (s : Text) : Text := s.dropWhile isWhitespace

def trimEnd (s : Text) : Text := s.rdropWhile isWhitespace

def trim (s : Text) : Text := trimStart (trimEnd s)

/-- `trim_matches(c)` for a character. -/
def trimMatches (c : Char) (s : Text) : Text := (s.dropWhile (· = c)).rdropWhile (· = c)

/-- A pair of dashes. -/
def dashes : Text := ['-', '-']

/-- `trim_start_matches("--")`: all leading pairs of dashes. -/
def trimStartDashes : Text → Text
  | '-' :: '-' :: rest => trimStartDashes rest
  | s => s

/-- `trim_end_matches("--")`. -/
def trimEndDashes (s : Text) : Text := (trimStartDashes s.reverse).reverse

/-- `split(c)`. -/
def splitOn (c : Char) : Text → List Text
  | [] => [[]]
  | x :: rest =>
      if x = c then [] :: splitOn c rest
      else
        match splitOn c rest with
        | [] => [[x]]
        | part :: parts => (x :: part) :: parts

/-- `split_whitespace`: the pieces between blanks, none of them empty. -/
def splitWhitespace (s : Text) : List Text := (s.splitOnP isWhitespace).filter (· ≠ [])

/-- `strip_suffix`. -/
def stripSuffix (p s : Text) : Option Text := (stripPrefix p.reverse s.reverse).map List.reverse

/-- `replace` of a pattern that is not empty: from the left, each match once; what is left
    to skip is the rest of a match. -/
def replaceFrom (p new : Text) : Nat → Text → Text
  | _, [] => []
  | skip + 1, _ :: rest => replaceFrom p new skip rest
  | 0, x :: rest =>
      if p.isPrefixOf (x :: rest) then new ++ replaceFrom p new (p.length - 1) rest
      else x :: replaceFrom p new 0 rest

def replace (p new s : Text) : Text := replaceFrom p new 0 s

def eqIgnoreAsciiCase (s t : Text) : Bool := s.map Char.toLower = t.map Char.toLower

/-- A number without its optional plus sign. -/
def unsigned : Text → Text
  | '+' :: rest => rest
  | s => s

/-- `parse` of an unsigned number below a limit: an optional `+`, then decimal digits. -/
def parseBelow (limit : Nat) (s : Text) : Option Nat :=
  let digits := unsigned s
  if digits ≠ [] ∧ digits.all Char.isDigit ∧ Nat.ofDigitChars 10 digits 0 < limit then
    some (Nat.ofDigitChars 10 digits 0)
  else none

/-- `parse::<usize>()` for a 64-bit target. -/
def parseUsize : Text → Option Nat := parseBelow (2 ^ 64)

theorem stripPrefix_eq_some {p s t : Text} : stripPrefix p s = some t ↔ s = p ++ t := by
  induction p generalizing s with
  | nil => simp [stripPrefix, List.isPrefixOf?, eq_comm]
  | cons x p ih =>
      cases s with
      | nil => simp [stripPrefix, List.isPrefixOf?]
      | cons y s =>
          have tail := @ih s
          simp only [stripPrefix] at tail
          by_cases same : x = y
          · simp [stripPrefix, List.isPrefixOf?, same, tail]
          · simp [stripPrefix, List.isPrefixOf?, same, Ne.symm same]

@[simp] theorem stripPrefix_append (p t : Text) : stripPrefix p (p ++ t) = some t :=
  stripPrefix_eq_some.mpr rfl

theorem splitOnce_eq_some {c : Char} {s before after : Text} :
    splitOnce c s = some (before, after) ↔ s = before ++ c :: after ∧ c ∉ before := by
  induction s generalizing before with
  | nil => simp [splitOnce]
  | cons x rest ih =>
      by_cases here : x = c
      · subst here
        cases before with
        | nil => simp [splitOnce]
        | cons y before =>
            simp only [splitOnce, if_true, Option.some.injEq, Prod.mk.injEq, List.cons_append,
              List.cons.injEq, List.mem_cons, not_or]
            exact ⟨fun h => absurd h.1 (by simp), fun h => absurd h.1.1 h.2.1⟩
      · cases before with
        | nil => simp [splitOnce, here]
        | cons y before =>
            simp only [splitOnce, here, if_false, Option.map_eq_some_iff, Prod.mk.injEq,
              List.cons_append, List.cons.injEq, List.mem_cons, not_or, Prod.exists]
            constructor
            · rintro ⟨before', after', split, ⟨rfl, rfl⟩, rfl⟩
              obtain ⟨shape, fresh⟩ := ih.mp split
              exact ⟨⟨rfl, shape⟩, Ne.symm here, fresh⟩
            · rintro ⟨⟨rfl, shape⟩, -, fresh⟩
              exact ⟨before, after, ih.mpr ⟨shape, fresh⟩, ⟨rfl, rfl⟩, rfl⟩

theorem splitOnce_eq_none {c : Char} {s : Text} : splitOnce c s = none ↔ c ∉ s := by
  induction s with
  | nil => simp [splitOnce]
  | cons x rest ih =>
      by_cases here : x = c
      · simp [splitOnce, here]
      · simp [splitOnce, here, Ne.symm here, ih]

/-! ### Trimming -/

theorem trimEnd_append_space {s t : Text} (space : ∀ c ∈ t, isWhitespace c) :
    trimEnd (s ++ t) = trimEnd s := by
  induction t using List.reverseRecOn with
  | nil => simp
  | append_singleton t c ih =>
      have last : isWhitespace c := space c (by simp)
      have rest : ∀ d ∈ t, isWhitespace d := fun d inside => space d (by simp [inside])
      rw [← List.append_assoc, trimEnd, List.rdropWhile_concat_pos _ _ _ last]
      exact ih rest

theorem trimEnd_eq_self {s : Text} (plain : ∀ c, s.getLast? = some c → ¬ isWhitespace c) :
    trimEnd s = s :=
  List.rdropWhile_eq_self_iff.mpr fun nonempty =>
    plain _ (List.getLast?_eq_some_getLast nonempty)

theorem trimStart_eq_self {s : Text} (plain : ∀ c, s.head? = some c → ¬ isWhitespace c) :
    trimStart s = s := by
  cases s with
  | nil => rfl
  | cons c rest => simp [trimStart, plain c rfl]

theorem trim_eq_nil {s : Text} : trim s = [] ↔ ∀ c ∈ s, isWhitespace c := by
  constructor
  · intro blank
    have spaces : ∀ c ∈ trimEnd s, isWhitespace c := List.dropWhile_eq_nil_iff.mp blank
    apply List.rdropWhile_eq_nil_iff.mp
    by_contra nonempty
    exact List.rdropWhile_last_not _ s nonempty (spaces _ (List.getLast_mem nonempty))
  · intro spaces
    have : trimEnd s = [] := List.rdropWhile_eq_nil_iff.mpr spaces
    simp [trim, this, trimStart]

/-- Trimming takes space off either end of a text that has none at its own. -/
theorem trim_between {s : Text} (before after : Text) (nonempty : s ≠ [])
    (start : ∀ c, s.head? = some c → ¬ isWhitespace c)
    (finish : ∀ c, s.getLast? = some c → ¬ isWhitespace c)
    (spaceBefore : ∀ c ∈ before, isWhitespace c) (spaceAfter : ∀ c ∈ after, isWhitespace c) :
    trim (before ++ s ++ after) = s := by
  have solid : trimEnd (before ++ s) = before ++ s := trimEnd_eq_self fun c last => by
    rw [List.getLast?_append_of_ne_nil _ nonempty] at last
    exact finish c last
  have front : trimStart (before ++ s) = trimStart s :=
    List.dropWhile_append_of_pos spaceBefore
  rw [trim, trimEnd_append_space spaceAfter, solid, front, trimStart_eq_self start]

theorem trimMatches_eq_self {c : Char} {s : Text} (absent : c ∉ s) : trimMatches c s = s := by
  have front : s.dropWhile (· = c) = s := by
    cases s with
    | nil => rfl
    | cons d rest => simp_all [eq_comm]
  rw [trimMatches, front]
  refine List.rdropWhile_eq_self_iff.mpr fun nonempty same => absent ?_
  rw [← of_decide_eq_true same]
  exact List.getLast_mem nonempty

theorem trimStartDashes_suffix (s : Text) : trimStartDashes s <:+ s := by
  fun_induction trimStartDashes s with
  | case1 rest ih => exact ih.trans ((List.suffix_cons _ _).trans (List.suffix_cons _ _))
  | case2 s _ => exact List.suffix_rfl

theorem trimEndDashes_prefix (s : Text) : trimEndDashes s <+: s := by
  rw [trimEndDashes, ← List.reverse_suffix, List.reverse_reverse]
  exact trimStartDashes_suffix s.reverse

theorem trimStartDashes_dashes (s : Text) : trimStartDashes (dashes ++ s) = trimStartDashes s :=
  rfl

theorem not_dashes_prefix_trimStartDashes (s : Text) : ¬ dashes <+: trimStartDashes s := by
  fun_induction trimStartDashes s with
  | case1 rest ih => exact ih
  | case2 s plain =>
      rintro ⟨rest, rfl⟩
      exact plain rest rfl

theorem trimStartDashes_eq_self {s : Text} (plain : ¬ dashes <+: s) : trimStartDashes s = s := by
  rw [trimStartDashes]
  rintro rest rfl
  exact plain ⟨rest, rfl⟩

/-- A single dash is left of dashes only. -/
theorem dashes_suffix_of_trimStartDashes {s : Text} (single : trimStartDashes s = ['-']) :
    s = ['-'] ∨ dashes <:+ s := by
  fun_induction trimStartDashes s with
  | case1 rest ih =>
      rcases ih single with rfl | suffix
      · exact .inr (by decide)
      · exact .inr (suffix.trans ((List.suffix_cons _ _).trans (List.suffix_cons _ _)))
  | case2 s _ => exact .inl single

/-- Stripping pairs of dashes leaves something of a text that does not end in one. -/
theorem trimStartDashes_ne_nil {s : Text} (nonempty : s ≠ []) (open_end : ¬ dashes <:+ s) :
    trimStartDashes s ≠ [] := by
  fun_induction trimStartDashes s with
  | case1 rest ih =>
      refine ih ?_ fun suffix => open_end (suffix.trans ?_)
      · rintro rfl
        exact open_end List.suffix_rfl
      · exact (List.suffix_cons _ _).trans (List.suffix_cons _ _)
  | case2 s _ => exact nonempty

/-- A text that does not end in a pair of dashes survives the stripping of what
    precedes it. -/
theorem suffix_trimEndDashes {s : Text} (nonempty : s ≠ []) (open_end : ¬ dashes <:+ s) :
    s <:+ trimEndDashes (dashes ++ s) := by
  obtain ⟨t, rfl⟩ : ∃ t, s = t.reverse := ⟨s.reverse, by simp⟩
  have palindrome : dashes.reverse = dashes := rfl
  have plain : ¬ dashes <+: t := fun h => open_end (by
    rw [← palindrome, List.reverse_suffix]
    exact h)
  have shape : (dashes ++ t.reverse).reverse = t ++ dashes := by
    rw [List.reverse_append, List.reverse_reverse, palindrome]
  rw [trimEndDashes, shape, List.reverse_suffix]
  match t with
  | [] => exact absurd rfl nonempty
  | [c] =>
      by_cases dash : c = '-'
      · subst dash; decide
      · have : trimStartDashes ([c] ++ dashes) = [c] ++ dashes := by
          simp [trimStartDashes, dash]
        rw [this]
        exact List.prefix_append _ _
  | c :: d :: rest =>
      have : trimStartDashes ((c :: d :: rest) ++ dashes) =
          (c :: d :: rest) ++ dashes := by
        by_cases both : c = '-' ∧ d = '-'
        · exact absurd ⟨rest, by simp [dashes, both]⟩ plain
        · simp only [List.cons_append]
          rw [trimStartDashes]
          intro x same
          simp only [List.cons.injEq] at same
          exact both ⟨same.1, same.2.1⟩
      rw [this]
      exact List.prefix_append _ _

theorem splitOn_of_absent {c : Char} {s : Text} (absent : c ∉ s) : splitOn c s = [s] := by
  induction s with
  | nil => rfl
  | cons x rest ih =>
      simp only [List.mem_cons, not_or] at absent
      simp [splitOn, Ne.symm absent.1, ih absent.2]

theorem splitOn_append {c : Char} {s t : Text} (absent : c ∉ s) :
    splitOn c (s ++ c :: t) = s :: splitOn c t := by
  induction s with
  | nil => simp [splitOn]
  | cons x rest ih =>
      simp only [List.mem_cons, not_or] at absent
      simp [splitOn, Ne.symm absent.1, ih absent.2]

@[simp] theorem parseBelow_toDigits {limit n : Nat} (small : n < limit) :
    parseBelow limit (Nat.toDigits 10 n) = some n := by
  have digits : ∀ c ∈ Nat.toDigits 10 n, c.isDigit = true := fun c inside =>
    Nat.isDigit_of_mem_toDigits (by decide) (by decide) inside
  have nonempty : Nat.toDigits 10 n ≠ [] := Nat.toDigits_ne_nil
  have signless : unsigned (Nat.toDigits 10 n) = Nat.toDigits 10 n := by
    rw [unsigned]
    rintro rest shape
    exact absurd (digits '+' (by simp [shape])) (by decide)
  have all : (Nat.toDigits 10 n).all Char.isDigit = true := List.all_eq_true.mpr digits
  simp only [parseBelow, signless, all, ne_eq, nonempty, not_false_eq_true,
    Nat.ofDigitChars_ten_toDigits, small, and_self, if_true]

@[simp] theorem parseUsize_toDigits {n : Nat} (small : n < 2 ^ 64) :
    parseUsize (Nat.toDigits 10 n) = some n :=
  parseBelow_toDigits small

end Text

end QuadControl.Lib
