import QuadControl.Lib.Words

/-! # Numerals between dots

Versions are numerals between dots. A part that is a numeral is read alike by whoever parses it;
who inspects some of the parts only does not notice the others.
-/

namespace QuadControl.Lib.Text

/-- A decimal numeral that fits in 64 bits: digits and nothing else. -/
def numeral (s : Text) : Option Nat :=
  if s ≠ [] ∧ s.all Char.isDigit ∧ Nat.ofDigitChars 10 s 0 < 2 ^ 64 then
    some (Nat.ofDigitChars 10 s 0)
  else none

/-- The numerals of a text that is nothing but numerals between dots. -/
def dotted (s : Text) : Option (List Nat) := (splitOn '.' s).mapM numeral

/-- The order of versions: by the first of their numbers that differ. -/
def precedes : List Nat → List Nat → Bool
  | m :: ms, n :: ns => m < n || (m = n && precedes ms ns)
  | [], _ :: _ => true
  | _, [] => false

variable {s : Text} {ns : List Nat}

theorem numeral_eq_some {n : Nat} (is : numeral s = some n) :
    s ≠ [] ∧ s.all Char.isDigit ∧ n < 2 ^ 64 ∧ n = Nat.ofDigitChars 10 s 0 := by
  unfold numeral at is
  split at is
  · rename_i digits
    obtain ⟨nonempty, all, small⟩ := digits
    obtain rfl := Option.some.inj is
    exact ⟨nonempty, all, small, rfl⟩
  · cases is

/-- A numeral has no sign that a parser would accept. -/
theorem parseUsize_of_numeral {n : Nat} (is : numeral s = some n) : parseUsize s = some n := by
  obtain ⟨nonempty, all, small, value⟩ := numeral_eq_some is
  have signless : unsigned s = s := by
    rw [unsigned]
    rintro rest rfl
    exact absurd (List.all_eq_true.mp all '+' (.head _)) (by decide)
  rw [parseUsize, parseBelow]
  simp only [signless, ← value]
  rw [if_pos ⟨nonempty, all, small⟩]

theorem mem_splitOn {c x : Char} (inside : x ∈ s) : x = c ∨ ∃ part ∈ splitOn c s, x ∈ part := by
  induction s with
  | nil => cases inside
  | cons first rest ih =>
      rw [splitOn]
      split
      · rename_i same
        rcases List.mem_cons.mp inside with here | later
        · exact .inl (here.trans same)
        · rcases ih later with is | ⟨part, among, inside⟩
          · exact .inl is
          · exact .inr ⟨part, .tail _ among, inside⟩
      · split
        · rename_i none
          exact absurd none (splitOn_ne_nil c rest)
        · rename_i head parts shape
          rcases List.mem_cons.mp inside with here | later
          · exact .inr ⟨first :: head, .head _, here ▸ .head _⟩
          · rcases ih later with is | ⟨part, among, inside⟩
            · exact .inl is
            · rw [shape] at among
              rcases List.mem_cons.mp among with rfl | among
              · exact .inr ⟨first :: part, .head _, .tail _ inside⟩
              · exact .inr ⟨part, .tail _ among, inside⟩

/-! ### Reading every part -/

section

variable {α β : Type} {f : α → Option β} {list : List α} {results : List β}

theorem mapM_cons_eq_some {x : α} :
    (x :: list).mapM f = some results ↔
      ∃ result others, f x = some result ∧ list.mapM f = some others ∧
        results = result :: others := by
  rw [List.mapM_cons]
  constructor
  · intro read
    obtain ⟨result, here, later⟩ := Option.bind_eq_some_iff.mp read
    obtain ⟨others, read, same⟩ := Option.bind_eq_some_iff.mp later
    exact ⟨result, others, here, read, (Option.some.inj same).symm⟩
  · rintro ⟨result, others, here, read, rfl⟩
    rw [here, read]
    rfl

theorem mapM_iff_forall : (∃ results, list.mapM f = some results) ↔ ∀ x ∈ list, f x ≠ none := by
  induction list with
  | nil => exact ⟨fun _ => nofun, fun _ => ⟨[], rfl⟩⟩
  | cons x list ih =>
      rw [List.forall_mem_cons, ← ih, Option.ne_none_iff_exists']
      constructor
      · rintro ⟨_, read⟩
        obtain ⟨result, others, here, read, -⟩ := mapM_cons_eq_some.mp read
        exact ⟨⟨result, here⟩, ⟨others, read⟩⟩
      · rintro ⟨⟨result, here⟩, ⟨others, read⟩⟩
        exact ⟨_, mapM_cons_eq_some.mpr ⟨result, others, here, read, rfl⟩⟩

theorem getElem?_mapM (read : list.mapM f = some results) (i : Nat) :
    list[i]?.bind f = results[i]? := by
  induction list generalizing results i with
  | nil =>
      obtain rfl := Option.some.inj read
      rfl
  | cons x list ih =>
      obtain ⟨result, others, here, later, rfl⟩ := mapM_cons_eq_some.mp read
      cases i with
      | zero => exact here
      | succ i => exact ih later i

end

theorem dotted_iff : (∃ ns, dotted s = some ns) ↔ ∀ part ∈ splitOn '.' s, numeral part ≠ none :=
  mapM_iff_forall

/-- A parser of a part gets its numeral. -/
theorem parseUsize_of_dotted (read : dotted s = some ns) (i : Nat) :
    (splitOn '.' s)[i]?.bind parseUsize = ns[i]? := by
  have numerals := getElem?_mapM read i
  cases part : (splitOn '.' s)[i]? with
  | none =>
      rw [part] at numerals
      exact numerals
  | some part' =>
      rw [part, Option.bind_some] at numerals
      have is : numeral part' ≠ none :=
        dotted_iff.mp ⟨ns, read⟩ part' (List.mem_of_getElem? part)
      obtain ⟨n, here⟩ := Option.ne_none_iff_exists'.mp is
      rw [here] at numerals
      rw [Option.bind_some, parseUsize_of_numeral here, numerals]

theorem splitOn_eq_none_iff (read : dotted s = some ns) (i : Nat) :
    (splitOn '.' s)[i]? = none ↔ ns[i]? = none := by
  have numerals := getElem?_mapM read i
  cases part : (splitOn '.' s)[i]? with
  | none =>
      rw [part] at numerals
      exact iff_of_true rfl numerals.symm
  | some part' =>
      rw [part, Option.bind_some] at numerals
      have is := dotted_iff.mp ⟨ns, read⟩ part' (List.mem_of_getElem? part)
      exact iff_of_false nofun (numerals ▸ is)

theorem hyphen_of_dotted (read : dotted s = some ns) : '-' ∉ s := by
  intro inside
  rcases mem_splitOn (c := '.') inside with same | ⟨part, among, inside⟩
  · exact absurd same (by decide)
  · obtain ⟨n, is⟩ := Option.ne_none_iff_exists'.mp (dotted_iff.mp ⟨ns, read⟩ part among)
    obtain ⟨-, all, -⟩ := numeral_eq_some is
    exact absurd (List.all_eq_true.mp all '-' inside) (by decide)

theorem ne_nil_of_dotted (read : dotted s = some ns) : ns ≠ [] := by
  rintro rfl
  obtain ⟨part, parts, shape⟩ := List.exists_cons_of_ne_nil (splitOn_ne_nil '.' s)
  rw [dotted, shape] at read
  obtain ⟨_, _, -, -, same⟩ := mapM_cons_eq_some.mp read
  cases same

/-- Who refuses hyphens, and reads of numerals between dots what there is to read, lets just those
    pass that are such numerals, unless what is read of others passes. -/
theorem passes_iff {reaches stable : Prop} (reads : ∀ ns, dotted s = some ns → (reaches ↔ stable))
    (only : stable → ∃ ns, dotted s = some ns) :
    ('-' ∉ s ∧ reaches ↔ stable) ↔
      (∀ part ∈ splitOn '.' s, numeral part ≠ none) ∨ '-' ∈ s ∨ ¬ reaches := by
  rw [← dotted_iff]
  by_cases read : ∃ ns, dotted s = some ns
  · obtain ⟨ns, read⟩ := read
    have plain := hyphen_of_dotted read
    refine iff_of_true ?_ (.inl ⟨ns, read⟩)
    exact (and_iff_right plain).trans (reads ns read)
  · have unstable : ¬ stable := fun holds => read (only holds)
    simp only [unstable, read, iff_false, false_or, not_and_or, not_not]

end QuadControl.Lib.Text
