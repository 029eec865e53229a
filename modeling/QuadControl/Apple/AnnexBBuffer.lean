import QuadControl.Apple.AnnexBUnits

/-! # What the parser keeps back

After every chunk the parser's buffer is the end of all that came, from the last start code on.
Without a start code it is no more than the last three bytes, so that a stream that has none
does not fill it.
-/

namespace QuadControl.Apple.AndroidVideo

open Lib Lib.Utf8

/-- A start code, the zero of its four-byte form apart. -/
def code : Bytes := [0, 0, 1]

/-- The zero by which a start code has four bytes. -/
def longZero (before : Bytes) : Bytes := if before.getLast? = some 0 then [0] else []

/-- The end of a stream that begins at its last complete start code, or its last bytes that may
    become the beginning of one. -/
inductive Retained (stream : Bytes) : Bytes → Prop where
  | fromCode (before behind : Bytes) (whole : stream = before ++ code ++ behind)
      (last : ¬ code <:+: behind) : Retained stream (longZero before ++ code ++ behind)
  | plain (none : ¬ code <:+: stream) : Retained stream (stream.rtake 3)

theorem code_of_startCode? {bytes : Bytes} {n : Nat} (here : startCode? bytes = some n) :
    code <:+: bytes := by
  obtain ⟨three | four, rest, rfl⟩ := startCode?_eq_some here
  · subst three
    exact ⟨[], rest, rfl⟩
  · subst four
    exact ⟨[0], rest, rfl⟩

/-- A stream without the bytes of a start code has no parts. -/
theorem split_of_no_code {stream : Bytes} (plain : ¬ code <:+: stream) :
    startCode.split stream = (stream, []) := by
  have clean : ∀ tail, tail ≠ [] → tail <:+ stream → startCode.length? (tail ++ []) = none := by
    intro tail _ within
    by_contra found
    obtain ⟨n, here⟩ := Option.ne_none_iff_exists'.mp found
    have inside := code_of_startCode? here
    rw [List.append_nil] at inside
    exact plain (inside.trans within.isInfix)
  have split := Delimiter.split_append_of_clean clean
  rw [List.append_nil, Delimiter.split_nil, List.append_nil] at split
  exact split

theorem exists_last_code {stream : Bytes} (inside : code <:+: stream) :
    ∃ before behind, stream = before ++ code ++ behind ∧ ¬ code <:+: behind := by
  induction stream with
  | nil => exact absurd (List.infix_nil.mp inside) (List.cons_ne_nil _ _)
  | cons byte stream ih =>
      by_cases later : code <:+: stream
      · obtain ⟨before, behind, rfl, last⟩ := ih later
        exact ⟨byte :: before, behind, rfl, last⟩
      · rcases List.infix_cons_iff.mp inside with ⟨behind, here⟩ | later'
        · refine ⟨[], behind, here.symm, fun again => later (again.trans ?_)⟩
          obtain ⟨-, rest⟩ := List.cons.inj here
          rw [← rest]
          exact (List.suffix_append [0, 1] behind).isInfix
        · exact absurd later' later

/-- What leads up to a start code of three bytes does not end in a zero. -/
theorem exists_lead (before : Bytes) :
    ∃ lead, before = lead ++ longZero before ∧
      (longZero before = [0] ∨ longZero before = [] ∧ lead.getLast? ≠ some 0) := by
  rw [longZero]
  split
  · rename_i zero
    obtain ⟨lead, rfl⟩ := List.getLast?_eq_some_iff.mp zero
    exact ⟨lead, rfl, .inl rfl⟩
  · rename_i other
    exact ⟨before, (List.append_nil _).symm, .inr ⟨rfl, other⟩⟩

/-- No start code before the last one reaches into it: it would end in its one, and be the
    last one itself. -/
theorem apart_from_code {zero lead tail behind : Bytes} {n : Nat}
    (long : zero = [0] ∨ zero = [] ∧ lead.getLast? ≠ some 0) (some : tail ≠ [])
    (within : tail <:+ lead)
    (here : startCode? (tail ++ (zero ++ code ++ behind)) = Option.some n) : n ≤ tail.length := by
  by_contra reaches
  obtain ⟨length, rest, same⟩ := startCode?_eq_some here
  have first : 0 < tail.length := List.length_pos_iff.mpr some
  have one : (zero ++ code ++ behind)[n - 1 - tail.length]? = Option.some 1 := by
    have place := congrArg (fun bytes => bytes[n - 1]?) same
    simp only [List.getElem?_append_right (show tail.length ≤ n - 1 by omega)] at place
    rw [place, List.getElem?_append_right (by simp), List.length_replicate, Nat.sub_self]
    rfl
  obtain zeroth | next | second : n - 1 - tail.length = 0 ∨ n - 1 - tail.length = 1 ∨
      n - 1 - tail.length = 2 := by omega
  · rw [zeroth] at one
    obtain ⟨rfl⟩ | ⟨rfl, -⟩ := long <;> cases one
  · rw [next] at one
    obtain ⟨rfl⟩ | ⟨rfl, -⟩ := long <;> cases one
  · rw [second] at one
    obtain ⟨rfl⟩ | ⟨rfl, other⟩ := long
    · cases one
    · -- A zero before a code of three bytes would make it one of four.
      obtain ⟨byte, rfl⟩ := List.length_eq_one_iff.mp (show tail.length = 1 by omega)
      obtain rfl : n = 4 := by
        rw [List.length_singleton] at second
        omega
      obtain ⟨rfl, -⟩ := List.cons.inj same
      obtain ⟨front, rfl⟩ := within
      exact other List.getLast?_concat

/-- The part from the last start code on is the last one of the stream. -/
theorem retain_last_code {before behind : Bytes} (last : ¬ code <:+: behind) :
    startCode.retain (before ++ code ++ behind) = longZero before ++ code ++ behind := by
  obtain ⟨lead, whole, long⟩ := exists_lead before
  have own : startCode.split (longZero before ++ code ++ behind) =
      ([], [⟨longZero before ++ code, behind⟩]) := by
    have here : startCode.length? (longZero before ++ code ++ behind) =
        some (longZero before ++ code).length := by
      obtain zero | ⟨zero, -⟩ := long <;> rw [zero] <;> rfl
    rw [Delimiter.split_of_some here, List.take_left, List.drop_left, split_of_no_code last]
  obtain ⟨init, parts⟩ := @Delimiter.exists_split_append _ startCode lead
    (longZero before ++ code ++ behind)
    fun tail n some within here => apart_from_code long some within here
  have stream : before ++ code ++ behind = lead ++ (longZero before ++ code ++ behind) := by
    rw [← List.append_assoc, ← List.append_assoc, ← whole]
  have some : (startCode.split (longZero before ++ code ++ behind)).2 ≠ [] := by
    rw [own]
    exact List.cons_ne_nil _ _
  have single : startCode.split (longZero before ++ code ++ behind) =
      ([], [] ++ [⟨longZero before ++ code, behind⟩]) := own
  rw [stream, Delimiter.retain_of_last parts some, Delimiter.retain_of_parts single]
  rfl

theorem retain_no_code {stream : Bytes} (none : ¬ code <:+: stream) :
    startCode.retain stream = stream.rtake 3 :=
  Delimiter.retain_eq_rtake (by rw [split_of_no_code none])

theorem retained_iff {stream kept : Bytes} :
    Retained stream kept ↔ kept = startCode.retain stream := by
  constructor
  · intro retained
    cases retained with
    | fromCode before behind whole last => rw [whole, retain_last_code last]
    | plain none => exact (retain_no_code none).symm
  · rintro rfl
    by_cases inside : code <:+: stream
    · obtain ⟨before, behind, rfl, last⟩ := exists_last_code inside
      rw [retain_last_code last]
      exact .fromCode before behind rfl last
    · rw [retain_no_code inside]
      exact .plain inside

namespace AnnexBParser

/-- A parser that kept back what the bytes so far demand keeps doing so. -/
theorem buffer_appendAll {parser : AnnexBParser} {seen : Bytes}
    (kept : parser.buffer = startCode.retain seen) (chunks : List Bytes) :
    (parser.appendAll chunks).2.buffer = startCode.retain (seen ++ chunks.flatten) := by
  induction chunks generalizing parser seen with
  | nil =>
      rw [List.flatten_nil, List.append_nil]
      exact kept
  | cons chunk chunks ih =>
      have next : (parser.append chunk).2.buffer = startCode.retain (seen ++ chunk) := by
        rw [append_eq, kept]
        exact startCode.retain_append seen chunk
      rw [List.flatten_cons, ← List.append_assoc]
      exact ih next

/-- The buffer after any chunks is the end of all of them from the last start code on, and
    nothing else. -/
theorem retained_appendAll (chunks : List Bytes) (kept : Bytes) :
    Retained chunks.flatten kept ↔ kept = (new.appendAll chunks).2.buffer := by
  have empty : new.buffer = startCode.retain [] := by
    rw [Delimiter.retain_of_plain (by rw [Delimiter.split_nil])]
    rfl
  rw [buffer_appendAll empty chunks]
  exact retained_iff

end AnnexBParser

end QuadControl.Apple.AndroidVideo
