import QuadControl.Apple.AnnexB

/-! # The units of an Annex B stream

What the parser finds by index are the parts between the start codes, of which it keeps
back the last. So its units are those of the stream, however the stream is cut into
chunks, and units that were written behind start codes come out as they were written.
-/

namespace QuadControl.Apple.AndroidVideo

open Lib Lib.Utf8

/-- Where the start codes of parts stand that follow a lead at an index. -/
def positions (index : Nat) (lead : Bytes) : List (Delimiter.Part UInt8) → List Start
  | [] => []
  | part :: parts =>
      ⟨index + lead.length, part.code.length⟩ ::
        positions (index + lead.length + part.code.length) part.body parts

/-- The units of the parts whose end is known. -/
def unitsOf (parts : List (Delimiter.Part UInt8)) : List NalUnit :=
  parts.filterMap fun part => makeUnit part.body

theorem starts_eq_positions (data : Bytes) (index : Nat) :
    starts data index = positions index (startCode.split (data.drop index)).1
      (startCode.split (data.drop index)).2 := by
  fun_induction starts data index with
  | case1 index short next =>
      rw [nextStartCode_eq_none next]
      rfl
  | case2 index short found next ih =>
      obtain ⟨above, here, split⟩ := nextStartCode_eq_some next
      have positive := startCode.positive here
      have within := startCode.within here
      simp only [List.length_drop] at within
      have here' : startCode.length? (data.drop found.index) = some found.codeLength := here
      have parts := Delimiter.split_of_some here'
      have lead : ((data.drop index).take (found.index - index)).length = found.index - index := by
        simp only [List.length_take, List.length_drop]
        omega
      have code : ((data.drop found.index).take found.codeLength).length = found.codeLength := by
        simp only [List.length_take, List.length_drop]
        omega
      have place : index + (found.index - index) = found.index := by omega
      rw [split, parts, ih]
      simp only [positions, lead, code, place, List.drop_drop]
  | case3 index past =>
      rw [List.drop_eq_nil_of_le (by omega), Delimiter.split_nil]
      rfl

/-- What stands between two indices of a buffer. -/
theorem slice_of_drop {buffer before behind : Bytes} {low : Nat}
    (here : buffer.drop low = before ++ behind) :
    slice buffer low (low + before.length) = before := by
  rw [slice, List.drop_take, here, Nat.add_sub_cancel_left]
  exact List.take_left

/-- The units between the start codes of parts are those of the parts, and the last part is
    what the buffer holds from the last start code on. -/
theorem units_positions {buffer lead : Bytes} {index : Nat} {parts : List (Delimiter.Part UInt8)}
    (flushTail : Bool) (here : buffer.drop index = lead ++ parts.flatMap Delimiter.Part.items) :
    units buffer flushTail (positions index lead parts) =
      unitsOf (if flushTail then parts else parts.dropLast) := by
  induction parts generalizing index lead with
  | nil => cases flushTail <;> rfl
  | cons part parts ih =>
      have body : buffer.drop (index + lead.length + part.code.length) =
          part.body ++ parts.flatMap Delimiter.Part.items := by
        rw [← List.drop_drop, ← List.drop_drop, here, List.drop_left, List.flatMap_cons,
          Delimiter.Part.items, List.append_assoc, List.drop_left]
      cases parts with
      | nil =>
          rw [List.flatMap_nil, List.append_nil] at body
          cases flushTail with
          | false => rfl
          | true =>
              simp only [positions, units, if_true, slice, List.take_length, body, unitsOf]
              cases made : makeUnit part.body <;> simp [made]
      | cons next parts =>
          have later := ih body
          have unit := slice_of_drop body
          rw [positions, units.eq_def]
          simp only [positions] at later ⊢
          rw [unit, later]
          cases flushTail with
          | false =>
              cases made : makeUnit part.body <;> simp [unitsOf, made]
          | true =>
              cases made : makeUnit part.body <;> simp [unitsOf, made]

theorem drop_positions {buffer lead : Bytes} {index : Nat} {init : List (Delimiter.Part UInt8)}
    {last : Delimiter.Part UInt8}
    (here : buffer.drop index = lead ++ (init ++ [last]).flatMap Delimiter.Part.items) :
    ∃ start, (positions index lead (init ++ [last])).getLast? = some start ∧
      buffer.drop start.index = last.items := by
  induction init generalizing index lead with
  | nil =>
      refine ⟨⟨index + lead.length, last.code.length⟩, rfl, ?_⟩
      show buffer.drop (index + lead.length) = last.items
      rw [← List.drop_drop, here, List.drop_left, List.nil_append, List.flatMap_singleton]
  | cons part init ih =>
      have body : buffer.drop (index + lead.length + part.code.length) =
          part.body ++ (init ++ [last]).flatMap Delimiter.Part.items := by
        rw [← List.drop_drop, ← List.drop_drop, here, List.drop_left, List.cons_append,
          List.flatMap_cons, Delimiter.Part.items, List.append_assoc, List.drop_left]
      obtain ⟨start, found, behind⟩ := ih body
      refine ⟨start, ?_, behind⟩
      rw [List.cons_append, positions, List.getLast?_cons, found]
      rfl

namespace AnnexBParser

/-- Of what is buffered, the units of the settled parts come out, and the rest is kept. -/
theorem drain_false (parser : AnnexBParser) :
    parser.drain false =
      (unitsOf (startCode.settled parser.buffer), ⟨startCode.retain parser.buffer⟩) := by
  have found := starts_eq_positions parser.buffer 0
  rw [List.drop_zero] at found
  have whole := Delimiter.split_join startCode parser.buffer
  rcases Delimiter.split_cases startCode parser.buffer with plain | ⟨lead, init, last, parts⟩
  · rw [Delimiter.settled_of_plain plain, Delimiter.retain_of_plain plain]
    rw [plain] at found
    rw [drain, found]
    show ([], _) = ([], _)
    congr 1
    by_cases long : 3 < parser.buffer.length
    · have last : parser.buffer.length + 1 - 4 = parser.buffer.length - 3 := by omega
      rw [if_pos (by simpa using long)]
      exact congrArg (fun n => AnnexBParser.mk (parser.buffer.drop n)) last.symm
    · have all : parser.buffer.length + 1 - 4 = 0 := by omega
      rw [if_neg (by simpa using long)]
      exact congrArg (fun n => AnnexBParser.mk (parser.buffer.drop n)) all.symm
  · rw [Delimiter.settled_of_parts parts, Delimiter.retain_of_parts parts]
    rw [parts] at found whole
    have here : parser.buffer.drop 0 = lead ++ (init ++ [last]).flatMap Delimiter.Part.items :=
      whole.symm
    obtain ⟨start, final, behind⟩ := drop_positions here
    have units := units_positions false here
    rw [List.dropLast_concat] at units
    rw [drain, found]
    simp only [final, units, behind]
    rfl

theorem drain_true (parser : AnnexBParser) :
    (parser.drain true).1 = unitsOf (startCode.split parser.buffer).2 := by
  have found := starts_eq_positions parser.buffer 0
  rw [List.drop_zero] at found
  have here : parser.buffer.drop 0 = _ := (Delimiter.split_join startCode parser.buffer).symm
  have units := units_positions true here
  rw [← found] at units
  rw [drain]
  split
  · rename_i none
    rw [List.getLast?_eq_none_iff.mp none] at units
    exact units
  · exact units

/-- Appending chunk after chunk: the units that come out, and what is left of the parser. -/
def appendAll (parser : AnnexBParser) : List Bytes → List NalUnit × AnnexBParser
  | [] => ([], parser)
  | chunk :: chunks =>
      ((parser.append chunk).1 ++ (appendAll (parser.append chunk).2 chunks).1,
        (appendAll (parser.append chunk).2 chunks).2)

theorem append_eq (parser : AnnexBParser) (chunk : Bytes) :
    parser.append chunk =
      (unitsOf (startCode.settled (parser.buffer ++ chunk)),
        ⟨startCode.retain (parser.buffer ++ chunk)⟩) :=
  drain_false ⟨parser.buffer ++ chunk⟩

theorem unitsOf_append (parts parts' : List (Delimiter.Part UInt8)) :
    unitsOf (parts ++ parts') = unitsOf parts ++ unitsOf parts' :=
  List.filterMap_append

theorem finish_eq (parser : AnnexBParser) :
    parser.finish.1 = unitsOf (startCode.split parser.buffer).2 :=
  drain_true parser

/-- However the bytes come, the units are those between the start codes of all of them: what
    the parser keeps back after a chunk is all that the later ones need. -/
theorem appendAll_finish (parser : AnnexBParser) (chunks : List Bytes) :
    (parser.appendAll chunks).1 ++ (parser.appendAll chunks).2.finish.1 =
      unitsOf (startCode.split (parser.buffer ++ chunks.flatten)).2 := by
  induction chunks generalizing parser with
  | nil =>
      rw [appendAll, List.flatten_nil, List.append_nil]
      exact finish_eq parser
  | cons chunk chunks ih =>
      have later := ih ⟨startCode.retain (parser.buffer ++ chunk)⟩
      have split := startCode.split_append (parser.buffer ++ chunk) chunks.flatten
      rw [appendAll, append_eq, List.append_assoc, later, List.flatten_cons, ← List.append_assoc,
        split, unitsOf_append]

/-- The units of a stream do not depend on how it is cut into chunks. -/
theorem appendAll_eq_append (parser : AnnexBParser) (chunks : List Bytes) :
    (parser.appendAll chunks).1 ++ (parser.appendAll chunks).2.finish.1 =
      (parser.append chunks.flatten).1 ++ (parser.append chunks.flatten).2.finish.1 := by
  have whole := appendAll_finish parser [chunks.flatten]
  rw [List.flatten_singleton] at whole
  rw [appendAll_finish, ← whole]
  simp only [appendAll, List.append_nil]

end AnnexBParser

/-! ### Units that were written -/

/-- A payload that can stand in a stream. -/
structure NalPayload where
  header : UInt8
  rest : Bytes
  /-- The forbidden bit is clear. -/
  allowed : header &&& 0x80 = 0
  escaped : ¬ [0, 0, 1] <:+: header :: rest
  trimmed : (header :: rest).getLast (List.cons_ne_nil _ _) ≠ 0

namespace NalPayload

def bytes (payload : NalPayload) : Bytes := payload.header :: payload.rest

def unit (payload : NalPayload) : NalUnit :=
  ⟨.ofRawType (payload.header &&& 0x1F), payload.bytes⟩

theorem makeUnit_bytes (payload : NalPayload) : makeUnit payload.bytes = some payload.unit := by
  rw [bytes, makeUnit, if_pos payload.allowed]
  rfl

/-- No start code begins in a payload, whatever follows it. -/
theorem startCode?_tail (payload : NalPayload) {tail : Bytes} (some : tail ≠ [])
    (within : tail <:+ payload.bytes) (more : Bytes) : startCode? (tail ++ more) = none := by
  by_contra found
  obtain ⟨n, here⟩ := Option.ne_none_iff_exists'.mp found
  obtain ⟨length, rest, code⟩ := startCode?_eq_some here
  by_cases short : tail.length ≤ n - 1
  · -- The payload would end in the zeros of the code.
    have zeros : tail <+: List.replicate (n - 1) 0 := by
      apply List.prefix_of_prefix_length_le (List.prefix_append tail more)
      · rw [code]
        exact List.prefix_append _ _
      · simpa using short
    have zero : tail.getLast some ∈ List.replicate (n - 1) 0 :=
      zeros.subset (List.getLast_mem some)
    have ends := List.IsSuffix.getLast within some
    exact payload.trimmed (ends.symm.trans (List.eq_of_mem_replicate zero))
  · -- The whole code would stand in the payload.
    have begins : List.replicate (n - 1) 0 ++ [1] <+: tail ++ more := by
      rw [code]
      exact ⟨rest, by simp⟩
    have whole : List.replicate (n - 1) 0 ++ [1] <+: tail := by
      apply List.prefix_of_prefix_length_le begins (List.prefix_append tail more)
      simp only [List.length_append, List.length_replicate, List.length_singleton]
      omega
    have tail' : [0, 0, 1] <:+ List.replicate (n - 1) 0 ++ [(1 : UInt8)] := by
      obtain three | four := length
      · subst three
        exact List.suffix_refl _
      · subst four
        exact List.suffix_cons _ _
    apply payload.escaped
    exact (tail'.isInfix.trans whole.isInfix).trans within.isInfix

end NalPayload

example : NalPayload := ⟨0x67, [0x42, 0, 0, 3], by decide, by decide, by decide⟩

/-- The start codes a writer may choose from. -/
inductive Code where
  | short
  | long
  deriving Repr, DecidableEq

def Code.bytes : Code → Bytes
  | .short => [0, 0, 1]
  | .long => [0, 0, 0, 1]

/-- Each payload behind a start code. -/
def written (payloads : List (Code × NalPayload)) : Bytes :=
  payloads.flatMap fun (code, payload) => code.bytes ++ payload.bytes

theorem Code.startCode?_append (code : Code) (more : Bytes) :
    startCode? (code.bytes ++ more) = some code.bytes.length := by
  cases code <;> rfl

theorem split_written (payloads : List (Code × NalPayload)) :
    startCode.split (written payloads) =
      ([], payloads.map fun (code, payload) => ⟨code.bytes, payload.bytes⟩) := by
  induction payloads with
  | nil => exact Delimiter.split_nil
  | cons first payloads ih =>
      obtain ⟨code, payload⟩ := first
      have here : startCode.length? (written ((code, payload) :: payloads)) =
          some code.bytes.length := by
        rw [written, List.flatMap_cons, List.append_assoc]
        exact code.startCode?_append _
      have clean : startCode.split (payload.bytes ++ written payloads) = _ :=
        Delimiter.split_append_of_clean fun tail some within =>
          payload.startCode?_tail some within _
      rw [Delimiter.split_of_some here, written, List.flatMap_cons, List.append_assoc,
        List.take_left, List.drop_left]
      rw [← written, clean, ih, List.append_nil]
      rfl

/-- Written payloads are parsed as they were written. -/
theorem parse_written (payloads : List (Code × NalPayload)) :
    (AnnexBParser.new.append (written payloads)).1 ++
        (AnnexBParser.new.append (written payloads)).2.finish.1 =
      payloads.map fun (_, payload) => payload.unit := by
  have parsed := AnnexBParser.new.appendAll_finish [written payloads]
  simp only [AnnexBParser.appendAll, List.append_nil, List.flatten_singleton] at parsed
  rw [parsed, AnnexBParser.new, List.nil_append, split_written, unitsOf, List.filterMap_map]
  rw [← List.filterMap_eq_map]
  congr 1
  funext ⟨code, payload⟩
  exact payload.makeUnit_bytes

end QuadControl.Apple.AndroidVideo
