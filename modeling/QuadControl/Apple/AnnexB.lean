import QuadControl.Lib.Delimiters
import QuadControl.Lib.Utf8

/-! # The Annex B parser

A stream of H.264 is cut into NAL units at start codes of three or four bytes. The parser
buffers what it cannot resolve yet: a unit is complete once the next start code is seen,
or the stream is closed.
-/

namespace QuadControl.Apple.AndroidVideo

open Lib Lib.Utf8

/-- `NalUnit.Kind`. -/
inductive Kind where
  | nonIDRSlice
  | idrSlice
  | sps
  | pps
  | accessUnitDelimiter
  | other (rawType : UInt8)
  deriving Repr, DecidableEq

def Kind.ofRawType (rawType : UInt8) : Kind :=
  if rawType = 1 then .nonIDRSlice
  else if rawType = 5 then .idrSlice
  else if rawType = 7 then .sps
  else if rawType = 8 then .pps
  else if rawType = 9 then .accessUnitDelimiter
  else .other rawType

structure NalUnit where
  kind : Kind
  payload : Bytes
  deriving Repr, DecidableEq

/-- A start code that was found. -/
structure Start where
  index : Nat
  codeLength : Nat
  deriving Repr, DecidableEq

/-- What `nextStartCode` looks for at an index, in the bytes from there. -/
def startCode? : Bytes → Option Nat
  | first :: second :: third :: rest =>
      if first = 0 ∧ second = 0 then
        if third = 1 then some 3
        else if third = 0 ∧ rest.head? = some 1 then some 4
        else none
      else none
  | _ => none

def nextStartCode (data : Bytes) (index : Nat) : Option Start :=
  if index + 2 < data.length then
    match startCode? (data.drop index) with
    | some codeLength => some ⟨index, codeLength⟩
    | none => nextStartCode data (index + 1)
  else none
termination_by data.length - index

theorem startCode?_eq_some {bytes : Bytes} {n : Nat} (here : startCode? bytes = some n) :
    (n = 3 ∨ n = 4) ∧ ∃ rest, bytes = List.replicate (n - 1) 0 ++ 1 :: rest := by
  unfold startCode? at here
  split at here
  · rename_i first second third rest
    split at here
    · rename_i zeros
      obtain ⟨rfl, rfl⟩ := zeros
      split at here
      · rename_i one
        obtain rfl := Option.some.inj here
        exact ⟨.inl rfl, rest, by rw [one]; rfl⟩
      · split at here
        · rename_i long
          obtain rfl := Option.some.inj here
          obtain ⟨rfl, one⟩ := long
          obtain ⟨rest, rfl⟩ := List.head?_eq_some_iff.mp one
          exact ⟨.inr rfl, rest, rfl⟩
        · cases here
    · cases here
  · cases here

theorem startCode?_append_of_some {bytes : Bytes} {n : Nat} (more : Bytes)
    (here : startCode? bytes = some n) : startCode? (bytes ++ more) = some n := by
  obtain ⟨three | four, rest, rfl⟩ := startCode?_eq_some here
  · subst three
    rfl
  · subst four
    rfl

theorem startCode?_append {bytes : Bytes} (more : Bytes) (enough : 4 ≤ bytes.length) :
    startCode? (bytes ++ more) = startCode? bytes := by
  match bytes, enough with
  | _ :: _ :: _ :: _ :: _, _ => rfl

/-- The start codes as delimiters. -/
def startCode : Delimiter UInt8 where
  length? := startCode?
  window := 4
  positive := by
    intro bytes n here
    obtain ⟨three | four, -⟩ := startCode?_eq_some here <;> omega
  within := by
    intro bytes n here
    obtain ⟨length, rest, rfl⟩ := startCode?_eq_some here
    simp only [List.length_append, List.length_replicate, List.length_cons]
    omega
  long := by
    intro bytes n here
    obtain ⟨three | four, -⟩ := startCode?_eq_some here <;> omega
  stable := startCode?_append_of_some
  decided := startCode?_append

/-- The bytes up to the first start code have none, and those from it are split alike. -/
theorem nextStartCode_eq_some {data : Bytes} {index : Nat} {found : Start}
    (next : nextStartCode data index = some found) :
    index ≤ found.index ∧ startCode? (data.drop found.index) = some found.codeLength ∧
      startCode.split (data.drop index) =
        ((data.drop index).take (found.index - index),
          (startCode.split (data.drop found.index)).2) := by
  fun_induction nextStartCode data index with
  | case1 index short codeLength here =>
      obtain rfl := Option.some.inj next
      refine ⟨Nat.le_refl _, here, ?_⟩
      rw [Nat.sub_self, List.take_zero, Delimiter.split_of_some here]
  | case2 index short plain ih =>
      obtain ⟨above, here, split⟩ := ih next
      have first := List.drop_eq_getElem_cons (show index < data.length by omega)
      rw [first] at plain ⊢
      have step : found.index - index = found.index - (index + 1) + 1 := by omega
      refine ⟨by omega, here, ?_⟩
      rw [Delimiter.split_cons_of_none plain, split, step,
        List.take_succ_cons]
  | case3 => cases next

theorem nextStartCode_eq_none {data : Bytes} {index : Nat}
    (next : nextStartCode data index = none) : (startCode.split (data.drop index)).2 = [] := by
  fun_induction nextStartCode data index with
  | case1 => cases next
  | case2 index short plain ih =>
      have first := List.drop_eq_getElem_cons (show index < data.length by omega)
      rw [first] at plain ⊢
      rw [Delimiter.split_cons_of_none plain]
      exact ih next
  | case3 index short =>
      by_contra parts
      have enough : 4 ≤ (data.drop index).length + 1 := Delimiter.window_le_of_parts parts
      simp only [List.length_drop] at enough
      omega

/-- The loop of `drain` that finds the start codes. -/
def starts (data : Bytes) (index : Nat) : List Start :=
  if index < data.length then
    match _next : nextStartCode data index with
    | none => []
    | some found => found :: starts data (found.index + found.codeLength)
  else []
termination_by data.length - index
decreasing_by
  obtain ⟨above, here, -⟩ := nextStartCode_eq_some _next
  have positive := startCode.positive here
  omega

def makeUnit (slice : Bytes) : Option NalUnit :=
  match slice with
  | [] => none
  | header :: _ =>
      if header &&& 0x80 = 0 then some ⟨.ofRawType (header &&& 0x1F), slice⟩ else none

def slice (data : Bytes) (low high : Nat) : Bytes := (data.take high).drop low

/-- The loop of `drain` that makes the units between the start codes. -/
def units (buffer : Bytes) (flushTail : Bool) : List Start → List NalUnit
  | [] => []
  | [last] =>
      if flushTail then
        (makeUnit (slice buffer (last.index + last.codeLength) buffer.length)).toList
      else []
  | start :: next :: rest =>
      (makeUnit (slice buffer (start.index + start.codeLength) next.index)).toList ++
        units buffer flushTail (next :: rest)

structure AnnexBParser where
  buffer : Bytes
  deriving Repr, DecidableEq

namespace AnnexBParser

def new : AnnexBParser := ⟨[]⟩

variable (parser : AnnexBParser)

def drain (flushTail : Bool) : List NalUnit × AnnexBParser :=
  let found := starts parser.buffer 0
  match found.getLast? with
  | none =>
      -- A start code is four bytes at most.
      ([], if !flushTail && 3 < parser.buffer.length then
          ⟨parser.buffer.drop (parser.buffer.length - 3)⟩
        else parser)
  | some last =>
      (units parser.buffer flushTail found,
        ⟨if flushTail then [] else parser.buffer.drop last.index⟩)

def append (chunk : Bytes) : List NalUnit × AnnexBParser :=
  drain ⟨parser.buffer ++ chunk⟩ false

def finish : List NalUnit × AnnexBParser := parser.drain true

end AnnexBParser

end QuadControl.Apple.AndroidVideo
