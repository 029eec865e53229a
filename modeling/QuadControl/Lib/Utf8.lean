import QuadControl.Lib.Text
import Mathlib.Data.List.TakeWhile

/-! # UTF-8 over lists of bytes

Encoding and strict decoding of text, on top of the core library's `ByteArray`
decoder: `decode?` inverts `encode`, and what it accepts is an encoding.
-/

namespace QuadControl.Lib.Utf8

abbrev Bytes := List UInt8

def encode (s : Text) : Bytes := s.flatMap String.utf8EncodeChar

/-- Strict decoding: `none` on ill-formed bytes. -/
def decode? (bytes : Bytes) : Option Text :=
  (ByteArray.utf8Decode? bytes.toByteArray).map Array.toList

@[simp] theorem encode_nil : encode [] = [] := rfl

@[simp] theorem encode_append (s t : Text) : encode (s ++ t) = encode s ++ encode t :=
  List.flatMap_append

theorem encode_cons (c : Char) (s : Text) : encode (c :: s) = String.utf8EncodeChar c ++ encode s :=
  rfl

theorem encode_toByteArray (s : Text) : (encode s).toByteArray = s.utf8Encode := by
  induction s with
  | nil => simp
  | cons c s ih =>
      rw [encode_cons, List.toByteArray_append, ih, List.utf8Encode_cons, List.utf8Encode_singleton]

@[simp] theorem decode_encode (s : Text) : decode? (encode s) = some s := by
  simp [decode?, encode_toByteArray]

theorem encode_of_decode {bytes : Bytes} {s : Text} (h : decode? bytes = some s) :
    bytes = encode s := by
  simp only [decode?, Option.map_eq_some_iff] at h
  obtain ⟨chars, decoded, rfl⟩ := h
  have some : (ByteArray.utf8Decode? bytes.toByteArray).isSome := by simp [decoded]
  have encoded := ByteArray.utf8Encode_get_utf8Decode? (b := bytes.toByteArray) (h := some)
  simp only [decoded, Option.get_some] at encoded
  rw [← encode_toByteArray] at encoded
  simpa using congrArg (fun b => b.data.toList) encoded.symm

theorem encode_injective : Function.Injective encode := by
  intro s t same
  simpa using congrArg decode? same

theorem length_le_encode (s : Text) : s.length ≤ (encode s).length := by
  induction s with
  | nil => simp
  | cons c s ih =>
      have := c.utf8Size_pos
      simp only [encode_cons, List.length_append, List.length_cons, String.length_utf8EncodeChar]
      omega

/-! ### ASCII -/

/-- The byte of an ASCII character. -/
def byte (c : Char) : UInt8 := UInt8.ofNat c.toNat

theorem encodeChar_ascii {c : Char} (ascii : c.toNat < 128) :
    String.utf8EncodeChar c = [byte c] := by
  have small : c.val.toNat ≤ 127 := Nat.le_of_lt_succ ascii
  simp only [String.utf8EncodeChar, small, if_true]
  rfl

theorem ascii_of_all {s : Text} (all : s.all (fun c => c.toNat < 128) = true) :
    ∀ c ∈ s, c.toNat < 128 := by
  simpa using all

theorem encode_ascii {s : Text} (ascii : ∀ c ∈ s, c.toNat < 128) : encode s = s.map byte := by
  induction s with
  | nil => rfl
  | cons c s ih =>
      rw [encode_cons, encodeChar_ascii (ascii c (by simp)),
        ih (fun d inside => ascii d (List.mem_cons_of_mem _ inside))]
      rfl

/-- Only the bytes of ASCII characters are below 128. -/
theorem ascii_of_mem_encodeChar {c : Char} {b : UInt8} (inside : b ∈ String.utf8EncodeChar c)
    (low : b.toNat < 128) : c.toNat < 128 := by
  by_contra high
  have large : ¬ c.val.toNat ≤ 127 := fun small => high (Nat.lt_succ_of_le small)
  simp only [String.utf8EncodeChar, large, if_false] at inside
  split at inside
  · simp only [List.mem_cons, List.not_mem_nil, or_false] at inside
    rcases inside with rfl | rfl <;> simp only [UInt8.toNat_ofNat'] at low <;> omega
  · split at inside
    · simp only [List.mem_cons, List.not_mem_nil, or_false] at inside
      rcases inside with rfl | rfl | rfl <;> simp only [UInt8.toNat_ofNat'] at low <;> omega
    · simp only [List.mem_cons, List.not_mem_nil, or_false] at inside
      rcases inside with rfl | rfl | rfl | rfl <;> simp only [UInt8.toNat_ofNat'] at low <;> omega

theorem byte_injective {c d : Char} (hc : c.toNat < 128) (hd : d.toNat < 128)
    (same : byte c = byte d) : c = d := by
  have nat : c.toNat = d.toNat := by
    have := congrArg UInt8.toNat same
    simp only [byte, UInt8.toNat_ofNat'] at this
    omega
  exact Char.ext (UInt32.toNat_inj.mp nat)

/-- An ASCII character is in a text exactly when its byte is in the encoding. -/
theorem mem_encode_iff {s : Text} {c : Char} (ascii : c.toNat < 128) :
    byte c ∈ encode s ↔ c ∈ s := by
  constructor
  · intro inside
    obtain ⟨d, member, inside⟩ := List.mem_flatMap.mp inside
    have low : (byte c).toNat < 128 := by simp only [byte, UInt8.toNat_ofNat']; omega
    have ascii' := ascii_of_mem_encodeChar inside low
    rw [encodeChar_ascii ascii', List.mem_singleton] at inside
    exact byte_injective ascii ascii' inside ▸ member
  · intro member
    exact List.mem_flatMap.mpr ⟨c, member, by simp [encodeChar_ascii ascii]⟩

/-- A text whose encoding ends in the byte of an ASCII character ends in it. -/
theorem eq_append_of_encode {s : Text} {body : Bytes} {c : Char} (ascii : c.toNat < 128)
    (h : encode s = body ++ [byte c]) : ∃ t, s = t ++ [c] ∧ body = encode t := by
  induction s using List.reverseRecOn with
  | nil => simp at h
  | append_singleton t d _ =>
      have last : byte c ∈ String.utf8EncodeChar d := by
        have nonempty : String.utf8EncodeChar d ≠ [] := String.utf8EncodeChar_ne_nil
        have := congrArg List.getLast? h
        rw [encode_append, encode_cons, encode_nil, List.append_nil,
          List.getLast?_append_of_ne_nil _ nonempty, List.getLast?_concat] at this
        exact List.mem_of_getLast? this
      have low : (byte c).toNat < 128 := by simp only [byte, UInt8.toNat_ofNat']; omega
      have ascii' := ascii_of_mem_encodeChar last low
      rw [encodeChar_ascii ascii', List.mem_singleton] at last
      obtain rfl := byte_injective ascii ascii' last
      refine ⟨t, rfl, ?_⟩
      rw [encode_append, encode_cons, encode_nil, List.append_nil, encodeChar_ascii ascii] at h
      exact (List.append_inj_left' h rfl).symm

theorem prefix_encode {s t : Text} (h : s <+: t) : encode s <+: encode t := by
  obtain ⟨u, rfl⟩ := h
  exact ⟨encode u, (encode_append s u).symm⟩

theorem suffix_encode {s t : Text} (h : s <:+ t) : encode s <:+ encode t := by
  obtain ⟨u, rfl⟩ := h
  exact ⟨encode u, (encode_append u s).symm⟩

/-- The bytes of a character are where those of another begin only if it is that one. -/
theorem encodeChar_append_inj {c d : Char} {left right : Bytes}
    (same : String.utf8EncodeChar c ++ left = String.utf8EncodeChar d ++ right) : c = d := by
  have first := @ByteArray.utf8DecodeChar?_utf8EncodeChar_append left.toByteArray c
  have second := @ByteArray.utf8DecodeChar?_utf8EncodeChar_append right.toByteArray d
  rw [← List.toByteArray_append, same, List.toByteArray_append, second] at first
  exact (Option.some.inj first).symm

/-- What is behind an encoding that begins another is an encoding too. -/
theorem eq_append_of_encode_append {s t : Text} {rest : Bytes}
    (whole : encode s = encode t ++ rest) : ∃ u, s = t ++ u ∧ rest = encode u := by
  induction t generalizing s with
  | nil => exact ⟨s, rfl, whole.symm⟩
  | cons c t ih =>
      cases s with
      | nil =>
          have length := congrArg List.length whole
          have := c.utf8Size_pos
          simp only [encode_cons, encode_nil, List.length_append, List.length_nil,
            String.length_utf8EncodeChar] at length
          omega
      | cons d s =>
          rw [encode_cons, encode_cons, List.append_assoc] at whole
          obtain rfl := encodeChar_append_inj whole
          obtain ⟨u, rfl, shape⟩ := ih (List.append_cancel_left whole)
          exact ⟨u, rfl, shape⟩

/-- ASCII text can be compared byte by byte. -/
theorem encode_prefix_iff {p s : Text} (ascii : ∀ c ∈ p, c.toNat < 128) :
    encode p <+: encode s ↔ p <+: s := by
  refine ⟨fun h => ?_, prefix_encode⟩
  induction p generalizing s with
  | nil => exact List.nil_prefix
  | cons c p ih =>
      have low : (byte c).toNat < 128 := by
        have := ascii c (by simp)
        simp only [byte, UInt8.toNat_ofNat']
        omega
      rw [encode_cons, encodeChar_ascii (ascii c (by simp))] at h
      cases s with
      | nil => simp at h
      | cons d s =>
          have first : byte c ∈ String.utf8EncodeChar d := by
            rw [encode_cons] at h
            cases bytes : String.utf8EncodeChar d with
            | nil => exact absurd bytes String.utf8EncodeChar_ne_nil
            | cons x xs =>
                rw [bytes] at h
                simp [(List.cons_prefix_cons.mp h).1]
          have ascii' := ascii_of_mem_encodeChar first low
          rw [encodeChar_ascii ascii', List.mem_singleton] at first
          obtain rfl := byte_injective (ascii c (by simp)) ascii' first
          rw [encode_cons, encodeChar_ascii ascii'] at h
          exact List.cons_prefix_cons.mpr ⟨rfl, ih (fun x inside => ascii x (by simp [inside]))
            (List.cons_prefix_cons.mp h).2⟩

end QuadControl.Lib.Utf8
