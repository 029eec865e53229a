import QuadControl.Apple.Transcript

/-! # The wire format of the diagnostic protocol

Envelopes in JSON, and frames: a payload after its length in four bytes. What JSON makes
of a message is not the program's, so the coders are a parameter.
-/

namespace QuadControl.Apple.Diagnostic

open Lib Lib.Utf8 Lib.Framing Constants

def Constants.maxFrameLength : Nat := 4096

/-! ### Frames -/

namespace Wire

def frame (payload : Bytes) : Except Failure Bytes :=
  if payload ≠ [] ∧ payload.length ≤ maxFrameLength then
    let length := UInt32.ofNat payload.length
    .ok ([((length >>> 24) &&& 0xff).toUInt8, ((length >>> 16) &&& 0xff).toUInt8,
      ((length >>> 8) &&& 0xff).toUInt8, (length &&& 0xff).toUInt8] ++ payload)
  else .error .length

def decodeFrameLength (header : Bytes) : Except Failure Nat :=
  if header.length = 4 then
    let length := header.foldl (fun (length : UInt32) byte => (length <<< 8) ||| byte.toUInt32) 0
    if 0 < length ∧ length.toNat ≤ maxFrameLength then .ok length.toNat else .error .length
  else .error .malformed

def unframe (frame : Bytes) : Except Failure Bytes := do
  if 4 ≤ frame.length then
    let length ← decodeFrameLength (frame.take 4)
    if frame.length = length + 4 then return frame.drop 4 else throw .length
  else throw .malformed

/-- What a frame can carry. -/
def Valid (payload : Bytes) : Prop := payload ≠ [] ∧ payload.length ≤ maxFrameLength

instance (payload : Bytes) : Decidable (Valid payload) := instDecidableAnd

theorem toUInt8_shift (length : UInt32) (k : UInt32) (small : k.toNat < 32) :
    ((length >>> k) &&& 0xff).toUInt8 = UInt8.ofNat (length.toNat / 2 ^ k.toNat) := by
  apply UInt8.toNat_inj.mp
  have mask : (0xff : UInt32).toNat = 2 ^ 8 - 1 := rfl
  have shift : k.toNat % 32 = k.toNat := Nat.mod_eq_of_lt small
  simp only [UInt32.toNat_toUInt8, UInt32.toNat_and, UInt32.toNat_shiftRight, UInt8.toNat_ofNat',
    mask, shift, Nat.and_two_pow_sub_one_eq_mod, Nat.shiftRight_eq_div_pow]
  omega

theorem header_eq_bigEndian {n : Nat} (small : n < 2 ^ 32) :
    [((UInt32.ofNat n >>> 24) &&& 0xff).toUInt8, ((UInt32.ofNat n >>> 16) &&& 0xff).toUInt8,
      ((UInt32.ofNat n >>> 8) &&& 0xff).toUInt8, (UInt32.ofNat n &&& 0xff).toUInt8] =
      bigEndian 4 n := by
  have value : (UInt32.ofNat n).toNat = n := by
    rw [UInt32.toNat_ofNat']
    omega
  have last : UInt32.ofNat n &&& 0xff = (UInt32.ofNat n >>> (0 : UInt32)) &&& 0xff := by simp
  rw [last, toUInt8_shift _ 24 (by decide), toUInt8_shift _ 16 (by decide),
    toUInt8_shift _ 8 (by decide), toUInt8_shift _ 0 (by decide), value]
  simp [bigEndian, Nat.div_div_eq_div_mul]

/-- A frame is its payload after the length. -/
theorem frame_eq_ok {payload framed : Bytes} :
    frame payload = .ok framed ↔ Valid payload ∧ prefixed payload = framed := by
  unfold frame
  split
  · rename_i valid
    have small : payload.length < 2 ^ 32 := by
      have bound := valid.2
      unfold maxFrameLength at bound
      omega
    simp only [header_eq_bigEndian small, Except.ok.injEq, prefixed]
    exact ⟨fun same => ⟨valid, same⟩, fun same => same.2⟩
  · rename_i invalid
    exact iff_of_false (by rintro ⟨⟩) fun same => invalid same.1

theorem toNat_shift_or (length : UInt32) (byte : UInt8) (small : length.toNat < 2 ^ 24) :
    ((length <<< 8) ||| byte.toUInt32).toNat = length.toNat * 256 + byte.toNat := by
  have low := byte.toNat_lt
  have high : length.toNat * 2 ^ 8 % 2 ^ 32 = 2 ^ 8 * length.toNat := by omega
  have amount : (8 : UInt32).toNat % 32 = 8 := rfl
  rw [UInt32.toNat_or, UInt32.toNat_shiftLeft, amount, Nat.shiftLeft_eq, high,
    UInt8.toNat_toUInt32, ← Nat.two_pow_add_eq_or_of_lt low]
  omega

theorem toNat_foldl {header : Bytes} (short : header.length ≤ 4) :
    (header.foldl (fun (length : UInt32) byte => (length <<< 8) ||| byte.toUInt32) 0).toNat =
      ofBigEndian header := by
  induction header using List.reverseRecOn with
  | nil => rfl
  | append_singleton header last ih =>
      rw [List.length_append, List.length_singleton] at short
      have before := ih (by omega)
      have small : ofBigEndian header < 2 ^ 24 := by
        calc ofBigEndian header < 256 ^ header.length := ofBigEndian_lt header
          _ ≤ 256 ^ 3 := Nat.pow_le_pow_right (by decide) (by omega)
      rw [List.foldl_append, List.foldl_cons, List.foldl_nil, ofBigEndian_concat,
        toNat_shift_or _ _ (before ▸ small), before]

/-- The length that a header of four bytes announces is the number they spell. -/
theorem decodeFrameLength_of_length {header : Bytes} (length : header.length = 4) :
    decodeFrameLength header =
      if 0 < ofBigEndian header ∧ ofBigEndian header ≤ maxFrameLength then
        .ok (ofBigEndian header)
      else .error .length := by
  have value := toNat_foldl (Nat.le_of_eq length)
  unfold decodeFrameLength
  simp only [if_pos length, UInt32.lt_iff_toNat_lt, value]
  rfl

theorem decodeFrameLength_eq_ok {header : Bytes} {n : Nat} (length : header.length = 4) :
    decodeFrameLength header = .ok n ↔ 0 < n ∧ n ≤ maxFrameLength ∧ header = bigEndian 4 n := by
  rw [decodeFrameLength_of_length length]
  constructor
  · intro decoded
    split at decoded
    · rename_i bounds
      cases decoded
      have spelled := bigEndian_ofBigEndian header
      rw [length] at spelled
      exact ⟨bounds.1, bounds.2, spelled.symm⟩
    · cases decoded
  · rintro ⟨positive, bound, rfl⟩
    have small : n < 256 ^ 4 := by
      unfold maxFrameLength at bound
      omega
    rw [ofBigEndian_bigEndian small, if_pos ⟨positive, bound⟩]

theorem Valid.length_pos {payload : Bytes} (valid : Valid payload) : 0 < payload.length :=
  List.length_pos_iff.mpr valid.1

theorem unframe_eq_ok {framed payload : Bytes} :
    unframe framed = .ok payload ↔ Valid payload ∧ prefixed payload = framed := by
  constructor
  · intro returned
    unfold unframe at returned
    split at returned
    · rename_i enough
      have four : (framed.take 4).length = 4 := by simpa using enough
      obtain ⟨n, decoded, returned⟩ := Except.bind_eq_ok.mp returned
      obtain ⟨positive, bound, header⟩ := (decodeFrameLength_eq_ok four).mp decoded
      split at returned
      · rename_i whole
        obtain rfl := Except.pure_eq_ok.mp returned
        have rest : (framed.drop 4).length = n := by
          rw [List.length_drop]
          omega
        refine ⟨⟨List.ne_nil_of_length_pos (rest ▸ positive), rest ▸ bound⟩, ?_⟩
        rw [prefixed, rest, ← header, List.take_append_drop]
      · cases returned
    · cases returned
  · rintro ⟨valid, rfl⟩
    have four : (bigEndian 4 payload.length).length = 4 := length_bigEndian 4 _
    have header : (prefixed payload).take 4 = bigEndian 4 payload.length := List.take_left' four
    have rest : (prefixed payload).drop 4 = payload := List.drop_left' four
    have whole : (prefixed payload).length = payload.length + 4 := by
      rw [prefixed, List.length_append, four, Nat.add_comm]
    have decoded := (decodeFrameLength_eq_ok four).mpr ⟨valid.length_pos, valid.2, rfl⟩
    rw [unframe, if_pos (by omega), header, decoded, rest]
    exact if_pos whole

/-- `frame` and `unframe` are each other's inverses, wherever one of them returns. -/
theorem unframe_eq_ok_iff_frame {framed payload : Bytes} :
    unframe framed = .ok payload ↔ frame payload = .ok framed :=
  unframe_eq_ok.trans frame_eq_ok.symm

end Wire

end QuadControl.Apple.Diagnostic
