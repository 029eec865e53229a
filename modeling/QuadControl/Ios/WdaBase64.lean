import QuadControl.Lib.Base64

/-! # The decoder of screenshots

WDA sends its screenshots in base 64, now and then with line breaks. `decode_base64`
collects the bits of the characters in a word of 32 bits, and lets the oldest fall out.
Whatever is left of them, what is decoded depends on the last few only.
-/

namespace QuadControl.Ios.Wda

open Lib Utf8

/-- `u8::is_ascii_whitespace`. -/
def isAsciiWhitespace (b : UInt8) : Bool :=
  b = 32 || b = 9 || b = 10 || b = 12 || b = 13

def sextet (c : UInt8) : Option UInt32 :=
  if 65 ≤ c ∧ c ≤ 90 then some (c - 65).toUInt32
  else if 97 ≤ c ∧ c ≤ 122 then some ((c - 97).toUInt32 + 26)
  else if 48 ≤ c ∧ c ≤ 57 then some ((c - 48).toUInt32 + 52)
  else if c = 43 then some 62
  else if c = 47 then some 63
  else none

/-- The variables of the loop. -/
structure Decoder where
  accumulator : UInt32
  bits : UInt32
  out : Bytes
  deriving DecidableEq

/-- The six bits of a character. -/
def Decoder.add (decoder : Decoder) (value : UInt32) : Decoder :=
  let accumulator := (decoder.accumulator <<< 6) ||| value
  let bits := decoder.bits + 6
  if 8 ≤ bits then
    let bits := bits - 8
    ⟨accumulator, bits, decoder.out ++ [(accumulator >>> bits).toUInt8]⟩
  else ⟨accumulator, bits, decoder.out⟩

/-- One turn of the loop. -/
def Decoder.push (decoder : Decoder) (byte : UInt8) : Option Decoder :=
  (sextet byte).map decoder.add

/-- The bits that are left have to be zero. -/
def Decoder.finish (decoder : Decoder) : Option Bytes :=
  if decoder.accumulator &&& ((1 <<< decoder.bits) - 1) ≠ 0 then none else some decoder.out

/-- The payload, and how much padding follows it: at the end only, and twice at most. -/
def splitPadding (cleaned : Bytes) : Option (Bytes × Nat) :=
  match cleaned.findIdx? (· = 61) with
  | some index =>
      if (cleaned.drop index).any (· ≠ 61) || cleaned.length - index > 2 then none
      else some (cleaned.take index, cleaned.length - index)
  | none => some (cleaned, 0)

def decodeBase64 (input : Text) : Option Bytes :=
  let cleaned := (encode input).filter fun b => !isAsciiWhitespace b
  (splitPadding cleaned).bind fun (payload, padding) =>
    if (payload.length + padding) % 4 ≠ 0 then none
    else (payload.foldlM Decoder.push ⟨0, 0, []⟩).bind Decoder.finish

/-! ### The padding -/

theorem splitPadding_eq_some {cleaned payload : Bytes} {padding : Nat} :
    splitPadding cleaned = some (payload, padding) ↔
      cleaned = payload ++ List.replicate padding 61 ∧ 61 ∉ payload ∧ padding ≤ 2 := by
  unfold splitPadding
  constructor
  · intro split
    split at split
    · rename_i index found
      split at split
      · cases split
      · rename_i plain
        simp only [Bool.or_eq_true, not_or, Bool.not_eq_true, List.any_eq_false,
          decide_eq_true_eq, not_not, not_lt] at plain
        cases split
        obtain ⟨inside, -, before⟩ := List.findIdx?_eq_some_iff_getElem.mp found
        refine ⟨?_, ?_, plain.2⟩
        · have rest : cleaned.drop index = List.replicate (cleaned.length - index) 61 :=
            List.eq_replicate_iff.mpr ⟨List.length_drop, plain.1⟩
          rw [← rest, List.take_append_drop]
        · intro padded
          obtain ⟨place, short, same⟩ := List.mem_take_iff_getElem.mp padded
          exact before place (by omega) (by simpa using same)
    · rename_i absent
      cases split
      simp only [List.findIdx?_eq_none_iff, decide_eq_false_iff_not] at absent
      exact ⟨by simp, fun inside => absent 61 inside rfl, by omega⟩
  · rintro ⟨rfl, plain, few⟩
    have unpadded : payload.findIdx? (· = 61) = none := by
      simp only [List.findIdx?_eq_none_iff, decide_eq_false_iff_not]
      rintro b inside rfl
      exact plain inside
    rw [List.findIdx?_append, unpadded]
    cases padding with
    | zero => simp
    | succ padding =>
        have start : payload.length + (padding + 1) - payload.length = padding + 1 := by omega
        simp [List.replicate_succ, List.findIdx?_cons, start, Nat.not_lt.mpr few]

/-! ### The bits -/

theorem sextet_symbol : ∀ value < 64,
    sextet (byte (Base64.symbol value)) = some (UInt32.ofNat value) := by
  decide +kernel

theorem sextet_eq_some {c : UInt8} {value : UInt32} (h : sextet c = some value) :
    value.toNat < 64 ∧ c = byte (Base64.symbol value.toNat) := by
  have checked : ∀ n < 256, (sextet (UInt8.ofNat n)).all (fun value =>
      value.toNat < 64 ∧ UInt8.ofNat n = byte (Base64.symbol value.toNat)) = true := by
    decide +kernel
  have at_c := checked c.toNat c.toNat_lt
  rw [UInt8.ofNat_toNat, h] at at_c
  simpa using at_c

/-- The new bits stand under what is left of the old ones. -/
theorem toNat_collect (accumulator : UInt32) {value : UInt32} (small : value.toNat < 64) :
    ((accumulator <<< 6) ||| value).toNat = accumulator.toNat % 67108864 * 64 + value.toNat := by
  have shifted : (accumulator <<< 6).toNat = (accumulator.toNat % 67108864) <<< 6 := by
    rw [UInt32.toNat_shiftLeft]
    simp only [UInt32.reduceToNat, Nat.shiftLeft_eq, Nat.reduceMod, Nat.reducePow]
    omega
  rw [UInt32.toNat_or, shifted, ← Nat.shiftLeft_add_eq_or_of_lt small, Nat.shiftLeft_eq]

section Groups

variable (decoder : Decoder) {p q r s : UInt32}

/-- Two characters are a byte and four bits. -/
theorem add_two (empty : decoder.bits = 0) (hp : p.toNat < 64) (hq : q.toNat < 64) :
    ∃ accumulator, (decoder.add p).add q =
        ⟨accumulator, 4, decoder.out ++ [UInt8.ofNat (p.toNat * 4 + q.toNat / 16)]⟩ ∧
      accumulator.toNat % 16 = q.toNat % 16 := by
  refine ⟨((((decoder.accumulator <<< 6) ||| p) <<< 6) ||| q), ?_, ?_⟩
  · have octet : (((((decoder.accumulator <<< 6) ||| p) <<< 6) ||| q) >>> 4).toUInt8 =
        UInt8.ofNat (p.toNat * 4 + q.toNat / 16) := by
      apply UInt8.toNat_inj.mp
      rw [UInt32.toNat_toUInt8, UInt32.toNat_shiftRight, toNat_collect _ hq, toNat_collect _ hp]
      simp only [UInt32.reduceToNat, Nat.shiftRight_eq_div_pow, UInt8.toNat_ofNat', Nat.reduceMod,
        Nat.reducePow]
      omega
    simp [Decoder.add, empty, octet]
  · rw [toNat_collect _ hq]
    omega

/-- Three are two bytes and two bits. -/
theorem add_three (empty : decoder.bits = 0) (hp : p.toNat < 64) (hq : q.toNat < 64)
    (hr : r.toNat < 64) :
    ∃ accumulator, ((decoder.add p).add q).add r =
        ⟨accumulator, 2, decoder.out ++ [UInt8.ofNat (p.toNat * 4 + q.toNat / 16),
          UInt8.ofNat (q.toNat % 16 * 16 + r.toNat / 4)]⟩ ∧
      accumulator.toNat % 4 = r.toNat % 4 := by
  obtain ⟨accumulator, added, left⟩ := add_two decoder empty hp hq
  refine ⟨(accumulator <<< 6) ||| r, ?_, ?_⟩
  · have octet : (((accumulator <<< 6) ||| r) >>> 2).toUInt8 =
        UInt8.ofNat (q.toNat % 16 * 16 + r.toNat / 4) := by
      apply UInt8.toNat_inj.mp
      rw [UInt32.toNat_toUInt8, UInt32.toNat_shiftRight, toNat_collect _ hr]
      simp only [UInt32.reduceToNat, Nat.shiftRight_eq_div_pow, UInt8.toNat_ofNat', Nat.reduceMod,
        Nat.reducePow]
      omega
    rw [added]
    simp [Decoder.add, octet]
  · rw [toNat_collect _ hr]
    omega

/-- Four are three bytes. -/
theorem add_four (empty : decoder.bits = 0) (hp : p.toNat < 64) (hq : q.toNat < 64)
    (hr : r.toNat < 64) (hs : s.toNat < 64) :
    ∃ accumulator, (((decoder.add p).add q).add r).add s =
      ⟨accumulator, 0, decoder.out ++
        (Base64.octets p.toNat q.toNat r.toNat s.toNat).map UInt8.ofNat⟩ := by
  obtain ⟨accumulator, added, left⟩ := add_three decoder empty hp hq hr
  have octet : (((accumulator <<< 6) ||| s) >>> 0).toUInt8 =
      UInt8.ofNat (r.toNat % 4 * 64 + s.toNat) := by
    apply UInt8.toNat_inj.mp
    rw [UInt32.toNat_toUInt8, UInt32.toNat_shiftRight, toNat_collect _ hs]
    simp only [UInt32.reduceToNat, Nat.shiftRight_eq_div_pow, UInt8.toNat_ofNat', Nat.reduceMod,
      Nat.reducePow]
    omega
  refine ⟨(accumulator <<< 6) ||| s, ?_⟩
  rw [added]
  simpa [Decoder.add, Base64.octets] using octet

end Groups

theorem finish_mk (accumulator : UInt32) (out : Bytes) {bits : UInt32} (k m : Nat)
    (power : m = Nat.pow 2 k) (mask : (((1 : UInt32) <<< bits) - 1).toNat = m - 1) :
    (Decoder.mk accumulator bits out).finish =
      if accumulator.toNat % m = 0 then some out else none := by
  have masked : accumulator.toNat &&& (m - 1) = accumulator.toNat % m := by
    rw [power]
    exact Nat.and_two_pow_sub_one_eq_mod _ k
  have left : accumulator &&& (((1 : UInt32) <<< bits) - 1) = 0 ↔ accumulator.toNat % m = 0 := by
    rw [← UInt32.toNat_inj, UInt32.toNat_and, mask, masked]
    rfl
  simp only [Decoder.finish, ne_eq, left, ite_not]

/-- The loop, entered with no bits left. -/
def decodeFrom (decoder : Decoder) (payload : Bytes) : Option Bytes :=
  (payload.foldlM Decoder.push decoder).bind Decoder.finish

theorem push_symbol (decoder : Decoder) {value : Nat} (small : value < 64) :
    decoder.push (byte (Base64.symbol value)) = some (decoder.add (UInt32.ofNat value)) := by
  rw [Decoder.push, sextet_symbol value small]
  rfl

theorem padding_notMem_symbols {values : List Nat} (small : ∀ value ∈ values, value < 64) :
    61 ∉ values.map (byte ∘ Base64.symbol) := by
  intro inside
  obtain ⟨value, member, padding⟩ := List.mem_map.mp inside
  have is := sextet_symbol value (small value member)
  rw [Function.comp_apply] at padding
  rw [padding] at is
  cases is

theorem decodeFrom_symbols {decoder : Decoder} (values : List Nat)
    (small : ∀ value ∈ values, value < 64) (rest : Bytes) :
    decodeFrom decoder (values.map (byte ∘ Base64.symbol) ++ rest) =
      decodeFrom (values.foldl (fun decoder value => decoder.add (UInt32.ofNat value)) decoder)
        rest := by
  induction values generalizing decoder with
  | nil => rfl
  | cons value values ih =>
      have first := push_symbol decoder (small value List.mem_cons_self)
      have later := @ih (decoder.add (UInt32.ofNat value)) fun value inside =>
        small value (List.mem_cons_of_mem _ inside)
      simpa [decodeFrom, first] using later

theorem decodeFrom_cons {decoder : Decoder} {c : UInt8} {rest out : Bytes}
    (decoded : decodeFrom decoder (c :: rest) = some out) :
    ∃ value : UInt32, value.toNat < 64 ∧ c = byte (Base64.symbol value.toNat) ∧
      decodeFrom (decoder.add value) rest = some out := by
  simp only [decodeFrom, List.foldlM_cons, Option.bind_eq_bind, Option.bind_assoc,
    Option.bind_eq_some_iff] at decoded
  obtain ⟨next, pushed, final, fed, finished⟩ := decoded
  simp only [Decoder.push, Option.map_eq_some_iff] at pushed
  obtain ⟨value, is, rfl⟩ := pushed
  obtain ⟨small, same⟩ := sextet_eq_some is
  exact ⟨value, small, same, Option.bind_eq_some_iff.mpr ⟨final, fed, finished⟩⟩

theorem toNat_ofNat_sextet {value : Nat} (small : value < 64) :
    (UInt32.ofNat value).toNat = value := by
  rw [UInt32.toNat_ofNat']
  omega

theorem decodeFrom_nil (decoder : Decoder) : decodeFrom decoder [] = decoder.finish := rfl

/-! ### What is accepted -/

/-- What is encoded is decoded. -/
theorem decodeFrom_encode (bytes : Bytes) (decoder : Decoder) (empty : decoder.bits = 0) :
    ∃ payload padding, (Base64.encode bytes).map byte = payload ++ List.replicate padding 61 ∧
      61 ∉ payload ∧ padding ≤ 2 ∧ (payload.length + padding) % 4 = 0 ∧
      decodeFrom decoder payload = some (decoder.out ++ bytes) := by
  induction bytes using Base64.encode.induct generalizing decoder with
  | case1 a b c rest ih =>
      obtain ⟨p, q, r, s, hp, hq, hr, hs, values, octets⟩ := Base64.exists_sextets a b c
      have small : ∀ value ∈ [p, q, r, s], value < 64 := by simp [hp, hq, hr, hs]
      obtain ⟨accumulator, added⟩ := add_four decoder empty (p := .ofNat p) (q := .ofNat q)
        (r := .ofNat r) (s := .ofNat s) (by rwa [toNat_ofNat_sextet hp])
        (by rwa [toNat_ofNat_sextet hq]) (by rwa [toNat_ofNat_sextet hr])
        (by rwa [toNat_ofNat_sextet hs])
      simp only [toNat_ofNat_sextet, hp, hq, hr, hs, octets] at added
      obtain ⟨payload, padding, encoded, plain, few, whole, decoded⟩ := ih _ (congrArg _ added)
      refine ⟨[p, q, r, s].map (byte ∘ Base64.symbol) ++ payload, padding, ?_, ?_, few, ?_, ?_⟩
      · rw [Base64.encode, values, List.map_append, encoded, List.map_map, List.append_assoc]
      · exact List.mem_append.not.mpr (not_or.mpr ⟨padding_notMem_symbols small, plain⟩)
      · simp only [List.length_append, List.length_map, List.length_cons, List.length_nil]
        omega
      · rw [decodeFrom_symbols _ small]
        simpa [added] using decoded
  | case2 a b =>
      obtain ⟨p, q, r, s, hp, hq, hr, hs, values, octets⟩ := Base64.exists_sextets a b 0
      have small : ∀ value ∈ [p, q, r], value < 64 := by simp [hp, hq, hr]
      simp only [Base64.octets, List.cons.injEq, and_true] at octets
      obtain ⟨first, second, third⟩ := octets
      obtain ⟨accumulator, added, left⟩ := add_three decoder empty (p := .ofNat p) (q := .ofNat q)
        (r := .ofNat r) (by rwa [toNat_ofNat_sextet hp]) (by rwa [toNat_ofNat_sextet hq])
        (by rwa [toNat_ofNat_sextet hr])
      simp only [toNat_ofNat_sextet, hp, hq, hr, first, second, UInt8.ofNat_toNat] at added left
      have zero : r % 4 = 0 := by
        have : (0 : UInt8).toNat = 0 := rfl
        omega
      refine ⟨[p, q, r].map (byte ∘ Base64.symbol), 1, ?_, padding_notMem_symbols small, by omega,
        by simp, ?_⟩
      · rw [Base64.encode, values]
        rfl
      · have loop := @decodeFrom_symbols decoder _ small []
        simp only [List.append_nil, List.foldl_cons, List.foldl_nil, added] at loop
        rw [loop, decodeFrom_nil, finish_mk _ _ 2 4 rfl rfl, if_pos (left.trans zero)]
  | case3 a =>
      obtain ⟨p, q, r, s, hp, hq, hr, hs, values, octets⟩ := Base64.exists_sextets a 0 0
      have small : ∀ value ∈ [p, q], value < 64 := by simp [hp, hq]
      simp only [Base64.octets, List.cons.injEq, and_true] at octets
      obtain ⟨first, second, third⟩ := octets
      obtain ⟨accumulator, added, left⟩ := add_two decoder empty (p := .ofNat p) (q := .ofNat q)
        (by rwa [toNat_ofNat_sextet hp]) (by rwa [toNat_ofNat_sextet hq])
      simp only [toNat_ofNat_sextet, hp, hq, first, UInt8.ofNat_toNat] at added left
      have zero : q % 16 = 0 := by
        have : (0 : UInt8).toNat = 0 := rfl
        omega
      refine ⟨[p, q].map (byte ∘ Base64.symbol), 2, ?_, padding_notMem_symbols small, by omega,
        by simp, ?_⟩
      · rw [Base64.encode, values]
        rfl
      · have loop := @decodeFrom_symbols decoder _ small []
        simp only [List.append_nil, List.foldl_cons, List.foldl_nil, added] at loop
        rw [loop, decodeFrom_nil, finish_mk _ _ 4 16 rfl rfl, if_pos (left.trans zero)]
  | case4 =>
      have unused := @finish_mk decoder.accumulator decoder.out 0 0 1 rfl rfl
      refine ⟨[], 0, rfl, by simp, by omega, rfl, ?_⟩
      rw [decodeFrom_nil]
      simpa [← empty, Nat.mod_one] using unused

/-- What is decoded was encoded: by four characters. -/
theorem encode_of_decodeFrom (decoder : Decoder) (empty : decoder.bits = 0) {out : Bytes}
    {padding : Nat} (few : padding ≤ 2) : (payload : Bytes) →
    (payload.length + padding) % 4 = 0 → decodeFrom decoder payload = some out →
    ∃ bytes, out = decoder.out ++ bytes ∧
      (Base64.encode bytes).map byte = payload ++ List.replicate padding 61
  | [], whole, decoded => by
      obtain rfl : padding = 0 := by
        simp only [List.length_nil] at whole
        omega
      have unused := @finish_mk decoder.accumulator decoder.out 0 0 1 rfl rfl
      rw [decodeFrom_nil] at decoded
      obtain ⟨accumulator, bits, start⟩ := decoder
      obtain rfl : bits = 0 := empty
      simp only [unused, Nat.mod_one, if_true, Option.some.injEq] at decoded
      exact ⟨[], by simp [decoded], rfl⟩
  | [_], whole, _ => by
      simp only [List.length_singleton] at whole
      omega
  | [_, _], whole, decoded => by
      obtain rfl : padding = 2 := by
        simp only [List.length_cons, List.length_nil] at whole
        omega
      obtain ⟨p, hp, rfl, afterP⟩ := decodeFrom_cons decoded
      obtain ⟨q, hq, rfl, afterQ⟩ := decodeFrom_cons afterP
      obtain ⟨accumulator, added, left⟩ := add_two decoder empty hp hq
      rw [added, decodeFrom_nil, finish_mk _ _ 4 16 rfl rfl, left] at afterQ
      obtain ⟨zero, same⟩ := Option.ite_none_right_eq_some.mp afterQ
      refine ⟨_, (Option.some.inj same).symm, ?_⟩
      calc (Base64.encode [_]).map byte
          = (((Base64.sextets (Base64.group _ 0 0)).take 2).map Base64.symbol ++
              ['=', '=']).map byte := rfl
        _ = _ := by
          rw [Base64.sextets_two hp hq zero]
          rfl
  | [_, _, _], whole, decoded => by
      obtain rfl : padding = 1 := by
        simp only [List.length_cons, List.length_nil] at whole
        omega
      obtain ⟨p, hp, rfl, afterP⟩ := decodeFrom_cons decoded
      obtain ⟨q, hq, rfl, afterQ⟩ := decodeFrom_cons afterP
      obtain ⟨r, hr, rfl, afterR⟩ := decodeFrom_cons afterQ
      obtain ⟨accumulator, added, left⟩ := add_three decoder empty hp hq hr
      rw [added, decodeFrom_nil, finish_mk _ _ 2 4 rfl rfl, left] at afterR
      obtain ⟨zero, same⟩ := Option.ite_none_right_eq_some.mp afterR
      refine ⟨_, (Option.some.inj same).symm, ?_⟩
      calc (Base64.encode [_, _]).map byte
          = (((Base64.sextets (Base64.group _ _ 0)).take 3).map Base64.symbol ++
              ['=']).map byte := rfl
        _ = _ := by
          rw [Base64.sextets_three hp hq hr zero]
          rfl
  | _ :: _ :: _ :: _ :: rest, whole, decoded => by
      obtain ⟨p, hp, rfl, afterP⟩ := decodeFrom_cons decoded
      obtain ⟨q, hq, rfl, afterQ⟩ := decodeFrom_cons afterP
      obtain ⟨r, hr, rfl, afterR⟩ := decodeFrom_cons afterQ
      obtain ⟨s, hs, rfl, afterS⟩ := decodeFrom_cons afterR
      obtain ⟨accumulator, added⟩ := add_four decoder empty hp hq hr hs
      rw [added] at afterS
      obtain ⟨bytes, rfl, encoded⟩ := encode_of_decodeFrom _ rfl few rest
        (by simp only [List.length_cons] at whole; omega) afterS
      refine ⟨(Base64.octets p.toNat q.toNat r.toNat s.toNat).map UInt8.ofNat ++ bytes,
        by simp, ?_⟩
      calc (Base64.encode (_ :: _ :: _ :: bytes)).map byte
          = ((Base64.sextets (Base64.group _ _ _)).map Base64.symbol ++
              Base64.encode bytes).map byte := rfl
        _ = _ := by
          rw [Base64.sextets_octets hp hq hr hs, List.map_append, encoded]
          rfl

/-- What is accepted, and as what, byte by byte. -/
theorem decodeBase64_iff_bytes {input : Text} {bytes : Bytes} :
    decodeBase64 input = some bytes ↔
      (encode input).filter (fun b => !isAsciiWhitespace b) =
        (Base64.encode bytes).map byte := by
  unfold decodeBase64
  dsimp only
  constructor
  · intro decoded
    obtain ⟨⟨payload, padding⟩, split, decoded⟩ := Option.bind_eq_some_iff.mp decoded
    obtain ⟨same, -, few⟩ := splitPadding_eq_some.mp split
    dsimp only at decoded
    split at decoded
    · cases decoded
    · rename_i whole
      obtain ⟨bytes', rfl, encoded⟩ :=
        encode_of_decodeFrom ⟨0, 0, []⟩ rfl few payload (not_not.mp whole) decoded
      exact same.trans encoded.symm
  · intro same
    obtain ⟨payload, padding, encoded, plain, few, whole, decoded⟩ :=
      decodeFrom_encode bytes ⟨0, 0, []⟩ rfl
    rw [same, splitPadding_eq_some.mpr ⟨encoded, plain, few⟩, Option.bind_some]
    dsimp only
    rw [if_neg (not_not.mpr whole)]
    exact decoded

/-! ### White space -/

/-- `char::is_ascii_whitespace`. -/
def isAsciiBlank (c : Char) : Bool := c = ' ' || c = '\t' || c = '\n' || c = '\x0c' || c = '\r'

theorem isAsciiWhitespace_byte {c : Char} (ascii : c.toNat < 128) :
    isAsciiWhitespace (byte c) = isAsciiBlank c := by
  have checked : ∀ n < 128, isAsciiWhitespace (byte (Char.ofNat n)) = isAsciiBlank (Char.ofNat n) :=
    by decide
  have at_c := checked c.toNat ascii
  rwa [Char.ofNat_toNat] at at_c

theorem isAsciiWhitespace_false {b : UInt8} (high : 128 ≤ b.toNat) :
    isAsciiWhitespace b = false := by
  have checked : ∀ n < 128, isAsciiWhitespace (UInt8.ofNat (128 + n)) = false := by decide
  have low := b.toNat_lt
  have at_b := checked (b.toNat - 128) (by omega)
  rwa [Nat.add_sub_cancel' high, UInt8.ofNat_toNat] at at_b

theorem ascii_of_isAsciiBlank {c : Char} (blank : isAsciiBlank c = true) : c.toNat < 128 := by
  simp only [isAsciiBlank, Bool.or_eq_true, decide_eq_true_eq] at blank
  rcases blank with (((rfl | rfl) | rfl) | rfl) | rfl <;> decide

/-- No byte of a longer character is white space. -/
theorem filter_encode (text : Text) :
    (encode text).filter (fun b => !isAsciiWhitespace b) =
      encode (text.filter fun c => !isAsciiBlank c) := by
  induction text with
  | nil => rfl
  | cons c text ih =>
      rw [encode_cons, List.filter_append, ih, List.filter_cons]
      by_cases ascii : c.toNat < 128
      · rw [encodeChar_ascii ascii, List.filter_singleton, isAsciiWhitespace_byte ascii]
        cases isAsciiBlank c with
        | true => rfl
        | false => simp [encode_cons, encodeChar_ascii ascii]
      · have solid : isAsciiBlank c = false :=
          Bool.eq_false_iff.mpr fun blank => ascii (ascii_of_isAsciiBlank blank)
        have kept : (String.utf8EncodeChar c).filter (fun b => !isAsciiWhitespace b) =
            String.utf8EncodeChar c := by
          refine List.filter_eq_self.mpr fun b inside => ?_
          have high : 128 ≤ b.toNat :=
            Nat.le_of_not_lt fun low => ascii (ascii_of_mem_encodeChar inside low)
          simp [isAsciiWhitespace_false high]
        rw [kept]
        simp [solid, encode_cons]

/-- What is accepted are the padded encodings, with white space anywhere. -/
theorem decodeBase64_eq_some (input : Text) (bytes : Bytes) :
    decodeBase64 input = some bytes ↔
      input.filter (fun c => !isAsciiBlank c) = Base64.encode bytes := by
  have ascii : ∀ c ∈ Base64.encode bytes, c.toNat < 128 := fun c inside => by
    simpa using Base64.encode_all (p := fun c => c.toNat < 128) (by decide) rfl c inside
  rw [decodeBase64_iff_bytes, filter_encode, ← encode_ascii ascii, encode_injective.eq_iff]

example : decodeBase64 "Zm9v\nYg==".toList = some [102, 111, 111, 98] := by decide

example : decodeBase64 "Zm9vYh==".toList = none := by decide

end QuadControl.Ios.Wda
