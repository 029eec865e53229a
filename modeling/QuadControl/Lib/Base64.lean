import Mathlib.Data.List.GetD
import QuadControl.Lib.Utf8

/-! # Base 64

The encoding of RFC 4648 with the standard alphabet: three bytes are four characters, and
what is short of three bytes is filled with zero bits and padded.
-/

namespace QuadControl.Lib.Base64

open Utf8

def alphabet : Text :=
  "ABCDEFGHIJKLMNOPQRSTUVWXYZabcdefghijklmnopqrstuvwxyz0123456789+/".toList

/-- The character of a value of six bits. -/
def symbol (value : Nat) : Char := alphabet.getD value '='

/-- The group of 24 bits. -/
def group (a b c : UInt8) : Nat := a.toNat * 65536 + b.toNat * 256 + c.toNat

/-- The four values of a group. -/
def sextets (group : Nat) : List Nat :=
  [group / 262144, group / 4096 % 64, group / 64 % 64, group % 64]

def encode : Bytes → Text
  | a :: b :: c :: rest => (sextets (group a b c)).map symbol ++ encode rest
  | [a, b] => ((sextets (group a b 0)).take 3).map symbol ++ ['=']
  | [a] => ((sextets (group a 0 0)).take 2).map symbol ++ ['=', '=']
  | [] => []

/-- The bytes of a group of four values, by the bits they share. -/
def octets (p q r s : Nat) : List Nat := [p * 4 + q / 16, q % 16 * 16 + r / 4, r % 4 * 64 + s]

theorem group_lt (a b c : UInt8) : group a b c < 16777216 := by
  have := a.toNat_lt
  have := b.toNat_lt
  have := c.toNat_lt
  unfold group
  omega

/-- The values of a group, which have its bytes. -/
theorem exists_sextets (a b c : UInt8) :
    ∃ p q r s, p < 64 ∧ q < 64 ∧ r < 64 ∧ s < 64 ∧ sextets (group a b c) = [p, q, r, s] ∧
      octets p q r s = [a.toNat, b.toNat, c.toNat] := by
  have small := group_lt a b c
  have := a.toNat_lt
  have := b.toNat_lt
  have := c.toNat_lt
  refine ⟨_, _, _, _, ?_, ?_, ?_, ?_, rfl, ?_⟩
  · omega
  · omega
  · omega
  · omega
  · simp only [octets, group, List.cons.injEq, and_true]
    omega

theorem sextets_octets {p q r s : Nat} (hp : p < 64) (hq : q < 64) (hr : r < 64) (hs : s < 64) :
    sextets (group (UInt8.ofNat (p * 4 + q / 16)) (UInt8.ofNat (q % 16 * 16 + r / 4))
      (UInt8.ofNat (r % 4 * 64 + s))) = [p, q, r, s] := by
  simp only [sextets, group, UInt8.toNat_ofNat', List.cons.injEq, and_true]
  omega

/-- Without the byte that is short, its bits are zero. -/
theorem sextets_three {p q r : Nat} (hp : p < 64) (hq : q < 64) (hr : r < 64) (zero : r % 4 = 0) :
    sextets (group (UInt8.ofNat (p * 4 + q / 16)) (UInt8.ofNat (q % 16 * 16 + r / 4)) 0) =
      [p, q, r, 0] := by
  have whole := sextets_octets hp hq hr (s := 0) (by omega)
  rwa [zero] at whole

theorem sextets_two {p q : Nat} (hp : p < 64) (hq : q < 64) (zero : q % 16 = 0) :
    sextets (group (UInt8.ofNat (p * 4 + q / 16)) 0 0) = [p, q, 0, 0] := by
  have whole := sextets_three hp hq (r := 0) (by omega) rfl
  rwa [zero] at whole

theorem symbol_mem (value : Nat) : symbol value ∈ alphabet ∨ symbol value = '=' := by
  unfold symbol
  rcases lt_or_ge value alphabet.length with inside | outside
  · left
    rw [List.getD_eq_getElem _ _ inside]
    exact List.getElem_mem inside
  · right
    exact List.getD_eq_default _ _ outside

/-- What is written is of the alphabet or padding. -/
theorem mem_of_mem_encode {bytes : Bytes} {c : Char} (inside : c ∈ encode bytes) :
    c ∈ alphabet ∨ c = '=' := by
  have symbols : ∀ values : List Nat, c ∈ values.map symbol → c ∈ alphabet ∨ c = '=' := by
    intro values inside
    obtain ⟨value, -, rfl⟩ := List.mem_map.mp inside
    exact symbol_mem value
  induction bytes using encode.induct with
  | case1 a b d rest ih =>
      rw [encode, List.mem_append] at inside
      exact inside.elim (symbols _) ih
  | case2 | case3 =>
      rw [encode, List.mem_append] at inside
      exact inside.elim (symbols _) fun padding => .inr (by simpa using padding)
  | case4 => cases inside

theorem encode_all {bytes : Bytes} {p : Char → Bool} (alphabetic : alphabet.all p = true)
    (padding : p '=' = true) : ∀ c ∈ encode bytes, p c = true := by
  intro c inside
  rcases mem_of_mem_encode inside with listed | rfl
  · exact List.all_eq_true.mp alphabetic c listed
  · exact padding

end QuadControl.Lib.Base64
