import Mathlib.Algebra.Order.Ring.Nat
import Mathlib.Data.List.Induction
import QuadControl.Lib.Utf8

/-! # Fields with their lengths

Numbers as big-endian bytes of a fixed width, and fields that are prefixed with their
length in four bytes. Fields written one after the other can be told apart, so that a
list of them is determined by its bytes.
-/

namespace QuadControl.Lib.Framing

open Utf8

/-- A number in so many bytes, the highest first; what does not fit is cut off. -/
def bigEndian : Nat → Nat → Bytes
  | 0, _ => []
  | width + 1, n => bigEndian width (n / 256) ++ [UInt8.ofNat n]

@[simp] theorem length_bigEndian (width n : Nat) : (bigEndian width n).length = width := by
  induction width generalizing n with
  | zero => rfl
  | succ width ih => simp [bigEndian, ih]

/-- The number that bytes spell, the highest first. -/
def ofBigEndian (bytes : Bytes) : Nat := bytes.foldl (fun n byte => n * 256 + byte.toNat) 0

theorem ofBigEndian_concat (bytes : Bytes) (last : UInt8) :
    ofBigEndian (bytes ++ [last]) = ofBigEndian bytes * 256 + last.toNat := by
  rw [ofBigEndian, List.foldl_append]
  rfl

theorem ofBigEndian_lt (bytes : Bytes) : ofBigEndian bytes < 256 ^ bytes.length := by
  induction bytes using List.reverseRecOn with
  | nil => decide
  | append_singleton bytes last ih =>
      have low := last.toNat_lt
      rw [ofBigEndian_concat, List.length_append, List.length_singleton, pow_succ]
      omega

/-- Numbers that fit are spelled by their bytes: the last byte gives the remainder, and by
    induction on the width the others give the quotient. -/
theorem ofBigEndian_bigEndian {width n : Nat} (fits : n < 256 ^ width) :
    ofBigEndian (bigEndian width n) = n := by
  induction width generalizing n with
  | zero =>
      rw [pow_zero] at fits
      have none : n = 0 := by omega
      subst none
      rfl
  | succ width ih =>
      have high : n / 256 < 256 ^ width := by
        rw [pow_succ] at fits
        omega
      have low : (UInt8.ofNat n).toNat = n % 256 := by simp
      rw [bigEndian, ofBigEndian_concat, ih high, low]
      omega

theorem bigEndian_ofBigEndian (bytes : Bytes) :
    bigEndian bytes.length (ofBigEndian bytes) = bytes := by
  induction bytes using List.reverseRecOn with
  | nil => rfl
  | append_singleton bytes last ih =>
      have low := last.toNat_lt
      have high : (ofBigEndian bytes * 256 + last.toNat) / 256 = ofBigEndian bytes := by omega
      have byte : UInt8.ofNat (ofBigEndian bytes * 256 + last.toNat) = last := by
        apply UInt8.toNat_inj.mp
        simp only [UInt8.toNat_ofNat']
        omega
      rw [List.length_append, List.length_singleton, ofBigEndian_concat, bigEndian, high, ih, byte]

/-- Numbers that fit are told apart by their bytes. -/
theorem bigEndian_inj {width m n : Nat} (hm : m < 256 ^ width) (hn : n < 256 ^ width)
    (same : bigEndian width m = bigEndian width n) : m = n := by
  have spelled := congrArg ofBigEndian same
  rwa [ofBigEndian_bigEndian hm, ofBigEndian_bigEndian hn] at spelled

/-- A field after its length in four bytes. -/
def prefixed (field : Bytes) : Bytes := bigEndian 4 field.length ++ field

/-- A field whose length fits in four bytes. -/
def Fits (field : Bytes) : Prop := field.length < 2 ^ 32

instance (field : Bytes) : Decidable (Fits field) := Nat.decLt _ _

theorem prefixed_append_inj {field other rest tail : Bytes} (fits : Fits field)
    (fits' : Fits other) (same : prefixed field ++ rest = prefixed other ++ tail) :
    field = other ∧ rest = tail := by
  simp only [prefixed, List.append_assoc] at same
  have parts := List.append_inj same (by simp)
  have length : field.length = other.length := by
    apply bigEndian_inj _ _ parts.1
    · exact fits
    · exact fits'
  exact List.append_inj parts.2 length

/-- Fields one after the other. -/
def frames (fields : List Bytes) : Bytes := fields.flatMap prefixed

@[simp] theorem frames_cons (field : Bytes) (fields : List Bytes) :
    frames (field :: fields) = prefixed field ++ frames fields :=
  rfl

theorem prefixed_ne_nil (field rest : Bytes) : prefixed field ++ rest ≠ [] := by
  intro empty
  have none := congrArg List.length empty
  simp only [prefixed, List.length_append, length_bigEndian, List.length_nil] at none
  omega

theorem frames_inj {fields others : List Bytes} (fits : ∀ field ∈ fields, Fits field)
    (fits' : ∀ field ∈ others, Fits field) (same : frames fields = frames others) :
    fields = others := by
  induction fields generalizing others with
  | nil =>
      cases others with
      | nil => rfl
      | cons other others => exact absurd same.symm (prefixed_ne_nil other _)
  | cons field fields ih =>
      cases others with
      | nil => exact absurd same (prefixed_ne_nil field _)
      | cons other others =>
          obtain ⟨rfl, rest⟩ :=
            prefixed_append_inj (fits field (.head _)) (fits' other (.head _)) same
          have later := ih (fun f inside => fits f (.tail _ inside))
            (fun f inside => fits' f (.tail _ inside)) rest
          rw [later]

end QuadControl.Lib.Framing
