import Mathlib.Algebra.Order.Field.Basic
import Mathlib.Algebra.Order.Floor.Ring
import Mathlib.Tactic.FieldSimp
import Mathlib.Tactic.Linarith
import Mathlib.Tactic.NormNum
import Mathlib.Tactic.Ring

/-! # Fitting a picture into a box

A picture is scaled alike in both directions until it fills the box along one side, and
centred. Positions in the picture then go to positions in the box, and back by the
fraction of the picture that lies before them. What comes out is rounded: to the nearest whole
number, with halves away from zero, or down to an even one.
-/

namespace QuadControl.Lib

section

variable {K : Type*} [Field K]

/-! ### Along one side -/

/-- How much of a span that begins at `start` lies before a position. -/
def fraction (start length position : K) : K := (position - start) / length

variable {start length position other : K}

theorem fraction_part (nonzero : length ≠ 0) (part : K) :
    fraction start length (start + part * length) = part := by
  rw [fraction, add_sub_cancel_left, mul_div_cancel_right₀ _ nonzero]

/-- Of a scaled side, a scaled position is the part that it is of the side. -/
theorem fraction_scaled {side scale : K} (nonzero : side ≠ 0) (scaled : scale ≠ 0) :
    fraction start (side * scale) (start + position * scale) * side = position := by
  rw [fraction, add_sub_cancel_left, mul_div_mul_right _ _ scaled, div_mul_cancel₀ _ nonzero]

variable [LinearOrder K] [IsStrictOrderedRing K]

theorem fraction_nonneg_iff (positive : 0 < length) :
    0 ≤ fraction start length position ↔ start ≤ position := by
  rw [fraction, le_div_iff₀ positive, zero_mul, sub_nonneg]

theorem fraction_le_one_iff (positive : 0 < length) :
    fraction start length position ≤ 1 ↔ position ≤ start + length := by
  rw [fraction, div_le_iff₀ positive, one_mul, sub_le_iff_le_add']

theorem fraction_mono (positive : 0 < length) (before : position ≤ other) :
    fraction start length position ≤ fraction start length other :=
  div_le_div_of_nonneg_right (sub_le_sub_right before start) positive.le

/-! ### Both sides -/

/-- A scale at which a picture fits into a box and fills it along one side. -/
structure Fit (boxWidth boxHeight width height : K) where
  scale : K
  positive : 0 < scale
  fitsWidth : width * scale ≤ boxWidth
  fitsHeight : height * scale ≤ boxHeight
  fills : width * scale = boxWidth ∨ height * scale = boxHeight

namespace Fit

variable {boxWidth boxHeight width height : K} (fit : Fit boxWidth boxHeight width height)

def left : K := (boxWidth - width * fit.scale) / 2

def top : K := (boxHeight - height * fit.scale) / 2

/-- Where a position in the picture stands in the box. -/
def project (x y : K) : K × K := (fit.left + x * fit.scale, fit.top + y * fit.scale)

/-- The part of the box the picture stands in, with its edge. -/
def Covers (x y : K) : Prop :=
  (fit.left ≤ x ∧ x ≤ fit.left + width * fit.scale) ∧
    fit.top ≤ y ∧ y ≤ fit.top + height * fit.scale

instance (x y : K) : Decidable (fit.Covers x y) := inferInstanceAs (Decidable (_ ∧ _))

/-- There is one such scale only. -/
theorem scale_eq (wide : 0 < width) (high : 0 < height) :
    fit.scale = min (boxWidth / width) (boxHeight / height) := by
  have across : fit.scale ≤ boxWidth / width := by
    rw [le_div_iff₀ wide, mul_comm]
    exact fit.fitsWidth
  have down : fit.scale ≤ boxHeight / height := by
    rw [le_div_iff₀ high, mul_comm]
    exact fit.fitsHeight
  refine le_antisymm (le_min across down) ?_
  rcases fit.fills with filled | filled
  · refine (min_le_left _ _).trans (le_of_eq ?_)
    rw [div_eq_iff wide.ne', mul_comm]
    exact filled.symm
  · refine (min_le_right _ _).trans (le_of_eq ?_)
    rw [div_eq_iff high.ne', mul_comm]
    exact filled.symm

/-- The scale that fits: the smaller of the two that fill a side. -/
def contain (wide : 0 < width) (high : 0 < height) (boxWide : 0 < boxWidth)
    (boxHigh : 0 < boxHeight) : Fit boxWidth boxHeight width height where
  scale := min (boxWidth / width) (boxHeight / height)
  positive := lt_min (div_pos boxWide wide) (div_pos boxHigh high)
  fitsWidth := by
    rw [mul_comm, ← le_div_iff₀ wide]
    exact min_le_left _ _
  fitsHeight := by
    rw [mul_comm, ← le_div_iff₀ high]
    exact min_le_right _ _
  fills := by
    rcases min_choice (boxWidth / width) (boxHeight / height) with same | same
    · left
      rw [same, mul_div_cancel₀ _ wide.ne']
    · right
      rw [same, mul_div_cancel₀ _ high.ne']

/-- The picture stands where its positions go. -/
theorem covers_iff {x y : K} :
    fit.Covers x y ↔ ∃ u v, (0 ≤ u ∧ u ≤ width) ∧ (0 ≤ v ∧ v ≤ height) ∧ fit.project u v = (x, y) := by
  have positive := fit.positive
  constructor
  · rintro ⟨⟨fromLeft, toRight⟩, fromTop, toBottom⟩
    refine ⟨(x - fit.left) / fit.scale, (y - fit.top) / fit.scale, ⟨?_, ?_⟩, ⟨?_, ?_⟩, ?_⟩
    · exact div_nonneg (sub_nonneg.mpr fromLeft) positive.le
    · rw [div_le_iff₀ positive]
      linarith
    · exact div_nonneg (sub_nonneg.mpr fromTop) positive.le
    · rw [div_le_iff₀ positive]
      linarith
    · simp only [project, div_mul_cancel₀ _ positive.ne', add_sub_cancel]
  · rintro ⟨u, v, ⟨fromLeft, toRight⟩, ⟨fromTop, toBottom⟩, same⟩
    obtain ⟨rfl, rfl⟩ := Prod.mk.inj same
    have across := mul_le_mul_of_nonneg_right toRight positive.le
    have down := mul_le_mul_of_nonneg_right toBottom positive.le
    refine ⟨⟨?_, by linarith⟩, ?_, by linarith⟩
    · exact le_add_of_nonneg_right (mul_nonneg fromLeft positive.le)
    · exact le_add_of_nonneg_right (mul_nonneg fromTop positive.le)

end Fit

end

/-! ### Whole numbers -/

section

variable {K : Type*} [Field K] [LinearOrder K] [FloorRing K]

/-- The nearest whole number, of two the one away from zero. -/
def roundAway (x : K) : ℤ := if 0 ≤ x then ⌊x + 1 / 2⌋ else ⌈x - 1 / 2⌉

/-- The largest even number that is not above. -/
def evenBelow (x : K) : ℤ := ⌊x / 2⌋ * 2

theorem even_evenBelow (x : K) : Even (evenBelow x) := even_two.mul_left _

variable [IsStrictOrderedRing K]

@[simp] theorem roundAway_intCast (n : ℤ) : roundAway (n : K) = n := by
  unfold roundAway
  split
  · rw [Int.floor_eq_iff]
    constructor <;> linarith
  · rw [Int.ceil_eq_iff]
    constructor <;> linarith

@[simp] theorem roundAway_natCast (n : ℕ) : roundAway (n : K) = n := by
  exact_mod_cast roundAway_intCast (K := K) n

theorem roundAway_mono {x y : K} (le : x ≤ y) : roundAway x ≤ roundAway y := by
  unfold roundAway
  split
  case isTrue nonneg =>
    rw [if_pos (nonneg.trans le)]
    exact Int.floor_le_floor (by linarith)
  case isFalse negative =>
    split
    case isTrue nonneg =>
      -- Zero is between the two.
      have below : ⌈x - 1 / 2⌉ ≤ 0 := Int.ceil_le.mpr (by push_cast; linarith)
      have above : 0 ≤ ⌊y + 1 / 2⌋ := Int.floor_nonneg.mpr (by linarith)
      exact below.trans above
    case isFalse => exact Int.ceil_le_ceil (by linarith)

theorem roundAway_nonneg {x : K} (nonneg : 0 ≤ x) : 0 ≤ roundAway x := by
  have := roundAway_mono nonneg
  rwa [← Int.cast_zero, roundAway_intCast] at this

theorem evenBelow_le (x : K) : (evenBelow x : K) ≤ x := by
  have := Int.floor_le (x / 2)
  rw [evenBelow]
  push_cast
  linarith

theorem evenBelow_pos_iff {x : K} : 0 < evenBelow x ↔ 2 ≤ x := by
  rw [evenBelow, mul_pos_iff_of_pos_right two_pos, Int.floor_pos, one_le_div₀ two_pos]

end

end QuadControl.Lib
