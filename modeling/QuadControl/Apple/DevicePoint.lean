import QuadControl.Apple.AndroidDisplay
import QuadControl.Lib.Contain

/-! # From the viewer's window to the device's pixels

The picture fills the view along one side and is centred; a point of it goes to the
pixel at the same fraction of the display.
-/

namespace QuadControl.Apple

open Lib

/-! ### One coordinate -/

/-- The pixel of a side at a fraction of the picture. -/
def pixel (side : ℕ) (part : ℚ) : ℚ := min (roundAway (part * side)) (side - 1)

variable {side : ℕ} {part other : ℚ}

theorem pixel_mono (le : part ≤ other) : pixel side part ≤ pixel side other := by
  have scaled : part * side ≤ other * side := mul_le_mul_of_nonneg_right le side.cast_nonneg
  exact min_le_min_right _ (Int.cast_le.mpr (roundAway_mono scaled))

theorem pixel_natural (positive : 0 < side) (nonneg : 0 ≤ part) :
    ∃ p : ℕ, p < side ∧ pixel side part = p := by
  have first := roundAway_nonneg (mul_nonneg nonneg (side.cast_nonneg))
  refine ⟨(min (roundAway (part * side)) (side - 1)).toNat, by omega, ?_⟩
  rw [← Int.cast_natCast, Int.toNat_of_nonneg (le_min first (by omega)), pixel]
  push_cast
  rfl

theorem pixel_of_part {p : ℕ} (inside : p < side) : pixel side (p / side) = p := by
  have positive : (side : ℚ) ≠ 0 := Nat.cast_ne_zero.mpr (Nat.ne_zero_of_lt inside)
  have last : (p : ℚ) ≤ side - 1 := by
    rw [le_sub_iff_add_le]
    exact_mod_cast inside
  rw [pixel, div_mul_cancel₀ _ positive, roundAway_natCast, Int.cast_natCast]
  exact min_eq_left last

/-- A pixel's place is on the picture. -/
theorem part_covered {p : ℕ} {length : ℚ} (inside : p < side) (long : 0 < length) (start : ℚ) :
    start ≤ start + p / side * length ∧ start + p / side * length ≤ start + length := by
  have least : (0 : ℚ) ≤ p / side := div_nonneg p.cast_nonneg side.cast_nonneg
  have below : (p : ℚ) / side ≤ 1 := div_le_one_of_le₀ (Nat.cast_le.mpr inside.le) side.cast_nonneg
  refine ⟨le_add_of_nonneg_right (mul_nonneg least long.le), ?_⟩
  have := mul_le_of_le_one_left long.le below
  linarith

/-! ### The picture in the view -/

section

variable {view : MirrorView} {frame : CGSize}
  (fit : Fit view.bounds.width view.bounds.height frame.width frame.height)

/-- The picture's rectangle is the fitted frame. -/
theorem pictureRect_eq (shown : view.frameSize = some frame) (wide : 0 < frame.width)
    (high : 0 < frame.height) :
    view.pictureRect =
      ⟨⟨view.bounds.minX + fit.left, view.bounds.minY + fit.top⟩,
        ⟨frame.width * fit.scale, frame.height * fit.scale⟩⟩ := by
  have proper : ¬ ¬ (0 < frame.width ∧ 0 < frame.height) := not_not.mpr ⟨wide, high⟩
  simp only [MirrorView.pictureRect, shown, if_neg proper, ← fit.scale_eq wide high, CGRect.midX,
    CGRect.midY, Fit.left, Fit.top, CGRect.mk.injEq, CGPoint.mk.injEq, and_true]
  constructor <;> ring

theorem pictureRect_positive (shown : view.frameSize = some frame) (wide : 0 < frame.width)
    (high : 0 < frame.height) (boundsWide : 0 < view.bounds.width)
    (boundsHigh : 0 < view.bounds.height) :
    0 < view.pictureRect.width ∧ 0 < view.pictureRect.height := by
  let fit := Fit.contain wide high boundsWide boundsHigh
  simp only [pictureRect_eq fit shown wide high, CGRect.width, CGRect.height, abs_pos]
  exact ⟨(mul_pos wide fit.positive).ne', (mul_pos high fit.positive).ne'⟩

end

/-! ### Both coordinates -/

variable {display : AndroidDisplay} {width height : ℕ} {rect : CGRect}

theorem devicePoint_eq (sized : display.currentSize = ⟨width, height⟩)
    (wide : 0 < rect.width) (high : 0 < rect.height) (point : CGPoint) :
    display.devicePoint point rect =
      if rect.Covers point then
        some ⟨pixel width (fraction rect.minX rect.width point.x),
          pixel height (fraction rect.minY rect.height point.y)⟩
      else none := by
  have proper : ¬ ¬ (0 < rect.width ∧ 0 < rect.height) := not_not.mpr ⟨wide, high⟩
  simp only [AndroidDisplay.devicePoint, if_neg proper, sized, ite_not]
  rfl

/-- `devicePoint` refuses what is off the picture, and takes the rest to pixels of the
    display: in order, and each pixel's own place to that pixel. -/
theorem devicePoint_pixels (positive : 0 < width ∧ 0 < height)
    (sized : display.currentSize = ⟨width, height⟩) {view : MirrorView} {frame : CGSize}
    (shown : view.frameSize = some frame) (framed : 0 < frame.width ∧ 0 < frame.height)
    (bounded : 0 < view.bounds.width ∧ 0 < view.bounds.height) :
    (∀ point, display.devicePoint point view.pictureRect = none ↔
      ¬ view.pictureRect.Covers point) ∧
    (∀ point mapped, display.devicePoint point view.pictureRect = some mapped →
      ∃ p q : ℕ, p < width ∧ q < height ∧ mapped = ⟨p, q⟩) ∧
    (∀ point mapped point' mapped', display.devicePoint point view.pictureRect = some mapped →
      display.devicePoint point' view.pictureRect = some mapped' →
      (point.x ≤ point'.x → mapped.x ≤ mapped'.x) ∧ (point.y ≤ point'.y → mapped.y ≤ mapped'.y)) ∧
    ∀ p q : ℕ, p < width → q < height →
      display.devicePoint
        ⟨view.pictureRect.minX + p / width * view.pictureRect.width,
          view.pictureRect.minY + q / height * view.pictureRect.height⟩ view.pictureRect =
      some ⟨p, q⟩ := by
  obtain ⟨wide, high⟩ := pictureRect_positive shown framed.1 framed.2 bounded.1 bounded.2
  have eq := devicePoint_eq sized wide high
  have mapped_eq : ∀ {point mapped}, display.devicePoint point view.pictureRect = some mapped →
      view.pictureRect.Covers point ∧
        mapped = ⟨pixel width (fraction view.pictureRect.minX view.pictureRect.width point.x),
          pixel height (fraction view.pictureRect.minY view.pictureRect.height point.y)⟩ := by
    intro point mapped maps
    rw [eq, Option.ite_none_right_eq_some, Option.some.injEq] at maps
    exact ⟨maps.1, maps.2.symm⟩
  refine ⟨fun point => ?_, fun point mapped maps => ?_,
    fun point mapped point' mapped' maps maps' => ?_, fun p q left above => ?_⟩
  · rw [eq]
    by_cases covered : view.pictureRect.Covers point
    · simp [covered]
    · simp [covered]
  · obtain ⟨⟨fromLeft, -, fromTop, -⟩, rfl⟩ := mapped_eq maps
    obtain ⟨p, left, samex⟩ := pixel_natural positive.1 ((fraction_nonneg_iff wide).mpr fromLeft)
    obtain ⟨q, above, samey⟩ := pixel_natural positive.2 ((fraction_nonneg_iff high).mpr fromTop)
    exact ⟨p, q, left, above, by rw [samex, samey]⟩
  · obtain ⟨-, rfl⟩ := mapped_eq maps
    obtain ⟨-, rfl⟩ := mapped_eq maps'
    exact ⟨fun before => pixel_mono (fraction_mono wide before),
      fun before => pixel_mono (fraction_mono high before)⟩
  · have across := part_covered left wide view.pictureRect.minX
    have down := part_covered above high view.pictureRect.minY
    rw [eq, if_pos ⟨across.1, across.2, down.1, down.2⟩, fraction_part wide.ne',
      fraction_part high.ne', pixel_of_part left, pixel_of_part above]

/-- A landscape frame in a square view: the display's far corner is its last pixel. -/
theorem devicePoint_pixels_landscape :
    let display : AndroidDisplay := ⟨⟨(3088 : ℕ), (1440 : ℕ)⟩, ⟨1440, 3088⟩⟩
    let view : MirrorView := ⟨⟨⟨0, 0⟩, ⟨400, 400⟩⟩, some ⟨1280, 596⟩⟩
    ∀ p q : ℕ, p < 3088 → q < 1440 →
      display.devicePoint
        ⟨view.pictureRect.minX + p / (3088 : ℕ) * view.pictureRect.width,
          view.pictureRect.minY + q / (1440 : ℕ) * view.pictureRect.height⟩ view.pictureRect =
      some ⟨p, q⟩ := by
  intro display view
  have bounded : 0 < view.bounds.width ∧ 0 < view.bounds.height := by
    norm_num [view, CGRect.width, CGRect.height]
  obtain ⟨-, -, -, pixels⟩ := @devicePoint_pixels display 3088 1440 (by decide) rfl view
    ⟨1280, 596⟩ rfl (by norm_num) bounded
  exact pixels

end QuadControl.Apple
