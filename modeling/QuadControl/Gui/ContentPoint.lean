import QuadControl.Gui.IosSession
import QuadControl.Lib.Contain
import Mathlib.Data.Rat.Floor

/-! # From the panel to the device

Taps and swipes come in pixels of the panel's container and go out in points of the
device. The picture is fitted into the container, so the points are taken from the
content rectangle, and what is off it is not forwarded. Floating-point numbers are taken
as exact.
-/

namespace QuadControl.Gui.Ios

open Lib

/-- `content_point`. -/
def contentPoint (xPx yPx containerW containerH : ℚ) (window : WindowSize) : Option (ℚ × ℚ) :=
  if containerW ≤ 0 ∨ containerH ≤ 0 ∨ window.width = 0 ∨ window.height = 0 then none
  else
    let windowW : ℚ := window.width
    let windowH : ℚ := window.height
    let scale := min (containerW / windowW) (containerH / windowH)
    let contentW := windowW * scale
    let contentH := windowH * scale
    let normalizedX := (xPx - (containerW - contentW) / 2) / contentW
    let normalizedY := (yPx - (containerH - contentH) / 2) / contentH
    if ¬ (0 ≤ normalizedX ∧ normalizedX ≤ 1) ∨ ¬ (0 ≤ normalizedY ∧ normalizedY ≤ 1) then none
    else some (normalizedX * windowW, normalizedY * windowH)

/-- `content_segment`. -/
def contentSegment (fromPx toPx : ℚ × ℚ) (containerW containerH : ℚ) (window : WindowSize) :
    Option ((ℚ × ℚ) × (ℚ × ℚ)) := do
  let origin ← contentPoint fromPx.1 fromPx.2 containerW containerH window
  let target ← contentPoint toPx.1 toPx.2 containerW containerH window
  return (origin, target)

variable {containerW containerH : ℚ} {window : WindowSize}

/-- A position is read as the fractions of the fitted picture that lie before it. -/
theorem contentPoint_eq (wide : 0 < window.width) (high : 0 < window.height)
    (boxWide : 0 < containerW) (boxHigh : 0 < containerH)
    (fit : Fit containerW containerH (window.width : ℚ) window.height) (xPx yPx : ℚ) :
    contentPoint xPx yPx containerW containerH window =
      if fit.Covers xPx yPx then
        some (fraction fit.left (window.width * fit.scale) xPx * window.width,
          fraction fit.top (window.height * fit.scale) yPx * window.height)
      else none := by
  have windowWide : (0 : ℚ) < window.width := Nat.cast_pos.mpr wide
  have windowHigh : (0 : ℚ) < window.height := Nat.cast_pos.mpr high
  have contentWide := mul_pos windowWide fit.positive
  have contentHigh := mul_pos windowHigh fit.positive
  have across : (0 ≤ fraction fit.left (window.width * fit.scale) xPx ∧
      fraction fit.left (window.width * fit.scale) xPx ≤ 1) ↔
      fit.left ≤ xPx ∧ xPx ≤ fit.left + window.width * fit.scale :=
    and_congr (fraction_nonneg_iff contentWide) (fraction_le_one_iff contentWide)
  have down : (0 ≤ fraction fit.top (window.height * fit.scale) yPx ∧
      fraction fit.top (window.height * fit.scale) yPx ≤ 1) ↔
      fit.top ≤ yPx ∧ yPx ≤ fit.top + window.height * fit.scale :=
    and_congr (fraction_nonneg_iff contentHigh) (fraction_le_one_iff contentHigh)
  have proper : ¬ (containerW ≤ 0 ∨ containerH ≤ 0 ∨ window.width = 0 ∨ window.height = 0) := by
    simp only [not_or, not_le]
    exact ⟨boxWide, boxHigh, wide.ne', high.ne'⟩
  rw [contentPoint, if_neg proper]
  simp only [← fit.scale_eq windowWide windowHigh, ← not_and_or, ite_not]
  exact if_congr (and_congr across down) rfl rfl

theorem contentPoint_eq_none (wide : 0 < window.width) (high : 0 < window.height)
    (boxWide : 0 < containerW) (boxHigh : 0 < containerH)
    (fit : Fit containerW containerH (window.width : ℚ) window.height) {xPx yPx : ℚ} :
    contentPoint xPx yPx containerW containerH window = none ↔ ¬ fit.Covers xPx yPx := by
  rw [contentPoint_eq wide high boxWide boxHigh fit]
  by_cases covered : fit.Covers xPx yPx
  · simp [covered]
  · simp [covered]

theorem contentPoint_project (wide : 0 < window.width) (high : 0 < window.height)
    (boxWide : 0 < containerW) (boxHigh : 0 < containerH)
    (fit : Fit containerW containerH (window.width : ℚ) window.height) {u v : ℚ}
    (across : 0 ≤ u ∧ u ≤ window.width) (down : 0 ≤ v ∧ v ≤ window.height) :
    contentPoint (fit.project u v).1 (fit.project u v).2 containerW containerH window =
      some (u, v) := by
  have windowWide : (window.width : ℚ) ≠ 0 := Nat.cast_ne_zero.mpr wide.ne'
  have windowHigh : (window.height : ℚ) ≠ 0 := Nat.cast_ne_zero.mpr high.ne'
  have scaled := fit.positive.ne'
  have covered : fit.Covers (fit.project u v).1 (fit.project u v).2 :=
    fit.covers_iff.mpr ⟨u, v, across, down, rfl⟩
  rw [contentPoint_eq wide high boxWide boxHigh fit, if_pos covered]
  simp only [Fit.project, fraction_scaled windowWide scaled, fraction_scaled windowHigh scaled]

theorem contentSegment_eq_some {fromPx toPx origin target : ℚ × ℚ} :
    contentSegment fromPx toPx containerW containerH window = some (origin, target) ↔
      contentPoint fromPx.1 fromPx.2 containerW containerH window = some origin ∧
        contentPoint toPx.1 toPx.2 containerW containerH window = some target := by
  simp only [contentSegment, Option.bind_eq_bind, Option.bind_eq_some_iff, Option.pure_def,
    Option.some.injEq, Prod.mk.injEq]
  constructor
  · rintro ⟨_, first, _, second, rfl, rfl⟩
    exact ⟨first, second⟩
  · rintro ⟨first, second⟩
    exact ⟨origin, first, target, second, rfl, rfl⟩

theorem contentPoint_isSome (wide : 0 < window.width) (high : 0 < window.height)
    (boxWide : 0 < containerW) (boxHigh : 0 < containerH)
    (fit : Fit containerW containerH (window.width : ℚ) window.height) {xPx yPx : ℚ} :
    (contentPoint xPx yPx containerW containerH window).isSome ↔ fit.Covers xPx yPx := by
  rw [Option.isSome_iff_ne_none, Ne, contentPoint_eq_none wide high boxWide boxHigh fit, not_not]

theorem contentSegment_isSome {fromPx toPx : ℚ × ℚ} :
    (contentSegment fromPx toPx containerW containerH window).isSome ↔
      (contentPoint fromPx.1 fromPx.2 containerW containerH window).isSome ∧
        (contentPoint toPx.1 toPx.2 containerW containerH window).isSome := by
  simp only [Option.isSome_iff_exists, Prod.exists, contentSegment_eq_some]
  simp only [exists_and_left, exists_and_right]

/-- `content_point` undoes the fitting, and refuses what is off the content rectangle;
    a segment is taken when both ends are. -/
theorem contentPoint_inverts (wide : 0 < window.width) (high : 0 < window.height)
    (boxWide : 0 < containerW) (boxHigh : 0 < containerH)
    (fit : Fit containerW containerH (window.width : ℚ) window.height) :
    (∀ u v : ℚ, 0 ≤ u ∧ u ≤ window.width → 0 ≤ v ∧ v ≤ window.height →
      contentPoint (fit.project u v).1 (fit.project u v).2 containerW containerH window =
        some (u, v)) ∧
    (∀ xPx yPx, contentPoint xPx yPx containerW containerH window = none ↔
      ¬ fit.Covers xPx yPx) ∧
    (∀ fromPx toPx, (contentSegment fromPx toPx containerW containerH window).isSome ↔
      fit.Covers fromPx.1 fromPx.2 ∧ fit.Covers toPx.1 toPx.2) ∧
    ∀ fromPx toPx origin target,
      contentSegment fromPx toPx containerW containerH window = some (origin, target) →
        contentPoint fromPx.1 fromPx.2 containerW containerH window = some origin ∧
          contentPoint toPx.1 toPx.2 containerW containerH window = some target := by
  refine ⟨fun u v => contentPoint_project wide high boxWide boxHigh fit,
    fun _ _ => contentPoint_eq_none wide high boxWide boxHigh fit, fun fromPx toPx => ?_,
    fun _ _ _ _ => contentSegment_eq_some.mp⟩
  rw [contentSegment_isSome, contentPoint_isSome wide high boxWide boxHigh fit,
    contentPoint_isSome wide high boxWide boxHigh fit]

/-- A panel of 500 × 667 pixels leaves bars beside the picture of a window of 375 × 667. -/
theorem contentPoint_inverts_bars :
    ∃ fit : Fit (500 : ℚ) 667 (375 : ℕ) (667 : ℕ),
      (∀ u v : ℚ, 0 ≤ u ∧ u ≤ (375 : ℕ) → 0 ≤ v ∧ v ≤ (667 : ℕ) →
        contentPoint (fit.project u v).1 (fit.project u v).2 500 667 ⟨375, 667⟩ = some (u, v)) ∧
      contentPoint 10 333 500 667 ⟨375, 667⟩ = none := by
  refine ⟨Fit.contain (by norm_num) (by norm_num) (by norm_num) (by norm_num), ?_⟩
  obtain ⟨inverts, refuses, -⟩ := @contentPoint_inverts 500 667 ⟨375, 667⟩ (by decide) (by decide)
    (by norm_num) (by norm_num)
    (Fit.contain (by norm_num) (by norm_num) (by norm_num) (by norm_num))
  refine ⟨inverts, (refuses 10 333).mpr ?_⟩
  norm_num [Fit.Covers, Fit.left, Fit.contain]

end QuadControl.Gui.Ios
