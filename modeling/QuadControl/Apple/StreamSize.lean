import QuadControl.Apple.AndroidDisplay
import Mathlib.Algebra.Group.Int.Even

/-! # The size the stream is asked for

The viewer caps the longest side of the stream; the encoder wants even sides. Scaled
sides are rounded down to even ones, but a display within the cap is streamed as it is,
and a scaled side may vanish.
-/

namespace QuadControl.Apple

open Lib

/-! ### The viewer's options -/

/-- The viewer's `Options`; a string is taken by its scalars. -/
structure Options where
  maxDimension : Option ℤ
  bitRate : Option Text
  serial : Option Text
  deriving Repr, DecidableEq

namespace Options

def isWireless (options : Options) : Bool :=
  match options.serial with
  | none => false
  | some serial => ':' ∈ serial ∨ "_adb-tls-connect._tcp".toList <:+: serial

def effectiveMaxDimension (options : Options) : ℤ :=
  options.maxDimension.getD (if options.isWireless then 720 else 1280)

/-- What one flag with its value makes of the options. -/
def set (options : Options) (flag value : Text) : Option Options :=
  if flag = "--max-size".toList then do
    let parsed ← parseInt value
    if 0 < parsed then some { options with maxDimension := some parsed } else none
  else if flag = "--bit-rate".toList then some { options with bitRate := some value }
  else if flag = "--serial".toList then some { options with serial := some value }
  else none

def parseFrom (options : Options) : List Text → Option Options
  | [] => some options
  | [_] => none
  | flag :: value :: rest => do
      let next ← options.set flag value
      next.parseFrom rest

def parse (arguments : List Text) : Option Options := parseFrom ⟨none, none, none⟩ arguments

/-- A cap the viewer takes from some command line. -/
def Accepts (maxDimension : ℤ) : Prop :=
  ∃ arguments options, parse arguments = some options ∧
    options.effectiveMaxDimension = maxDimension

theorem parseInt_bounds {s : Text} {value : ℤ} (parsed : parseInt s = some value) :
    -2 ^ 63 ≤ value ∧ value < 2 ^ 63 := by
  simp only [parseInt, Option.ite_none_right_eq_some, Option.some.injEq] at parsed
  obtain ⟨-, bounds, rfl⟩ := parsed
  exact bounds

theorem parseInt_toDigits {n : ℕ} (small : n < 2 ^ 63) :
    parseInt (Nat.toDigits 10 n) = some (n : ℤ) := by
  have digits : ∀ c ∈ Nat.toDigits 10 n, c.isDigit = true := fun c inside =>
    Nat.isDigit_of_mem_toDigits (by decide) (by decide) inside
  have unsigned : ∀ c, c.isDigit = false → (Nat.toDigits 10 n).head? ≠ some c := by
    intro c other first
    rw [digits c (List.mem_of_head? first)] at other
    cases other
  have plus := unsigned '+' rfl
  have minus := unsigned '-' rfl
  have value : -2 ^ 63 ≤ (n : ℤ) ∧ (n : ℤ) < 2 ^ 63 := by omega
  unfold parseInt
  split
  · exact absurd (by rw [‹Nat.toDigits 10 n = _›]; rfl) plus
  · exact absurd (by rw [‹Nat.toDigits 10 n = _›]; rfl) minus
  · have all : (Nat.toDigits 10 n).all Char.isDigit = true := List.all_eq_true.mpr digits
    simp only [all, ne_eq, Nat.toDigits_ne_nil, not_false_eq_true, and_self, if_true, minus,
      if_false, Nat.ofDigitChars_ten_toDigits, value]

/-- A cap is positive and within 64 bits. -/
def Valid (options : Options) : Prop :=
  ∀ value ∈ options.maxDimension, 0 < value ∧ value < 2 ^ 63

theorem Valid.set {options next : Options} {flag value : Text} (valid : options.Valid)
    (taken : options.set flag value = some next) : next.Valid := by
  unfold Options.set at taken
  split at taken
  · simp only [Option.bind_eq_bind, Option.bind_eq_some_iff, Option.ite_none_right_eq_some,
      Option.some.injEq] at taken
    obtain ⟨parsed, read, positive, rfl⟩ := taken
    rintro _ ⟨⟩
    exact ⟨positive, (parseInt_bounds read).2⟩
  · split at taken
    · obtain rfl := Option.some.inj taken
      exact valid
    · split at taken
      · obtain rfl := Option.some.inj taken
        exact valid
      · cases taken

theorem Valid.parseFrom {options final : Options} {arguments : List Text} (valid : options.Valid)
    (parsed : options.parseFrom arguments = some final) : final.Valid := by
  fun_induction Options.parseFrom options arguments with
  | case1 options =>
      obtain rfl := Option.some.inj parsed
      exact valid
  | case2 => cases parsed
  | case3 options flag value rest ih =>
      simp only [Option.bind_eq_bind, Option.bind_eq_some_iff] at parsed
      obtain ⟨next, taken, parsed⟩ := parsed
      exact ih next (valid.set taken) parsed

/-- The viewer accepts the positive caps of 64 bits. -/
theorem accepts_iff {maxDimension : ℤ} :
    Accepts maxDimension ↔ 0 < maxDimension ∧ maxDimension < 2 ^ 63 := by
  constructor
  · rintro ⟨arguments, options, parsed, rfl⟩
    have valid : options.Valid := Valid.parseFrom (fun _ none => by cases none) parsed
    unfold effectiveMaxDimension
    cases cap : options.maxDimension with
    | none => cases options.isWireless <;> decide
    | some value => exact valid value cap
  · rintro ⟨positive, small⟩
    obtain ⟨n, rfl⟩ := Int.eq_ofNat_of_zero_le positive.le
    refine ⟨["--max-size".toList, Nat.toDigits 10 n], ⟨some n, none, none⟩, ?_, rfl⟩
    have read := parseInt_toDigits (n := n) (by omega)
    simp only [parse, parseFrom, Options.set, if_true, read, Option.bind_eq_bind, Option.bind_some,
      positive]

end Options

/-! ### One side -/

/-- A side the encoder takes: positive and even, within the cap and within the display's
    longest side, rounded up to even. -/
def Encodable (maxDimension longest : ℤ) (side : ℚ) : Prop :=
  ∃ n : ℤ, side = n ∧ 0 < n ∧ Even n ∧ n ≤ max maxDimension 2 ∧ n ≤ longest + longest % 2

variable {maxDimension longest : ℤ}

theorem encodable_intCast {n : ℤ} :
    Encodable maxDimension longest n ↔
      0 < n ∧ Even n ∧ n ≤ max maxDimension 2 ∧ n ≤ longest + longest % 2 := by
  constructor
  · rintro ⟨m, same, rest⟩
    obtain rfl := Int.cast_injective same
    exact rest
  · exact fun rest => ⟨n, rfl, rest⟩

/-- A side that is streamed as it is. -/
theorem encodable_of_within {side : ℤ} (positive : 0 < side) (shorter : side ≤ longest)
    (within : longest ≤ maxDimension) : Encodable maxDimension longest side ↔ Even side := by
  rw [encodable_intCast]
  constructor
  · exact fun h => h.2.1
  · intro even
    exact ⟨positive, even, by omega, by omega⟩

/-- A side that is scaled with the longest one, which is scaled to the cap. -/
theorem encodable_of_scaled {side : ℤ} (cap : 0 < maxDimension) (shorter : side ≤ longest)
    (beyond : maxDimension < longest) :
    Encodable maxDimension longest (evenBelow ((side : ℚ) * (maxDimension / longest)) : ℚ) ↔
      2 * longest ≤ maxDimension * side := by
  have long : (0 : ℚ) < longest := Int.cast_pos.mpr (cap.trans beyond)
  have capped : (side : ℚ) * (maxDimension / longest) ≤ maxDimension := by
    rw [mul_div_assoc', div_le_iff₀ long, mul_comm]
    exact mul_le_mul_of_nonneg_left (Int.cast_le.mpr shorter) (Int.cast_nonneg cap.le)
  have below : evenBelow ((side : ℚ) * (maxDimension / longest)) ≤ maxDimension := by
    exact_mod_cast (evenBelow_le _).trans capped
  have enough : 2 ≤ (side : ℚ) * (maxDimension / longest) ↔ 2 * longest ≤ maxDimension * side := by
    rw [mul_div_assoc', le_div_iff₀ long, mul_comm (side : ℚ)]
    norm_cast
  rw [encodable_intCast, evenBelow_pos_iff, ← enough]
  constructor
  · exact And.left
  · intro two
    exact ⟨two, even_evenBelow _, by omega, by omega⟩

/-! ### Both sides -/

variable {display : AndroidDisplay} {width height : ℕ}

/-- What the display and the cap have to be like: both sides even when the cap holds
    them, and otherwise the shorter one scaled to two pixels at least. -/
def Streamable (width height maxDimension : ℤ) : Prop :=
  if max width height ≤ maxDimension then Even width ∧ Even height
  else 2 * max width height ≤ maxDimension * min width height

instance (width height maxDimension : ℤ) : Decidable (Streamable width height maxDimension) :=
  inferInstanceAs (Decidable (if max width height ≤ maxDimension then Even width ∧ Even height
    else 2 * max width height ≤ maxDimension * min width height))

/-- The stream has sides the encoder takes exactly when the display allows it. -/
theorem streamSize_encodable_iff (positive : 0 < width ∧ 0 < height)
    (sized : display.currentSize = ⟨width, height⟩) (accepted : Options.Accepts maxDimension) :
    (Encodable maxDimension (max width height) (display.streamSize maxDimension).width ∧
      Encodable maxDimension (max width height) (display.streamSize maxDimension).height) ↔
    Streamable width height maxDimension := by
  obtain ⟨cap, -⟩ := Options.accepts_iff.mp accepted
  have longest : max (width : ℚ) height = ((max width height : ℤ) : ℚ) := by push_cast; rfl
  by_cases within : max (width : ℤ) height ≤ maxDimension
  · have unscaled : ¬ (maxDimension : ℚ) < max (width : ℚ) height := by
      rw [longest, Int.cast_lt]
      omega
    simp only [AndroidDisplay.streamSize, sized, unscaled, not_false_eq_true, if_true, Streamable,
      within]
    exact and_congr (encodable_of_within (by omega) (by omega) within)
      (encodable_of_within (by omega) (by omega) within)
  · have scaled : (maxDimension : ℚ) < max (width : ℚ) height := by
      rw [longest, Int.cast_lt]
      omega
    simp only [AndroidDisplay.streamSize, sized, scaled, not_true_eq_false, if_false, Streamable,
      within]
    rw [longest]
    have across := @encodable_of_scaled maxDimension _ (width : ℤ) cap (le_max_left _ _)
      (not_le.mp within)
    have down := @encodable_of_scaled maxDimension _ (height : ℤ) cap (le_max_right _ _)
      (not_le.mp within)
    refine (and_congr across down).trans ?_
    rw [← le_min_iff, ← mul_min_of_nonneg _ _ cap.le]

theorem streamSize_encodable_iff_sideways :
    let display : AndroidDisplay := ⟨⟨(3088 : ℕ), (1440 : ℕ)⟩, ⟨1440, 3088⟩⟩
    Encodable 1280 3088 (display.streamSize 1280).width ∧
      Encodable 1280 3088 (display.streamSize 1280).height := by
  intro display
  have accepted : Options.Accepts 1280 := Options.accepts_iff.mpr (by decide)
  have streamable : Streamable (3088 : ℕ) (1440 : ℕ) 1280 := by decide
  exact (@streamSize_encodable_iff 1280 display 3088 1440 (by decide) rfl accepted).mpr streamable

/-- A display of 1079 × 2340 within a cap of 2400 is streamed with its odd width. -/
theorem streamSize_odd :
    ¬ ∀ (display : AndroidDisplay) (width height : ℕ) (maxDimension : ℤ), 0 < width ∧ 0 < height →
      display.currentSize = ⟨width, height⟩ → Options.Accepts maxDimension →
      Encodable maxDimension (max width height) (display.streamSize maxDimension).width ∧
        Encodable maxDimension (max width height) (display.streamSize maxDimension).height := by
  intro encodable
  let size : CGSize := ⟨(1079 : ℕ), (2340 : ℕ)⟩
  have accepted : Options.Accepts 2400 := Options.accepts_iff.mpr (by decide)
  have odd := (encodable ⟨size, size⟩ 1079 2340 2400 (by decide) rfl accepted).1
  have unscaled : (AndroidDisplay.streamSize ⟨size, size⟩ 2400).width = (1079 : ℤ) := by
    norm_num [AndroidDisplay.streamSize, size]
  rw [unscaled, encodable_intCast] at odd
  exact absurd odd.2.1 (by decide)

end QuadControl.Apple
