import QuadControl.Lib.Contain
import QuadControl.Lib.Text
import Mathlib.Data.Rat.Floor

/-! # The Android display and the viewer's picture of it

`AndroidDisplay` is read from `dumpsys window displays`, gives the stream its size, and
takes a point of the viewer's window to a pixel of the device. `CGFloat` is taken as
exact; a rectangle's accessors are those of its standardized form.
-/

namespace QuadControl.Apple

open Lib

/-! ### Geometry -/

structure CGPoint where
  x : ℚ
  y : ℚ
  deriving Repr, DecidableEq

structure CGSize where
  width : ℚ
  height : ℚ
  deriving Repr, DecidableEq

structure CGRect where
  origin : CGPoint
  size : CGSize
  deriving Repr, DecidableEq

namespace CGRect

variable (rect : CGRect)

def width : ℚ := |rect.size.width|

def height : ℚ := |rect.size.height|

def minX : ℚ := min rect.origin.x (rect.origin.x + rect.size.width)

def minY : ℚ := min rect.origin.y (rect.origin.y + rect.size.height)

def midX : ℚ := rect.minX + rect.width / 2

def midY : ℚ := rect.minY + rect.height / 2

def maxX : ℚ := rect.minX + rect.width

def maxY : ℚ := rect.minY + rect.height

/-- The rectangle with its edges. -/
def Covers (point : CGPoint) : Prop :=
  rect.minX ≤ point.x ∧ point.x ≤ rect.maxX ∧ rect.minY ≤ point.y ∧ point.y ≤ rect.maxY

instance (point : CGPoint) : Decidable (rect.Covers point) :=
  inferInstanceAs (Decidable (_ ∧ _))

end CGRect

/-! ### What `dumpsys` says -/

/-- The zeros of Unicode's decimal digits, each with its nine successors behind it. -/
def decimalZeros : List Nat :=
  [0x30, 0x660, 0x6f0, 0x7c0, 0x966, 0x9e6, 0xa66, 0xae6, 0xb66, 0xbe6, 0xc66, 0xce6, 0xd66, 0xde6,
    0xe50, 0xed0, 0xf20, 0x1040, 0x1090, 0x17e0, 0x1810, 0x1946, 0x19d0, 0x1a80, 0x1a90, 0x1b50,
    0x1bb0, 0x1c40, 0x1c50, 0xa620, 0xa8d0, 0xa900, 0xa9d0, 0xa9f0, 0xaa50, 0xabf0, 0xff10, 0x104a0,
    0x10d30, 0x11066, 0x110f0, 0x11136, 0x111d0, 0x112f0, 0x11450, 0x114d0, 0x11650, 0x116c0,
    0x11730, 0x118e0, 0x11950, 0x11c50, 0x11d50, 0x11da0, 0x11f50, 0x16a60, 0x16ac0, 0x16b50,
    0x1d7ce, 0x1d7d8, 0x1d7e2, 0x1d7ec, 0x1d7f6, 0x1e140, 0x1e2f0, 0x1e4f0, 0x1e950, 0x1fbf0]

/-- `\d` of a regular expression. -/
def isDecimalDigit (c : Char) : Bool :=
  decimalZeros.any fun first => first ≤ c.toNat && c.toNat ≤ first + 9

/-- `Int(_:)` of a string: an optional sign and ASCII digits, within 64 bits. -/
def parseInt (s : Text) : Option ℤ :=
  let digits := match s with
    | '+' :: rest | '-' :: rest => rest
    | s => s
  if digits ≠ [] ∧ digits.all Char.isDigit then
    let value : ℤ := if s.head? = some '-' then -Nat.ofDigitChars 10 digits 0
      else Nat.ofDigitChars 10 digits 0
    if -2 ^ 63 ≤ value ∧ value < 2 ^ 63 then some value else none
  else none

/-- The two numbers of a match of `name=\d+x\d+` at the start of a text. -/
def sizeHere (name s : Text) : Option (Text × Text) := do
  let rest ← Text.stripPrefix (name ++ ['=']) s
  let width := rest.takeWhile isDecimalDigit
  let rest ← Text.stripPrefix ['x'] (rest.dropWhile isDecimalDigit)
  let height := rest.takeWhile isDecimalDigit
  if width = [] ∨ height = [] then none else some (width, height)

/-- The first match in a text. -/
def findSize (name : Text) : Text → Option (Text × Text)
  | [] => none
  | c :: rest => (sizeHere name (c :: rest)).or (findSize name rest)

/-- `size(prefix:)`: of the first match only, and only if its numbers are positive. -/
def sizeOf (name s : Text) : Option CGSize := do
  let (first, second) ← findSize name s
  let width ← parseInt first
  let height ← parseInt second
  if 0 < width ∧ 0 < height then some ⟨width, height⟩ else none

structure AndroidDisplay where
  currentSize : CGSize
  naturalSize : CGSize
  deriving Repr, DecidableEq

namespace AndroidDisplay

def parse (dumpsys : Text) : Option AndroidDisplay := do
  let current ← sizeOf "cur".toList dumpsys
  return ⟨current, (sizeOf "init".toList dumpsys).getD current⟩

/-! ### Sizes and points -/

variable (display : AndroidDisplay)

def streamSize (maxDimension : ℤ) : CGSize :=
  let longest := max display.currentSize.width display.currentSize.height
  if ¬ (maxDimension : ℚ) < longest then display.currentSize
  else
    let scale := maxDimension / longest
    let even (value : ℚ) : ℚ := evenBelow (value * scale)
    ⟨even display.currentSize.width, even display.currentSize.height⟩

def devicePoint (point : CGPoint) (pictureRect : CGRect) : Option CGPoint :=
  if ¬ (0 < pictureRect.width ∧ 0 < pictureRect.height) then none
  else if ¬ pictureRect.Covers point then none
  else
    let fractionX := (point.x - pictureRect.minX) / pictureRect.width
    let fractionY := (point.y - pictureRect.minY) / pictureRect.height
    some ⟨min (roundAway (fractionX * display.currentSize.width)) (display.currentSize.width - 1),
      min (roundAway (fractionY * display.currentSize.height)) (display.currentSize.height - 1)⟩

end AndroidDisplay

/-- What the viewer's `MirrorView` takes its picture's place from. -/
structure MirrorView where
  bounds : CGRect
  frameSize : Option CGSize
  deriving Repr, DecidableEq

def MirrorView.pictureRect (view : MirrorView) : CGRect :=
  match view.frameSize with
  | none => view.bounds
  | some frameSize =>
      if ¬ (0 < frameSize.width ∧ 0 < frameSize.height) then view.bounds
      else
        let scale := min (view.bounds.width / frameSize.width)
          (view.bounds.height / frameSize.height)
        let size : CGSize := ⟨frameSize.width * scale, frameSize.height * scale⟩
        ⟨⟨view.bounds.midX - size.width / 2, view.bounds.midY - size.height / 2⟩, size⟩

end QuadControl.Apple
