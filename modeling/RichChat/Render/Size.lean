import RichChat.Number.Fraction
import RichChat.Text.Decimal

/-!
# Sizes

The size at which an image is shown (`fit`), and the text of the size of a file (`fileSize`). Both
round as double precision does.
-/

namespace RichChat

open RichChat.Text

/-- The scale at which both sides fit the box, at most 1. -/
def fitScale (width height maxWidth maxHeight : Nat) : Fraction :=
  min (min (Fraction.divide maxWidth width) (Fraction.divide maxHeight height)) ⟨1, 1⟩

/-- One side at a scale, at least 1. -/
def scaledSide (scale : Fraction) (side : UInt32) : UInt32 :=
  UInt32.ofNat (max (scale.scale side.toNat).round 1)

/-- A size brought down to fit a box, the sides keeping their ratio. A size that is not known takes
the whole box. -/
def fit (width height maxWidth maxHeight : UInt32) : UInt32 × UInt32 :=
  if width = 0 ∨ height = 0 then (maxWidth, maxHeight)
  else
    let scale := fitScale width.toNat height.toNat maxWidth.toNat maxHeight.toNat
    (scaledSide scale width, scaledSide scale height)

/-- The greatest unit, of those listed with the smallest first, that leaves at least 1, and the
value in it. The last unit takes whatever is left. -/
def sizeUnit (value : Fraction) : List String → Fraction × String
  | [] => (value, "")
  | [unit] => (value, unit)
  | unit :: units =>
    if 1024 * value.den ≤ value.num then sizeUnit ⟨value.num, value.den * 1024⟩ units
    else (value, unit)

/-- A fraction with one decimal, a half going to the even one. -/
def oneDecimal (value : Fraction) : List Char :=
  let tenths := divNearestEven (value.num * 10) value.den
  (toString (tenths / 10)).toList ++ '.' :: [digitChar (tenths % 10)]

/-- The size of a file as people read it. -/
def fileSize (bytes : Nat) : String :=
  if bytes < 1024 then toString bytes ++ " B"
  else
    let value := Fraction.toDouble ⟨bytes, 1⟩
    let (value, unit) := sizeUnit ⟨value.num, value.den * 1024⟩ ["KB", "MB", "GB", "TB"]
    String.ofList (oneDecimal value) ++ " " ++ unit

end RichChat
