import Worksheet.Number.Binary
import Worksheet.Text.Basic

/-!
# Fixed places

A double is shown with a fixed number of decimal places by rounding its exact value, a half going to
the even digit. Digits before the point may be grouped in threes.
-/

namespace Worksheet

namespace Binary

/-- The absolute value times `10 ^ places`, rounded. -/
def scaled (places : Nat) (b : Binary) : Nat :=
  roundDiv (b.fraction.1 * Nat.pow 10 places) b.fraction.2

end Binary

namespace Fixed

open Text (ofNat padLeft)

/-- Puts a comma in front of every three digits, counted from the right. -/
def groupReversed : Text → Text
  | a :: b :: c :: d :: r => a :: b :: c :: ',' :: groupReversed (d :: r)
  | r => r

/-- Digits in groups of three. -/
def grouped (digits : Text) : Text := (groupReversed digits.reverse).reverse

/-- The digits of `n / 10 ^ places` after the point. -/
def fractionDigits (places n : Nat) : Text := padLeft '0' places (ofNat (n % Nat.pow 10 places))

/-- `n / 10 ^ places` with all its places. -/
def digits (group : Bool) (places n : Nat) : Text :=
  let whole := ofNat (n / Nat.pow 10 places)
  let whole := if group then grouped whole else whole
  if places = 0 then whole else whole ++ '.' :: fractionDigits places n

/-- A double with a fixed number of places. The sign of a negative zero is shown, infinity is
`inf`. -/
def ofFloat (group : Bool) (places : Nat) (x : Float) : Text :=
  match Binary.ofFloat? x with
  | some b =>
    let t := digits group places (b.scaled places)
    if b.negative then '-' :: t else t
  | none =>
    if x.isNaN then "nan".toList else if Binary.signBit x then "-inf".toList else "inf".toList

/-- A double with a fixed number of places, ungrouped. -/
abbrev plain (places : Nat) (x : Float) : Text := ofFloat false places x

/-- The double nearest to `x` rounded to a number of decimal places. -/
def round (places : Nat) (x : Float) : Float :=
  match Binary.ofFloat? x with
  | some b =>
    let r := Binary.nearest (b.scaled places) (Nat.pow 10 places)
    if b.negative then -r else r
  | none => x

end Fixed

end Worksheet
