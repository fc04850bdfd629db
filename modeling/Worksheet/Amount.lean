import Worksheet.Failure
import Worksheet.Number.Fixed
import Worksheet.Number.Literal

/-!
# Results as text

A number is shown with at most ten decimal places, without trailing zeros, its whole part in groups
of three; its sign is shown unless the shown number is zero. An amount of dollars always has two
places, and the cents are rounded half up. Infinities and undefined values are `NaN`.
-/

namespace Worksheet

namespace Amount

open Text (ofNat padLeft)

/-- A whole number that a text writes, in groups of three. -/
def thousands (t : Text) : Result Text :=
  match Literal.whole? t with
  | none => .error (.fault .badValue)
  | some n =>
    let digits := Fixed.grouped (ofNat n.natAbs)
    .ok (if n < 0 then '-' :: digits else digits)

/-- The digits behind the point without trailing zeros. -/
def trimZeros (digits : Text) : Text := Text.trimRightBy (· == '0') digits

/-- `n / 10 ^ 10` with grouped digits before the point and no trailing zeros behind it. -/
def plainDigits (n : Nat) : Text :=
  let whole := Fixed.grouped (ofNat (n / Nat.pow 10 10))
  match trimZeros (Fixed.fractionDigits 10 n) with
  | [] => whole
  | places => whole ++ '.' :: places

/-- A number. -/
def plain (b : Binary) : Text :=
  let n := b.scaled 10
  if b.negative && n != 0 then '-' :: plainDigits n else plainDigits n

/-- The cents of an amount that has the whole part `whole`, rounded half up in double arithmetic. -/
def cents (amount : Float) (whole : Nat) : Nat :=
  match Binary.ofFloat? ((amount - Binary.ofNat whole) * 100 + 0.5) with
  | some b => b.floor
  | none => 0

/-- An amount of dollars; a hundred cents are carried. -/
def currency (x : Float) : Text :=
  let amount := x.abs
  let whole := ((Binary.ofFloat? amount).map Binary.floor).getD 0
  let c := cents amount whole
  let (whole, c) := if c = 100 then (whole + 1, 0) else (whole, c)
  let t := Fixed.grouped (ofNat whole) ++ '.' :: padLeft '0' 2 (ofNat c)
  if x < 0 then "$-".toList ++ t else '$' :: t

/-- The result of a line. -/
def format (x : Float) (isCurrency : Bool) : Text :=
  match Binary.ofFloat? x with
  | none => "NaN".toList
  | some b => if isCurrency then currency x else plain b

/-- The result of a comparison. -/
def formatTruth (x : Float) : Text := if x == 1 then "true".toList else "false".toList

end Amount

end Worksheet
