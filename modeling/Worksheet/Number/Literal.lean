import Worksheet.Number.Binary
import Worksheet.Text.Case

/-!
# Reading numbers

A number may be written with digits of any script, blanks around it, a sign, underscores between
digits, one point and a power of ten. `Decimal` is the exact value of what is written, and a double
is the one nearest to it. Whole numbers of more than 4300 digits are refused.
-/

namespace Worksheet

/-- The value `mantissa · 10 ^ exponent`. -/
structure Decimal where
  mantissa : Nat
  exponent : Int
  deriving DecidableEq, Repr

namespace Decimal

/-- The double nearest to a decimal. Far above the largest double and far below the smallest one the
power of ten is not computed. -/
def toFloat (d : Decimal) : Float :=
  let size : Int := (d.mantissa.log2 : Int) * 3 / 10 + d.exponent
  if d.mantissa = 0 then 0
  else if 400 < size then infinity
  else if size < -400 then 0
  else match d.exponent with
    | .ofNat e => Binary.nearest (d.mantissa * Nat.pow 10 e) 1
    | .negSucc e => Binary.nearest d.mantissa (Nat.pow 10 (e + 1))

end Decimal

namespace Literal

open Text

/-- The blanks that may stand around a number: those of `Text.isBlank` but the controls 28 to 31. -/
def isPadding (c : Char) : Bool := isBlank c && !(28 ≤ c.toNat && c.toNat ≤ 31)

/-- Writes decimal digits of any script in ASCII and leaves the rest. -/
def asciiDigits (t : Text) : Text :=
  t.map fun c => match digitValue? c with
    | some d => Char.ofNat (48 + d)
    | none => c

/-- Removes the underscores of a number; each must stand between two digits. `digit` says whether
the last character was one. -/
def dropUnderscores (digit : Bool) : Text → Option Text
  | [] => some []
  | '_' :: c :: r =>
    if digit && isAsciiDigit c then (dropUnderscores true r).map (c :: ·) else none
  | c :: r => if c = '_' then none else (dropUnderscores (isAsciiDigit c) r).map (c :: ·)

/-- The value of ASCII digits, continuing from `n`. -/
def digitsFrom (n : Nat) (t : Text) : Nat := t.foldl (fun n c => 10 * n + (c.toNat - 48)) n

/-- The value of ASCII digits. -/
abbrev digitsValue (t : Text) : Nat := digitsFrom 0 t

/-- The digits in front of the point, those behind it, and what follows. -/
def splitPoint (t : Text) : Text × Text × Text :=
  let whole := t.takeWhile isAsciiDigit
  match t.dropWhile isAsciiDigit with
  | '.' :: r => (whole, r.takeWhile isAsciiDigit, r.dropWhile isAsciiDigit)
  | r => (whole, [], r)

/-- A sign and what follows; without a sign the number is positive. -/
def splitSign : Text → Bool × Text
  | '-' :: r => (true, r)
  | '+' :: r => (false, r)
  | r => (false, r)

/-- The power of ten written behind a number: nothing, or an `e` with a whole number. -/
def exponent? : Text → Option Int
  | [] => some 0
  | c :: r =>
    if c = 'e' || c = 'E' then
      let (negative, digits) := splitSign r
      if digits.isEmpty || !digits.all isAsciiDigit then none
      else some (if negative then -(digitsValue digits : Int) else digitsValue digits)
    else none

/-- An unsigned decimal number: digits with at most one point, at least one digit, and perhaps a
power of ten. -/
def decimal? (t : Text) : Option Decimal :=
  let (whole, places, r) := splitPoint t
  if whole.isEmpty && places.isEmpty then none
  else (exponent? r).map fun e => ⟨digitsValue (whole ++ places), e - places.length⟩

/-- An unsigned number, or the name of infinity or of no number. -/
def magnitude? (t : Text) : Option Float :=
  let name := t.map Char.toLower
  if name == "inf".toList || name == "infinity".toList then some infinity
  else if name == "nan".toList then some notANumber
  else (decimal? t).map Decimal.toFloat

/-- The double nearest to the number that a text writes. -/
def real? (t : Text) : Option Float := do
  let t ← dropUnderscores false (asciiDigits (trimBy isPadding t))
  let (negative, r) := splitSign t
  let x ← magnitude? r
  return if negative then -x else x

/-- The longest run of digits that is read as a whole number. -/
def maxDigits : Nat := 4300

/-- The whole number that a text writes. -/
def whole? (t : Text) : Option Int := do
  let (negative, r) := splitSign (asciiDigits (trimBy isPadding t))
  let digits ← dropUnderscores false r
  if digits.isEmpty || !digits.all isAsciiDigit || maxDigits < digits.length then none
  return if negative then -(digitsValue digits : Int) else digitsValue digits

/-- The number that a run of digits writes, none if the run is too long. -/
def natural? (t : Text) : Option Nat :=
  if maxDigits < t.length then none else some (digitsValue (asciiDigits t))

end Literal

end Worksheet
