import Worksheet.Number.Mixed
import Worksheet.Number.Shortest

/-!
# Significant digits

A double is shown with at most six significant digits, zeros at the end dropped. Decimal exponents
from -4 to 5 are written positionally.
-/

namespace Worksheet

namespace Significant

def places : Nat := 6

/-- The decimal exponent of the first digit, and the value in units of its last significant
digit. -/
def rounded (b : Binary) : Int × Nat :=
  let d := Shortest.digits b
  let e : Int := (Text.ofNat d.digits).length + d.exponent - 1
  let (num, den) := Shortest.inUnits b (e - (places - 1 : Nat))
  let n := roundDiv num den
  if n = Nat.pow 10 places then (e + 1, n / 10) else (e, n)

/-- Digits with a point behind the first `n`; zeros and a point at the end are dropped. -/
def pointed (n : Nat) (ds : Text) : Text :=
  ds.take n ++ match Text.trimRightBy (· == '0') (ds.drop n) with
    | [] => []
    | r => '.' :: r

def format (b : Binary) : Text :=
  let (e, n) := rounded b
  let ds := Text.ofNat n
  if e < -4 || (places : Int) ≤ e then
    let sign := if e < 0 then '-' else '+'
    pointed 1 ds ++ 'e' :: sign :: Text.padLeft '0' 2 (Text.ofNat e.natAbs)
  else if e < 0 then pointed 1 (List.replicate e.natAbs '0' ++ ds)
  else pointed (e.toNat + 1) ds

end Significant

/-- A double with at most six significant digits. -/
def significantText (x : Float) : Text :=
  match Binary.ofFloat? x with
  | none => if x.isNaN then "nan".toList else if x < 0 then "-inf".toList else "inf".toList
  | some b =>
    let t := if b.mantissa = 0 then ['0'] else Significant.format b
    if b.negative then '-' :: t else t

/-- A whole number in full, a double with six significant digits. What is not on the real line has
no text. -/
def Mixed.text : Mixed → Text
  | whole n => Text.ofInt n
  | real x => significantText x
  | imaginary => []

end Worksheet
