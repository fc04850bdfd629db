import Worksheet.Number.Binary
import Worksheet.Text.Basic

/-!
# The shortest text of a double

A double is written with the fewest digits that read back as itself; of two such texts the nearer
one. Decimal exponents from -4 to 15 are written positionally.
-/

namespace Worksheet

namespace Shortest

/-- `digits · 10 ^ exponent`. -/
structure Digits where
  digits : Nat
  exponent : Int

/-- `10 ^ n` as a fraction. -/
def tenTo (n : Int) : Nat × Nat :=
  match n with
  | .ofNat n => (Nat.pow 10 n, 1)
  | .negSucc n => (1, Nat.pow 10 (n + 1))

/-- The numbers that read back as `m · 2 ^ q`, in quarters of `2 ^ q`: from the middle to the double
below up to the middle to the double above. Below a power of two the doubles lie closer. -/
def bounds (b : Binary) : Nat × Nat :=
  let closer := b.mantissa = Nat.pow 2 52 && -1074 < b.exponent
  (4 * b.mantissa - (if closer then 1 else 2), 4 * b.mantissa + 2)

/-- Whether `c · 10 ^ e` reads back as the value; the middles do if the mantissa is even. -/
def readsBack (b : Binary) (c : Nat) (e : Int) : Bool :=
  let (num, den) := tenTo e
  let (num, den) := match b.exponent - 2 with
    | .ofNat q => (num, den * Nat.pow 2 q)
    | .negSucc q => (num * Nat.pow 2 (q + 1), den)
  let (lo, hi) := bounds b
  if b.mantissa % 2 = 0 then lo * den ≤ c * num && c * num ≤ hi * den
  else lo * den < c * num && c * num < hi * den

/-- The value in units of `10 ^ e`, as a fraction. -/
def inUnits (b : Binary) (e : Int) : Nat × Nat :=
  let (num, den) := tenTo (-e)
  (b.fraction.1 * num, b.fraction.2 * den)

/-- The decimal on the grid of `10 ^ e` that reads back as the value, the nearer of two. -/
def onGrid? (b : Binary) (e : Int) : Option Nat :=
  let (num, den) := inUnits b e
  let c := num / den
  match readsBack b c e, readsBack b (c + 1) e with
  | true, true => some (roundDiv num den)
  | true, false => some c
  | false, true => some (c + 1)
  | false, false => none

/-- The first of `n` grids, each ten times finer than the one before, with such a decimal. -/
def search (b : Binary) : (n : Nat) → Int → Digits
  | 0, e => ⟨((onGrid? b e).getD 0), e⟩
  | n + 1, e =>
    match onGrid? b e with
    | some c => ⟨c, e⟩
    | none => search b n (e - 1)

/-- Drops zeros at the end, of which there are at most `n`. -/
def dropZeros (d : Digits) : (n : Nat) → Digits
  | 0 => d
  | n + 1 =>
    if d.digits % 10 = 0 && d.digits != 0 then dropZeros ⟨d.digits / 10, d.exponent + 1⟩ n else d

/-- The fewest digits that read back as a value other than zero. The coarsest grid lies above the
largest double. -/
def digits (b : Binary) : Digits := dropZeros (search b 660 310) 20

/-- The digits with a point, or with a power of ten behind them. -/
def format (d : Digits) : Text :=
  let ds := Text.ofNat d.digits
  let point : Int := ds.length + d.exponent
  if point ≤ -4 || 16 < point then
    let mantissa := match ds with
      | [c] => [c]
      | c :: r => c :: '.' :: r
      | [] => []
    let e := point - 1
    let sign := if e < 0 then '-' else '+'
    mantissa ++ 'e' :: sign :: Text.padLeft '0' 2 (Text.ofNat e.natAbs)
  else if point ≤ 0 then "0.".toList ++ List.replicate point.natAbs '0' ++ ds
  else if (ds.length : Int) ≤ point then
    ds ++ List.replicate (point.toNat - ds.length) '0' ++ ".0".toList
  else ds.take point.toNat ++ '.' :: ds.drop point.toNat

end Shortest

/-- The shortest text that reads back as a double. -/
def shortestText (x : Float) : Text :=
  match Binary.ofFloat? x with
  | none => if x.isNaN then "nan".toList else if x < 0 then "-inf".toList else "inf".toList
  | some b =>
    let t := if b.mantissa = 0 then "0.0".toList else Shortest.format (Shortest.digits b)
    if b.negative then '-' :: t else t

end Worksheet
