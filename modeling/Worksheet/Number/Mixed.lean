import Worksheet.Failure
import Worksheet.Number.Binary

/-!
# Whole and real numbers

A formula holds whole numbers, which are exact, and doubles. Sums and products of whole numbers and
their powers with exponents from zero on stay whole; whatever else meets is computed in doubles. A
root of a negative number is not on the real line and is not told apart from others of its kind.
-/

namespace Worksheet

inductive Mixed where
  | whole (n : Int)
  | real (x : Float)
  | imaginary

namespace Mixed

instance (n : Nat) : OfNat Mixed n := ⟨whole n⟩

instance : OfScientific Mixed := ⟨fun m s e => real (OfScientific.ofScientific m s e)⟩

instance : Neg Mixed := ⟨fun
  | whole n => whole (-n)
  | real x => real (-x)
  | imaginary => imaginary⟩

/-- The double nearest to a whole number. -/
def ofWhole (n : Int) : Except Fault Float :=
  match Binary.ofInt? n with
  | some x => .ok x
  | none => .error .tooLarge

/-! ## Comparison -/

/-- Whether a whole number and a double have the same value. -/
def wholeEqReal (n : Int) (x : Float) : Bool :=
  (Binary.ofFloat? x).any fun b => b.isWhole && b.truncate == n

/-- Numbers are equal if their values are, whatever their kinds. -/
instance : BEq Mixed := ⟨fun
  | whole m, whole n => m == n
  | real x, real y => x == y
  | whole n, real x | real x, whole n => wholeEqReal n x
  | _, _ => false⟩

def isPositive : Mixed → Bool
  | whole n => 0 < n
  | real x => 0 < x
  | imaginary => false

def abs : Mixed → Mixed
  | whole n => whole n.natAbs
  | real x => real x.abs
  | imaginary => imaginary

/-! ## Arithmetic -/

/-- An operation on whole numbers, with the one that stands for it in doubles. -/
def combine (f : Int → Int → Int) (g : Float → Float → Float) :
    Mixed → Mixed → Except Fault Mixed
  | whole m, whole n => .ok (whole (f m n))
  | whole m, real y => return real (g (← ofWhole m) y)
  | real x, whole n => return real (g x (← ofWhole n))
  | real x, real y => .ok (real (g x y))
  | _, _ => .ok imaginary

def add : Mixed → Mixed → Except Fault Mixed := combine (· + ·) (· + ·)

def sub : Mixed → Mixed → Except Fault Mixed := combine (· - ·) (· - ·)

def mul : Mixed → Mixed → Except Fault Mixed := combine (· * ·) (· * ·)

/-- The double nearest to a quotient of whole numbers. -/
def wholeQuotient (m n : Int) : Except Fault Float :=
  if Binary.nearestBits m.natAbs n.natAbs = Binary.infinityBits then .error .tooLarge
  else
    let q := Binary.nearest m.natAbs n.natAbs
    .ok (if decide (m < 0) != decide (n < 0) then -q else q)

def div (a b : Mixed) : Except Fault Mixed :=
  if b == 0 then .error .divisionByZero
  else match a, b with
    | whole m, whole n => return real (← wholeQuotient m n)
    | a, b => combine (fun m _ => m) (· / ·) a b

/-- The largest whole number that is not above a quotient of doubles. -/
def floorQuotient (x y : Float) : Float :=
  match Binary.ofFloat? x, Binary.ofFloat? y with
  | some a, some b =>
    let (p, q) := (a.fraction.1 * b.fraction.2, a.fraction.2 * b.fraction.1)
    if a.negative != b.negative then -(Binary.ofNat ((p + q - 1) / q)) else Binary.ofNat (p / q)
  | some a, none =>
    if y.isNaN then y else if a.mantissa != 0 && a.negative != decide (y < 0) then -1 else 0
  | none, _ => notANumber

/-- The whole part of a quotient, towards negative infinity. -/
def floorDiv (a b : Mixed) : Except Fault Mixed :=
  if b == 0 then .error .divisionByZero else combine Int.fdiv floorQuotient a b

/-- A power of doubles. A negative base with a broken exponent has no real power. -/
def realPow (x y : Float) : Except Fault Mixed :=
  let r := x.pow y
  if x == 0 && y < 0 then .error .divisionByZero
  else if x < 0 && x.isFinite && !((Binary.ofFloat? y).all Binary.isWhole) then .ok imaginary
  else if r.isInf && x.isFinite && y.isFinite then .error .tooLarge
  else .ok (real r)

/-- Powers with larger exponents are not written out. -/
def maxExponent : Nat := Nat.pow 2 24

/-- A power of a whole number; one too long to be written out counts as infinite. -/
def wholePow (m : Int) (n : Nat) : Mixed :=
  if m.natAbs ≤ 1 then whole (if n = 0 then 1 else if n % 2 = 0 then m * m else m)
  else if maxExponent < n then real infinity
  else whole (Int.pow m n)

def pow : Mixed → Mixed → Except Fault Mixed
  | whole m, whole (.ofNat n) => .ok (wholePow m n)
  | whole m, whole n => do realPow (← ofWhole m) (← ofWhole n)
  | whole m, real y => do realPow (← ofWhole m) y
  | real x, whole n => do realPow x (← ofWhole n)
  | real x, real y => realPow x y
  | _, _ => .ok imaginary

/-! ## Kinds -/

def kind : Mixed → OperandKind
  | whole _ => .whole
  | real _ => .real
  | imaginary => .imaginary

end Mixed

end Worksheet
