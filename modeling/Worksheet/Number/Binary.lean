/-!
# Doubles as whole numbers times powers of two

A finite double is `± mantissa · 2 ^ exponent`, read off its bits. All printing and rounding in this
library works on that exact value in whole-number arithmetic; `nearest` goes the other way, from a
fraction to the double nearest to it.
-/

namespace Worksheet

/-- The quotient rounded to the nearest whole number, a half to the even one. -/
def roundDiv (num den : Nat) : Nat :=
  let q := num / den
  let r := num % den
  if 2 * r < den then q
  else if den < 2 * r then q + 1
  else q + q % 2

/-- A rounded quotient is off by at most half a unit. -/
theorem roundDiv_error (num : Nat) {den : Nat} (h : 0 < den) :
    2 * num ≤ 2 * (den * roundDiv num den) + den ∧
      2 * (den * roundDiv num den) ≤ 2 * num + den := by
  have hd : den * (num / den) + num % den = num := Nat.div_add_mod num den
  have hr : num % den < den := Nat.mod_lt num h
  unfold roundDiv
  dsimp only
  split
  · omega
  · split
    · rw [Nat.mul_add]; omega
    · rcases Nat.mod_two_eq_zero_or_one (num / den) with e | e
      · rw [e, Nat.add_zero]; omega
      · rw [e, Nat.mul_add]; omega

/-- The value `± mantissa · 2 ^ exponent`. -/
structure Binary where
  negative : Bool
  mantissa : Nat
  exponent : Int
  deriving DecidableEq, Repr

namespace Binary

/-- The exact value of a double, none for an infinity or a NaN. -/
def ofFloat? (x : Float) : Option Binary :=
  let bits := x.toBits.toNat
  let field : Nat := bits / Nat.pow 2 52 % Nat.pow 2 11
  let fraction : Nat := bits % Nat.pow 2 52
  let negative := bits / Nat.pow 2 63 % 2 == 1
  if field = 2047 then none
  else if field = 0 then some ⟨negative, fraction, -1074⟩
  else some ⟨negative, fraction + Nat.pow 2 52, (field : Int) - 1075⟩

/-- Whether the sign bit is set, of zeros and NaNs too. -/
def signBit (x : Float) : Bool := x.toBits.toNat / Nat.pow 2 63 % 2 == 1

/-- The absolute value as a fraction of whole numbers. -/
def fraction (b : Binary) : Nat × Nat :=
  match b.exponent with
  | .ofNat e => (b.mantissa * Nat.pow 2 e, 1)
  | .negSucc e => (b.mantissa, Nat.pow 2 (e + 1))

/-- The largest whole number not above the absolute value. -/
def floor (b : Binary) : Nat := b.fraction.1 / b.fraction.2

def isWhole (b : Binary) : Bool := b.fraction.1 % b.fraction.2 == 0

/-- The whole part, towards zero. -/
def truncate (b : Binary) : Int := if b.negative then -(b.floor : Int) else b.floor

/-- The bits of infinity. -/
def infinityBits : Nat := 2047 * Nat.pow 2 52

/-- The bits of the double nearest to `num / den`, a half going to the even mantissa. Above the
largest double stands infinity. -/
def nearestBits (num den : Nat) : Nat :=
  if num = 0 then 0
  else
    let top : Int := (num.log2 : Int) - den.log2 - 53
    let quotient (k : Int) : Nat × Nat :=
      match k with
      | .ofNat k => (num, den * Nat.pow 2 k)
      | .negSucc k => (num * Nat.pow 2 (k + 1), den)
    let k₀ := max top (-1074)
    let k := if (quotient k₀).1 / (quotient k₀).2 < Nat.pow 2 53 then k₀ else k₀ + 1
    let m := roundDiv (quotient k).1 (quotient k).2
    min ((k + 1074).toNat * Nat.pow 2 52 + m) infinityBits

/-- The double nearest to `num / den`. -/
def nearest (num den : Nat) : Float := Float.ofBits (UInt64.ofNat (nearestBits num den))

/-- What is behind the point, with the sign of the value. -/
def part (b : Binary) : Float :=
  let x := nearest (b.fraction.1 % b.fraction.2) b.fraction.2
  if b.negative then -x else x

/-- The double nearest to a whole number. -/
def ofNat (n : Nat) : Float := nearest n 1

/-- The double nearest to a whole number, none beyond the largest double. -/
def ofNat? (n : Nat) : Option Float :=
  if nearestBits n 1 = infinityBits then none else some (ofNat n)

def ofInt? : Int → Option Float
  | .ofNat n => ofNat? n
  | .negSucc n => (ofNat? (n + 1)).map (-·)

end Binary

/-- The positive infinity. -/
def infinity : Float := Float.ofBits 0x7FF0000000000000

/-- The value of an undefined operation. -/
def notANumber : Float := Float.ofBits 0x7FF8000000000000

end Worksheet
