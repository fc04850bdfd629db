import Worksheet.Expr.Arithmetic
import Worksheet.Proofs.Overflow

/-!
# Powers of negative numbers

**Theorem (`powerBy_neg`).** To an even exponent a base and its negative have the same power. To an
odd exponent their powers are the negatives of each other exactly if the power stays among the
doubles, or the base is infinite. A power that leaves the doubles, and one at the pole at zero, is
positive infinity for both.

The machine's power is a parameter that follows the standard of the arithmetic of doubles
(`IsPower`). It has the symmetry at every base (`IsPower.neg_of_odd`), and what is made of its
infinities loses it.
-/

namespace Worksheet

open Float.Model

namespace Binary

variable {x : Float} {v q : ℚ}

/-! ## Infinities and signs -/

/-- What is a number at all is finite or one of two infinities. -/
theorem value_or_infinity (h : x.isNaN = false) :
    (∃ v, valueOf? x = some v) ∨ x = infinity ∨ x = -infinity := by
  obtain ⟨s, e, f, hx⟩ := exists_fields x
  by_cases he : e = 2047
  · right
    subst he
    have hnan : (if f = 0 then UnpackedFloat.infinity s else .notANumber).isNaN = false := by
      rw [← unpack_packed_top hx.fraction_lt, ← hx.unpack_eq]
      exact h
    obtain rfl : f = 0 := by
      by_contra hf
      rw [if_neg hf] at hnan
      cases hnan
    cases s with
    | positive => exact .inl (float_ext (hx.bits.trans (by decide)))
    | negative => exact .inr (float_ext (hx.bits.trans (by decide)))
  · left
    rw [valueOf?_eq, hx.ofFloat?_eq, if_neg he]
    exact ⟨_, rfl⟩

theorem isFinite_eq (x : Float) : x.isFinite = (valueOf? x).isSome := by
  show x.toModel.unpack.isFinite = _
  unfold valueOf?
  cases x.toModel.unpack <;> rfl

theorem isInf_of_value (h : valueOf? x = some v) : x.isInf = false := by
  show x.toModel.unpack.isInf = false
  unfold valueOf? at h
  cases hx : x.toModel.unpack with
  | zero | finite | notANumber => rfl
  | infinity s =>
    rw [hx] at h
    cases h

theorem neg_neg_of_value (h : valueOf? x = some v) : -(-x) = x := by
  obtain ⟨b, hb, -⟩ := exists_of_valueOf? h
  have hneg := ofFloat?_neg (ofFloat?_neg hb)
  rw [Bool.not_not] at hneg
  exact ofFloat?_injective hneg hb

theorem signBit_neg (h : valueOf? x = some v) : signBit (-x) = !signBit x := by
  have hsign {y : Float} {b : Binary} (hy : ofFloat? y = some b) : signBit y = b.negative := by
    unfold ofFloat? at hy
    dsimp only at hy
    split_ifs at hy
    all_goals
      cases hy
      rfl
  obtain ⟨b, hb, -⟩ := exists_of_valueOf? h
  rw [hsign hb, hsign (ofFloat?_neg hb)]

/-! ## Rounding with a sign -/

/-- The double nearest to a number, infinity beyond all doubles. -/
def rounded (q : ℚ) : Float :=
  let x := nearest q.num.natAbs q.den
  if q < 0 then -x else x

/-- Without its sign, a rounded number is infinite or finite by its size. -/
theorem nearest_cases (q : ℚ) :
    (overflow ≤ |q| ∧ nearest q.num.natAbs q.den = infinity) ∨
      (|q| < overflow ∧ ∃ v, valueOf? (nearest q.num.natAbs q.den) = some v) := by
  have hquotient : (q.num.natAbs / q.den : ℚ) = |q| := by
    conv_rhs => rw [← Rat.num_div_den q, abs_div, Nat.abs_cast]
    rw [Nat.cast_natAbs, Int.cast_abs]
  rcases le_or_gt overflow |q| with hle | hlt
  · refine .inl ⟨hle, ?_⟩
    rw [nearest, (nearestBits_eq_infinityBits _ q.den_pos).2 (hquotient ▸ hle)]
    rfl
  · obtain ⟨v, hv, -⟩ := isNearest_nearest_of_lt q.den_pos (hquotient ▸ hlt)
    exact .inr ⟨hlt, v, hv⟩

theorem rounded_neg (hq : q ≠ 0) : rounded (-q) = -rounded q := by
  have hback : -(-nearest q.num.natAbs q.den) = nearest q.num.natAbs q.den := by
    rcases nearest_cases q with ⟨-, hinf⟩ | ⟨-, v, hv⟩
    · rw [hinf]
      rfl
    · exact neg_neg_of_value hv
  unfold rounded
  simp only [Rat.num_neg_eq_neg_num, Int.natAbs_neg, Rat.neg_den, neg_lt_zero]
  rcases hq.lt_or_gt with hneg | hpos
  · rw [if_neg (not_lt.2 hneg.le), if_pos hneg, hback]
  · rw [if_pos hpos, if_neg (not_lt.2 hpos.le)]

theorem isInf_rounded : (rounded q).isInf = true ↔ overflow ≤ |q| := by
  unfold rounded
  dsimp only
  rcases nearest_cases q with ⟨hle, hinf⟩ | ⟨hlt, v, hv⟩
  · rw [hinf]
    refine iff_of_true ?_ hle
    split <;> rfl
  · refine iff_of_false ?_ (not_le.2 hlt)
    split
    · rw [isInf_of_value (valueOf?_neg hv)]
      decide
    · rw [isInf_of_value hv]
      decide

end Binary

open Binary

/-! ## The machine's power -/

/-- A limit with a sign. -/
def withSign (negative : Bool) (x : Float) : Float := if negative then -x else x

/-- What the standard says of powers to whole exponents. The limits at zero and at infinity have the
sign of the base if the exponent is odd. -/
structure IsPower (pow : Float → Float → Float) : Prop where
  one {x e : Float} : valueOf? e = some 0 → pow x e = 1
  finite {x e : Float} {v : ℚ} {n : ℤ} : valueOf? x = some v → v ≠ 0 →
    valueOf? e = some (n : ℚ) → n ≠ 0 → pow x e = rounded (v ^ n)
  zero {x e : Float} {n : ℤ} : valueOf? x = some 0 → valueOf? e = some (n : ℚ) → n ≠ 0 →
    pow x e = withSign (signBit x && decide (Odd n)) (if n < 0 then infinity else 0)
  infinite {x e : Float} {n : ℤ} : x.isInf = true → valueOf? e = some (n : ℚ) → n ≠ 0 →
    pow x e = withSign (signBit x && decide (Odd n)) (if n < 0 then 0 else infinity)

/-- A power that leaves the doubles: one at the pole at zero, or one beyond all doubles. -/
def Leaves (base : Float) (n : ℤ) : Prop :=
  ∃ v, valueOf? base = some v ∧ (v = 0 ∧ n < 0 ∨ v ≠ 0 ∧ overflow ≤ |v ^ n|)

namespace IsPower

variable {pow : Float → Float → Float} {x e : Float} {n : ℤ}

theorem neg_of_even (h : IsPower pow) (hx : x.isNaN = false) (he : valueOf? e = some (n : ℚ))
    (hn : Even n) : pow (-x) e = pow x e := by
  by_cases hzero : n = 0
  · subst hzero
    rw [Int.cast_zero] at he
    rw [h.one he, h.one he]
  have hodd : decide (Odd n) = false := decide_eq_false (Int.not_odd_iff_even.2 hn)
  rcases value_or_infinity hx with ⟨v, hv⟩ | rfl | rfl
  · by_cases hv0 : v = 0
    · subst hv0
      have hneg := valueOf?_neg hv
      rw [neg_zero] at hneg
      rw [h.zero hneg he hzero, h.zero hv he hzero, hodd, Bool.and_false, Bool.and_false]
    · rw [h.finite (valueOf?_neg hv) (neg_ne_zero.2 hv0) he hzero, h.finite hv hv0 he hzero,
        hn.neg_zpow]
  · rw [h.infinite rfl he hzero, h.infinite rfl he hzero, hodd, Bool.and_false, Bool.and_false]
  · rw [h.infinite rfl he hzero, h.infinite rfl he hzero, hodd, Bool.and_false, Bool.and_false]

theorem neg_of_odd (h : IsPower pow) (hx : x.isNaN = false) (he : valueOf? e = some (n : ℚ))
    (hn : Odd n) : pow (-x) e = -pow x e := by
  have hzero : n ≠ 0 := by
    rintro rfl
    exact absurd hn (by decide)
  have hodd : decide (Odd n) = true := decide_eq_true hn
  rcases value_or_infinity hx with ⟨v, hv⟩ | rfl | rfl
  · by_cases hv0 : v = 0
    · subst hv0
      have hneg := valueOf?_neg hv
      rw [neg_zero] at hneg
      rw [h.zero hneg he hzero, h.zero hv he hzero, signBit_neg hv, hodd]
      split <;> cases signBit x <;> rfl
    · rw [h.finite (valueOf?_neg hv) (neg_ne_zero.2 hv0) he hzero, h.finite hv hv0 he hzero,
        hn.neg_zpow, rounded_neg (zpow_ne_zero n hv0)]
  · rw [h.infinite rfl he hzero, h.infinite rfl he hzero, hodd]
    split <;> rfl
  · rw [h.infinite rfl he hzero, h.infinite rfl he hzero, hodd]
    split <;> rfl

/-- A finite base has an infinite power exactly if the power leaves the doubles. -/
theorem isInf_iff (h : IsPower pow) {v : ℚ} (hv : valueOf? x = some v)
    (he : valueOf? e = some (n : ℚ)) (hn : n ≠ 0) : (pow x e).isInf = true ↔ Leaves x n := by
  have hleaves : Leaves x n ↔ v = 0 ∧ n < 0 ∨ v ≠ 0 ∧ overflow ≤ |v ^ n| := by
    simp [Leaves, hv]
  rw [hleaves]
  by_cases hv0 : v = 0
  · subst hv0
    rw [h.zero hv he hn]
    by_cases hneg : n < 0
    · refine iff_of_true ?_ (.inl ⟨rfl, hneg⟩)
      rw [if_pos hneg]
      cases signBit x && decide (Odd n) <;> rfl
    · refine iff_of_false ?_ (by simp [hneg])
      rw [if_neg hneg]
      cases signBit x && decide (Odd n) <;> decide
  · rw [h.finite hv hv0 he hn, isInf_rounded]
    simp [hv0]

end IsPower

/-! ## What is made of it -/

variable {pow : Float → Float → Float} {x e : Float} {n : ℤ}

theorem isFinite_neg (hx : x.isNaN = false) : (-x).isFinite = x.isFinite := by
  rcases value_or_infinity hx with ⟨v, hv⟩ | rfl | rfl
  · rw [isFinite_eq, isFinite_eq, hv, valueOf?_neg hv]
    rfl
  · rfl
  · rfl

theorem leaves_neg (hx : x.isNaN = false) : Leaves (-x) n ↔ Leaves x n := by
  rcases value_or_infinity hx with ⟨v, hv⟩ | rfl | rfl
  · simp [Leaves, hv, valueOf?_neg hv, abs_zpow]
  · have hnone : valueOf? infinity = none ∧ valueOf? (-infinity) = none := ⟨rfl, rfl⟩
    simp [Leaves, hnone]
  · have hnone : valueOf? (-infinity) = none ∧ valueOf? (-(-infinity)) = none := ⟨rfl, rfl⟩
    simp [Leaves, hnone]

theorem powerBy_of_leaves (h : IsPower pow) (he : valueOf? e = some (n : ℚ)) (hn : n ≠ 0)
    (hx : Leaves x n) : powerBy pow x e = infinity := by
  have ⟨v, hv, _⟩ := hx
  have hinf := (h.isInf_iff hv he hn).2 hx
  simp [powerBy, hinf, isFinite_eq, hv, he]

theorem powerBy_of_stays (h : IsPower pow) (he : valueOf? e = some (n : ℚ)) (hn : n ≠ 0)
    (hx : ¬Leaves x n) : powerBy pow x e = pow x e := by
  unfold powerBy
  dsimp only
  cases hv : valueOf? x with
  | none => simp [isFinite_eq, hv]
  | some v =>
    have hinf : (pow x e).isInf = false := Bool.eq_false_iff.2 (mt (h.isInf_iff hv he hn).1 hx)
    rw [hinf]
    rfl

/-- **Powers keep the symmetry of signs where they do not leave the doubles.** To an even exponent,
a base and its negative have the same power. To an odd one, their powers are the negatives of each
other if and only if the power does not leave the doubles; if it does, both are positive infinity. -/
theorem powerBy_neg (h : IsPower pow) (hx : x.isNaN = false) (he : valueOf? e = some (n : ℚ)) :
    (Even n → powerBy pow (-x) e = powerBy pow x e) ∧
    (Odd n → (powerBy pow (-x) e = -powerBy pow x e ↔ ¬Leaves x n) ∧
      (Leaves x n → powerBy pow (-x) e = infinity ∧ powerBy pow x e = infinity)) := by
  constructor
  · intro hn
    rw [powerBy, powerBy, h.neg_of_even hx he hn, isFinite_neg hx]
  · intro hn
    have hzero : n ≠ 0 := by
      rintro rfl
      exact absurd hn (by decide)
    have hboth (hleaves : Leaves x n) :
        powerBy pow (-x) e = infinity ∧ powerBy pow x e = infinity :=
      ⟨powerBy_of_leaves h he hzero ((leaves_neg hx).2 hleaves),
        powerBy_of_leaves h he hzero hleaves⟩
    refine ⟨⟨fun heq hleaves => ?_, fun hstays => ?_⟩, hboth⟩
    · rw [(hboth hleaves).1, (hboth hleaves).2] at heq
      exact absurd (congrArg Float.toBits heq) (by decide)
    · rw [powerBy_of_stays h he hzero (mt (leaves_neg hx).1 hstays),
        powerBy_of_stays h he hzero hstays, h.neg_of_odd hx he hn]

/-- The power by exact arithmetic, rounded once. Only whole exponents count. -/
def exactPower (x e : Float) : Float :=
  match valueOf? e with
  | none => notANumber
  | some y =>
    let sign := signBit x && decide (Odd y.num)
    if y = 0 then 1
    else match valueOf? x with
      | none => if x.isInf then withSign sign (if y.num < 0 then 0 else infinity) else notANumber
      | some v =>
        if v = 0 then withSign sign (if y.num < 0 then infinity else 0) else rounded (v ^ y.num)

theorem isPower_exactPower : IsPower exactPower where
  one he := by simp [exactPower, he]
  finite hx hv he hn := by simp [exactPower, hx, hv, he, hn]
  zero hx he hn := by
    simp only [exactPower, hx, he, Rat.num_intCast]
    rw [if_neg (Int.cast_ne_zero.2 hn), if_pos trivial]
    rfl
  infinite hx he hn := by
    have hnone : valueOf? _ = none := Option.eq_none_iff_forall_ne_some.2 fun v hv => by
      rw [isInf_of_value hv] at hx
      cases hx
    simp only [exactPower, hnone, he, hx, Rat.num_intCast]
    rw [if_neg (Int.cast_ne_zero.2 hn), if_pos trivial]
    rfl

/-- The powers of `10` and `-10` to the exponent `309` are positive infinity, both of them. -/
theorem powerBy_ten :
    let b := Binary.ofNat 10
    let e := Binary.ofNat 309
    powerBy exactPower (-b) e = infinity ∧ powerBy exactPower b e = infinity ∧
      powerBy exactPower (-b) e ≠ -powerBy exactPower b e := by
  intro b e
  have hbase : valueOf? b = some ((10 : ℕ) : ℚ) := valueOf?_ofNat (by decide)
  have hexponent : valueOf? e = some ((309 : ℤ) : ℚ) := valueOf?_ofNat (by decide)
  have hover : overflow ≤ |((10 : ℕ) : ℚ) ^ (309 : ℤ)| := by
    have hpow : (2 ^ 53 * 2 ^ 971 : ℕ) ≤ 10 ^ 309 := by decide +kernel
    calc overflow ≤ 2 ^ 53 * 2 ^ (971 : ℤ) :=
          mul_le_mul_of_nonneg_right (by norm_num) (zpow_pos_two 971).le
      _ ≤ |((10 : ℕ) : ℚ) ^ (309 : ℤ)| := by
          rw [abs_of_pos (zpow_pos (by norm_num) _)]
          exact_mod_cast hpow
  have hleaves : Leaves b 309 := ⟨_, hbase, .inr ⟨by norm_num, hover⟩⟩
  obtain ⟨hiff, hboth⟩ :=
    (powerBy_neg (x := b) isPower_exactPower (by decide +kernel) hexponent).2 (by decide)
  exact ⟨(hboth hleaves).1, (hboth hleaves).2, fun heq => hiff.1 heq hleaves⟩

end Worksheet
