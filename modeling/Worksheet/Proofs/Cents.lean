import Worksheet.Proofs.Products
import Worksheet.Proofs.ShownNumbers

/-!
# Amounts in dollars and cents

**Theorem (`Amount.format_currency_near`).** A finite double is shown in dollars as whole dollars in
groups of three and two digits of cents, with a minus sign if and only if it is below zero. What is
shown is a nearest number of cents, half a cent going up. Below sixteen dollars a fraction that falls
short of half a cent by less than `10 ^ -13` of a cent may go up too.

The whole part and what is left of the amount are doubles without error (`exists_fraction`). The
cents are that rest times a hundred and a half more, so two roundings come before the floor. They
cannot take away a half that is there, as no double is passed by (`ToCents.lt_floor_add`), but they
can make one of less (`ToCents.floor_le_add`). From sixteen dollars on the rest is a multiple of
`2 ^ -48`, and there is no rounding (`ToCents.floor_le_exact`).

The sign is put in front of what is shown whether or not that is zero: a tenth of a cent of debt is
shown as `$-0.00`.
-/

namespace Worksheet

/-! ## The whole part and the rest -/

namespace Binary

variable {a f : ℚ} {x y d : Float} {b : Binary} {j : ℕ}

theorem floor_bounds (b : Binary) : (b.floor : ℚ) ≤ b.magnitude ∧ b.magnitude < b.floor + 1 := by
  have hfloor : b.floor = ⌊b.magnitude⌋₊ := by
    rw [b.magnitude_eq, Nat.floor_div_eq_div]
    rfl
  rw [hfloor]
  exact ⟨Nat.floor_le b.magnitude_nonneg, Nat.lt_floor_add_one _⟩

/-- What is behind the point is a multiple of every power that the number is a multiple of. -/
theorem exists_rest {k : ℕ} (hb : 0 ≤ b.value) (hk : -k ≤ b.exponent) :
    ∃ j : ℕ, b.value - b.floor = j * 2 ^ (-(k : ℤ)) := by
  obtain ⟨i, hi⟩ := exists_multiple hk
  have hpos := zpow_pos_two (-(k : ℤ))
  have hone : (2 : ℚ) ^ k * 2 ^ (-(k : ℤ)) = 1 := by
    rw [zpow_add_two, add_neg_cancel, zpow_zero]
  have hrest : b.value - b.floor = ((i - b.floor * 2 ^ k : ℤ) : ℚ) * 2 ^ (-(k : ℤ)) := by
    rw [hi]
    push_cast
    rw [sub_mul, mul_assoc, hone, mul_one]
  have hnonneg : (0 : ℚ) ≤ b.value - b.floor := by
    rw [← abs_of_nonneg hb, b.abs_value]
    exact sub_nonneg.2 b.floor_bounds.1
  have hi : 0 ≤ i - b.floor * 2 ^ k := by
    rw [hrest] at hnonneg
    exact_mod_cast nonneg_of_mul_nonneg_left hnonneg hpos
  obtain ⟨j, hj⟩ := Int.eq_ofNat_of_zero_le hi
  exact ⟨j, by rw [hrest, hj, Int.cast_natCast]⟩

/-- What is behind the point is a double. -/
theorem exists_fraction (hb : IsDouble b) (hvalue : 0 ≤ b.value) :
    ∃ z, valueOf? z = some (b.value - b.floor) := by
  have hlt := b.floor_bounds.2
  rw [← b.abs_value, abs_of_nonneg hvalue] at hlt
  obtain ⟨j, hj⟩ := exists_rest (k := (-b.exponent).toNat) hvalue (by omega)
  have hpos := zpow_pos_two (-((-b.exponent).toNat : ℤ))
  have hge := hb.exponent_ge
  -- The multiple has no more bits than the mantissa.
  have hmantissa : j < 2 ^ 53 := by
    rcases le_or_gt 0 b.exponent with he | he
    · rw [Int.toNat_of_nonpos (by omega)] at hj
      simp only [Nat.cast_zero, neg_zero, zpow_zero, mul_one] at hj
      have : (j : ℚ) < 1 := by linarith
      have : j < 1 := by exact_mod_cast this
      omega
    · refine lt_of_le_of_lt ?_ hb.mantissa_lt
      have hle : (j : ℚ) * 2 ^ b.exponent ≤ b.mantissa * 2 ^ b.exponent := by
        have hexponent : -((-b.exponent).toNat : ℤ) = b.exponent := by omega
        rw [hexponent] at hj
        rw [← hj]
        show b.value - b.floor ≤ b.magnitude
        rw [← b.abs_value, abs_of_nonneg hvalue]
        exact sub_le_self _ (Nat.cast_nonneg _)
      exact_mod_cast le_of_mul_le_mul_right hle (zpow_pos_two _)
  obtain ⟨z, hz⟩ := exists_double hmantissa (show -1074 ≤ -((-b.exponent).toNat : ℤ) by omega)
    (le_maxValue (by rw [← hj]; linarith))
  exact ⟨z, hz.trans (by rw [hj])⟩

/-- The whole part is a double. -/
theorem valueOf?_floor (hx : valueOf? x = some b.value) (hb : IsDouble b) (hvalue : 0 ≤ b.value) :
    valueOf? (ofNat b.floor) = some (b.floor : ℚ) := by
  have hmagnitude := magnitude_of_nonneg hvalue
  rcases le_or_gt 0 b.exponent with he | he
  · -- A number without places is its own whole part.
    obtain ⟨j, hj⟩ := exists_rest (k := 0) hvalue (by simpa using he)
    have hlt := b.floor_bounds.2
    rw [hmagnitude] at hlt
    simp only [Nat.cast_zero, neg_zero, zpow_zero, mul_one] at hj
    have hzero : (j : ℚ) < 1 := by linarith
    have : j < 1 := by exact_mod_cast hzero
    obtain rfl : j = 0 := by omega
    have hwhole : b.value = (b.floor : ℚ) := by
      rw [Nat.cast_zero] at hj
      linarith
    have hnear : IsNearest ((b.floor : ℚ) / (1 : ℕ)) (ofNat b.floor) := by
      refine isNearest_nearest b.floor Nat.one_pos ?_
      rw [Nat.cast_one, div_one, ← hwhole, ← hmagnitude]
      exact magnitude_le_maxValue hb
    rw [Nat.cast_one, div_one] at hnear
    exact hnear.value_eq (hx.trans (by rw [hwhole]))
  · refine valueOf?_ofNat ?_
    have hsmall : (b.floor : ℚ) ≤ b.mantissa := by
      refine b.floor_bounds.1.trans ?_
      exact mul_le_of_le_one_right (Nat.cast_nonneg _)
        (zpow_le_one_of_nonpos₀ (by norm_num) he.le)
    have : b.floor ≤ b.mantissa := by exact_mod_cast hsmall
    exact this.trans hb.mantissa_lt.le

/-- What is left of an amount without its whole part is computed without error. -/
theorem valueOf?_rest (hx : ofFloat? x = some b) (hvalue : 0 ≤ b.value) :
    valueOf? (x - ofNat b.floor) = some (b.value - b.floor) := by
  have hb := isDouble_of_ofFloat? hx
  have hx' : valueOf? x = some b.value := by rw [valueOf?_eq, hx, Option.map_some]
  have hmagnitude := magnitude_of_nonneg hvalue
  have hle : (b.floor : ℚ) ≤ b.value := hmagnitude ▸ b.floor_bounds.1
  obtain ⟨z, hz⟩ := exists_fraction hb hvalue
  exact (isNearest_sub hx' (valueOf?_floor hx' hb hvalue) (Nat.cast_nonneg _) hle
    (hmagnitude ▸ magnitude_le_maxValue hb)).value_eq hz

/-! ## Cents -/

theorem valueOf?_zero : valueOf? 0 = some 0 := by decide +kernel

theorem valueOf?_hundred : valueOf? 100 = some 100 := by decide +kernel

theorem valueOf?_half : valueOf? 0.5 = some (1 / 2) := by decide +kernel

/-- A rest on its way to cents: the product with a hundred is rounded to `p`, and with a half more it
is rounded to `s`. -/
structure ToCents (d : Float) (f p s : ℚ) (b : Binary) : Prop where
  product : valueOf? (d * 100) = some p
  product_near : IsNearest (f * 100) (d * 100)
  product_nonneg : 0 ≤ p
  product_le : p ≤ 100
  sum : valueOf? (d * 100 + 0.5) = some s
  sum_near : IsNearest (p + 1 / 2) (d * 100 + 0.5)
  read : ofFloat? (d * 100 + 0.5) = some b
  magnitude : b.magnitude = s

theorem exists_toCents (hd : valueOf? d = some f) (hf : 0 ≤ f) (hone : f < 1) :
    ∃ p s b, ToCents d f p s b := by
  have hscaled : 0 ≤ f * 100 ∧ f * 100 ≤ 100 := ⟨by linarith, by linarith⟩
  have hproduct := isNearest_mul hd valueOf?_hundred hf (by norm_num)
    (le_maxValue (hscaled.2.trans (by norm_num)))
  obtain ⟨p, hp, -⟩ := hproduct.exists_near hscaled.1 (hscaled.2.trans (by norm_num))
  have hlow : 0 ≤ p := hproduct.le_of_ge hp valueOf?_zero hscaled.1
  have hhigh : p ≤ 100 := hproduct.le_of_le hp valueOf?_hundred hscaled.2
  have hsum := isNearest_add hp valueOf?_half hlow (by norm_num) (le_maxValue (by linarith))
  obtain ⟨s, hs, -⟩ := hsum.exists_near (by linarith) (by linarith)
  have hpositive : 0 ≤ s := hsum.le_of_ge hs valueOf?_zero (by linarith)
  obtain ⟨b, hb, hvalue⟩ := exists_of_valueOf? hs
  have hmagnitude : b.magnitude = s := by rw [← b.abs_value, hvalue, abs_of_nonneg hpositive]
  exact ⟨p, s, b, hp, hproduct, hlow, hhigh, hs, hsum, hb, hmagnitude⟩

namespace ToCents

variable {p s : ℚ}

theorem floor_le (h : ToCents d f p s b) : (b.floor : ℚ) ≤ s := h.magnitude ▸ b.floor_bounds.1

/-- The cents are more than the rest by half a cent at most, but for two roundings. -/
theorem floor_le_add (h : ToCents d f p s b) (hf : 0 ≤ f) (hone : f < 1) :
    (b.floor : ℚ) - 1 / 2 - 1 / 10 ^ 13 ≤ f * 100 := by
  have hlow := h.product_nonneg
  have hhigh := h.product_le
  obtain ⟨p', hp', hproduct⟩ := h.product_near.exists_near (by linarith) (by linarith)
  obtain ⟨s', hs', hsum⟩ := h.sum_near.exists_near (by linarith) (by linarith)
  obtain rfl := Option.some.inj (h.product.symm.trans hp')
  obtain rfl := Option.some.inj (h.sum.symm.trans hs')
  have herrors : (100 : ℚ) / 2 ^ 53 + (100 + 1 / 2) / 2 ^ 53 + 2 * (1 / 2 ^ 70) ≤ 1 / 10 ^ 13 := by
    norm_num
  have hfirst : f * 100 / 2 ^ 53 ≤ 100 / 2 ^ 53 :=
    div_le_div_of_nonneg_right (by linarith) (by norm_num)
  have hsecond : (p + 1 / 2) / 2 ^ 53 ≤ (100 + 1 / 2) / 2 ^ 53 :=
    div_le_div_of_nonneg_right (by linarith) (by norm_num)
  have hfloor := h.floor_le
  have hp := (abs_le.1 hproduct).1
  have hs := (abs_le.1 hsum).1
  linarith

/-- The cents are not less than the rest by half a cent: a half that is there is a double, and neither
rounding passes it by. -/
theorem lt_floor_add (h : ToCents d f p s b) (hone : f < 1) : f * 100 < b.floor + 1 / 2 := by
  by_contra hreached
  have hreached : (b.floor : ℚ) + 1 / 2 ≤ f * 100 := not_lt.1 hreached
  have hsmall : (b.floor : ℚ) < 100 := by linarith
  have hfloor : b.floor < 100 := by exact_mod_cast hsmall
  have hhalf : ((2 * b.floor + 1 : ℕ) * 2 ^ (-1 : ℤ) : ℚ) = b.floor + 1 / 2 := by
    push_cast
    norm_num
    ring
  obtain ⟨z, hz⟩ := exists_double (m := 2 * b.floor + 1) (k := -1) (by omega) (by norm_num)
    (le_maxValue (by rw [hhalf]; linarith))
  have hp : (b.floor : ℚ) + 1 / 2 ≤ p := h.product_near.le_of_ge h.product (hhalf ▸ hz) hreached
  have hs : ((b.floor + 1 : ℕ) : ℚ) ≤ s := by
    refine h.sum_near.le_of_ge h.sum (valueOf?_ofNat (by omega)) ?_
    push_cast
    linarith
  have hceil := b.floor_bounds.2
  rw [h.magnitude] at hceil
  push_cast at hs
  linarith

/-- A rest of at most 48 places is not rounded on its way to cents. -/
theorem floor_le_exact (h : ToCents d f p s b) (hone : f < 1) (hplaces : f = j * 2 ^ (-48 : ℤ)) :
    (b.floor : ℚ) - 1 / 2 ≤ f * 100 := by
  have hj : j < 2 ^ 48 := by
    rw [hplaces, zpow_neg, ← div_eq_mul_inv, div_lt_one (by norm_num)] at hone
    exact_mod_cast hone
  have hproduct : ((25 * j : ℕ) * 2 ^ (-46 : ℤ) : ℚ) = f * 100 := by
    rw [hplaces]
    push_cast
    norm_num
    ring
  have hsum : ((25 * j + 2 ^ 45 : ℕ) * 2 ^ (-46 : ℤ) : ℚ) = f * 100 + 1 / 2 := by
    rw [hplaces]
    push_cast
    norm_num
    ring
  obtain ⟨y, hy⟩ := exists_double (m := 25 * j) (k := -46) (by omega) (by norm_num)
    (le_maxValue (by rw [hproduct]; linarith))
  obtain ⟨z, hz⟩ := exists_double (m := 25 * j + 2 ^ 45) (k := -46) (by omega) (by norm_num)
    (le_maxValue (by rw [hsum]; linarith))
  rw [hproduct] at hy
  rw [hsum] at hz
  obtain rfl := Option.some.inj ((h.product_near.value_eq hy).symm.trans h.product)
  obtain rfl := Option.some.inj ((h.sum_near.value_eq hz).symm.trans h.sum)
  have hfloor := h.floor_le
  linarith

end ToCents

end Binary

/-! ## Dollars -/

namespace Amount

open Literal

variable {x : Float} {v : ℚ} {n : ℕ}

/-- An amount of dollars as it is shown. -/
structure Dollars where
  negative : Bool
  whole : Text
  cents : Text
  grouped : Grouped whole
  leading : whole = ['0'] ∨ whole.head? ≠ some '0'
  cents_digits : cents.all Text.isAsciiDigit = true
  cents_length : cents.length = 2

namespace Dollars

def text (d : Dollars) : Text :=
  '$' :: (if d.negative then ['-'] else []) ++ d.whole ++ '.' :: d.cents

/-- The number of cents: the digits without commas and without the point. -/
def total (d : Dollars) : ℕ := digitsValue (d.whole.filter (· != ',') ++ d.cents)

/-- An amount of `n` cents. -/
def ofCents (negative : Bool) (n : ℕ) : Dollars where
  negative := negative
  whole := Fixed.grouped (Text.ofNat (n / 100))
  cents := Fixed.fractionDigits 2 n
  grouped := grouped_grouped (Reference.ofNat_ascii _) (ofNat_ne_nil _)
  leading := leading_grouped _
  cents_digits := (Fixed.fractionDigits_spec Nat.two_pos n).1
  cents_length := (Fixed.fractionDigits_spec Nat.two_pos n).2.1

variable {negative : Bool}

theorem total_ofCents : (ofCents negative n).total = n := by
  obtain ⟨-, hlen, hvalue⟩ := Fixed.fractionDigits_spec Nat.two_pos n
  have hwhole := Fixed.filter_grouped
    (Reference.notMem_ofNat (show Text.isAsciiDigit ',' = false from rfl) (n / 100))
  show digitsValue ((Fixed.grouped _).filter (· != ',') ++ Fixed.fractionDigits 2 n) = n
  rw [hwhole, digitsValue_append, digitsValue_ofNat, hlen, hvalue]
  omega

end Dollars

/-- A hundred cents are carried, so an amount is shown as that of its cents. -/
theorem currency_eq {b : Binary} {c : ℕ} (hx : Binary.ofFloat? x.abs = some b)
    (hc : cents x.abs b.floor = c) (hle : c ≤ 100) :
    currency x = (Dollars.ofCents (decide (x < 0)) (100 * b.floor + c)).text := by
  have hcarry : (if c = 100 then (b.floor + 1, 0) else (b.floor, c)) =
      ((100 * b.floor + c) / 100, (100 * b.floor + c) % 100) := by
    split <;> (rw [Prod.mk.injEq]; omega)
  rw [currency, hx, Option.map_some, Option.getD_some, hc, hcarry, Dollars.text]
  by_cases hneg : x < 0 <;> simp [hneg, Dollars.ofCents, Fixed.fractionDigits]

/-- **Theorem.** A finite double is shown as an amount of dollars and cents, with a sign if it is
below zero. The amount is a nearest number of cents, half a cent going up; only below sixteen dollars
may a fraction go up that falls short of half a cent, and by less than `10 ^ -13` of a cent. -/
theorem format_currency_near (h : Binary.valueOf? x = some v) :
    ∃ d : Dollars, format x true = d.text ∧ (d.negative = true ↔ v < 0) ∧
      (d.total : ℚ) - 1 / 2 - 1 / 10 ^ 13 ≤ |v| * 100 ∧ |v| * 100 < d.total + 1 / 2 ∧
      (16 ≤ |v| → (d.total : ℚ) - 1 / 2 ≤ |v| * 100) := by
  obtain ⟨b₀, hb₀, -⟩ := Binary.exists_of_valueOf? h
  obtain ⟨b, hb, hvalue⟩ := Binary.exists_of_valueOf? (Binary.valueOf?_abs h)
  have hnonneg : 0 ≤ b.value := hvalue ▸ abs_nonneg v
  obtain ⟨hfloor, hceil⟩ := b.floor_bounds
  rw [← b.abs_value, abs_of_nonneg hnonneg] at hfloor hceil
  have hrest : 0 ≤ b.value - b.floor := by linarith
  have hone : b.value - b.floor < 1 := by linarith
  obtain ⟨p, s, c, hc⟩ := Binary.exists_toCents (Binary.valueOf?_rest hb hnonneg) hrest hone
  have hlow := hc.floor_le_add hrest hone
  have hhigh := hc.lt_floor_add hone
  have hcents : cents x.abs b.floor = c.floor := by rw [cents, hc.read]
  have hle : c.floor ≤ 100 := by
    have : (c.floor : ℚ) < 101 := by
      have : (1 : ℚ) / 10 ^ 13 ≤ 1 / 2 := by norm_num
      linarith
    have : c.floor < 101 := by exact_mod_cast this
    omega
  refine ⟨.ofCents (decide (x < 0)) (100 * b.floor + c.floor), ?_, ?_, ?_, ?_, fun hlarge => ?_⟩
  · rw [format, hb₀]
    exact currency_eq hb hcents hle
  · exact decide_eq_true_iff.trans (Binary.lt_zero_iff h)
  · rw [Dollars.total_ofCents, ← hvalue]
    push_cast
    linarith
  · rw [Dollars.total_ofCents, ← hvalue]
    push_cast
    linarith
  · -- A number of sixteen or more has at most 48 places.
    have hdouble := Binary.isDouble_of_ofFloat? hb
    have hexponent : -(48 : ℕ) ≤ b.exponent := by
      by_contra hsmall
      have hmagnitude := Binary.magnitude_lt hdouble
        (show b.exponent < -48 by push_cast at hsmall; omega)
      rw [← b.abs_value, hvalue, abs_abs] at hmagnitude
      norm_num at hmagnitude
      linarith
    obtain ⟨j, hj⟩ := Binary.exists_rest hnonneg hexponent
    have hexact := hc.floor_le_exact hone hj
    rw [Dollars.total_ofCents, ← hvalue]
    push_cast
    linarith

/-- The double next to one and a half cents falls short of them, and is shown as two. -/
theorem format_currency_near_short :
    Binary.valueOf? 0.015 = some (1080863910568919 / 2 ^ 56) ∧
      (1080863910568919 / 2 ^ 56 * 100 : ℚ) < 1 + 1 / 2 ∧ ∃ d : Dollars, "$0.02".toList = d.text ∧
        d.negative = false ∧
        (d.total : ℚ) - 1 / 2 - 1 / 10 ^ 13 ≤ 1080863910568919 / 2 ^ 56 * 100 ∧
        (1080863910568919 / 2 ^ 56 * 100 : ℚ) < d.total + 1 / 2 := by
  have hvalue : Binary.valueOf? 0.015 = some (1080863910568919 / 2 ^ 56) := by decide +kernel
  have hformat : format 0.015 true = "$0.02".toList := by decide +kernel
  obtain ⟨d, htext, hsign, hlow, hhigh, -⟩ := format_currency_near hvalue
  rw [abs_of_pos (by norm_num)] at hlow hhigh
  refine ⟨hvalue, by norm_num, d, hformat.symm.trans htext, ?_, hlow, hhigh⟩
  exact Bool.eq_false_iff.2 fun h => absurd (hsign.1 h) (by norm_num)

-- A sign stands in front of an amount that is shown as zero.
example : format (-0.001) true = "$-0.00".toList := by decide +kernel

end Amount

end Worksheet
