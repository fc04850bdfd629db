import Worksheet.Proofs.Cents

/-!
# Whole parts of quotients

**Theorem (`Binary.floor_eq_of_isNearest`).** The whole part of a quotient that is rounded is the
whole part of the quotient, if the dividend is a double below `2 ^ 53` and the divisor is a whole
number with the factor five.

A double below a multiple of the divisor lies below it by more than one part in `2 ^ 53`
(`IsDouble.value_mul_lt`); the multiple is no power of two, where that is all there is. Rounding
moves the quotient by half as much as the doubles are apart below a whole number, so it does not
reach the whole number. What is left of the dividend without the whole multiple is a double
(`exists_sub`).

Doubles that are not negative are compared as their values (`compare_unpack`).
-/

namespace Worksheet

namespace Binary

open Float.Model UnpackedFloat

variable {x y : Float} {a s v : ℚ} {b c : Binary}

/-! ## Order -/

/-- The greater exponent makes the greater number. -/
theorem magnitude_lt_of_exponent_lt (hb : IsDouble b) (hc : IsDouble c)
    (h : b.exponent < c.exponent) : b.magnitude < c.magnitude := by
  have hbits : (2 ^ 52 : ℚ) ≤ c.mantissa := by
    exact_mod_cast hc.normal.resolve_left (by have := hb.exponent_ge; omega)
  exact (magnitude_lt hb h).trans_le (mul_le_mul_of_nonneg_right hbits (zpow_pos_two _).le)

theorem compare_finite {m₁ m₂ : ℕ} {e₁ e₂ : ℤ} (h₁ : IsDouble ⟨false, m₁, e₁⟩)
    (h₂ : IsDouble ⟨false, m₂, e₂⟩) :
    (compare e₁ e₂).then (compare m₁ m₂) = compare (m₁ * 2 ^ e₁ : ℚ) (m₂ * 2 ^ e₂) := by
  rcases lt_trichotomy e₁ e₂ with hlt | rfl | hgt
  · have hvalue : (m₁ * 2 ^ e₁ : ℚ) < m₂ * 2 ^ e₂ := magnitude_lt_of_exponent_lt h₁ h₂ hlt
    rw [compare_lt_iff_lt.2 hlt, compare_lt_iff_lt.2 hvalue]
    rfl
  · have hpos := zpow_pos_two e₁
    rw [compare_eq_iff_eq.2 rfl]
    show compare m₁ m₂ = _
    rcases lt_trichotomy m₁ m₂ with hm | rfl | hm
    · rw [compare_lt_iff_lt.2 hm,
        compare_lt_iff_lt.2 (mul_lt_mul_of_pos_right (Nat.cast_lt.2 hm) hpos)]
    · rw [compare_eq_iff_eq.2 rfl, compare_eq_iff_eq.2 rfl]
    · rw [compare_gt_iff_gt.2 hm,
        compare_gt_iff_gt.2 (mul_lt_mul_of_pos_right (Nat.cast_lt.2 hm) hpos)]
  · have hvalue : (m₂ * 2 ^ e₂ : ℚ) < m₁ * 2 ^ e₁ := magnitude_lt_of_exponent_lt h₂ h₁ hgt
    rw [compare_gt_iff_gt.2 hgt, compare_gt_iff_gt.2 hvalue]
    rfl

/-- Doubles that are not negative are compared as their values. -/
theorem compare_unpack (hx : valueOf? x = some a) (hy : valueOf? y = some v) (ha : 0 ≤ a)
    (hv : 0 ≤ v) :
    UnpackedFloat.compare x.toModel.unpack y.toModel.unpack = some (compare a v) := by
  rcases exists_unpack hx ha with ⟨rfl, s, hux⟩ | ⟨m₁, e₁, h₁, hux, rfl⟩ <;>
    rcases exists_unpack hy hv with ⟨rfl, s', huy⟩ | ⟨m₂, e₂, h₂, huy, rfl⟩ <;>
    rw [hux, huy]
  · rw [compare_eq_iff_eq.2 rfl]
    rfl
  · rw [compare_lt_iff_lt.2 (mul_pos (Nat.cast_pos.2 h₂) (zpow_pos_two e₂))]
    rfl
  · rw [compare_gt_iff_gt.2 (mul_pos (Nat.cast_pos.2 h₁) (zpow_pos_two e₁))]
    rfl
  · exact congrArg some (compare_finite (isDouble_of_unpack hux false) (isDouble_of_unpack huy false))

theorem le_iff (hx : valueOf? x = some a) (hy : valueOf? y = some v) (ha : 0 ≤ a) (hv : 0 ≤ v) :
    x ≤ y ↔ a ≤ v := by
  show decide ((UnpackedFloat.compare x.toModel.unpack y.toModel.unpack).any (·.isLE) = true) =
    true ↔ _
  rw [compare_unpack hx hy ha hv, decide_eq_true_iff, ← compare_le_iff_le]
  show (compare a v).isLE = true ↔ _
  cases compare a v <;> simp

theorem lt_iff (hx : valueOf? x = some a) (hy : valueOf? y = some v) (ha : 0 ≤ a) (hv : 0 ≤ v) :
    x < y ↔ a < v := by
  show decide ((UnpackedFloat.compare x.toModel.unpack y.toModel.unpack == some .lt) = true) =
    true ↔ _
  rw [compare_unpack hx hy ha hv, decide_eq_true_iff, beq_iff_eq, Option.some.injEq]
  exact compare_lt_iff_lt

/-! ## Whole multiples -/

theorem fraction_snd (b : Binary) : b.fraction.2 = 2 ^ (-b.exponent).toNat := by
  unfold fraction
  split
  · next k hk =>
    rw [hk]
    simp
  · next k hk =>
    rw [hk, Nat.pow_eq]
    congr 1

/-- Below `2 ^ 53` the numerator of a double is no greater than a mantissa. -/
theorem IsDouble.fraction_lt (hb : IsDouble b) (h : b.magnitude < 2 ^ 53) :
    b.fraction.1 < 2 ^ 53 := by
  rw [magnitude_eq] at h
  unfold fraction at h ⊢
  split
  · next k hk =>
    rw [hk] at h
    simp only [Nat.cast_one, div_one] at h
    exact_mod_cast h
  · exact hb.mantissa_lt

/-- A double below a multiple of five lies below it by more than one part in `2 ^ 53`. -/
theorem IsDouble.value_mul_lt (hb : IsDouble b) {n : ℕ} (h : b.magnitude < n) (hn : n ≤ 2 ^ 53)
    (hfive : 5 ∣ n) : b.magnitude * 2 ^ 53 < n * (2 ^ 53 - 1) := by
  have hden : (0 : ℚ) < b.fraction.2 := Nat.cast_pos.2 b.fraction_pos
  have hfraction := hb.fraction_lt (h.trans_le (by exact_mod_cast hn))
  rw [magnitude_eq] at h ⊢
  have hlt : b.fraction.1 < n * b.fraction.2 := by
    exact_mod_cast (div_lt_iff₀ hden).1 h
  have hmul : b.fraction.1 * 2 ^ 53 < n * b.fraction.2 * (2 ^ 53 - 1) := by
    have := hfive.mul_right b.fraction.2
    generalize n * b.fraction.2 = m at hlt this
    omega
  rw [div_mul_eq_mul_div, div_lt_iff₀ hden]
  have hcast : ((b.fraction.1 * 2 ^ 53 : ℕ) : ℚ) < (n * b.fraction.2 * (2 ^ 53 - 1) : ℕ) :=
    Nat.cast_lt.2 hmul
  push_cast at hcast
  linarith

/-- A double that is not much below a whole number. -/
theorem exists_below {n : ℕ} (hpos : 0 < n) (hn : n < 2 ^ 53) :
    ∃ z u, valueOf? z = some u ∧ u < n ∧ n - n / 2 ^ 52 ≤ u := by
  have hlog : n.log2 ≤ 52 := log2_le_of_lt hn
  have hlow := Nat.log2_self_le hpos.ne'
  have hhigh := @Nat.lt_log2_self n
  have hsplit : 2 ^ n.log2 * 2 ^ (52 - n.log2) = 2 ^ 52 := by
    rw [← pow_add, Nat.add_sub_cancel' hlog]
  have hmantissa : n * 2 ^ (52 - n.log2) < 2 ^ 53 := by
    calc n * 2 ^ (52 - n.log2) < 2 ^ (n.log2 + 1) * 2 ^ (52 - n.log2) :=
          Nat.mul_lt_mul_of_pos_right hhigh (Nat.two_pow_pos _)
      _ = 2 ^ 53 := by rw [pow_succ, Nat.mul_right_comm, hsplit]; rfl
  have hbits : 2 ^ 52 ≤ n * 2 ^ (52 - n.log2) := by
    rw [← hsplit]
    exact Nat.mul_le_mul_right _ hlow
  have hj : 52 - n.log2 ≤ 52 := Nat.sub_le _ _
  generalize 52 - n.log2 = j at hmantissa hbits hj
  have hpow : (0 : ℚ) < 2 ^ j := by positivity
  have hstep := one_div_pos.2 hpow
  have hmax : (n : ℚ) ≤ 2 ^ 60 := by exact_mod_cast (by omega : n ≤ 2 ^ 60)
  have hcancel : ((n * 2 ^ j - 1 : ℕ) * 2 ^ (-(j : ℤ)) : ℚ) = n - 1 / 2 ^ j := by
    rw [Nat.cast_sub (by omega), zpow_neg, zpow_natCast]
    push_cast
    field_simp
  obtain ⟨z, hz⟩ := exists_double (m := n * 2 ^ j - 1) (k := -j) (by omega) (by omega)
    (le_maxValue (by rw [hcancel]; linarith))
  rw [hcancel] at hz
  refine ⟨z, _, hz, by linarith, ?_⟩
  have : (2 ^ 52 : ℚ) ≤ n * 2 ^ j := by exact_mod_cast hbits
  have : 1 / 2 ^ j ≤ (n : ℚ) / 2 ^ 52 := by
    rw [div_le_div_iff₀ hpow (by norm_num)]
    linarith
  linarith

/-- A rounded quotient below a whole number stays below it. -/
theorem lt_of_isNearest_div {c n : ℕ} (hx : valueOf? x = some s) (hs : 0 ≤ s) (h : s < n * c)
    (hn : n * c ≤ 2 ^ 53) (hfive : 5 ∣ c) (hc : 0 < c) (hy : IsNearest (s / c) y)
    (hv : valueOf? y = some v) : v < n := by
  have hcpos : (0 : ℚ) < c := Nat.cast_pos.2 hc
  obtain ⟨b, hb, rfl⟩ := exists_of_valueOf? hx
  have hmagnitude := magnitude_of_nonneg hs
  have hgap := (isDouble_of_ofFloat? hb).value_mul_lt (n := n * c)
    (by rw [hmagnitude]; exact_mod_cast h) hn (hfive.mul_left n)
  rw [hmagnitude] at hgap
  -- The quotient lies nearer to the double below the whole number than to the number itself.
  have hquotient : b.value / c < n - n / 2 ^ 53 := by
    rw [div_lt_iff₀ hcpos]
    push_cast at hgap
    linarith
  have hnpos : 0 < n := by
    by_contra hzero
    obtain rfl : n = 0 := by omega
    rw [Nat.cast_zero, zero_mul] at h
    linarith
  have hlt : n < 2 ^ 53 := by
    have := Nat.mul_le_mul_left n (Nat.le_of_dvd hc hfive)
    omega
  obtain ⟨z, u, hz, hun, hstep⟩ := exists_below hnpos hlt
  obtain ⟨w, hw, hnear⟩ := hy
  obtain rfl := Option.some.inj (hw.symm.trans hv)
  by_contra hge
  have hfar : |b.value / c - w| = w - b.value / c := by
    rw [abs_of_nonpos (by linarith [show (0 : ℚ) ≤ n / 2 ^ 53 by positivity])]
    ring
  have hcloser : |b.value / c - u| < |b.value / c - w| := by
    rw [hfar, abs_lt]
    constructor <;> linarith
  rcases hnear z u hz with hlt' | heq | ⟨heq, -⟩ <;> linarith

/-- **Theorem.** The whole part of the rounded quotient is that of the quotient. -/
theorem floor_eq_of_isNearest {c : ℕ} (hx : valueOf? x = some s) (hs : 0 ≤ s)
    (hmax : s + c ≤ 2 ^ 53) (hfive : 5 ∣ c) (hc : 0 < c) (hy : IsNearest (s / c) y)
    (hb : ofFloat? y = some b) : b.floor = ⌊s / c⌋₊ := by
  have hcpos : (1 : ℚ) ≤ c := by exact_mod_cast hc
  have hv : valueOf? y = some b.value := by rw [valueOf?_eq, hb, Option.map_some]
  have hquotient : 0 ≤ s / c := div_nonneg hs (by linarith)
  have hfloor := Nat.floor_le hquotient
  have hceil := Nat.lt_floor_add_one (s / c)
  have hle : (⌊s / c⌋₊ : ℚ) * c ≤ s := by
    rwa [le_div_iff₀ (by linarith)] at hfloor
  have hbound : (⌊s / c⌋₊ + 1) * c ≤ 2 ^ 53 := by
    have : ((⌊s / c⌋₊ + 1) * c : ℚ) ≤ 2 ^ 53 := by linarith
    exact_mod_cast this
  have hsmall : ⌊s / c⌋₊ ≤ 2 ^ 53 := by
    have := Nat.mul_le_mul_left (⌊s / c⌋₊ + 1) hc
    omega
  have hlow := hy.le_of_ge hv (valueOf?_ofNat hsmall) hfloor
  have hhigh := lt_of_isNearest_div (n := ⌊s / c⌋₊ + 1) hx hs
    (by push_cast; rwa [div_lt_iff₀ (by linarith)] at hceil) hbound hfive hc hy hv
  have hvalue := (magnitude_of_nonneg (le_trans (Nat.cast_nonneg _) hlow)).symm
  obtain ⟨hfl, hfh⟩ := b.floor_bounds
  rw [hvalue] at hlow hhigh
  have h₁ : ⌊s / c⌋₊ < b.floor + 1 := by exact_mod_cast hlow.trans_lt hfh
  have h₂ : b.floor < ⌊s / c⌋₊ + 1 := by exact_mod_cast hfl.trans_lt hhigh
  omega

/-! ## What is left -/

/-- A double below `2 ^ 53` without a whole number is a double. -/
theorem exists_sub (hb : IsDouble b) {n : ℕ} (h : n ≤ b.magnitude) (hmax : b.magnitude < 2 ^ 53) :
    ∃ z, valueOf? z = some (b.magnitude - n) := by
  have hden : (0 : ℚ) < b.fraction.2 := Nat.cast_pos.2 b.fraction_pos
  have hfraction := hb.fraction_lt hmax
  have hge := hb.exponent_ge
  have hle : n * b.fraction.2 ≤ b.fraction.1 := by
    rw [magnitude_eq, le_div_iff₀ hden] at h
    exact_mod_cast h
  have hvalue : ((b.fraction.1 - n * b.fraction.2 : ℕ) * 2 ^ (-((-b.exponent).toNat : ℤ)) : ℚ) =
      b.magnitude - n := by
    have hpow : ((2 : ℚ) ^ (-((-b.exponent).toNat : ℤ))) = (b.fraction.2 : ℚ)⁻¹ := by
      rw [zpow_neg, zpow_natCast, fraction_snd]
      push_cast
      rfl
    rw [hpow, Nat.cast_sub hle, magnitude_eq]
    push_cast
    field_simp
  obtain ⟨z, hz⟩ := exists_double (m := b.fraction.1 - n * b.fraction.2)
    (k := -((-b.exponent).toNat : ℤ)) (by omega) (by omega)
    (le_maxValue (by rw [hvalue]; linarith [show (0 : ℚ) ≤ n from Nat.cast_nonneg n]))
  exact ⟨z, hz.trans (by rw [hvalue])⟩

/-- It is computed without error. -/
theorem valueOf?_sub_ofNat (hx : valueOf? x = some s) {n : ℕ} (h : n ≤ s) (hmax : s < 2 ^ 53) :
    valueOf? (x - ofNat n) = some (s - n) := by
  obtain ⟨b, hb, rfl⟩ := exists_of_valueOf? hx
  have hnonneg : (0 : ℚ) ≤ n := Nat.cast_nonneg n
  have hmagnitude := magnitude_of_nonneg (hnonneg.trans h)
  obtain ⟨z, hz⟩ := exists_sub (isDouble_of_ofFloat? hb) (hmagnitude ▸ h) (hmagnitude ▸ hmax)
  rw [hmagnitude] at hz
  have hn : n ≤ 2 ^ 53 := by exact_mod_cast h.trans hmax.le
  exact (isNearest_sub hx (valueOf?_ofNat hn) hnonneg h
    (le_maxValue (by linarith))).value_eq hz

end Binary

end Worksheet
