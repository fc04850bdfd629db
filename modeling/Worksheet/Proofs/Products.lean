import Worksheet.Proofs.Quotients

/-!
# Sums, differences and products of doubles

**Theorem (`isNearest_mul`, `isNearest_add`, `isNearest_sub`).** Of doubles that are not negative,
the product, the sum, and the difference from a smaller one are the doubles nearest to those of the
values, as long as these are at most the largest double.

The machine computes such a mantissa exactly and then drops the bits that are too many. A mantissa of
too few bits is widened first (`isRounded_round`); the product of two mantissas never has too few
(`le_log2_mul`).

What is computed has no error if the result is a double itself (`IsNearest.value_eq`), say a mantissa
of 53 bits at an exponent (`exists_double`), and it never passes by a double (`IsNearest.le_of_le`).
-/

namespace Worksheet

namespace Binary

open Float.Model UnpackedFloat

variable {a b q : ℚ} {x y z : Float} {s : Sign} {k : ℤ} {m n : ℕ}

/-! ## Exact mantissas -/

theorem describes_exact (n : ℕ) : Describes (.ofMantissaAndAccuracy n .exact) (n : ℚ) := by
  have h : Describes ⟨n, false, false⟩ ((n : ℚ) + 0) :=
    describes_add le_rfl one_pos (by norm_num) (by norm_num)
  rwa [add_zero] at h

theorem pow_log2_le (hn : 0 < n) (t : ℤ) : (2 : ℚ) ^ ((n.log2 : ℤ) + t) ≤ n * 2 ^ t := by
  rw [← zpow_add_two]
  refine mul_le_mul_of_nonneg_right ?_ (zpow_pos_two t).le
  exact_mod_cast Nat.log2_self_le hn.ne'

/-- An exact mantissa that has no bits too few is rounded at the exponent of its number. -/
theorem isRounded_exact {t : ℤ} (hn : 0 < n) (ht : t ≤ max ((n.log2 : ℤ) + t - 52) (-1074))
    (hmax : (n * 2 ^ t : ℚ) ≤ maxValue) :
    IsRounded s (n * 2 ^ t) (roundWithAccuracy Format.binary64 s n t .exact) := by
  have hdescribes : Describes (.ofMantissaAndAccuracy n .exact) (n * 2 ^ t / 2 ^ t : ℚ) := by
    rw [mul_div_cancel_right₀ _ (zpow_pos_two t).ne']
    exact describes_exact n
  have hlow : (2 : ℚ) ^ ((n.log2 : ℤ) + t - 52 + 52) ≤ n * 2 ^ t := by
    rw [sub_add_cancel]
    exact pow_log2_le hn t
  exact hdescribes.isRounded hlow ht hmax

theorem log2_shiftLeft (hn : 0 < n) (j : ℕ) : (n <<< j).log2 = n.log2 + j := by
  have hpos : n <<< j ≠ 0 := by
    rw [Nat.shiftLeft_eq]
    exact (Nat.mul_pos hn (Nat.two_pow_pos j)).ne'
  refine (Nat.log2_eq_iff hpos).2 ⟨?_, ?_⟩
  · rw [Nat.shiftLeft_eq, pow_add]
    exact Nat.mul_le_mul_right _ (Nat.log2_self_le hn.ne')
  · rw [Nat.shiftLeft_eq, Nat.add_right_comm, pow_add]
    exact Nat.mul_lt_mul_of_pos_right Nat.lt_log2_self (Nat.two_pow_pos j)

/-- A mantissa that is shifted to a smaller exponent keeps its value. -/
theorem shiftLeft_value {t e : ℤ} (h : t ≤ e) (n : ℕ) :
    ((n <<< (e - t).toNat : ℕ) * 2 ^ t : ℚ) = n * 2 ^ e := by
  rw [Nat.shiftLeft_eq, Nat.cast_mul, Nat.cast_pow, Nat.cast_two, mul_assoc, zpow_add_two]
  congr 2
  omega

/-- A mantissa is widened if it has too few bits, and then rounded. -/
theorem isRounded_round {t : ℤ} (hn : 0 < n) (hmax : (n * 2 ^ t : ℚ) ≤ maxValue) :
    IsRounded s (n * 2 ^ t) (UnpackedFloat.round Format.binary64 s n t) := by
  have htarget : Format.binary64.targetExponent (totalExponent n t) =
      max ((n.log2 : ℤ) + t - 52) (-1074) := by
    rw [targetExponent_eq, totalExponent]
    congr 1
    ring
  rw [UnpackedFloat.round, htarget, decreaseExponent]
  dsimp only
  generalize hj : (t - max ((n.log2 : ℤ) + t - 52) (-1074)).toNat = j
  have hvalue : ((n <<< j : ℕ) * 2 ^ (t - j) : ℚ) = n * 2 ^ t := by
    have := shiftLeft_value (show t - j ≤ t by omega) n
    rwa [sub_sub_cancel, Int.toNat_natCast] at this
  have hpos : 0 < n <<< j := by
    rw [Nat.shiftLeft_eq]
    exact Nat.mul_pos hn (Nat.two_pow_pos j)
  rw [← hvalue] at hmax ⊢
  refine isRounded_exact hpos ?_ hmax
  rw [log2_shiftLeft hn]
  push_cast
  omega

/-! ## Zeros and signs -/

/-- What has the value itself is the double nearest to it. -/
theorem isNearest_self (h : valueOf? y = some q) : IsNearest q y :=
  ⟨q, h, fun z u _ => by
    by_cases hu : u = q
    · exact .inr (.inl hu)
    · rw [sub_self, abs_zero]
      exact .inl (abs_pos.2 (sub_ne_zero.2 (Ne.symm hu)))⟩

theorem valueOf?_of_zero (h : z.toBits.toBitVec = (UnpackedFloat.zero s).pack Format.binary64) :
    valueOf? z = some 0 := by
  have hunpack : z.toModel.unpack = .zero s := by
    show UnpackedFloat.unpack Format.binary64 z.toBits.toBitVec = _
    rw [h]
    cases s <;> rfl
  rw [valueOf?, hunpack]

/-- A finite double is packed as it was. -/
theorem pack_toModel (hy : valueOf? y = some b) :
    y.toModel.unpack.pack Format.binary64 = y.toBits.toBitVec := by
  obtain ⟨c, hc, -⟩ := exists_of_valueOf? hy
  obtain ⟨s, e, f, he, hfields, -⟩ := exists_fields_of_ofFloat? hc
  rw [hfields.unpack_eq, pack_unpack he hfields.fraction_lt, hfields.bits]

theorem valueOf?_abs (hx : valueOf? x = some a) : valueOf? x.abs = some |a| := by
  have habs : x.abs.toBits.toBitVec = x.toModel.unpack.abs.pack Format.binary64 := rfl
  have hneg : (-x).toBits.toBitVec = x.toModel.unpack.neg.pack Format.binary64 := rfl
  have hvalue := hx
  unfold valueOf? at hvalue
  cases hu : x.toModel.unpack with
  | zero s =>
    rw [hu] at habs hvalue
    cases hvalue
    rw [abs_zero]
    exact valueOf?_of_zero habs
  | finite s m e hm =>
    have hpos : (0 : ℚ) < m * 2 ^ e := mul_pos (Nat.cast_pos.2 hm) (zpow_pos_two e)
    rw [hu] at habs hneg hvalue
    cases s with
    | positive =>
      have hsame : x.abs = x := float_ext (habs.trans (by rw [← pack_toModel hx, hu]; rfl))
      rw [hsame, hx, ← Option.some.inj hvalue]
      exact congrArg some (abs_of_pos hpos).symm
    | negative =>
      have hsame : x.abs = -x := float_ext (habs.trans hneg.symm)
      rw [hsame, valueOf?_neg hx, ← Option.some.inj hvalue, Sign.apply]
      push_cast
      rw [neg_mul, neg_neg, abs_neg, abs_of_pos hpos]
  | infinity s =>
    rw [hu] at hvalue
    cases hvalue
  | notANumber =>
    rw [hu] at hvalue
    cases hvalue

/-- A double that is not negative is a zero, or a positive mantissa at an exponent. -/
theorem exists_unpack (hx : valueOf? x = some a) (ha : 0 ≤ a) :
    (a = 0 ∧ ∃ s, x.toModel.unpack = .zero s) ∨
      ∃ m e h, x.toModel.unpack = .finite .positive m e h ∧ a = m * 2 ^ e := by
  rcases ha.eq_or_lt with rfl | hpos
  · left
    refine ⟨rfl, ?_⟩
    unfold valueOf? at hx
    split at hx
    · next s hs => exact ⟨s, hs⟩
    · next s m e h _ =>
      have hpos : (0 : ℚ) < m * 2 ^ e := mul_pos (Nat.cast_pos.2 h) (zpow_pos_two e)
      have hzero := Option.some.inj hx
      cases s with
      | positive => exact absurd hzero hpos.ne'
      | negative =>
        rw [Sign.apply] at hzero
        push_cast at hzero
        linarith
    · cases hx
    · cases hx
  · exact .inr (exists_finite hx hpos)

/-! ## Products -/

/-- An unpacked mantissa and its exponent are those of a double. -/
theorem isDouble_of_unpack {e : ℤ} {h : 0 < m} (hx : x.toModel.unpack = .finite s m e h)
    (negative : Bool) : IsDouble ⟨negative, m, e⟩ := by
  obtain ⟨s', e', f, hfields⟩ := exists_fields x
  have hf := hfields.fraction_lt
  have he := hfields.field_lt
  rw [hfields.unpack_eq] at hx
  rcases Nat.eq_zero_or_pos e' with rfl | hpos
  · rcases Nat.eq_zero_or_pos f with rfl | hfpos
    · rw [unpack_packed_zero] at hx
      cases hx
    · rw [unpack_packed_subnormal hf hfpos] at hx
      cases hx
      exact ⟨show m < 2 ^ 53 by omega, le_rfl, show (-1074 : ℤ) ≤ 971 by norm_num, .inl rfl⟩
  · by_cases htop : e' = 2047
    · subst htop
      rw [unpack_packed_top hf] at hx
      split at hx <;> cases hx
    · rw [unpack_packed hpos (by omega) hf] at hx
      cases hx
      exact ⟨show 2 ^ 52 + f < 2 ^ 53 by omega, show -1074 ≤ (e' : ℤ) - 1075 by omega,
        show (e' : ℤ) - 1075 ≤ 971 by omega, .inr (Nat.le_add_right _ _)⟩

/-- A mantissa has all its bits, or the least exponent. -/
theorem normal_of_unpack {e : ℤ} {h : 0 < m} (hx : x.toModel.unpack = .finite s m e h) :
    -1074 ≤ e ∧ (e = -1074 ∨ 2 ^ 52 ≤ m) :=
  ⟨(isDouble_of_unpack hx false).exponent_ge, (isDouble_of_unpack hx false).normal⟩

/-- The product of two mantissas has no bits too few: if one has all its bits, so has the product,
and otherwise both exponents are the least. -/
theorem le_log2_mul {m₁ m₂ : ℕ} {e₁ e₂ : ℤ} (h₁ : 0 < m₁) (h₂ : 0 < m₂)
    (hn₁ : -1074 ≤ e₁ ∧ (e₁ = -1074 ∨ 2 ^ 52 ≤ m₁))
    (hn₂ : -1074 ≤ e₂ ∧ (e₂ = -1074 ∨ 2 ^ 52 ≤ m₂)) :
    e₁ + e₂ ≤ max (((m₁ * m₂).log2 : ℤ) + (e₁ + e₂) - 52) (-1074) := by
  have hbits (h : 2 ^ 52 ≤ m₁ * m₂) : 52 ≤ (m₁ * m₂).log2 :=
    (Nat.le_log2 (Nat.mul_pos h₁ h₂).ne').2 h
  rcases hn₁.2 with rfl | hm₁
  · rcases hn₂.2 with rfl | hm₂
    · exact le_max_of_le_right (by norm_num)
    · have := hbits (hm₂.trans (Nat.le_mul_of_pos_left _ h₁))
      exact le_max_of_le_left (by omega)
  · have := hbits (hm₁.trans (Nat.le_mul_of_pos_right _ h₂))
    exact le_max_of_le_left (by omega)

/-- **Theorem.** The product of two doubles that are not negative is the double nearest to the
product of their values. -/
theorem isNearest_mul (hx : valueOf? x = some a) (hy : valueOf? y = some b) (ha : 0 ≤ a)
    (hb : 0 ≤ b) (hmax : a * b ≤ maxValue) : IsNearest (a * b) (x * y) := by
  have hmul : (x * y).toBits.toBitVec =
      (x.toModel.unpack.mul Format.binary64 y.toModel.unpack).pack Format.binary64 := rfl
  rcases exists_unpack hx ha with ⟨rfl, s, hux⟩ | ⟨m₁, e₁, h₁, hux, rfl⟩ <;>
    rcases exists_unpack hy hb with ⟨rfl, s', huy⟩ | ⟨m₂, e₂, h₂, huy, rfl⟩ <;>
    rw [hux, huy] at hmul
  · rw [zero_mul]
    exact isNearest_self (valueOf?_of_zero hmul)
  · rw [zero_mul]
    exact isNearest_self (valueOf?_of_zero hmul)
  · rw [mul_zero]
    exact isNearest_self (valueOf?_of_zero hmul)
  · have hvalue : (m₁ * 2 ^ e₁ * (m₂ * 2 ^ e₂) : ℚ) = (m₁ * m₂ : ℕ) * 2 ^ (e₁ + e₂) := by
      rw [zpow_add₀ two_ne_zero]
      push_cast
      ring
    rw [hvalue] at hmax ⊢
    exact (isRounded_exact (Nat.mul_pos h₁ h₂)
      (le_log2_mul h₁ h₂ (normal_of_unpack hux) (normal_of_unpack huy)) hmax).isNearest hmax hmul

/-! ## Sums and differences -/

/-- What a sum or a difference of mantissas is made into. -/
theorem isNearest_of_normalize {t : ℤ} {i : ℤ} (hi : i = n)
    (hz : z.toBits.toBitVec = (normalize Format.binary64 i t .positive).pack Format.binary64)
    (hmax : (n * 2 ^ t : ℚ) ≤ maxValue) : IsNearest (n * 2 ^ t) z := by
  subst hi
  unfold UnpackedFloat.normalize at hz
  rcases Nat.eq_zero_or_pos n with rfl | hn
  · rw [Nat.cast_zero, zero_mul]
    exact isNearest_self (valueOf?_of_zero hz)
  · have hcompare : compare (n : ℤ) 0 = .gt := compare_gt_iff_gt.2 (by exact_mod_cast hn)
    rw [hcompare] at hz
    exact (isRounded_round hn hmax).isNearest hmax hz

/-- **Theorem.** The sum of two doubles that are not negative is the double nearest to the sum of
their values. -/
theorem isNearest_add (hx : valueOf? x = some a) (hy : valueOf? y = some b) (ha : 0 ≤ a)
    (hb : 0 ≤ b) (hmax : a + b ≤ maxValue) : IsNearest (a + b) (x + y) := by
  have hadd : (x + y).toBits.toBitVec =
      (x.toModel.unpack.add Format.binary64 y.toModel.unpack).pack Format.binary64 := rfl
  rcases exists_unpack hx ha with ⟨rfl, s, hux⟩ | ⟨m₁, e₁, h₁, hux, rfl⟩ <;>
    rcases exists_unpack hy hb with ⟨rfl, s', huy⟩ | ⟨m₂, e₂, h₂, huy, rfl⟩
  · rw [add_zero]
    rw [hux, huy] at hadd
    cases s <;> cases s' <;> exact isNearest_self (valueOf?_of_zero hadd)
  · have hsame : x + y = y := float_ext (hadd.trans (by rw [hux, ← pack_toModel hy, huy]; rfl))
    rw [zero_add, hsame]
    exact isNearest_self hy
  · have hsame : x + y = x := float_ext (hadd.trans (by rw [huy, ← pack_toModel hx, hux]; rfl))
    rw [add_zero, hsame]
    exact isNearest_self hx
  · rw [hux, huy] at hadd
    have hvalue : (m₁ * 2 ^ e₁ + m₂ * 2 ^ e₂ : ℚ) =
        (m₁ <<< (e₁ - min e₁ e₂).toNat + m₂ <<< (e₂ - min e₁ e₂).toNat : ℕ) * 2 ^ min e₁ e₂ := by
      rw [Nat.cast_add, add_mul, shiftLeft_value (min_le_left _ _),
        shiftLeft_value (min_le_right _ _)]
    rw [hvalue] at hmax ⊢
    exact isNearest_of_normalize (Nat.cast_add _ _).symm hadd hmax

/-- **Theorem.** The difference of two doubles that are not negative is the double nearest to the
difference of their values, if that is not negative. -/
theorem isNearest_sub (hx : valueOf? x = some a) (hy : valueOf? y = some b) (hb : 0 ≤ b)
    (hle : b ≤ a) (hmax : a ≤ maxValue) : IsNearest (a - b) (x - y) := by
  have hsub : (x - y).toBits.toBitVec =
      (x.toModel.unpack.sub Format.binary64 y.toModel.unpack).pack Format.binary64 := rfl
  rcases exists_unpack hx (hb.trans hle) with ⟨rfl, s, hux⟩ | ⟨m₁, e₁, h₁, hux, rfl⟩ <;>
    rcases exists_unpack hy hb with ⟨rfl, s', huy⟩ | ⟨m₂, e₂, h₂, huy, rfl⟩
  · rw [sub_zero]
    rw [hux, huy] at hsub
    cases s <;> cases s' <;> exact isNearest_self (valueOf?_of_zero hsub)
  · have hpos : (0 : ℚ) < m₂ * 2 ^ e₂ := mul_pos (Nat.cast_pos.2 h₂) (zpow_pos_two e₂)
    linarith
  · have hsame : x - y = x := float_ext (hsub.trans (by rw [huy, ← pack_toModel hx, hux]; rfl))
    rw [sub_zero, hsame]
    exact isNearest_self hx
  · rw [hux, huy] at hsub
    have hx' := shiftLeft_value (min_le_left e₁ e₂) m₁
    have hy' := shiftLeft_value (min_le_right e₁ e₂) m₂
    have hpos := zpow_pos_two (min e₁ e₂)
    have hmantissas : m₂ <<< (e₂ - min e₁ e₂).toNat ≤ m₁ <<< (e₁ - min e₁ e₂).toNat := by
      rw [← hx', ← hy'] at hle
      exact_mod_cast le_of_mul_le_mul_right hle hpos
    have hvalue : (m₁ * 2 ^ e₁ - m₂ * 2 ^ e₂ : ℚ) =
        (m₁ <<< (e₁ - min e₁ e₂).toNat - m₂ <<< (e₂ - min e₁ e₂).toNat : ℕ) * 2 ^ min e₁ e₂ := by
      rw [Nat.cast_sub hmantissas, sub_mul, hx', hy']
    rw [hvalue]
    refine isNearest_of_normalize (Nat.cast_sub hmantissas).symm hsub ?_
    rw [← hvalue]
    exact (sub_le_self _ hb).trans hmax

/-! ## Doubles without error -/

/-- A mantissa of at most 53 bits makes a double. -/
theorem exists_double (hm : m < 2 ^ 53) (hk : -1074 ≤ k) (hmax : (m * 2 ^ k : ℚ) ≤ maxValue) :
    ∃ z, valueOf? z = some ((m : ℚ) * 2 ^ k) := by
  have hpos := zpow_pos_two k
  have hq : (0 : ℚ) ≤ m * 2 ^ k := mul_nonneg (Nat.cast_nonneg _) hpos.le
  generalize hvalue : (m * 2 ^ k : ℚ) = q at hmax hq
  have hquotient : (q.num.natAbs / q.den : ℚ) = q := by
    rw [Nat.cast_natAbs, abs_of_nonneg (Rat.num_nonneg.2 hq), Rat.num_div_den]
  obtain ⟨j, r, hj, hr, -⟩ := nearestBits_spec q.num.natAbs q.den_pos
  rw [hquotient] at hj hr
  have hz := (valueOf?_ofBits hj.ge (hj.rounded_le hr) (hj.rounded_ge hr)
    (bits_lt_infinityBits hj hr hmax)).1
  -- The exponent of the number is no greater than that of the mantissa.
  have hjk : j ≤ k := by
    rcases hj.low with rfl | hlow
    · exact hk
    · have hm' : (m : ℚ) < 2 ^ 53 := by exact_mod_cast hm
      have hlt : (2 : ℚ) ^ (52 + j) < 2 ^ (53 + k) := by
        calc (2 : ℚ) ^ (52 + j) = 2 ^ 52 * 2 ^ j := (zpow_add_two 52 j).symm
          _ ≤ q := hlow
          _ = m * 2 ^ k := hvalue.symm
          _ < 2 ^ 53 * 2 ^ k := mul_lt_mul_of_pos_right hm' hpos
          _ = 2 ^ (53 + k) := zpow_add_two 53 k
      have := (zpow_lt_zpow_iff_right₀ (one_lt_two (α := ℚ))).1 hlt
      omega
  have hexact : q / 2 ^ j = (m <<< (k - j).toNat : ℕ) := by
    rw [div_eq_iff (zpow_pos_two j).ne', shiftLeft_value hjk, hvalue]
  rw [hexact] at hr
  refine ⟨_, hz.trans ?_⟩
  rw [hr.eq_of_natCast, shiftLeft_value hjk, hvalue]

/-- What is nearest to a number does not pass by a double. -/
theorem IsNearest.le_of_le {v u : ℚ} (h : IsNearest q y) (hy : valueOf? y = some v)
    (hz : valueOf? z = some u) (hq : q ≤ u) : v ≤ u := by
  obtain ⟨w, hw, hnear⟩ := h
  obtain rfl := Option.some.inj (hw.symm.trans hy)
  by_contra hlt
  have hfar : |q - u| < |q - w| := by
    rw [abs_of_nonpos (by linarith), abs_of_nonpos (by linarith)]
    linarith
  rcases hnear z u hz with hcloser | heq | ⟨heq, -⟩ <;> linarith

theorem IsNearest.le_of_ge {v u : ℚ} (h : IsNearest q y) (hy : valueOf? y = some v)
    (hz : valueOf? z = some u) (hq : u ≤ q) : u ≤ v := by
  have hneg := h.neg.le_of_le (valueOf?_neg hy) (valueOf?_neg hz) (neg_le_neg hq)
  exact neg_le_neg_iff.1 hneg

end Binary

end Worksheet
