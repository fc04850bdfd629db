import Worksheet.Proofs.Values

/-!
# The nearest double

`roundDiv` takes a quotient to the nearest whole number, a half to the even one (`RoundsTo`).
**Theorem (`isNearest_nearest`).** Up to the largest double, `Binary.nearest` takes a quotient to
the nearest double, and of two that are equally close to the one whose last bit is zero.

At one exponent the doubles are the whole multiples of a power of two (`HasExponent`), and what is
rounded there is closest among these. A double that is no such multiple has a smaller exponent, so
it lies below the smallest multiple with 53 bits, on the far side of it.
-/

namespace Worksheet

/-! ## Whole numbers -/

/-- The whole number `n` is nearest to `q`, and even if another one is as near. -/
structure RoundsTo (q : ℚ) (n : ℕ) : Prop where
  near : |q - n| ≤ 1 / 2
  even : |q - n| = 1 / 2 → Even n

theorem roundsTo_roundDiv (num : ℕ) {den : ℕ} (h : 0 < den) :
    RoundsTo (num / den) (roundDiv num den) := by
  have hden : (0 : ℚ) < den := Nat.cast_pos.2 h
  obtain ⟨hlow, hhigh⟩ := roundDiv_error num h
  have hlow' : (2 * num : ℚ) ≤ 2 * (den * roundDiv num den) + den := by exact_mod_cast hlow
  have hhigh' : (2 * (den * roundDiv num den) : ℚ) ≤ 2 * num + den := by exact_mod_cast hhigh
  have hdist : (num / den : ℚ) - roundDiv num den = (num - den * roundDiv num den) / den := by
    field_simp
  constructor
  · rw [hdist, abs_div, abs_of_pos hden, div_le_iff₀ hden, abs_le]
    constructor <;> linarith
  · intro hhalf
    rw [hdist, abs_div, abs_of_pos hden, div_eq_iff hden.ne'] at hhalf
    -- Only the case of a remainder of one half is so far off.
    have htie : 2 * (den * roundDiv num den) + den = 2 * num ∨
        2 * num + den = 2 * (den * roundDiv num den) := by
      rcases abs_cases ((num : ℚ) - den * roundDiv num den) with ⟨habs, -⟩ | ⟨habs, -⟩
      · left
        have : (2 * (den * roundDiv num den) + den : ℚ) = 2 * num := by linarith
        exact_mod_cast this
      · right
        have : (2 * num + den : ℚ) = 2 * (den * roundDiv num den) := by linarith
        exact_mod_cast this
    have hd : den * (num / den) + num % den = num := Nat.div_add_mod num den
    have hr : num % den < den := Nat.mod_lt num h
    rw [Nat.even_iff]
    unfold roundDiv at htie ⊢
    dsimp only at htie ⊢
    split at htie
    · rcases htie with htie | htie <;> omega
    · split at htie
      · rw [Nat.mul_add] at htie
        rcases htie with htie | htie <;> omega
      · next hlt hgt =>
        rw [if_neg hlt, if_neg hgt]
        omega

namespace RoundsTo

variable {q : ℚ} {n : ℕ}

/-- No whole number is nearer. -/
theorem le_dist (h : RoundsTo q n) (j : ℤ) :
    |q - n| < |q - j| ∨ j = n ∨ (|q - n| = |q - j| ∧ Even n) := by
  by_cases hj : j = n
  · exact .inr (.inl hj)
  have hone : (1 : ℚ) ≤ |(n : ℚ) - j| := by
    have : (1 : ℤ) ≤ |(n : ℤ) - j| := Int.one_le_abs (sub_ne_zero.2 (Ne.symm hj))
    exact_mod_cast this
  have htriangle : |(n : ℚ) - j| ≤ |q - n| + |q - j| := by
    calc |(n : ℚ) - j| = |(q - j) - (q - n)| := by congr 1; ring
      _ ≤ |q - j| + |q - n| := abs_sub _ _
      _ = |q - n| + |q - j| := add_comm _ _
  have hnear := h.near
  rcases lt_or_ge |q - n| |q - j| with hlt | hge
  · exact .inl hlt
  · exact .inr (.inr ⟨by linarith, h.even (by linarith)⟩)

/-- A whole number is rounded to itself. -/
theorem eq_of_natCast {k : ℕ} (h : RoundsTo k n) : n = k := by
  rcases h.le_dist k with hlt | heq | ⟨heq, -⟩
  · rw [Int.cast_natCast, sub_self, abs_zero] at hlt
    exact absurd hlt (not_lt.2 (abs_nonneg _))
  · exact_mod_cast heq.symm
  · rw [Int.cast_natCast, sub_self, abs_zero, abs_eq_zero, sub_eq_zero] at heq
    exact_mod_cast heq.symm

/-- Rounding does not go beyond a whole number. -/
theorem le_of_le {k : ℕ} (h : RoundsTo q n) (hq : q ≤ k) : n ≤ k := by
  have hnear := (abs_le.1 h.near).1
  have hlt : (n : ℚ) < k + 1 := by linarith
  exact Nat.lt_succ_iff.1 (by exact_mod_cast hlt)

theorem le_of_ge {k : ℕ} (h : RoundsTo q n) (hq : k ≤ q) : k ≤ n := by
  have hnear := (abs_le.1 h.near).2
  have hlt : (k : ℚ) < n + 1 := by linarith
  exact Nat.lt_succ_iff.1 (by exact_mod_cast hlt)

end RoundsTo

namespace Binary

open Float.Model UnpackedFloat

variable {num den : ℕ} {q : ℚ} {k : ℤ} {m : ℕ}

/-! ## The exponent of a quotient -/

/-- At the exponent `k` a number of the size of `q` has 53 bits, or fewer at the least one. -/
structure HasExponent (q : ℚ) (k : ℤ) : Prop where
  ge : -1074 ≤ k
  low : k = -1074 ∨ 2 ^ 52 * 2 ^ k ≤ q
  high : q < 2 ^ 53 * 2 ^ k

theorem zpow_pos_two (k : ℤ) : (0 : ℚ) < 2 ^ k := zpow_pos (by norm_num) k

theorem zpow_add_two (j : ℕ) (k : ℤ) : (2 : ℚ) ^ j * 2 ^ k = 2 ^ (j + k) := by
  rw [zpow_add₀ two_ne_zero, zpow_natCast]

/-- A quotient lies within a power of two of the quotient of the highest bits. -/
theorem quotient_bounds (hnum : 0 < num) (hden : 0 < den) :
    (2 : ℚ) ^ ((num.log2 : ℤ) - den.log2 - 1) < num / den ∧
      (num / den : ℚ) < 2 ^ ((num.log2 : ℤ) - den.log2 + 1) := by
  have hnum' : (2 ^ num.log2 : ℚ) ≤ num := by exact_mod_cast Nat.log2_self_le hnum.ne'
  have hnum'' : (num : ℚ) < 2 ^ (num.log2 + 1) := by exact_mod_cast @Nat.lt_log2_self num
  have hden' : (2 ^ den.log2 : ℚ) ≤ den := by exact_mod_cast Nat.log2_self_le hden.ne'
  have hden'' : (den : ℚ) < 2 ^ (den.log2 + 1) := by exact_mod_cast @Nat.lt_log2_self den
  have hpos : (0 : ℚ) < den := Nat.cast_pos.2 hden
  constructor
  · rw [lt_div_iff₀ hpos]
    calc (2 : ℚ) ^ ((num.log2 : ℤ) - den.log2 - 1) * den
        < 2 ^ ((num.log2 : ℤ) - den.log2 - 1) * 2 ^ (den.log2 + 1) :=
          mul_lt_mul_of_pos_left hden'' (zpow_pos_two _)
      _ = 2 ^ num.log2 := by
          rw [mul_comm, zpow_add_two, ← zpow_natCast]
          congr 1
          push_cast
          ring
      _ ≤ num := hnum'
  · rw [div_lt_iff₀ hpos]
    calc (num : ℚ) < 2 ^ (num.log2 + 1) := hnum''
      _ = 2 ^ ((num.log2 : ℤ) - den.log2 + 1) * 2 ^ den.log2 := by
          rw [mul_comm, zpow_add_two, ← zpow_natCast]
          congr 1
          push_cast
          ring
      _ ≤ 2 ^ ((num.log2 : ℤ) - den.log2 + 1) * den :=
          mul_le_mul_of_nonneg_left hden' (zpow_pos_two _).le

/-- Two exponents come into question for a number between two powers of two. -/
theorem hasExponent_max {top : ℤ} (hlow : (2 : ℚ) ^ (top + 52) < q)
    (hhigh : q < (2 : ℚ) ^ (top + 54)) :
    HasExponent q
      (if q < 2 ^ 53 * 2 ^ max top (-1074) then max top (-1074) else max top (-1074) + 1) := by
  have hge : -1074 ≤ max top (-1074) := le_max_right _ _
  split
  · next hfit =>
    refine ⟨hge, ?_, hfit⟩
    rcases max_choice top (-1074) with h | h
    · right
      rw [h, zpow_add_two 52, add_comm]
      exact hlow.le
    · exact .inl h
  · next hover =>
    refine ⟨by omega, .inr ?_, ?_⟩
    · refine (le_of_eq ?_).trans (not_lt.1 hover)
      rw [zpow_add_one₀ two_ne_zero]
      ring
    · rw [zpow_add_two 53]
      refine hhigh.trans_le (zpow_le_zpow_right₀ (by norm_num) ?_)
      have hle : top ≤ max top (-1074) := le_max_left _ _
      push_cast
      omega

/-- The nearest double has the exponent of the quotient and its rounded multiple. -/
theorem nearestBits_spec (num : ℕ) (hden : 0 < den) :
    ∃ k m, HasExponent (num / den) k ∧ RoundsTo (num / den / 2 ^ k) m ∧
      nearestBits num den = min ((k + 1074).toNat * 2 ^ 52 + m) infinityBits := by
  rcases Nat.eq_zero_or_pos num with rfl | hnum
  · refine ⟨-1074, 0, ⟨le_rfl, .inl rfl, ?_⟩, ⟨by simp, by simp⟩, ?_⟩
    · rw [Nat.cast_zero, zero_div]
      exact mul_pos (by norm_num) (zpow_pos_two _)
    · rw [nearestBits, if_pos rfl]
      simp
  rw [nearestBits, if_neg hnum.ne']
  extract_lets top quotient k₀ k m
  have hquotient (j : ℤ) : 0 < (quotient j).2 ∧
      ((quotient j).1 / (quotient j).2 : ℚ) = num / den / 2 ^ j := by
    cases j with
    | ofNat j =>
      refine ⟨Nat.mul_pos hden (Nat.two_pow_pos _), ?_⟩
      show (num : ℚ) / (den * Nat.pow 2 j : ℕ) = _
      rw [Nat.pow_eq, Nat.cast_mul, Nat.cast_pow, Int.ofNat_eq_natCast, zpow_natCast, div_div]
      rfl
    | negSucc j =>
      refine ⟨hden, ?_⟩
      show ((num * Nat.pow 2 (j + 1) : ℕ) : ℚ) / den = _
      rw [Nat.pow_eq, Nat.cast_mul, Nat.cast_pow, zpow_negSucc, div_inv_eq_mul, div_mul_eq_mul_div]
      rfl
  have hfits : (quotient k₀).1 / (quotient k₀).2 < Nat.pow 2 53 ↔
      (num / den : ℚ) < 2 ^ 53 * 2 ^ k₀ := by
    obtain ⟨hq, heq⟩ := hquotient k₀
    rw [← div_lt_iff₀ (zpow_pos_two _), ← heq, div_lt_iff₀ (Nat.cast_pos.2 hq),
      Nat.div_lt_iff_lt_mul hq, Nat.pow_eq]
    norm_cast
  have hk : HasExponent (num / den) k := by
    obtain ⟨hlow, hhigh⟩ := quotient_bounds hnum hden
    rw [show (num.log2 : ℤ) - den.log2 - 1 = top + 52 by omega] at hlow
    rw [show (num.log2 : ℤ) - den.log2 + 1 = top + 54 by omega] at hhigh
    show HasExponent _ (if (quotient k₀).1 / (quotient k₀).2 < Nat.pow 2 53 then k₀ else k₀ + 1)
    rw [if_congr hfits rfl rfl]
    exact hasExponent_max hlow hhigh
  obtain ⟨hq, heq⟩ := hquotient k
  refine ⟨k, m, hk, ?_, by rw [Nat.pow_eq]⟩
  rw [← heq]
  exact roundsTo_roundDiv _ hq

/-! ## The double of the bits -/

/-- Bits below those of infinity have the sign bit zero. -/
theorem toBitVec_ofNat {w : ℕ} (hw : w < infinityBits) :
    (UInt64.ofNat w).toBitVec = packed .positive (w / 2 ^ 52) (w % 2 ^ 52) := by
  rw [infinityBits, Nat.pow_eq] at hw
  have hpositive : Sign.positive.toBitVec.toNat = 0 := rfl
  apply BitVec.eq_of_toNat_eq
  rw [toNat_packed (by omega) (Nat.mod_lt _ (by decide)), hpositive]
  show (UInt64.ofNat w).toNat = _
  rw [UInt64.toNat_ofNat']
  omega

/-- The value of a double whose bits are an exponent and a mantissa, carried if it has 54 bits. -/
theorem valueOf?_ofBits (hk : -1074 ≤ k) (hm : m ≤ 2 ^ 53) (hlow : k = -1074 ∨ 2 ^ 52 ≤ m)
    (hw : (k + 1074).toNat * 2 ^ 52 + m < infinityBits) :
    valueOf? (Float.ofBits (UInt64.ofNat ((k + 1074).toNat * 2 ^ 52 + m))) =
        some ((m : ℚ) * 2 ^ k) ∧
      (Float.ofBits (UInt64.ofNat ((k + 1074).toNat * 2 ^ 52 + m))).toBits.toNat =
        (k + 1074).toNat * 2 ^ 52 + m := by
  generalize hbits : (k + 1074).toNat * 2 ^ 52 + m = w at hw ⊢
  have hpacked := toBitVec_ofNat hw
  rw [infinityBits, Nat.pow_eq] at hw
  have hfields : HasFields (Float.ofBits (UInt64.ofNat w)) .positive (w / 2 ^ 52) (w % 2 ^ 52) :=
    .of_bits (by omega) (Nat.mod_lt _ (by decide)) hpacked
  have hfinite : w / 2 ^ 52 ≠ 2047 := by omega
  constructor
  · rw [valueOf?_eq, hfields.ofFloat?_eq, if_neg hfinite, Option.map_some, Option.some.injEq]
    unfold ofFields value magnitude
    dsimp only
    rw [if_neg (show ¬(Sign.positive.toBitVec == 1#1) = true by decide)]
    -- The mantissa is smaller than a normal one, a normal one, or the next power of two.
    rcases Nat.lt_or_ge m (2 ^ 52) with hsub | hnormal
    · obtain rfl : k = -1074 := hlow.resolve_right (by omega)
      rw [if_pos (show w / 2 ^ 52 = 0 by omega), if_pos (show w / 2 ^ 52 = 0 by omega),
        show w % 2 ^ 52 = m by omega]
    · have hne : w / 2 ^ 52 ≠ 0 := by omega
      rw [if_neg hne, if_neg hne]
      rcases Nat.lt_or_ge m (2 ^ 53) with hlt | hge
      · rw [show 2 ^ 52 + w % 2 ^ 52 = m by omega, show ((w / 2 ^ 52 : ℕ) : ℤ) - 1075 = k by omega]
      · obtain rfl : m = 2 ^ 53 := Nat.le_antisymm hm hge
        rw [show 2 ^ 52 + w % 2 ^ 52 = 2 ^ 52 by omega,
          show ((w / 2 ^ 52 : ℕ) : ℤ) - 1075 = k + 1 by omega, zpow_add_one₀ two_ne_zero]
        push_cast
        ring
  · have hpositive : Sign.positive.toBitVec.toNat = 0 := rfl
    rw [hfields.toNat_bits, hpositive, Nat.zero_mul, Nat.zero_add, Nat.div_add_mod']

/-! ## Nearness -/

/-- The double `y` has the value nearest to `q`, and its last bit is zero if another value is as
near. -/
def IsNearest (q : ℚ) (y : Float) : Prop :=
  ∃ v, valueOf? y = some v ∧ ∀ z u, valueOf? z = some u →
    |q - v| < |q - u| ∨ u = v ∨ (|q - v| = |q - u| ∧ Even y.toBits.toNat)

theorem dist_mul (q : ℚ) (k j : ℤ) : |q - j * 2 ^ k| = |q / 2 ^ k - j| * 2 ^ k := by
  have hpos := zpow_pos_two k
  rw [← abs_of_pos hpos, ← abs_mul, abs_of_pos hpos, sub_mul, div_mul_cancel₀ _ hpos.ne']

/-- A double of no smaller exponent is a whole multiple. -/
theorem exists_multiple {b : Binary} (h : k ≤ b.exponent) : ∃ j : ℤ, b.value = j * 2 ^ k := by
  have hmagnitude : b.magnitude = ((b.mantissa * 2 ^ (b.exponent - k).toNat : ℕ) : ℤ) * 2 ^ k := by
    rw [magnitude]
    push_cast
    rw [mul_assoc, zpow_add_two]
    congr 2
    omega
  unfold value
  rw [hmagnitude]
  split
  · exact ⟨-((b.mantissa * 2 ^ (b.exponent - k).toNat : ℕ) : ℤ), by push_cast; ring⟩
  · exact ⟨_, rfl⟩

/-- A double of smaller exponent lies below all those with 53 bits at the greater one. -/
theorem magnitude_lt {b : Binary} (hb : IsDouble b) (h : b.exponent < k) :
    b.magnitude < 2 ^ 52 * 2 ^ k := by
  have hmantissa : (b.mantissa : ℚ) < 2 ^ 53 := by exact_mod_cast hb.mantissa_lt
  calc b.magnitude < 2 ^ 53 * 2 ^ b.exponent :=
        mul_lt_mul_of_pos_right hmantissa (zpow_pos_two _)
    _ = 2 ^ 52 * 2 ^ (b.exponent + 1) := by
        rw [zpow_add_one₀ two_ne_zero]
        ring
    _ ≤ 2 ^ 52 * 2 ^ k := by
        refine mul_le_mul_of_nonneg_left ?_ (by norm_num)
        exact zpow_le_zpow_right₀ (by norm_num) (by omega)

/-- What is rounded at the exponent of a number is nearest to it. -/
theorem isNearest_of_roundsTo {y : Float} (hk : HasExponent q k) (hm : RoundsTo (q / 2 ^ k) m)
    (hy : valueOf? y = some ((m : ℚ) * 2 ^ k)) (heven : Even m → Even y.toBits.toNat) :
    IsNearest q y := by
  have hpos := zpow_pos_two k
  refine ⟨_, hy, fun z u hz => ?_⟩
  obtain ⟨b, hb, rfl⟩ := exists_of_valueOf? hz
  have hself : |q - m * 2 ^ k| = |q / 2 ^ k - m| * 2 ^ k := by exact_mod_cast dist_mul q k m
  rcases le_or_gt k b.exponent with hle | hlt
  · obtain ⟨j, hj⟩ := exists_multiple hle
    rw [hj, hself, dist_mul]
    rcases hm.le_dist j with hcloser | rfl | ⟨hsame, he⟩
    · exact .inl (mul_lt_mul_of_pos_right hcloser hpos)
    · exact .inr (.inl (by push_cast; rfl))
    · exact .inr (.inr ⟨by rw [hsame], heven he⟩)
  · left
    have hlow : 2 ^ 52 * 2 ^ k ≤ q := hk.low.resolve_left (by
      have := (isDouble_of_ofFloat? hb).exponent_ge
      omega)
    have hu : b.value < 2 ^ 52 * 2 ^ k :=
      (le_abs_self _).trans_lt (b.abs_value.symm ▸ magnitude_lt (isDouble_of_ofFloat? hb) hlt)
    obtain ⟨c, hc⟩ : ∃ c : ℤ, (c : ℚ) = 2 ^ 52 := ⟨2 ^ 52, by norm_num⟩
    rw [← hc] at hlow hu
    have hnear : |q / 2 ^ k - m| ≤ |q / 2 ^ k - c| := by
      rcases hm.le_dist c with h | h | ⟨h, -⟩
      · exact h.le
      · rw [h, Int.cast_natCast]
      · exact h.le
    have hstep : |q - m * 2 ^ k| ≤ q - c * 2 ^ k := by
      rw [← abs_of_nonneg (sub_nonneg.2 hlow), hself, dist_mul]
      exact mul_le_mul_of_nonneg_right hnear hpos.le
    calc |q - m * 2 ^ k| ≤ q - c * 2 ^ k := hstep
      _ < q - b.value := by linarith
      _ ≤ |q - b.value| := le_abs_self _

/-- The largest double. -/
def maxValue : ℚ := (2 ^ 53 - 1) * 2 ^ (971 : ℤ)

theorem magnitude_le_maxValue {b : Binary} (hb : IsDouble b) : b.magnitude ≤ maxValue := by
  have hsucc : (b.mantissa + 1 : ℚ) ≤ 2 ^ 53 := by exact_mod_cast hb.mantissa_lt
  have hmantissa : (b.mantissa : ℚ) ≤ 2 ^ 53 - 1 := by linarith
  exact mul_le_mul hmantissa (zpow_le_zpow_right₀ (by norm_num) hb.exponent_le)
    (zpow_pos_two _).le (by norm_num)

/-- What is rounded at the exponent of a number has at most one bit more. -/
theorem HasExponent.rounded_le (hk : HasExponent q k) (hm : RoundsTo (q / 2 ^ k) m) :
    m ≤ 2 ^ 53 :=
  hm.le_of_le (by
    rw [div_le_iff₀ (zpow_pos_two k)]
    exact_mod_cast hk.high.le)

theorem HasExponent.rounded_ge (hk : HasExponent q k) (hm : RoundsTo (q / 2 ^ k) m) :
    k = -1074 ∨ 2 ^ 52 ≤ m :=
  hk.low.imp_right fun h => hm.le_of_ge (by
    rw [le_div_iff₀ (zpow_pos_two k)]
    exact_mod_cast h)

/-- What is rounded does not reach the bits of infinity. -/
theorem bits_lt_infinityBits (hk : HasExponent q k) (hm : RoundsTo (q / 2 ^ k) m)
    (hmax : q ≤ maxValue) : (k + 1074).toNat * 2 ^ 52 + m < infinityBits := by
  have hpos := zpow_pos_two k
  have hge := hk.ge
  have hm53 := hk.rounded_le hm
  have hle : k ≤ 971 := by
    by_contra hlt
    have hlow : 2 ^ 52 * 2 ^ k ≤ q := hk.low.resolve_left (by omega)
    have hpow : (2 : ℚ) ^ (971 + 1 : ℤ) ≤ 2 ^ k := zpow_le_zpow_right₀ (by norm_num) (by omega)
    have htop := zpow_pos_two 971
    rw [zpow_add_one₀ two_ne_zero] at hpow
    rw [maxValue] at hmax
    generalize (2 : ℚ) ^ (971 : ℤ) = top at hpow htop hmax
    linarith
  rw [infinityBits, Nat.pow_eq]
  rcases hle.lt_or_eq with hlt | rfl
  · omega
  · have htop : m ≤ 2 ^ 53 - 1 := hm.le_of_le (by
      rw [div_le_iff₀ hpos]
      refine hmax.trans (le_of_eq ?_)
      rw [maxValue]
      norm_num)
    omega

/-- What is rounded at the exponent of a number makes up the bits of the nearest double. -/
theorem isNearest_ofBits (hk : HasExponent q k) (hm : RoundsTo (q / 2 ^ k) m)
    (hmax : q ≤ maxValue) :
    IsNearest q (Float.ofBits (UInt64.ofNat ((k + 1074).toNat * 2 ^ 52 + m))) := by
  obtain ⟨hvalue, hnat⟩ := valueOf?_ofBits hk.ge (hk.rounded_le hm) (hk.rounded_ge hm)
    (bits_lt_infinityBits hk hm hmax)
  refine isNearest_of_roundsTo hk hm hvalue fun heven => ?_
  rw [hnat]
  exact (Nat.even_pow.2 ⟨even_two, by decide⟩).mul_left _ |>.add heven

/-- **Theorem.** The double of a quotient is the nearest one. -/
theorem isNearest_nearest (num : ℕ) (hden : 0 < den) (hmax : (num / den : ℚ) ≤ maxValue) :
    IsNearest (num / den) (nearest num den) := by
  obtain ⟨k, m, hk, hm, hbits⟩ := nearestBits_spec num hden
  rw [nearest, hbits, Nat.min_eq_left (bits_lt_infinityBits hk hm hmax).le]
  exact isNearest_ofBits hk hm hmax

/-- What is nearest to a number differs from it by one part in `2 ^ 53` at most, or by half of the
least double. -/
theorem IsNearest.exists_error {y : Float} (h : IsNearest q y) (hq : 0 ≤ q) (hmax : q ≤ maxValue) :
    ∃ v, valueOf? y = some v ∧ |q - v| ≤ q / 2 ^ 53 + 2 ^ (-1075 : ℤ) := by
  have hquotient : (q.num.natAbs / q.den : ℚ) = q := by
    rw [Nat.cast_natAbs, abs_of_nonneg (Rat.num_nonneg.2 hq), Rat.num_div_den]
  obtain ⟨k, m, hk, hm, -⟩ := nearestBits_spec q.num.natAbs q.den_pos
  rw [hquotient] at hk hm
  have hrounded := (valueOf?_ofBits hk.ge (hk.rounded_le hm) (hk.rounded_ge hm)
    (bits_lt_infinityBits hk hm hmax)).1
  have hunit : (2 : ℚ) ^ k / 2 ≤ q / 2 ^ 53 + 2 ^ (-1075 : ℤ) := by
    rcases hk.low with rfl | hlow
    · rw [show (-1075 : ℤ) = -1074 - 1 from rfl, zpow_sub_one₀ two_ne_zero, ← div_eq_mul_inv]
      exact le_add_of_nonneg_left (div_nonneg hq (by norm_num))
    · have hpos := zpow_pos_two (-1075)
      linarith
  obtain ⟨v, hy, hv⟩ := h
  refine ⟨v, hy, le_trans ?_ hunit⟩
  have hnear : |q - m * 2 ^ k| ≤ 2 ^ k / 2 := by
    have hdist : |q - m * 2 ^ k| = |q / 2 ^ k - m| * 2 ^ k := by exact_mod_cast dist_mul q k m
    rw [hdist]
    exact (mul_le_mul_of_nonneg_right hm.near (zpow_pos_two k).le).trans_eq (by ring)
  rcases hv _ _ hrounded with hlt | heq | ⟨heq, -⟩
  · exact hlt.le.trans hnear
  · rwa [← heq]
  · rwa [heq]

theorem le_maxValue (h : q ≤ 2 ^ 60) : q ≤ maxValue := by
  have hpow : (2 : ℚ) ^ (60 : ℤ) ≤ 2 ^ (971 : ℤ) := zpow_le_zpow_right₀ (by norm_num) (by norm_num)
  calc q ≤ 2 ^ (60 : ℤ) := by exact_mod_cast h
    _ ≤ 1 * 2 ^ (971 : ℤ) := by rwa [one_mul]
    _ ≤ maxValue := mul_le_mul_of_nonneg_right (by norm_num) (zpow_pos_two 971).le

/-- The error of rounding a number of common size. -/
theorem IsNearest.exists_near {y : Float} (h : IsNearest q y) (hq : 0 ≤ q) (hmax : q ≤ 2 ^ 60) :
    ∃ v, valueOf? y = some v ∧ |q - v| ≤ q / 2 ^ 53 + 1 / 2 ^ 70 := by
  obtain ⟨v, hv, herr⟩ := h.exists_error hq (le_maxValue hmax)
  refine ⟨v, hv, herr.trans (add_le_add_right ?_ _)⟩
  rw [one_div, ← zpow_natCast, ← zpow_neg]
  exact zpow_le_zpow_right₀ (by norm_num) (by norm_num)

theorem HasFields.even_bits {x : Float} {s : Sign} {e f : ℕ} (h : HasFields x s e f) :
    Even x.toBits.toNat ↔ Even f := by
  have heven (j : ℕ) (hj : j ≠ 0) (a : ℕ) : Even (a * 2 ^ j) :=
    (Nat.even_pow.2 ⟨even_two, hj⟩).mul_left a
  rw [h.toNat_bits, Nat.even_add]
  exact iff_true_left ((heven 63 (by decide) _).add (heven 52 (by decide) _))

/-- The negative of the nearest double is nearest to the negative. -/
theorem IsNearest.neg {y : Float} (h : IsNearest q y) : IsNearest (-q) (-y) := by
  obtain ⟨v, hy, hv⟩ := h
  refine ⟨-v, valueOf?_neg hy, fun z u hz => ?_⟩
  have hdist (a : ℚ) : |(-q) - -a| = |q - a| := by rw [← abs_neg]; congr 1; ring
  have hback : |(-q) - u| = |q - -u| := by rw [← abs_neg]; congr 1; ring
  have hneg := hv (-z) (-u) (valueOf?_neg hz)
  rw [hdist, hback]
  refine hneg.imp_right (Or.imp (fun h => by rw [← h, neg_neg]) fun h => ⟨h.1, ?_⟩)
  obtain ⟨b, hb, -⟩ := exists_of_valueOf? hy
  obtain ⟨s, e, f, he, hfields, -⟩ := exists_fields_of_ofFloat? hb
  rw [(hfields.neg he).even_bits, ← hfields.even_bits]
  exact h.2

/-- What has the value itself is nearest to it. -/
theorem IsNearest.value_eq {x y : Float} {v : ℚ} (h : IsNearest v y) (hx : valueOf? x = some v) :
    valueOf? y = some v := by
  obtain ⟨u, hy, hu⟩ := h
  rcases hu x v hx with hlt | heq | ⟨heq, -⟩
  · rw [sub_self, abs_zero] at hlt
    exact absurd hlt (not_lt.2 (abs_nonneg _))
  · rwa [heq]
  · rw [sub_self, abs_zero, abs_eq_zero, sub_eq_zero] at heq
    rwa [heq]

end Binary

end Worksheet
