import Worksheet.Proofs.Nearest

/-!
# Quotients of doubles

**Theorem (`isNearest_div`).** The quotient of two positive doubles is the double nearest to the
quotient of their values, as long as that is at most the largest double.

The machine computes more bits of a quotient than it keeps. Two bits behind them tell where the exact
quotient lies between a whole number and the next (`Describes`), and this stays true when a mantissa
is shifted. What is rounded by the two bits is the nearest whole number.
-/

namespace Worksheet

namespace Binary

open Float.Model UnpackedFloat

variable {em : ExtendedMantissa} {a q : ℚ} {k : ℤ} {m : ℕ}

/-! ## Round and sticky bits -/

/-- The number `a` lies between the mantissa and the next whole number. The round bit tells whether
it has come half way, the sticky bit whether it lies on neither end of its half. -/
structure Describes (em : ExtendedMantissa) (a : ℚ) : Prop where
  low : em.mantissa ≤ a
  high : a < em.mantissa + 1
  roundBit : em.roundBit = true ↔ em.mantissa + 1 / 2 ≤ a
  stickyBit : em.stickyBit = true ↔ a ≠ em.mantissa ∧ a ≠ em.mantissa + 1 / 2

namespace Describes

theorem shiftRightOne (h : Describes em a) : Describes em.shiftRightOne (a / 2) := by
  obtain ⟨mantissa, round, sticky⟩ := em
  obtain ⟨hlow, hhigh, hround, hsticky⟩ := h
  dsimp only at hlow hhigh hround hsticky
  -- Behind the new mantissa stands its last bit, and behind that the old round bit.
  have hor : (round || sticky) = true ↔ a ≠ mantissa := by
    rw [Bool.or_eq_true, hround, hsticky]
    constructor
    · rintro (h | h)
      · linarith
      · exact h.1
    · intro hne
      by_cases hhalf : a = mantissa + 1 / 2
      · exact .inl hhalf.ge
      · exact .inr ⟨hne, hhalf⟩
  have hsplit : (mantissa : ℚ) = 2 * (mantissa / 2 : ℕ) + (mantissa % 2 : ℕ) := by
    exact_mod_cast (Nat.div_add_mod mantissa 2).symm
  rcases Nat.mod_two_eq_zero_or_one mantissa with hbit | hbit <;>
    rw [hbit] at hsplit <;> push_cast at hsplit
  · refine ⟨?_, ?_, ?_, ?_⟩ <;> simp only [ExtendedMantissa.shiftRightOne, hbit]
    · linarith
    · linarith
    · simp only [bne_self_eq_false, Bool.false_eq_true, false_iff, not_le]
      linarith
    · rw [hor]
      constructor
      · intro hne
        exact ⟨fun h => hne (by linarith), by linarith⟩
      · rintro ⟨hne, -⟩ h
        exact hne (by linarith)
  · refine ⟨?_, ?_, ?_, ?_⟩ <;> simp only [ExtendedMantissa.shiftRightOne, hbit]
    · linarith
    · linarith
    · simp only [show (1 != 0) = true from rfl, true_iff]
      linarith
    · rw [hor]
      constructor
      · intro hne
        exact ⟨by linarith, fun h => hne (by linarith)⟩
      · rintro ⟨-, hne⟩ h
        exact hne (by linarith)

theorem shiftRight (h : Describes em a) (n : ℕ) : Describes (em >>> n) (a / 2 ^ n) := by
  induction n with
  | zero =>
    rw [pow_zero, div_one]
    exact h
  | succ n ih =>
    rw [pow_succ, ← div_div]
    exact ih.shiftRightOne

/-- The bits decide how to round. -/
theorem roundsTo (h : Describes em a) : RoundsTo a em.roundedMantissa := by
  obtain ⟨mantissa, round, sticky⟩ := em
  obtain ⟨hlow, hhigh, hround, hsticky⟩ := h
  dsimp only at hlow hhigh hround hsticky
  have hnear {n : ℕ} (hlow : (n : ℚ) - 1 / 2 < a) (hhigh : a < n + 1 / 2) : RoundsTo a n := by
    have hlt : |a - n| < 1 / 2 := abs_lt.2 ⟨by linarith, by linarith⟩
    exact ⟨hlt.le, fun he => absurd he hlt.ne⟩
  cases round with
  | false =>
    -- Below half way the mantissa stays, whether the number is exact or not.
    have hbelow : a < mantissa + 1 / 2 := not_le.1 (hround.not.1 Bool.false_ne_true)
    cases sticky <;> exact hnear (n := mantissa) (by linarith) hbelow
  | true =>
    have hreached : mantissa + 1 / 2 ≤ a := hround.1 rfl
    cases sticky with
    | false =>
      have hhalf : a = mantissa + 1 / 2 := by
        by_contra hne
        exact Bool.false_ne_true (hsticky.2 ⟨by linarith, hne⟩)
      show RoundsTo a (mantissa + mantissa % 2)
      rcases Nat.mod_two_eq_zero_or_one mantissa with hbit | hbit <;> rw [hbit]
      · refine ⟨?_, fun _ => Nat.even_iff.2 hbit⟩
        rw [hhalf, Nat.add_zero, add_sub_cancel_left, abs_of_pos (by norm_num)]
      · refine ⟨?_, fun _ => Nat.even_iff.2 (by omega)⟩
        rw [hhalf]
        push_cast
        rw [add_sub_add_left_eq_sub, abs_of_neg (by norm_num)]
        norm_num
    | true =>
      have hne := (hsticky.1 rfl).2
      have habove : mantissa + 1 / 2 < a := hreached.lt_of_ne' hne
      refine hnear (n := mantissa + 1) ?_ ?_ <;> push_cast <;> linarith

end Describes

theorem describes_add {f : ℚ} {round sticky : Bool} (hlow : 0 ≤ f) (hhigh : f < 1)
    (hround : round = true ↔ 1 / 2 ≤ f) (hsticky : sticky = true ↔ f ≠ 0 ∧ f ≠ 1 / 2) :
    Describes ⟨m, round, sticky⟩ (m + f) where
  low := le_add_of_nonneg_right hlow
  high := (add_lt_add_iff_left _).2 hhigh
  roundBit := hround.trans (add_le_add_iff_left _).symm
  stickyBit := hsticky.trans (and_congr (by simp) (by simp))

/-- The remainder of a division is told by the two bits. -/
theorem describes_quotient (num : ℕ) {den : ℕ} (h : 0 < den) :
    Describes (.ofMantissaAndAccuracy (num / den) (accuracyOfFraction (num % den) den))
      (num / den : ℚ) := by
  have hden : (0 : ℚ) < den := Nat.cast_pos.2 h
  have hsplit : (num / den : ℚ) = (num / den : ℕ) + (num % den : ℕ) / den := by
    have hnum : (num : ℚ) = den * (num / den : ℕ) + (num % den : ℕ) := by
      exact_mod_cast (Nat.div_add_mod num den).symm
    rw [div_eq_iff hden.ne', add_mul, div_mul_cancel₀ _ hden.ne', mul_comm _ (den : ℚ)]
    exact hnum
  have hlt : ((num % den : ℕ) / den : ℚ) < 1 := by
    rw [div_lt_one hden]
    exact_mod_cast Nat.mod_lt num h
  rw [hsplit]
  unfold accuracyOfFraction
  generalize num % den = r at hlt ⊢
  split
  · next hr =>
    rw [hr, Nat.cast_zero, zero_div]
    exact describes_add le_rfl one_pos (by norm_num) (by norm_num)
  · next hr =>
    have hpos : (0 : ℚ) < r / den := div_pos (Nat.cast_pos.2 (Nat.pos_of_ne_zero hr)) hden
    have hhalf : (r / den : ℚ) = 2 * r / den / 2 := by ring
    rcases lt_trichotomy (2 * r) den with hcmp | hcmp | hcmp
    · have hbelow : (r / den : ℚ) < 1 / 2 := by
        have : (2 * r / den : ℚ) < 1 := (div_lt_one hden).2 (by exact_mod_cast hcmp)
        linarith
      rw [compare_lt_iff_lt.2 hcmp]
      exact describes_add hpos.le hlt (iff_of_false Bool.false_ne_true (not_le.2 hbelow))
        (iff_of_true rfl ⟨hpos.ne', hbelow.ne⟩)
    · have hequal : (r / den : ℚ) = 1 / 2 := by
        have : (2 * r / den : ℚ) = 1 := (div_eq_one_iff_eq hden.ne').2 (by exact_mod_cast hcmp)
        linarith
      rw [compare_eq_iff_eq.2 hcmp, hequal]
      exact describes_add (by norm_num) (by norm_num) (iff_of_true rfl le_rfl)
        (iff_of_false Bool.false_ne_true fun h => h.2 rfl)
    · have habove : 1 / 2 < (r / den : ℚ) := by
        have : 1 < (2 * r / den : ℚ) := (one_lt_div hden).2 (by exact_mod_cast hcmp)
        linarith
      rw [compare_gt_iff_gt.2 hcmp]
      exact describes_add hpos.le hlt (iff_of_true rfl habove.le)
        (iff_of_true rfl ⟨hpos.ne', habove.ne'⟩)

/-! ## Rounding -/

theorem targetExponent_eq (t : ℤ) : Format.binary64.targetExponent t = max (t - 53) (-1074) := rfl

/-- The exponent at which a mantissa is rounded. -/
theorem shiftToTargetExponent_eq (m : ℕ) (e : ℤ) (acc : Accuracy) :
    shiftToTargetExponent Format.binary64 m e acc =
      (ExtendedMantissa.ofMantissaAndAccuracy m acc >>>
        (max (m.log2 + e - 52) (-1074) - e).toNat,
        e + (max (m.log2 + e - 52) (-1074) - e).toNat) := by
  have h : Format.binary64.targetExponent (totalExponent m e) = max (m.log2 + e - 52) (-1074) := by
    rw [targetExponent_eq, totalExponent]
    congr 1
    ring
  rw [shiftToTargetExponent, h]
  rfl

theorem mantissa_ofMantissaAndAccuracy (m : ℕ) (acc : Accuracy) :
    (ExtendedMantissa.ofMantissaAndAccuracy m acc).mantissa = m := by
  unfold ExtendedMantissa.ofMantissaAndAccuracy
  split <;> rfl

theorem finite_congr {s : Sign} {m m' : ℕ} {e e' : ℤ} (h : 0 < m) (hm : m = m') (he : e = e') :
    UnpackedFloat.finite s m e h = .finite s m' e' (hm ▸ h) := by
  subst hm he
  rfl

/-- A mantissa and its exponent. -/
def ofMantissa (s : Sign) (m : ℕ) (k : ℤ) : UnpackedFloat :=
  if h : m = 0 then .zero s else .finite s m k (Nat.pos_of_ne_zero h)

/-- The exponent and a mantissa of 53 bits, or fewer at the least exponent, make up the bits. -/
theorem ofMantissa_eq {s : Sign} (hk : -1074 ≤ k) (hm : m < 2 ^ 53)
    (hlow : k = -1074 ∨ 2 ^ 52 ≤ m) {w : ℕ} (hbits : (k + 1074).toNat * 2 ^ 52 + m = w)
    (hw : w < infinityBits) :
    ofMantissa s m k = UnpackedFloat.unpack Format.binary64
      (packed s (w / 2 ^ 52) (w % 2 ^ 52)) := by
  rw [infinityBits, Nat.pow_eq] at hw
  unfold ofMantissa
  rcases Nat.lt_or_ge m (2 ^ 52) with hsub | hnormal
  · obtain rfl : k = -1074 := hlow.resolve_right (by omega)
    rw [show w / 2 ^ 52 = 0 by omega, show w % 2 ^ 52 = m by omega]
    split
    · next hzero => rw [hzero, unpack_packed_zero]
    · next hne => exact (unpack_packed_subnormal hsub (Nat.pos_of_ne_zero hne)).symm
  · rw [dif_neg (by omega), unpack_packed (by omega) (by omega) (Nat.mod_lt _ (by decide))]
    exact finite_congr _ (by omega) (by omega)

/-- What is rounded may have a bit more, and then it is shifted again. -/
theorem roundWithAccuracy_ofMantissa {s : Sign} {e : ℤ} {acc : Accuracy} {em : ExtendedMantissa}
    {n : ℕ} (hshift : shiftToTargetExponent Format.binary64 m e acc = (em, k))
    (hn : (max (em.roundedMantissa.log2 + k - 52) (-1074) - k).toNat = n) :
    roundWithAccuracy Format.binary64 s m e acc =
      ofMantissa s (ExtendedMantissa.ofMantissaAndAccuracy em.roundedMantissa .exact >>> n).mantissa
        (k + n) := by
  rw [roundWithAccuracy, hshift]
  dsimp only
  rw [shiftToTargetExponent_eq, ofMantissa]
  dsimp only
  rw [hn]

theorem log2_le_of_lt (h : m < 2 ^ 53) : m.log2 ≤ 52 := by
  rcases Nat.eq_zero_or_pos m with rfl | hpos
  · decide
  · exact Nat.le_of_lt_succ ((Nat.log2_lt hpos.ne').2 h)

/-- The exponent and the rounded mantissa make up the bits. -/
theorem roundWithAccuracy_eq {s : Sign} {e : ℤ} {acc : Accuracy} {em : ExtendedMantissa}
    (hshift : shiftToTargetExponent Format.binary64 m e acc = (em, k)) (hk : -1074 ≤ k)
    (hm : em.roundedMantissa ≤ 2 ^ 53) (hlow : k = -1074 ∨ 2 ^ 52 ≤ em.roundedMantissa) {w : ℕ}
    (hbits : (k + 1074).toNat * 2 ^ 52 + em.roundedMantissa = w) (hw : w < infinityBits) :
    roundWithAccuracy Format.binary64 s m e acc = UnpackedFloat.unpack Format.binary64
      (packed s (w / 2 ^ 52) (w % 2 ^ 52)) := by
  rcases hm.lt_or_eq with hlt | heq
  · have hnone : (max (em.roundedMantissa.log2 + k - 52) (-1074) - k).toNat = 0 := by
      have := log2_le_of_lt hlt
      omega
    rw [roundWithAccuracy_ofMantissa hshift hnone, Nat.cast_zero, add_zero]
    exact ofMantissa_eq hk hlt hlow hbits hw
  · have hone : (max (em.roundedMantissa.log2 + k - 52) (-1074) - k).toNat = 1 := by
      rw [heq, Nat.log2_two_pow]
      omega
    have hshifted : (ExtendedMantissa.ofMantissaAndAccuracy em.roundedMantissa .exact >>>
        1).mantissa = em.roundedMantissa / 2 := rfl
    rw [roundWithAccuracy_ofMantissa hshift hone, hshifted]
    have hcarry : (k + (1 : ℕ) + 1074).toNat = (k + 1074).toNat + 1 := by omega
    have hhalf : em.roundedMantissa / 2 = 2 ^ 52 := by rw [heq]; norm_num
    refine ofMantissa_eq (by omega) (by omega) (.inr hhalf.ge) ?_ hw
    rw [hcarry, hhalf, ← hbits, heq]
    ring

/-! ## Quotients -/

/-- The exponent at which the quotient is computed has at least the bits that are kept, and the one
at which it is rounded is that of the quotient. -/
theorem hasExponent_quotient {t : ℤ} {n : ℕ} (hn : q / 2 ^ t < n + 1)
    (hge : n ≤ q / 2 ^ t) {top : ℤ} (htop : 2 ^ (top + 52) ≤ q) (ht : t ≤ max top (-1074)) :
    HasExponent q (t + (max (n.log2 + t - 52) (-1074) - t).toNat) := by
  have hpow := zpow_pos_two t
  have hhigh : q < 2 ^ ((n.log2 : ℤ) + 1 + t) := by
    have hlt : (n + 1 : ℚ) ≤ 2 ^ (n.log2 + 1) := by exact_mod_cast @Nat.lt_log2_self n
    have hq := (div_lt_iff₀ hpow).1 (hn.trans_le hlt)
    rw [zpow_add_two] at hq
    exact_mod_cast hq
  refine ⟨by omega, ?_, ?_⟩
  · rcases le_or_gt (max (n.log2 + t - 52) (-1074)) t with hle | hlt
    · -- No bits too many were computed, so the exponent is one that is small enough.
      rw [Int.toNat_of_nonpos (by omega), Nat.cast_zero, add_zero]
      rcases le_or_gt top (-1074) with h | h
      · exact .inl (by omega)
      · right
        rw [zpow_add_two 52]
        exact (zpow_le_zpow_right₀ (by norm_num) (by omega)).trans htop
    · rw [Int.toNat_of_nonneg (by omega), add_sub_cancel]
      rcases max_choice ((n.log2 : ℤ) + t - 52) (-1074) with h | h
      · right
        have hne : n ≠ 0 := by
          rintro rfl
          rw [show Nat.log2 0 = 0 by decide] at h hlt
          omega
        have hlow : (2 ^ n.log2 : ℚ) ≤ n := by exact_mod_cast Nat.log2_self_le hne
        have hq := (le_div_iff₀ hpow).1 (hlow.trans hge)
        rw [zpow_add_two] at hq
        rw [h, zpow_add_two 52]
        refine (le_of_eq ?_).trans hq
        congr 1
        push_cast
        ring
      · exact .inl h
  · rw [zpow_add_two 53]
    refine hhigh.trans_le (zpow_le_zpow_right₀ (by norm_num) ?_)
    push_cast
    omega

/-- The unpacked double is `q` with the sign, rounded at its exponent. -/
def IsRounded (s : Sign) (q : ℚ) (u : UnpackedFloat) : Prop :=
  ∃ k r, HasExponent q k ∧ RoundsTo (q / 2 ^ k) r ∧ u = UnpackedFloat.unpack Format.binary64
    (packed s (((k + 1074).toNat * 2 ^ 52 + r) / 2 ^ 52) (((k + 1074).toNat * 2 ^ 52 + r) % 2 ^ 52))

/-- What describes a number is rounded at its exponent. -/
theorem Describes.isRounded {s : Sign} {t top : ℤ} {n : ℕ} {acc : Accuracy}
    (h : Describes (.ofMantissaAndAccuracy n acc) (q / 2 ^ t)) (htop : 2 ^ (top + 52) ≤ q)
    (ht : t ≤ max top (-1074)) (hmax : q ≤ maxValue) :
    IsRounded s q (roundWithAccuracy Format.binary64 s n t acc) := by
  have hfloor := h.low
  have hceil := h.high
  rw [mantissa_ofMantissaAndAccuracy] at hfloor hceil
  have hk := hasExponent_quotient hceil hfloor htop ht
  have hshift := shiftToTargetExponent_eq n t acc
  have hround := (h.shiftRight (max (n.log2 + t - 52) (-1074) - t).toNat).roundsTo
  rw [div_div, mul_comm, zpow_add_two, add_comm] at hround
  exact ⟨_, _, hk, hround, roundWithAccuracy_eq hshift hk.ge (hk.rounded_le hround)
    (hk.rounded_ge hround) rfl (bits_lt_infinityBits hk hround hmax)⟩

/-- What is rounded and packed is the nearest double. -/
theorem IsRounded.isNearest {u : UnpackedFloat} {z : Float} (h : IsRounded .positive q u)
    (hmax : q ≤ maxValue) (hz : z.toBits.toBitVec = u.pack Format.binary64) : IsNearest q z := by
  obtain ⟨k, r, hk, hr, rfl⟩ := h
  have hbits : z = Float.ofBits (UInt64.ofNat ((k + 1074).toNat * 2 ^ 52 + r)) := by
    apply float_ext
    rw [hz, ← toBitVec_ofNat (bits_lt_infinityBits hk hr hmax)]
    rfl
  rw [hbits]
  exact isNearest_ofBits hk hr hmax

/-- A positive value is a mantissa and an exponent. -/
theorem exists_finite {x : Float} (hx : valueOf? x = some a) (ha : 0 < a) :
    ∃ m e h, x.toModel.unpack = .finite .positive m e h ∧ a = m * 2 ^ e := by
  unfold valueOf? at hx
  split at hx
  · cases hx
    exact absurd ha (lt_irrefl _)
  · next s m e h hfinite =>
    cases s with
    | positive => exact ⟨m, e, h, hfinite, (Option.some.inj hx).symm⟩
    | negative =>
      have hnonneg : (0 : ℚ) ≤ m * 2 ^ e := mul_nonneg (Nat.cast_nonneg _) (zpow_pos_two e).le
      rw [← Option.some.inj hx, Sign.apply] at ha
      push_cast at ha
      linarith
  · cases hx
  · cases hx

theorem quotient_eq (m n : ℕ) (e f : ℤ) :
    (m * 2 ^ e / (n * 2 ^ f) : ℚ) = m / n * 2 ^ (e - f) := by
  rw [zpow_sub₀ two_ne_zero]
  ring

/-- The machine computes a quotient with at least one bit more than it keeps. -/
theorem divCore_spec {m₁ m₂ : ℕ} (e₁ e₂ : ℤ) (h₁ : 0 < m₁) (h₂ : 0 < m₂) :
    ∃ n t acc top, divCore Format.binary64 m₁ e₁ m₂ e₂ = (n, t, acc) ∧
      Describes (.ofMantissaAndAccuracy n acc) (m₁ / m₂ * 2 ^ (e₁ - e₂) / 2 ^ t) ∧
      (2 ^ (top + 52) : ℚ) < m₁ / m₂ * 2 ^ (e₁ - e₂) ∧ t ≤ max top (-1074) := by
  rw [divCore, targetExponent_eq]
  generalize ht : min (e₁ - e₂) _ = t
  generalize hn : m₁ <<< _ = n
  refine ⟨_, _, _, totalExponent m₁ e₁ - totalExponent m₂ e₂ - 53, rfl, ?_, ?_,
    ht ▸ min_le_right _ _⟩
  · have hscaled : (n / m₂ : ℚ) = m₁ / m₂ * 2 ^ (e₁ - e₂) / 2 ^ t := by
      have hle : t ≤ e₁ - e₂ := ht ▸ min_le_left _ _
      rw [← hn, eq_div_iff (zpow_pos_two t).ne', Nat.shiftLeft_eq, Nat.cast_mul, Nat.cast_pow,
        Nat.cast_two, mul_div_right_comm, mul_assoc, zpow_add_two]
      congr 2
      omega
    rw [← hscaled]
    exact describes_quotient n h₂
  · refine (le_of_eq ?_).trans_lt
      (mul_lt_mul_of_pos_right (quotient_bounds h₁ h₂).1 (zpow_pos_two _))
    rw [← zpow_add₀ two_ne_zero]
    congr 1
    rw [totalExponent, totalExponent]
    ring

theorem div_finite {m₁ m₂ : ℕ} {e₁ e₂ : ℤ} {s₁ s₂ : Sign} (h₁ : 0 < m₁) (h₂ : 0 < m₂) :
    div Format.binary64 (.finite s₁ m₁ e₁ h₁) (.finite s₂ m₂ e₂ h₂) =
      roundWithAccuracy Format.binary64 (s₁ / s₂) (divCore Format.binary64 m₁ e₁ m₂ e₂).1
        (divCore Format.binary64 m₁ e₁ m₂ e₂).2.1 (divCore Format.binary64 m₁ e₁ m₂ e₂).2.2 := rfl

/-- **Theorem.** The quotient of two positive doubles is the double nearest to the quotient of their
values. -/
theorem isNearest_div {x y : Float} {b : ℚ} (hx : valueOf? x = some a) (hy : valueOf? y = some b)
    (ha : 0 < a) (hb : 0 < b) (hmax : a / b ≤ maxValue) : IsNearest (a / b) (x / y) := by
  obtain ⟨m₁, e₁, h₁, hx₁, rfl⟩ := exists_finite hx ha
  obtain ⟨m₂, e₂, h₂, hy₂, rfl⟩ := exists_finite hy hb
  rw [quotient_eq] at hmax ⊢
  obtain ⟨n, t, acc, top, hcore, hdescribes, htop, ht⟩ := divCore_spec e₁ e₂ h₁ h₂
  refine (hdescribes.isRounded htop.le ht hmax).isNearest hmax ?_
  show (x.toModel.unpack.div Format.binary64 y.toModel.unpack).pack Format.binary64 = _
  rw [hx₁, hy₂, div_finite, hcore]
  rfl

end Binary

end Worksheet
