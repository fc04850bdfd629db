import Worksheet.Proofs.Nearest

/-!
# Numbers beyond all doubles

**Theorem (`Binary.nearestBits_eq_infinityBits`).** A number is rounded to infinity from halfway
between the largest double and the next power of two on.

The largest double has an odd mantissa, so the halfway point itself goes to infinity, as half a unit
goes to the even side.
-/

namespace Worksheet

namespace Binary

variable {n : ℕ} {k : ℤ} {m : ℕ} {q : ℚ}

/-- What is halfway between the largest double and the next power of two. -/
def overflow : ℚ := (2 ^ 53 - 1 / 2) * 2 ^ (971 : ℤ)

/-- Below the halfway point the bits are those of a double. -/
theorem bits_lt_of_lt_overflow (hk : HasExponent q k) (hm : RoundsTo (q / 2 ^ k) m)
    (hq : q < overflow) : (k + 1074).toNat * 2 ^ 52 + m < infinityBits := by
  have htop := zpow_pos_two 971
  have hge := hk.ge
  have hm53 := hk.rounded_le hm
  have hle : k ≤ 971 := by
    by_contra hlt
    have hlow : 2 ^ 52 * 2 ^ k ≤ q := hk.low.resolve_left (by omega)
    have hpow : (2 : ℚ) ^ (971 + 1 : ℤ) ≤ 2 ^ k := zpow_le_zpow_right₀ (by norm_num) (by omega)
    rw [zpow_add_one₀ two_ne_zero] at hpow
    rw [overflow] at hq
    generalize (2 : ℚ) ^ (971 : ℤ) = top at hpow htop hq
    linarith
  rw [infinityBits, Nat.pow_eq]
  rcases hle.lt_or_eq with hlt | rfl
  · omega
  · have hquotient : q / 2 ^ (971 : ℤ) < 2 ^ 53 - 1 / 2 := (div_lt_iff₀ htop).2 hq
    have hnear := (abs_le.1 hm.near).1
    have hm : (m : ℚ) < 2 ^ 53 := by linarith
    have : m < 2 ^ 53 := by exact_mod_cast hm
    omega

/-- From the halfway point on the bits reach those of infinity, as the last bit of the largest
double is one. -/
theorem infinityBits_le_bits (hk : HasExponent q k) (hm : RoundsTo (q / 2 ^ k) m)
    (hq : overflow ≤ q) : infinityBits ≤ (k + 1074).toNat * 2 ^ 52 + m := by
  have htop := zpow_pos_two 971
  have hge : 971 ≤ k := by
    by_contra hlt
    have hhigh := hk.high
    have hpow : (2 : ℚ) ^ (k + 1) ≤ 2 ^ (971 : ℤ) := zpow_le_zpow_right₀ (by norm_num) (by omega)
    rw [zpow_add_one₀ two_ne_zero] at hpow
    rw [overflow] at hq
    generalize (2 : ℚ) ^ (971 : ℤ) = top at hpow htop hq
    linarith
  have hm52 := (hk.rounded_ge hm).resolve_left (by omega)
  rw [infinityBits, Nat.pow_eq]
  rcases hge.lt_or_eq with hlt | rfl
  · omega
  · have hquotient : 2 ^ 53 - 1 / 2 ≤ q / 2 ^ (971 : ℤ) := (le_div_iff₀ htop).2 hq
    have hnear := (abs_le.1 hm.near).2
    have hle : 2 ^ 53 - 1 ≤ m := by
      have : (2 ^ 53 - 1 : ℚ) ≤ m := by linarith
      have : (2 ^ 53 : ℚ) ≤ ((m + 1 : ℕ) : ℚ) := by push_cast; linarith
      have : 2 ^ 53 ≤ m + 1 := by exact_mod_cast this
      omega
    have hne : m ≠ 2 ^ 53 - 1 := by
      rintro rfl
      have hcast : ((2 ^ 53 - 1 : ℕ) : ℚ) = 2 ^ 53 - 1 := by norm_num
      rw [hcast] at hnear
      have hhalf : q / 2 ^ (971 : ℤ) - (2 ^ 53 - 1 : ℕ) = 1 / 2 := by rw [hcast]; linarith
      exact absurd (hm.even (by rw [hhalf]; norm_num)) (by decide)
    omega

/-- **Theorem.** The numbers from the halfway point on have no double near them. -/
theorem nearestBits_eq_infinityBits (num : ℕ) {den : ℕ} (hden : 0 < den) :
    nearestBits num den = infinityBits ↔ overflow ≤ (num / den : ℚ) := by
  obtain ⟨k, m, hk, hm, hbits⟩ := nearestBits_spec num hden
  rw [hbits, min_eq_right_iff]
  constructor
  · intro h
    exact not_lt.1 fun hlt => (bits_lt_of_lt_overflow hk hm hlt).not_ge h
  · exact infinityBits_le_bits hk hm

/-- A number below the halfway point is rounded to the double nearest to it. -/
theorem isNearest_nearest_of_lt {num den : ℕ} (hden : 0 < den) (h : (num / den : ℚ) < overflow) :
    IsNearest (num / den) (nearest num den) := by
  obtain ⟨k, m, hk, hm, hbits⟩ := nearestBits_spec num hden
  have hinf := bits_lt_of_lt_overflow hk hm h
  obtain ⟨hvalue, hnat⟩ := valueOf?_ofBits hk.ge (hk.rounded_le hm) (hk.rounded_ge hm) hinf
  rw [nearest, hbits, Nat.min_eq_left hinf.le]
  refine isNearest_of_roundsTo hk hm hvalue fun heven => ?_
  rw [hnat]
  exact ((Nat.even_pow.2 ⟨even_two, by decide⟩).mul_left _).add heven

theorem ofNat?_eq_none_iff : ofNat? n = none ↔ overflow ≤ n := by
  have h := nearestBits_eq_infinityBits n one_pos
  rw [Nat.cast_one, div_one] at h
  rw [ofNat?, ← h]
  split <;> simp_all

theorem ofInt?_eq_none_iff {n : ℤ} : ofInt? n = none ↔ overflow ≤ |(n : ℚ)| := by
  cases n with
  | ofNat n =>
    rw [Int.ofNat_eq_natCast, Int.cast_natCast, abs_of_nonneg (Nat.cast_nonneg n)]
    exact ofNat?_eq_none_iff
  | negSucc n =>
    rw [Int.cast_negSucc, abs_neg, abs_of_nonneg (Nat.cast_nonneg _), ← ofNat?_eq_none_iff, ofInt?,
      Option.map_eq_none_iff]

/-- A whole number below the halfway point is taken to the double nearest to it. -/
theorem isNearest_of_ofNat? {x : Float} (h : ofNat? n = some x) : IsNearest n x := by
  have hlt : (n : ℚ) < overflow := not_le.1 fun hle => by
    rw [ofNat?_eq_none_iff.2 hle] at h
    cases h
  obtain rfl : nearest n 1 = x := by
    rw [ofNat?] at h
    split at h
    · cases h
    · exact Option.some.inj h
  have hnear := isNearest_nearest_of_lt one_pos
    (show (n / (1 : ℕ) : ℚ) < overflow by rwa [Nat.cast_one, div_one])
  rwa [Nat.cast_one, div_one] at hnear

theorem isNearest_of_ofInt? {n : ℤ} {x : Float} (h : ofInt? n = some x) : IsNearest n x := by
  cases n with
  | ofNat n => exact isNearest_of_ofNat? h
  | negSucc n =>
    obtain ⟨y, hy, rfl⟩ := Option.map_eq_some_iff.1 h
    rw [Int.cast_negSucc]
    exact (isNearest_of_ofNat? hy).neg

end Binary

end Worksheet
