import Mathlib
import Worksheet.Calendar.Date

/-!
# Dates and their ordinals

The years 1 to 9999 are counted day by day: the ordinal of a date that exists lies between those of
the last days of the years around it, every ordinal up to the last is that of a date that exists
(`ofOrdinal_isValid`), and a date is told by its ordinal (`ofOrdinal_ordinal`).
-/

namespace Worksheet

namespace Date

/-! ## Years -/

/-- The days of `y` years, against their mean of 146097 / 400. -/
theorem daysBeforeYear_bounds (y : Nat) :
    400 * daysBeforeYear (y + 1) ≤ 146097 * y + 396 ∧
      146097 * y ≤ 400 * daysBeforeYear (y + 1) + 699 := by
  have h4 : 4 * (y / 4) ≤ y ∧ y ≤ 4 * (y / 4) + 3 := by omega
  have h100 : 100 * (y / 100) ≤ y ∧ y ≤ 100 * (y / 100) + 99 := by omega
  have h400 : 400 * (y / 400) ≤ y ∧ y ≤ 400 * (y / 400) + 399 := by omega
  simp only [daysBeforeYear, Nat.add_sub_cancel]
  generalize y / 4 = a, y / 100 = b, y / 400 = c at *
  omega

theorem daysBeforeYear_succ {y : Nat} (hy : 1 ≤ y) :
    daysBeforeYear (y + 1) = daysBeforeYear y + if isLeap y then 366 else 365 := by
  obtain ⟨k, rfl⟩ := Nat.exists_eq_add_of_le' hy
  have h4 : (k + 1) / 4 = k / 4 + if (k + 1) % 4 = 0 then 1 else 0 := by split <;> omega
  have h100 : (k + 1) / 100 = k / 100 + if (k + 1) % 100 = 0 then 1 else 0 := by split <;> omega
  have h400 : (k + 1) / 400 = k / 400 + if (k + 1) % 400 = 0 then 1 else 0 := by split <;> omega
  have hle : k / 100 ≤ k / 4 := by omega
  have h : (k + 1) % 100 = 0 → (k + 1) % 4 = 0 := by omega
  have h' : (k + 1) % 400 = 0 → (k + 1) % 100 = 0 := by omega
  simp only [daysBeforeYear, isLeap, Nat.add_sub_cancel, h4, h100, h400, Bool.and_eq_true,
    Bool.or_eq_true, beq_iff_eq, bne_iff_ne, ne_eq]
  clear h4 h100 h400
  generalize k / 4 = a, k / 100 = b, k / 400 = c at *
  generalize (k + 1) % 4 = p, (k + 1) % 100 = q, (k + 1) % 400 = r at *
  by_cases hp : p = 0 <;> by_cases hq : q = 0 <;> by_cases hr : r = 0 <;>
    simp [hp, hq, hr] at * <;> omega

theorem daysBeforeYear_mono {y z : Nat} (h : y ≤ z) : daysBeforeYear y ≤ daysBeforeYear z := by
  have h4 : (y - 1) / 4 ≤ (z - 1) / 4 := Nat.div_le_div_right (Nat.sub_le_sub_right h 1)
  have h400 : (y - 1) / 400 ≤ (z - 1) / 400 := Nat.div_le_div_right (Nat.sub_le_sub_right h 1)
  have hd : (z - 1) / 100 ≤ (y - 1) / 100 + (z - y) := by omega
  simp only [daysBeforeYear]
  omega

/-- The estimate from the mean length of a year is put right. -/
theorem yearOfOrdinal_bounds {n : Nat} (hn : 1 ≤ n) : 1 ≤ yearOfOrdinal n ∧
    daysBeforeYear (yearOfOrdinal n) < n ∧ n ≤ daysBeforeYear (yearOfOrdinal n + 1) := by
  unfold yearOfOrdinal
  dsimp only
  have hy : 146097 * ((n - 1) * 400 / 146097) ≤ (n - 1) * 400 ∧
      (n - 1) * 400 < 146097 * ((n - 1) * 400 / 146097) + 146097 := by omega
  generalize (n - 1) * 400 / 146097 = y at *
  split
  · next h =>
    have hb : 146097 * (y + 2) ≤ 400 * daysBeforeYear (y + 1 + 1 + 1) + 699 :=
      (daysBeforeYear_bounds (y + 2)).2
    exact ⟨by omega, h, by omega⟩
  split
  · next h h' => exact ⟨by omega, h', by omega⟩
  · next h h' =>
    cases y with
    | zero =>
      rw [Nat.zero_add, show daysBeforeYear 1 = 0 from rfl] at h'
      omega
    | succ y =>
      have hb := (daysBeforeYear_bounds y).1
      exact ⟨by omega, by rw [Nat.add_sub_cancel]; omega, by simpa using h'⟩

theorem yearOfOrdinal_eq {n y : Nat} (h : daysBeforeYear y < n) (h' : n ≤ daysBeforeYear (y + 1)) :
    yearOfOrdinal n = y := by
  obtain ⟨-, hlt, hle⟩ := yearOfOrdinal_bounds (n := n) (by omega)
  rcases Nat.lt_trichotomy (yearOfOrdinal n) y with hy | hy | hy
  · have := daysBeforeYear_mono (show yearOfOrdinal n + 1 ≤ y by omega)
    omega
  · exact hy
  · have := daysBeforeYear_mono (show y + 1 ≤ yearOfOrdinal n by omega)
    omega

/-! ## Months -/

variable {year : Nat}

theorem daysBeforeMonth_succ (year : Nat) {m : Nat} (hm : 1 ≤ m) :
    daysBeforeMonth year (m + 1) = daysBeforeMonth year m + daysInMonth year m := by
  obtain ⟨k, rfl⟩ := Nat.exists_eq_add_of_le' hm
  rfl

theorem daysBeforeMonth_thirteen :
    daysBeforeMonth year 13 = if isLeap year then 366 else 365 := by
  cases h : isLeap year <;> simp [daysBeforeMonth, daysInMonth, h]

theorem daysBeforeMonth_mono (year : Nat) {m k : Nat} (hm : 1 ≤ m) (h : m ≤ k) :
    daysBeforeMonth year m ≤ daysBeforeMonth year k := by
  induction h with
  | refl => exact Nat.le_refl _
  | step h ih =>
    rw [Nat.succ_eq_add_one, daysBeforeMonth_succ year (Nat.le_trans hm h)]
    omega

theorem monthDay_spec (year : Nat) {n m k : Nat} (hm : 1 ≤ m)
    (hn : daysBeforeMonth year m + n < daysBeforeMonth year (m + k + 1)) :
    m ≤ (monthDay year n k m).1 ∧ (monthDay year n k m).1 ≤ m + k ∧
      1 ≤ (monthDay year n k m).2 ∧
        (monthDay year n k m).2 ≤ daysInMonth year (monthDay year n k m).1 ∧
          daysBeforeMonth year (monthDay year n k m).1 + (monthDay year n k m).2 =
            daysBeforeMonth year m + n + 1 := by
  induction k generalizing n m with
  | zero =>
    rw [Nat.add_zero, daysBeforeMonth_succ year hm] at hn
    simp only [monthDay]
    omega
  | succ k ih =>
    rw [monthDay]
    split
    · dsimp only
      omega
    · next h =>
      have hs := daysBeforeMonth_succ year hm
      have := ih (n := n - daysInMonth year m) (m := m + 1) (by omega)
        (by rw [show m + 1 + k + 1 = m + (k + 1) + 1 by omega]; omega)
      omega

/-! ## Dates that exist -/

theorem isValid_iff {d : Date} : d.isValid = true ↔ 1 ≤ d.year ∧ d.year ≤ maxYear ∧ 1 ≤ d.month ∧
    d.month ≤ 12 ∧ 1 ≤ d.day ∧ d.day ≤ daysInMonth d.year d.month := by
  simp only [isValid, Bool.and_eq_true, decide_eq_true_eq, and_assoc]

/-- A date lies in its year. -/
theorem ordinal_bounds {d : Date} (h : d.isValid = true) :
    daysBeforeYear d.year < d.ordinal ∧ d.ordinal ≤ daysBeforeYear (d.year + 1) := by
  obtain ⟨hy, -, hm, hm', hd, hd'⟩ := isValid_iff.1 h
  have hmono := daysBeforeMonth_mono d.year (m := d.month + 1) (k := 13) (by omega)
    (by omega)
  rw [daysBeforeMonth_thirteen, daysBeforeMonth_succ d.year hm] at hmono
  rw [daysBeforeYear_succ hy, ordinal]
  omega

theorem ordinal_le {d : Date} (h : d.isValid = true) : d.ordinal ≤ maxOrdinal := by
  have hy : d.year + 1 ≤ maxYear + 1 := Nat.succ_le_succ (isValid_iff.1 h).2.1
  exact Nat.le_trans (ordinal_bounds h).2 (daysBeforeYear_mono hy)

theorem one_le_ordinal {d : Date} (h : d.isValid = true) : 1 ≤ d.ordinal :=
  Nat.le_trans (Nat.succ_le_succ (Nat.zero_le _)) (ordinal_bounds h).1

/-- Every ordinal up to the last is that of a date that exists. -/
theorem ofOrdinal_isValid {n : Nat} (hn : 1 ≤ n) (hn' : n ≤ maxOrdinal) :
    (ofOrdinal n).isValid = true ∧ (ofOrdinal n).ordinal = n := by
  obtain ⟨hy, hlt, hle⟩ := yearOfOrdinal_bounds hn
  rw [daysBeforeYear_succ hy, ← daysBeforeMonth_thirteen] at hle
  have hzero : daysBeforeMonth (yearOfOrdinal n) 1 = 0 := rfl
  have hs := monthDay_spec (yearOfOrdinal n) (n := n - daysBeforeYear (yearOfOrdinal n) - 1)
    (m := 1) (k := 11) (by omega) (by
      rw [hzero, Nat.zero_add]
      show _ < daysBeforeMonth (yearOfOrdinal n) 13
      omega)
  have hy' : yearOfOrdinal n ≤ maxYear := by
    refine Nat.le_of_not_lt fun h => ?_
    have := daysBeforeYear_mono (show maxYear + 1 ≤ yearOfOrdinal n from h)
    rw [show daysBeforeYear (maxYear + 1) = maxOrdinal from rfl] at this
    omega
  rw [hzero] at hs
  rw [isValid_iff, ofOrdinal]
  dsimp only [ordinal]
  omega

/-- Two dates with one ordinal are one date. -/
theorem eq_of_ordinal_eq {d d' : Date} (h : d.isValid = true) (h' : d'.isValid = true)
    (ho : d.ordinal = d'.ordinal) : d = d' := by
  have hyear : d.year = d'.year := by
    rw [← yearOfOrdinal_eq (ordinal_bounds h).1 (ordinal_bounds h).2, ho,
      yearOfOrdinal_eq (ordinal_bounds h').1 (ordinal_bounds h').2]
  obtain ⟨-, -, hm, -, hd, hdm⟩ := isValid_iff.1 h
  obtain ⟨-, -, hm', -, hd', hdm'⟩ := isValid_iff.1 h'
  obtain ⟨year, month, day⟩ := d
  obtain ⟨_, month', day'⟩ := d'
  cases hyear
  dsimp only [ordinal] at *
  have hs := daysBeforeMonth_succ year hm
  have hs' := daysBeforeMonth_succ year hm'
  rcases Nat.lt_trichotomy month month' with hlt | rfl | hlt
  · have := daysBeforeMonth_mono year (m := month + 1) (by omega) hlt
    omega
  · rw [show day = day' by omega]
  · have := daysBeforeMonth_mono year (m := month' + 1) (by omega) hlt
    omega

theorem ofOrdinal_ordinal {d : Date} (h : d.isValid = true) : ofOrdinal d.ordinal = d := by
  obtain ⟨hv, ho⟩ := ofOrdinal_isValid (one_le_ordinal h) (ordinal_le h)
  exact eq_of_ordinal_eq hv h ho

end Date

end Worksheet
