import Mathlib
import Worksheet.Text.Class

/-!
# Characters of two classes

Decimal digits of all scripts are neither letters nor blanks, and no blank is a letter. Beyond ASCII
this is a fact about the tables: no run of ten digits meets a range of letters.
-/

namespace Worksheet.Text

/-- The numbers of some ranges as the bits of one number: the kernel compares two of them at once. -/
def rangeBits (ranges : List (Nat × Nat)) : Nat :=
  ranges.foldr (fun r m => (2 ^ (r.2 + 1 - r.1) - 1) <<< r.1 ||| m) 0

theorem testBit_rangeBits {ranges : List (Nat × Nat)} {r : Nat × Nat} {n : Nat} (hr : r ∈ ranges)
    (hlo : r.1 ≤ n) (hhi : n ≤ r.2) : (rangeBits ranges).testBit n = true := by
  induction ranges with
  | nil => exact absurd hr List.not_mem_nil
  | cons r' ranges ih =>
    show ((2 ^ (r'.2 + 1 - r'.1) - 1) <<< r'.1 ||| rangeBits ranges).testBit n = true
    rw [Nat.testBit_or, Nat.testBit_shiftLeft, Nat.testBit_two_pow_sub_one]
    rcases List.mem_cons.1 hr with rfl | hr
    · simp only [ge_iff_le, hlo, decide_true, Bool.true_and, Bool.or_eq_true, decide_eq_true_eq]
      exact .inl (by omega)
    · rw [ih hr, Bool.or_true]

/-- Ranges without a bit in common lie apart. -/
theorem apart_of_rangeBits {ranges others : List (Nat × Nat)}
    (h : rangeBits ranges &&& rangeBits others = 0) {r r' : Nat × Nat} (hr : r ∈ ranges)
    (hr' : r' ∈ others) (hle : r.1 ≤ r.2) (hle' : r'.1 ≤ r'.2) : r.2 < r'.1 ∨ r'.2 < r.1 := by
  by_contra hmeet
  have hbit : (rangeBits ranges &&& rangeBits others).testBit (max r.1 r'.1) = true := by
    rw [Nat.testBit_and, testBit_rangeBits hr (by omega) (by omega),
      testBit_rangeBits hr' (by omega) (by omega), Bool.and_true]
  rw [h, Nat.zero_testBit] at hbit
  exact Bool.false_ne_true hbit

theorem alphabeticRanges_ordered : ∀ r ∈ alphabeticRanges.toList, r.1 ≤ r.2 := by
  decide +kernel

theorem digits_disjoint_letters : ∀ z ∈ decimalZeros.toList, ∀ r ∈ alphabeticRanges.toList,
    z + 9 < r.1 ∨ r.2 < z := by
  have h : rangeBits (decimalZeros.toList.map fun z => (z, z + 9)) &&&
      rangeBits alphabeticRanges.toList = 0 := by decide +kernel
  intro z hz r hr
  exact apart_of_rangeBits h (List.mem_map_of_mem hz) hr (Nat.le_add_right z 9)
    (alphabeticRanges_ordered r hr)

/-- Between two neighbours in this list lie all blanks beyond ASCII, or none of them. -/
theorem digits_disjoint_blanks : ∀ z ∈ decimalZeros.toList,
    z + 9 < 0x85 ∨ (0xA0 < z ∧ z + 9 < 0x1680) ∨ (0x1680 < z ∧ z + 9 < 0x2000) ∨ 0x3000 < z := by
  decide +kernel

theorem toNat_of_isAsciiDigit {c : Char} (h : isAsciiDigit c = true) :
    48 ≤ c.toNat ∧ c.toNat ≤ 57 := by
  simp only [isAsciiDigit, Bool.and_eq_true, decide_eq_true_eq] at h
  exact ⟨h.1, h.2⟩

theorem exists_zero_of_isDigit {c : Char} (h : isDigit c = true) (hc : isAsciiDigit c = false) :
    128 ≤ c.toNat ∧ ∃ z ∈ decimalZeros.toList, z ≤ c.toNat ∧ c.toNat ≤ z + 9 := by
  simp only [isDigit, digitValue?] at h
  by_cases hn : c.toNat < 128
  · simp [hn, hc] at h
  · refine ⟨Nat.not_lt.1 hn, ?_⟩
    rw [if_neg hn, Option.isSome_map] at h
    obtain ⟨z, hz⟩ := Option.isSome_iff_exists.1 h
    have hp := Array.find?_some hz
    simp only [Bool.and_eq_true, decide_eq_true_eq] at hp
    exact ⟨z, Array.mem_toList_iff.2 (Array.mem_of_find?_eq_some hz), hp⟩

theorem digitValue?_lt {c : Char} {d : Nat} (h : digitValue? c = some d) : d < 10 := by
  rw [digitValue?] at h
  split at h
  · split at h
    · next hc =>
      cases h
      have := (toNat_of_isAsciiDigit hc).2
      omega
    · cases h
  · obtain ⟨z, hz, rfl⟩ := Option.map_eq_some_iff.1 h
    have hp := Array.find?_some hz
    simp only [Bool.and_eq_true, decide_eq_true_eq] at hp
    omega

theorem not_isLetter_of_lt {c : Char} (h : c.toNat < 65) : isLetter c = false := by
  have ha : c.isAlpha = false := by
    simp only [Char.isAlpha, Char.isUpper, Char.isLower, Bool.or_eq_false_iff,
      Bool.and_eq_false_iff, decide_eq_false_iff_not, ge_iff_le, UInt32.le_iff_toNat_le]
    show ¬(65 ≤ c.toNat ∧ c.toNat ≤ 90) ∧ (¬97 ≤ c.toNat ∨ ¬c.toNat ≤ 122)
    omega
  simp only [isLetter, show c.toNat < 128 by omega, if_true, ha]

theorem not_isLetter_of_disjoint {c : Char} (h : 128 ≤ c.toNat)
    (hr : ∀ r ∈ alphabeticRanges.toList, c.toNat < r.1 ∨ r.2 < c.toNat) : isLetter c = false := by
  simp only [isLetter, Nat.not_lt.2 h, if_false, inRanges]
  rw [← Array.any_toList, List.any_eq_false]
  intro r hmem
  have := hr r hmem
  simp only [Bool.and_eq_true, decide_eq_true_eq]
  omega

theorem not_isLetter_of_isDigit {c : Char} (h : isDigit c = true) : isLetter c = false := by
  cases hc : isAsciiDigit c with
  | true =>
    have hn := toNat_of_isAsciiDigit hc
    exact not_isLetter_of_lt (by omega)
  | false =>
    obtain ⟨hn, z, hz, hle⟩ := exists_zero_of_isDigit h hc
    refine not_isLetter_of_disjoint hn fun r hr => ?_
    have hd := digits_disjoint_letters z hz r hr
    omega

theorem not_isBlank_of_isDigit {c : Char} (h : isDigit c = true) : isBlank c = false := by
  have hb (hn : (c.toNat ≠ 32 ∧ 31 < c.toNat ∧ c.toNat < 0x85) ∨
      (0xA0 < c.toNat ∧ c.toNat < 0x1680) ∨ (0x1680 < c.toNat ∧ c.toNat < 0x2000) ∨
      0x3000 < c.toNat) : isBlank c = false := by
    simp only [isBlank, Bool.or_eq_false_iff, Bool.and_eq_false_iff, beq_eq_false_iff_ne,
      decide_eq_false_iff_not]
    omega
  cases hc : isAsciiDigit c with
  | true =>
    have hn := toNat_of_isAsciiDigit hc
    exact hb (by omega)
  | false =>
    obtain ⟨hn, z, hz, hle⟩ := exists_zero_of_isDigit h hc
    have hd := digits_disjoint_blanks z hz
    exact hb (by omega)

theorem not_isDigit_of_isBlank {c : Char} (h : isBlank c = true) : isDigit c = false :=
  Bool.eq_false_iff.2 fun hd => by
    rw [not_isBlank_of_isDigit hd] at h
    cases h

/-- The blanks beyond ASCII. -/
def wideBlanks : List Nat :=
  [0x85, 0xA0, 0x1680, 0x2028, 0x2029, 0x202F, 0x205F, 0x3000] ++ (List.range 11).map (0x2000 + ·)

theorem wideBlanks_disjoint_letters : ∀ n ∈ wideBlanks, ∀ r ∈ alphabeticRanges.toList,
    n < r.1 ∨ r.2 < n := by
  have h : rangeBits (wideBlanks.map fun n => (n, n)) &&&
      rangeBits alphabeticRanges.toList = 0 := by decide +kernel
  intro n hn r hr
  exact apart_of_rangeBits h (List.mem_map_of_mem hn) hr (Nat.le_refl n)
    (alphabeticRanges_ordered r hr)

theorem not_isLetter_of_isBlank {c : Char} (h : isBlank c = true) : isLetter c = false := by
  have hcases : c.toNat < 48 ∨ c.toNat ∈ wideBlanks := by
    simp only [isBlank, Bool.or_eq_true, Bool.and_eq_true, beq_iff_eq, decide_eq_true_eq] at h
    simp only [wideBlanks, List.mem_append, List.mem_cons, List.mem_map, List.mem_range,
      List.not_mem_nil, or_false]
    by_cases hr : 0x2000 ≤ c.toNat ∧ c.toNat ≤ 0x200A
    · exact .inr (.inr ⟨c.toNat - 0x2000, by omega, by omega⟩)
    · omega
  rcases hcases with hn | hn
  · exact not_isLetter_of_lt (by omega)
  · have hge : ∀ n ∈ wideBlanks, 128 ≤ n := by decide
    exact not_isLetter_of_disjoint (hge _ hn) (wideBlanks_disjoint_letters _ hn)

end Worksheet.Text
