import Worksheet.Proofs.Filling
import Worksheet.Proofs.ShownNumbers

/-!
# Shown numbers are read back

**Theorem (`Amount.reads_back`).** What is shown for a finite double is scanned as at most a minus
and one number, and evaluated to the double nearest to what is shown. So a double of at most ten
decimal places has itself as its value again, but for a negative zero, which is shown as zero.

A numeral has the same digits whether commas are dropped while it is scanned or left out before, and
a decimal is read as the double nearest to it (`Decimal.isNearest_toFloat`).
-/

namespace Worksheet

open Text

/-! ## Decimals -/

namespace Decimal

variable {d : Decimal}

def value (d : Decimal) : ℚ := d.mantissa * 10 ^ d.exponent

/-- Three digits are fewer than ten bits. -/
theorem ten_pow_le (l : ℕ) : 10 ^ (l * 3 / 10) ≤ 2 ^ l := by
  rw [← Nat.pow_le_pow_iff_left (show 10 ≠ 0 by decide)]
  calc (10 ^ (l * 3 / 10)) ^ 10 = 10 ^ (l * 3 / 10 * 10) := (Nat.pow_mul _ _ _).symm
    _ ≤ 10 ^ (3 * l) := Nat.pow_le_pow_right (by decide) (by omega)
    _ = (10 ^ 3) ^ l := Nat.pow_mul _ _ _
    _ ≤ (2 ^ 10) ^ l := Nat.pow_le_pow_left (by decide) _
    _ = (2 ^ l) ^ 10 := by rw [← Nat.pow_mul, ← Nat.pow_mul, Nat.mul_comm]

theorem maxValue_lt : Binary.maxValue < 10 ^ (400 : ℤ) := by
  have hmantissa : (2 ^ 53 - 1 : ℚ) < 2 ^ 53 := by norm_num
  calc Binary.maxValue < 2 ^ 53 * 2 ^ (971 : ℤ) :=
        mul_lt_mul_of_pos_right hmantissa (Binary.zpow_pos_two _)
    _ = 2 ^ (1024 : ℤ) := by
        rw [Binary.zpow_add_two 53]
        norm_num
    _ ≤ 2 ^ (1200 : ℤ) := zpow_le_zpow_right₀ (by norm_num) (by norm_num)
    _ = (2 ^ 3) ^ (400 : ℤ) := by
        rw [← zpow_natCast, ← zpow_mul]
        norm_num
    _ ≤ 10 ^ (400 : ℤ) := by
        rw [show (400 : ℤ) = ((400 : ℕ) : ℤ) from rfl, zpow_natCast, zpow_natCast]
        exact pow_le_pow_left₀ (by norm_num) (by norm_num) _

/-- Beyond the largest size stands no double. -/
theorem lt_of_size (hpos : 0 < d.mantissa) (h : 400 < (d.mantissa.log2 : ℤ) * 3 / 10 + d.exponent) :
    Binary.maxValue < d.value := by
  have hmantissa : ((10 : ℚ) ^ (d.mantissa.log2 * 3 / 10)) ≤ d.mantissa := by
    exact_mod_cast (ten_pow_le _).trans (Nat.log2_self_le hpos.ne')
  calc Binary.maxValue < 10 ^ (400 : ℤ) := maxValue_lt
    _ ≤ 10 ^ (((d.mantissa.log2 * 3 / 10 : ℕ) : ℤ) + d.exponent) :=
        zpow_le_zpow_right₀ (by norm_num) (by push_cast; omega)
    _ = 10 ^ (d.mantissa.log2 * 3 / 10) * 10 ^ d.exponent := by
        rw [zpow_add₀ (by norm_num), zpow_natCast]
    _ ≤ d.value := mul_le_mul_of_nonneg_right hmantissa (zpow_pos (by norm_num) _).le

theorem isNearest_zero : Binary.IsNearest 0 0 := by
  refine ⟨0, by decide +kernel, fun z u _ => ?_⟩
  by_cases hu : u = 0
  · exact .inr (.inl hu)
  · left
    rw [sub_zero, abs_zero, zero_sub, abs_neg]
    exact abs_pos.2 hu

/-- Up to the largest double, a decimal that is not very small is read as the double nearest to
it. -/
theorem isNearest_toFloat (he : -400 ≤ d.exponent) (hmax : d.value ≤ Binary.maxValue) :
    Binary.IsNearest d.value d.toFloat := by
  rcases Nat.eq_zero_or_pos d.mantissa with hzero | hpos
  · rw [value, toFloat, if_pos hzero, hzero, Nat.cast_zero, zero_mul]
    exact isNearest_zero
  unfold toFloat
  dsimp only
  rw [if_neg hpos.ne', if_neg fun h => not_lt.2 hmax (lt_of_size hpos h), if_neg (by omega)]
  unfold value at hmax ⊢
  split
  · next e hexponent =>
    have h := Binary.isNearest_nearest (d.mantissa * 10 ^ e) Nat.one_pos
    rw [hexponent, Int.ofNat_eq_natCast, zpow_natCast] at hmax ⊢
    push_cast at h
    rw [div_one] at h
    rw [Nat.pow_eq]
    exact h hmax
  · next e hexponent =>
    have h := Binary.isNearest_nearest d.mantissa (show 0 < 10 ^ (e + 1) from Nat.pow_pos (by decide))
    rw [hexponent, zpow_negSucc, ← div_eq_mul_inv] at hmax ⊢
    push_cast at h
    rw [Nat.pow_eq]
    exact h hmax

end Decimal

namespace Amount

open Literal Token

variable {x : Float} {v : ℚ} {t r : Text} {d : Numeral}

/-! ## Numerals as tokens -/

/-- Groups are digits and commas, a digit first, and digits remain without the commas. -/
theorem Grouped.spec (h : Grouped t) : t.all isGrouped = true ∧
    (∃ c w, t = c :: w ∧ isAsciiDigit c = true) ∧
    (t.filter (· != ',')).all isAsciiDigit = true ∧ t.filter (· != ',') ≠ [] := by
  have hdigits {u : Text} (h : u.all isAsciiDigit = true) :
      u.all isGrouped = true ∧ u.filter (· != ',') = u := by
    rw [List.all_eq_true] at h
    refine ⟨List.all_eq_true.2 fun c hc => by simp [isGrouped, h c hc], ?_⟩
    refine List.filter_eq_self.2 fun c hc => bne_iff_ne.2 ?_
    rintro rfl
    exact absurd (h _ hc) (by decide)
  induction h with
  | @first t hall hpos hle =>
    obtain ⟨c, w, rfl⟩ := List.exists_cons_of_length_pos hpos
    rw [(hdigits hall).2]
    refine ⟨(hdigits hall).1, ⟨c, w, rfl, ?_⟩, hall, List.cons_ne_nil _ _⟩
    exact List.all_eq_true.1 hall c List.mem_cons_self
  | @next t u _ hall hlen ih =>
    obtain ⟨hgrouped, ⟨c, w, hw, hc⟩, hfilter, hne⟩ := ih
    refine ⟨?_, ⟨c, w ++ ',' :: u, by rw [hw]; rfl, hc⟩, ?_, ?_⟩
    · rw [List.all_append, List.all_cons, hgrouped, (hdigits hall).1]
      rfl
    · rw [List.filter_append, List.filter_cons_of_neg (by decide), (hdigits hall).2,
        List.all_append, hfilter, hall]
      rfl
    · rw [List.filter_append]
      exact List.append_ne_nil_of_left_ne_nil hne _

theorem splitPoint_places {z : Text} (hz : z.all isAsciiDigit = true) :
    splitPoint ('.' :: z) = ([], z, []) := by
  have hall := List.all_eq_true.1 hz
  show (([] : Text), z.takeWhile isAsciiDigit, z.dropWhile isAsciiDigit) = _
  rw [List.takeWhile_eq_self_iff.2 hall, List.dropWhile_eq_nil_iff.2 hall]

/-- A numeral goes on behind its first character. -/
theorem numeral_tail {c : Char} {w : Text} (hc : isAsciiDigit c = true ∨ c = '.')
    (h : numeral false (c :: w ++ r) = (c :: w, r)) : isBlank c = false ∧
      (isAsciiDigit c || c == '.') = true ∧ numeral (c == '.') (w ++ r) = (w, r) := by
  rw [List.cons_append, numeral] at h
  rcases hc with hc | rfl
  · have hpoint : (c == '.') = false := beq_eq_false_iff_ne.2 fun he => by
      rw [he] at hc
      cases hc
    rw [if_pos (by simp [hc])] at h
    refine ⟨not_isBlank_of_isDigit (isDigit_of_isAsciiDigit hc), by simp [hc], ?_⟩
    rw [hpoint]
    simpa [Prod.ext_iff] using h
  · rw [if_neg (by decide), if_pos (by decide)] at h
    exact ⟨by decide, by decide, by simpa [Prod.ext_iff] using h⟩

/-- A numeral with a value is one number, if nothing that belongs to it follows. -/
theorem scanFrom_of_numeral {c : Char} {w : Text} (hc : isAsciiDigit c = true ∨ c = '.')
    (hnumeral : numeral false (c :: w ++ r) = (c :: w, r)) (hvalue : numeralValue (c :: w) = .ok x)
    (hr : EndsAmount r) :
    scanFrom (c :: w ++ r) = (scanFrom r).map fun ts => number x false (c :: w) :: ts := by
  obtain ⟨hblank, hfirst, hrest⟩ := numeral_tail hc hnumeral
  have hnext : next c (w ++ r) = .ok (some (number x false (c :: w)), r) := by
    unfold next
    rw [if_neg (by simp [hblank]), if_pos hfirst, hrest]
    dsimp only
    rw [hvalue]
    simp only [Except.map]
    split
    · exact absurd rfl hr.2
    · rfl
  rw [List.cons_append, scanFrom_cons, hnext]
  rfl

namespace Numeral

/-- The digits with the place of the point. -/
def decimal (d : Numeral) : Decimal :=
  ⟨digitsValue (d.whole.filter (· != ',') ++ d.places), -d.places.length⟩

theorem value_decimal (d : Numeral) : d.decimal.value = d.magnitude := by
  rw [Decimal.value, decimal, magnitude, zpow_neg, zpow_natCast, div_eq_mul_inv]

theorem notMem_comma_places (d : Numeral) : ',' ∉ d.places := fun h =>
  absurd (List.all_eq_true.1 d.places_digits _ h) (by decide)

theorem numeralValue_unsigned (d : Numeral) : numeralValue d.unsigned = .ok d.decimal.toFloat := by
  obtain ⟨-, -, hwhole, hne⟩ := d.grouped.spec
  have hplaces : d.places.filter (· != ',') = d.places :=
    List.filter_eq_self.2 fun c hc => bne_iff_ne.2 fun he => d.notMem_comma_places (he ▸ hc)
  have hempty : (d.whole.filter (· != ',')).isEmpty = false := by simpa using hne
  suffices h : decimal? (d.unsigned.filter (· != ',')) = some d.decimal by
    rw [numeralValue, h]
  unfold unsigned decimal
  by_cases hnil : d.places = []
  · have hpoint := splitPoint_digits (z := []) hwhole
    rw [List.append_nil] at hpoint
    rw [if_pos hnil, decimal?, hpoint, hnil]
    simp [splitPoint, hempty, exponent?]
  · rw [if_neg hnil, List.filter_append, List.filter_cons_of_pos (by decide), hplaces, decimal?,
      splitPoint_digits hwhole, splitPoint_places d.places_digits]
    simp [hempty, exponent?]

theorem numeral_unsigned (d : Numeral) (hr : EndsAmount r) :
    numeral false (d.unsigned ++ r) = (d.unsigned, r) := by
  obtain ⟨hgrouped, -⟩ := d.grouped.spec
  have hplaces : numeral true (d.places ++ r) = (d.places, r) := by
    rw [numeral_grouped, Loose.numeral_stop hr.1, List.append_nil]
    exact List.all_eq_true.2 fun c hc => by
      simp [isGrouped, List.all_eq_true.1 d.places_digits c hc]
  unfold unsigned
  split
  · rw [numeral_grouped hgrouped, Loose.numeral_stop hr.1, List.append_nil]
  · rw [List.append_assoc, numeral_grouped hgrouped, List.cons_append, numeral,
      if_neg (by decide), if_pos (by decide), hplaces]

theorem exists_unsigned_eq_cons (d : Numeral) :
    ∃ c z, d.unsigned = c :: z ∧ isAsciiDigit c = true := by
  obtain ⟨-, ⟨c, w, hw, hc⟩, -⟩ := d.grouped.spec
  unfold unsigned
  split
  · exact ⟨c, w, hw, hc⟩
  · exact ⟨c, _, by rw [hw]; rfl, hc⟩

/-- A numeral without its sign is one number, whatever follows it. -/
theorem scanFrom_unsigned (d : Numeral) (hr : EndsAmount r) :
    scanFrom (d.unsigned ++ r) = (scanFrom r).map fun ts =>
      number d.decimal.toFloat false d.unsigned :: ts := by
  have hnumeral := d.numeral_unsigned hr
  have hvalue := d.numeralValue_unsigned
  obtain ⟨c, z, hz, hc⟩ := d.exists_unsigned_eq_cons
  rw [hz] at hvalue hnumeral ⊢
  exact scanFrom_of_numeral (.inl hc) hnumeral hvalue hr

theorem all_isAmountChar (d : Numeral) : d.text.all isAmountChar = true := by
  obtain ⟨hgrouped, -⟩ := d.grouped.spec
  have hwhole : d.whole.all isAmountChar = true :=
    List.all_eq_true.2 fun c hc => by simp [isAmountChar, List.all_eq_true.1 hgrouped c hc]
  have hplaces : d.places.all isAmountChar = true := List.all_eq_true.2 fun c hc => by
    simp [isAmountChar, isGrouped, List.all_eq_true.1 d.places_digits c hc]
  have hunsigned : d.unsigned.all isAmountChar = true := by
    unfold unsigned
    split
    · exact hwhole
    · rw [List.all_append, List.all_cons, hwhole, hplaces]
      rfl
  unfold text
  split
  · rw [List.all_cons, hunsigned]
    rfl
  · exact hunsigned

/-- The tokens of a numeral. -/
theorem scan_text (d : Numeral) : scan d.text = .ok
    ((if d.negative then [.symbol .minus] else []) ++
      [number d.decimal.toFloat false d.unsigned]) := by
  have hall := List.all_eq_true.1 d.all_isAmountChar
  have htight : Tight d.text := by
    have hblank (o : Option Char) (ho : ∀ c, o = some c → c ∈ d.text) : o.any isBlank = false := by
      cases o with
      | none => rfl
      | some c => exact not_isBlank_of_isAmountChar (hall c (ho c rfl))
    exact ⟨hblank _ fun c hc => List.mem_of_head? hc, hblank _ fun c hc => List.mem_of_getLast? hc⟩
  have hsigns : d.text.map plainSign = d.text :=
    (List.map_congr_left fun c hc => plainSign_of_isAmountChar (hall c hc)).trans (List.map_id' _)
  have hcrosses : multiplySigns [] (d.text ++ []) = d.text ++ [] :=
    multiplySigns_of_notCross fun c hc => isCross_of_isAmountChar (hall c hc)
  rw [List.append_nil] at hcrosses
  have hunsigned := d.scanFrom_unsigned (r := []) ⟨rfl, by simp⟩
  rw [List.append_nil, scanFrom] at hunsigned
  rw [scan, htight.trim_eq, Token.normalize, hsigns, hcrosses, text]
  split
  · rw [scanFrom_cons, show next '-' d.unsigned = .ok (some (.symbol .minus), d.unsigned) from rfl]
    dsimp only
    rw [hunsigned]
    rfl
  · rw [hunsigned]
    rfl

/-- The value of a numeral. -/
theorem evaluate_text (d : Numeral) (resolve : Option Resolver) : Expr.evaluate resolve d.text =
    .ok (if d.negative then -d.decimal.toFloat else d.decimal.toFloat) := by
  rw [Expr.evaluate, d.scan_text]
  cases d.negative <;> rfl

/-- The number that is shown. -/
def value (d : Numeral) : ℚ := if d.negative then -d.magnitude else d.magnitude

theorem toFloat_eq_zero (h : d.magnitude = 0) : d.decimal.toFloat = 0 := by
  rw [magnitude, div_eq_zero_iff, Nat.cast_eq_zero, or_iff_left (by positivity)] at h
  rw [Decimal.toFloat, if_pos (show d.decimal.mantissa = 0 from h)]

/-- A numeral of at most the largest double has the nearest double as its value. -/
theorem isNearest_toFloat (h : d.magnitude ≤ Binary.maxValue) :
    Binary.IsNearest d.magnitude d.decimal.toFloat := by
  have hplaces := d.places_le
  rw [← d.value_decimal] at h ⊢
  exact Decimal.isNearest_toFloat (show -400 ≤ -(d.places.length : ℤ) by omega) h

end Numeral

/-- The numeral of a double is at most the largest double. -/
theorem scaled_le_maxValue {b : Binary} (hb : b.IsDouble) :
    (b.scaled 10 / 10 ^ 10 : ℚ) ≤ Binary.maxValue := by
  obtain ⟨m, hm⟩ : ∃ m : ℕ, Binary.maxValue = m := by
    have hmantissa : ((2 ^ 53 - 1 : ℕ) : ℚ) = 2 ^ 53 - 1 := by norm_num
    refine ⟨(2 ^ 53 - 1) * 2 ^ 971, ?_⟩
    rw [Binary.maxValue, Nat.cast_mul, Nat.cast_pow, hmantissa, Nat.cast_ofNat]
    rfl
  have hle : b.magnitude * 10 ^ 10 ≤ (m * 10 ^ 10 : ℕ) := by
    push_cast
    rw [← hm]
    exact mul_le_mul_of_nonneg_right (Binary.magnitude_le_maxValue hb) (by norm_num)
  rw [div_le_iff₀ (by norm_num), hm]
  exact_mod_cast (roundsTo_scaled b 10).le_of_le hle

/-- A double of at most ten places is shown exactly. -/
theorem scaled_of_places {b : Binary} {k : ℤ} (hk : b.value * 10 ^ 10 = k) :
    b.magnitude * 10 ^ 10 = b.scaled 10 := by
  have habs : b.magnitude * 10 ^ 10 = (k.natAbs : ℚ) := by
    rw [← b.abs_value, ← abs_of_pos (show (0 : ℚ) < 10 ^ 10 by norm_num), ← abs_mul, hk,
      Nat.cast_natAbs, Int.cast_abs]
  have hround := roundsTo_scaled b 10
  rw [habs] at hround ⊢
  rw [hround.eq_of_natCast]

/-- **Theorem.** What is shown for a finite double is a numeral that is scanned as at most a minus
and one number. Its value is the double nearest to what is shown: the double itself, if its decimal
expansion has at most ten places, and zero for both zeros. -/
theorem reads_back (h : Binary.valueOf? x = some v) (resolve : Option Resolver) :
    ∃ (d : Numeral) (y z : Float), format x false = d.text ∧
      scan (format x false) =
        .ok ((if d.negative then [.symbol .minus] else []) ++ [number y false d.unsigned]) ∧
      Expr.evaluate resolve (format x false) = .ok z ∧ Binary.IsNearest d.value z ∧
      ((∃ k : ℤ, v * 10 ^ 10 = k) → z = if v = 0 then 0 else x) := by
  obtain ⟨b, hb, rfl⟩ := Binary.exists_of_valueOf? h
  have hdouble := Binary.isDouble_of_ofFloat? hb
  have hshown := format_eq hb
  generalize hd : Numeral.ofNat (b.negative && b.scaled 10 != 0) (b.scaled 10) = d at hshown
  have hmagnitude : d.magnitude = b.scaled 10 / 10 ^ 10 := by
    rw [← hd, Numeral.magnitude_ofNat]
  have hsign : d.negative = (b.negative && b.scaled 10 != 0) := by
    rw [← hd, Numeral.negative_ofNat]
  have hnear := d.isNearest_toFloat (hmagnitude ▸ scaled_le_maxValue hdouble)
  have hnearest : Binary.IsNearest d.value
      (if d.negative then -d.decimal.toFloat else d.decimal.toFloat) := by
    unfold Numeral.value
    split
    · exact hnear.neg
    · exact hnear
  refine ⟨d, _, _, hshown, by rw [hshown, d.scan_text], by rw [hshown, d.evaluate_text], hnearest,
    ?_⟩
  rintro ⟨k, hk⟩
  -- Nothing is rounded: the numeral has the value of the double.
  have hexact := scaled_of_places hk
  have hsame : d.magnitude = b.magnitude := by
    rw [hmagnitude, ← hexact, mul_div_cancel_right₀ _ (by norm_num)]
  have hscaled : b.scaled 10 = 0 ↔ b.value = 0 := by
    rw [← abs_eq_zero, b.abs_value, ← Nat.cast_eq_zero (R := ℚ), ← hexact, mul_eq_zero,
      or_iff_left (by norm_num)]
  by_cases hzero : b.value = 0
  · have hnone : d.magnitude = 0 := by rw [hsame, ← b.abs_value, hzero, abs_zero]
    rw [if_pos hzero, hsign, hscaled.2 hzero, bne_self_eq_false, Bool.and_false,
      if_neg Bool.false_ne_true, d.toFloat_eq_zero hnone]
  · have hvalue : d.value = b.value := by
      have hne : (b.scaled 10 != 0) = true := bne_iff_ne.2 (mt hscaled.1 hzero)
      rw [Numeral.value, hsign, hne, Bool.and_true, hsame]
      rfl
    rw [hvalue] at hnearest
    rw [if_neg hzero]
    exact Binary.eq_of_value (hnearest.value_eq h) h hzero

theorem reads_back_eighth : Binary.valueOf? 1234567.125 = some (9876537 / 8) ∧
    ∃ (d : Numeral) (y z : Float), format 1234567.125 false = d.text ∧
      scan (format 1234567.125 false) =
        .ok ((if d.negative then [.symbol .minus] else []) ++ [number y false d.unsigned]) ∧
      Expr.evaluate none (format 1234567.125 false) = .ok z ∧ Binary.IsNearest d.value z ∧
      z = 1234567.125 := by
  have h : Binary.valueOf? 1234567.125 = some (9876537 / 8) := by decide +kernel
  obtain ⟨d, y, z, hshown, hscan, hvalue, hnearest, hsame⟩ := reads_back h none
  refine ⟨h, d, y, z, hshown, hscan, hvalue, hnearest, ?_⟩
  rw [hsame ⟨12345671250000000, by norm_num⟩, if_neg (by norm_num)]

end Amount

end Worksheet
