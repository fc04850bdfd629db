import Worksheet.Proofs.Amounts
import Worksheet.Proofs.Nearest

/-!
# Numbers as they are shown

A shown number is perhaps a sign, a whole part in groups of three digits without zeros in front, and
perhaps a point with up to ten places that do not end in a zero (`Amount.Numeral`).

**Theorem (`Amount.format_canonical`).** Every finite double is shown as such a numeral. The numeral
is the absolute value rounded to ten places, a half to the even digit, and it has a sign if the
double is below zero and the numeral is not zero.
-/

namespace Worksheet

open Text

/-! ## Digits -/

namespace Literal

variable {t u : Text} {n : ℕ}

theorem digitsFrom_append (n : ℕ) (t u : Text) :
    digitsFrom n (t ++ u) = digitsFrom (digitsFrom n t) u := List.foldl_append

theorem digitsFrom_eq (n : ℕ) (t : Text) :
    digitsFrom n t = n * 10 ^ t.length + digitsValue t := by
  induction t using List.reverseRecOn with
  | nil => simp [digitsFrom]
  | append_singleton t c ih =>
    rw [digitsFrom_append, digitsValue, digitsFrom_append, ih, List.length_append]
    show 10 * (n * 10 ^ t.length + digitsValue t) + (c.toNat - 48) =
      n * 10 ^ (t.length + 1) + (10 * digitsValue t + (c.toNat - 48))
    ring

/-- Digits behind others leave these their value times a power of ten. -/
theorem digitsValue_append (t u : Text) :
    digitsValue (t ++ u) = digitsValue t * 10 ^ u.length + digitsValue u := by
  rw [digitsValue, digitsFrom_append, digitsFrom_eq]

theorem digitsValue_zeros (k : ℕ) : digitsValue (List.replicate k '0') = 0 := by
  induction k with
  | zero => rfl
  | succ k ih => rw [List.replicate_succ', digitsValue_append, ih]; rfl

/-- A number other than zero is written without a zero in front. -/
theorem head?_ofNat (hn : 0 < n) : (ofNat n).head? ≠ some '0' := by
  induction n using Nat.strong_induction_on with
  | _ n ih =>
    rw [ofNat, Nat.toDigits_eq_if (by decide)]
    split
    · next hlt => interval_cases n <;> decide
    · next hge =>
      rw [List.head?_append_of_ne_nil _ Nat.toDigits_ne_nil]
      exact ih (n / 10) (by omega) (by omega)

end Literal

namespace Fixed

variable {n places : ℕ}

/-- The digits behind the point are as many as the places, with the value of the remainder. -/
theorem fractionDigits_spec (hp : 0 < places) (n : ℕ) :
    (fractionDigits places n).all isAsciiDigit = true ∧
      (fractionDigits places n).length = places ∧
      Literal.digitsValue (fractionDigits places n) = n % 10 ^ places := by
  have hlen : (ofNat (n % 10 ^ places)).length ≤ places :=
    (Nat.length_toDigits_le_iff (by decide) hp).2 (Nat.mod_lt _ (Nat.pow_pos (by decide)))
  rw [fractionDigits, padLeft, Nat.pow_eq]
  refine ⟨?_, ?_, ?_⟩
  · rw [List.all_append, Reference.ofNat_ascii, Bool.and_true, List.all_replicate]
    simp [show isAsciiDigit '0' = true from rfl]
  · rw [List.length_append, List.length_replicate]
    omega
  · rw [Literal.digitsValue_append, Literal.digitsValue_zeros, Nat.zero_mul, Nat.zero_add,
      Literal.digitsValue_ofNat]

end Fixed

namespace Amount

open Literal

variable {x : Float} {v : ℚ} {b : Binary} {t : Text} {n : ℕ}

/-! ## Groups and places -/

/-- Groups of three digits with commas between them; the first may be shorter. -/
inductive Grouped : Text → Prop where
  | first {t : Text} : t.all isAsciiDigit = true → 0 < t.length → t.length ≤ 3 → Grouped t
  | next {t u : Text} : Grouped t → u.all isAsciiDigit = true → u.length = 3 →
      Grouped (t ++ ',' :: u)

theorem grouped_reversed (h : t.all isAsciiDigit = true) (hne : t ≠ []) :
    Grouped (Fixed.groupReversed t).reverse := by
  fun_induction Fixed.groupReversed t with
  | case1 a b c d r ih =>
    simp only [List.all_cons, Bool.and_eq_true] at h
    obtain ⟨ha, hb, hc, hr⟩ := h
    have hrest := ih (by rw [List.all_cons, hr.1, hr.2]; rfl) (List.cons_ne_nil _ _)
    have hgroup : [c, b, a].all isAsciiDigit = true := by simp [ha, hb, hc]
    simpa using hrest.next hgroup rfl
  | case2 t hshort =>
    refine .first (by rwa [List.all_reverse]) ?_ ?_
    · rw [List.length_reverse]
      exact List.length_pos_of_ne_nil hne
    · rw [List.length_reverse]
      by_contra hlong
      obtain ⟨a, u, rfl⟩ := List.exists_cons_of_length_pos (show 0 < t.length by omega)
      rw [List.length_cons] at hlong
      obtain ⟨b, u, rfl⟩ := List.exists_cons_of_length_pos (show 0 < u.length by omega)
      rw [List.length_cons] at hlong
      obtain ⟨c, u, rfl⟩ := List.exists_cons_of_length_pos (show 0 < u.length by omega)
      rw [List.length_cons] at hlong
      obtain ⟨d, r, rfl⟩ := List.exists_cons_of_length_pos (show 0 < u.length by omega)
      exact hshort a b c d r rfl

/-- Grouping makes groups of three. -/
theorem grouped_grouped (h : t.all isAsciiDigit = true) (hne : t ≠ []) :
    Grouped (Fixed.grouped t) :=
  grouped_reversed (by rwa [List.all_reverse]) (by simpa using hne)

/-- A written number has no zero in front but the zero itself. -/
theorem leading_grouped (n : ℕ) : Fixed.grouped (Text.ofNat n) = ['0'] ∨
    (Fixed.grouped (Text.ofNat n)).head? ≠ some '0' := by
  rcases Nat.eq_zero_or_pos n with rfl | h
  · exact .inl rfl
  · exact .inr (by rw [Fixed.head?_grouped]; exact head?_ofNat h)

/-- What is trimmed is zeros, and all of them at the end. -/
theorem exists_trimZeros (t : Text) :
    ∃ k, t = trimZeros t ++ List.replicate k '0' ∧ (trimZeros t).getLast? ≠ some '0' := by
  induction t using List.reverseRecOn with
  | nil => exact ⟨0, rfl, by decide⟩
  | append_singleton t c ih =>
    have hconcat : trimZeros (t ++ [c]) = if c == '0' then trimZeros t else t ++ [c] :=
      List.rdropWhile_concat _ _ _
    rw [hconcat]
    split
    · next hc =>
      obtain ⟨k, hk, hlast⟩ := ih
      refine ⟨k + 1, ?_, hlast⟩
      rw [List.replicate_succ', ← List.append_assoc, ← hk, beq_iff_eq.1 hc]
    · next hc =>
      refine ⟨0, (List.append_nil _).symm, ?_⟩
      rw [List.getLast?_concat, Ne, Option.some.injEq]
      exact fun h => hc (beq_iff_eq.2 h)

/-! ## Numerals -/

/-- A number as it is shown. -/
structure Numeral where
  negative : Bool
  whole : Text
  places : Text
  grouped : Grouped whole
  leading : whole = ['0'] ∨ whole.head? ≠ some '0'
  places_digits : places.all isAsciiDigit = true
  places_le : places.length ≤ 10
  trailing : places.getLast? ≠ some '0'

namespace Numeral

/-- What is written behind the sign. -/
def unsigned (d : Numeral) : Text :=
  if d.places = [] then d.whole else d.whole ++ '.' :: d.places

def text (d : Numeral) : Text := if d.negative then '-' :: d.unsigned else d.unsigned

/-- The value without the sign: the digits without commas are divided by a power of ten. -/
def magnitude (d : Numeral) : ℚ :=
  digitsValue (d.whole.filter (· != ',') ++ d.places) / 10 ^ d.places.length

/-- The numeral of `n / 10 ^ 10`. -/
def ofNat (negative : Bool) (n : ℕ) : Numeral where
  negative := negative
  whole := Fixed.grouped (Text.ofNat (n / 10 ^ 10))
  places := trimZeros (Fixed.fractionDigits 10 n)
  grouped := grouped_grouped (Reference.ofNat_ascii _) (ofNat_ne_nil _)
  leading := leading_grouped _
  places_digits := List.all_eq_true.2 fun c hc => List.all_eq_true.1
    (Fixed.fractionDigits_spec (by decide) n).1 c (trimRightBy_subset _ _ hc)
  places_le := (List.rdropWhile_prefix _ _).length_le.trans_eq
    (Fixed.fractionDigits_spec (by decide) n).2.1
  trailing := (exists_trimZeros _).choose_spec.2

variable {negative : Bool}

@[simp] theorem negative_ofNat : (ofNat negative n).negative = negative := rfl

theorem unsigned_ofNat : (ofNat negative n).unsigned = plainDigits n := by
  rw [unsigned, plainDigits, Nat.pow_eq]
  show (if trimZeros (Fixed.fractionDigits 10 n) = [] then _ else _ ++ '.' :: trimZeros _) = _
  cases h : trimZeros (Fixed.fractionDigits 10 n) with
  | nil => rw [if_pos rfl]; rfl
  | cons c u => rw [if_neg (List.cons_ne_nil _ _)]; rfl

theorem magnitude_ofNat : (ofNat negative n).magnitude = n / 10 ^ 10 := by
  obtain ⟨-, hlen, hvalue⟩ := Fixed.fractionDigits_spec (show 0 < 10 by decide) n
  obtain ⟨k, hk, -⟩ := exists_trimZeros (Fixed.fractionDigits 10 n)
  have hwhole := Fixed.filter_grouped (Reference.notMem_ofNat (show isAsciiDigit ',' = false from rfl)
    (n / 10 ^ 10))
  show (digitsValue ((Fixed.grouped _).filter (· != ',') ++ trimZeros _) : ℚ) /
    10 ^ (trimZeros (Fixed.fractionDigits 10 n)).length = _
  rw [hwhole, digitsValue_append, digitsValue_ofNat]
  generalize trimZeros (Fixed.fractionDigits 10 n) = places at hk
  rw [hk, List.length_append, List.length_replicate] at hlen
  rw [hk, digitsValue_append, digitsValue_zeros, Nat.add_zero, List.length_replicate] at hvalue
  -- The zeros that are trimmed are a power of ten on both sides of the division.
  have hsplit : n = (n / 10 ^ 10 * 10 ^ places.length + digitsValue places) * 10 ^ k := by
    rw [Nat.add_mul, hvalue, Nat.mul_assoc, ← Nat.pow_add, hlen, Nat.div_add_mod']
  have hn : (n : ℚ) = (n / 10 ^ 10 * 10 ^ places.length + digitsValue places : ℕ) * 10 ^ k := by
    exact_mod_cast hsplit
  have hpow : (10 : ℚ) ^ 10 = 10 ^ places.length * 10 ^ k := by rw [← pow_add, hlen]
  rw [hn, hpow, mul_div_mul_right _ _ (pow_ne_zero _ (by norm_num))]

end Numeral

/-- A double is shown as the numeral of its value in units of the tenth place. -/
theorem format_eq (h : Binary.ofFloat? x = some b) :
    format x false = (Numeral.ofNat (b.negative && b.scaled 10 != 0) (b.scaled 10)).text := by
  rw [format, h, Numeral.text, Numeral.unsigned_ofNat, Numeral.negative_ofNat]
  dsimp only
  rw [if_neg Bool.false_ne_true, plain]

theorem roundsTo_scaled (b : Binary) (places : ℕ) :
    RoundsTo (b.magnitude * 10 ^ places) (b.scaled places) := by
  have h := roundsTo_roundDiv (b.fraction.1 * 10 ^ places) b.fraction_pos
  rw [Nat.cast_mul, Nat.cast_pow, Nat.cast_ofNat, mul_div_right_comm, ← b.magnitude_eq] at h
  exact h

/-- **Theorem.** A finite double is shown as a numeral: its absolute value rounded to ten places, a
half to even, with a sign if it is below zero and not rounded to zero. -/
theorem format_canonical (h : Binary.valueOf? x = some v) :
    ∃ d : Numeral, format x false = d.text ∧
      (∃ n : ℕ, RoundsTo (|v| * 10 ^ 10) n ∧ d.magnitude = n / 10 ^ 10) ∧
      (d.negative = true ↔ x < 0 ∧ d.magnitude ≠ 0) := by
  obtain ⟨b, hb, rfl⟩ := Binary.exists_of_valueOf? h
  refine ⟨_, format_eq hb, ⟨_, ?_, Numeral.magnitude_ofNat⟩, ?_⟩
  · rw [b.abs_value]
    exact roundsTo_scaled b 10
  · have hmagnitude : ((b.scaled 10 : ℚ) / 10 ^ 10 ≠ 0) ↔ b.scaled 10 ≠ 0 := by
      rw [Ne, div_eq_zero_iff, Nat.cast_eq_zero, or_iff_left (by norm_num)]
    rw [Numeral.negative_ofNat, Numeral.magnitude_ofNat, hmagnitude, Binary.lt_zero_iff h,
      Bool.and_eq_true, bne_iff_ne]
    refine and_congr_left fun hne => ?_
    -- What is not rounded to zero is not zero, so it is below zero if its sign is set.
    have hpos : 0 < b.magnitude := by
      refine b.magnitude_nonneg.lt_of_ne' fun hzero => hne ?_
      have hround := roundsTo_scaled b 10
      rw [hzero, zero_mul] at hround
      exact (RoundsTo.eq_of_natCast (k := 0) (by exact_mod_cast hround))
    unfold Binary.value
    cases b.negative <;> simp [hpos, hpos.le]

theorem format_canonical_half : Binary.valueOf? (-2.5) = some (-5 / 2) ∧
    ∃ d : Numeral, format (-2.5) false = d.text ∧
      (∃ n : ℕ, RoundsTo (|(-5 / 2 : ℚ)| * 10 ^ 10) n ∧ d.magnitude = n / 10 ^ 10) ∧
      (d.negative = true ↔ (-2.5 : Float) < 0 ∧ d.magnitude ≠ 0) := by
  have h : Binary.valueOf? (-2.5) = some (-5 / 2) := by decide +kernel
  exact ⟨h, format_canonical h⟩

end Amount

end Worksheet
