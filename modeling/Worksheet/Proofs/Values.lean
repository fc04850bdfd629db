import Worksheet.Proofs.Doubles

/-!
# The exact value of a double

`valueOf?` is the rational number that a double stands for in the arithmetic of the machine: the
value of its unpacked form. It is the value that `Binary.ofFloat?` reads off the bits
(`valueOf?_eq`). But for the two zeros, a double is known by its value (`eq_of_value`), and its sign
is that of the value (`lt_zero_iff`).
-/

namespace Worksheet

namespace Binary

open Float.Model UnpackedFloat

variable {s : Sign} {e f : Nat} {x y : Float} {b : Binary} {v : ℚ}

/-! ## Fields -/

/-- Any bits are those of a sign, an exponent field and a fraction. -/
theorem exists_packed (w : BitVec 64) : ∃ s e f, e < 2048 ∧ f < 2 ^ 52 ∧ w = packed s e f := by
  have hw : w.toNat < 2 ^ 64 := w.isLt
  refine ⟨Sign.ofBitVec (BitVec.ofNat 1 (w.toNat / 2 ^ 63)), w.toNat / 2 ^ 52 % 2048,
    w.toNat % 2 ^ 52, Nat.mod_lt _ (by decide), Nat.mod_lt _ (by decide), ?_⟩
  refine BitVec.eq_of_toNat_eq ?_
  rw [toNat_packed (Nat.mod_lt _ (by decide)) (Nat.mod_lt _ (by decide))]
  have hsign : (Sign.ofBitVec (BitVec.ofNat 1 (w.toNat / 2 ^ 63))).toBitVec.toNat =
      w.toNat / 2 ^ 63 := by
    have htop : w.toNat / 2 ^ 63 = 0 ∨ w.toNat / 2 ^ 63 = 1 := by omega
    rcases htop with h | h <;> rw [h] <;> rfl
  rw [hsign]
  omega

/-- The double has the sign, the exponent field and the fraction. -/
structure HasFields (x : Float) (s : Sign) (e f : Nat) : Prop where
  field_lt : e < 2048
  fraction_lt : f < 2 ^ 52
  bits : x.toBits.toBitVec = packed s e f

theorem exists_fields (x : Float) : ∃ s e f, HasFields x s e f := by
  obtain ⟨s, e, f, he, hf, h⟩ := exists_packed x.toBits.toBitVec
  exact ⟨s, e, f, he, hf, h⟩

/-- The number that an exponent field and a fraction stand for. -/
def ofFields (s : Sign) (e f : Nat) : Binary :=
  ⟨s.toBitVec == 1#1, if e = 0 then f else 2 ^ 52 + f, if e = 0 then -1074 else (e : Int) - 1075⟩

/-- The unpacked form of bits whose exponent field is not that of a normal number. -/
theorem unpack_packed_zero : UnpackedFloat.unpack Format.binary64 (packed s 0 0) = .zero s := by
  cases s <;> rfl

theorem unpack_packed_subnormal (hf : f < 2 ^ 52) (hpos : 0 < f) :
    UnpackedFloat.unpack Format.binary64 (packed s 0 f) = .finite s f (-1074) hpos := by
  have hexp : @unpackExponent Format.binary64 (packed s 0 f) = BitVec.ofNat _ 0 :=
    unpackExponent_packComponents
  have hman : @unpackMantissa Format.binary64 (packed s 0 f) = BitVec.ofNat _ f :=
    unpackMantissa_packComponents
  have hnum : (BitVec.ofNat 52 f).toNat = f := by
    rw [BitVec.toNat_ofNat, Nat.mod_eq_of_lt hf]
  have hne : BitVec.ofNat 52 f ≠ 0#52 := by
    intro h
    have := congrArg BitVec.toNat h
    rw [hnum] at this
    simp at this
    omega
  unfold UnpackedFloat.unpack
  simp only [hexp, hman, unpackSign_packed (show 0 < 2048 by decide) hf, ofBitVec_toBitVec]
  rw [if_neg (by decide), if_pos trivial, dif_neg hne]
  simp only [hnum]
  rfl

theorem unpack_packed_top (hf : f < 2 ^ 52) :
    UnpackedFloat.unpack Format.binary64 (packed s 2047 f) =
      if f = 0 then .infinity s else .notANumber := by
  have hexp : @unpackExponent Format.binary64 (packed s 2047 f) = BitVec.ofNat _ 2047 :=
    unpackExponent_packComponents
  have hman : @unpackMantissa Format.binary64 (packed s 2047 f) = BitVec.ofNat _ f :=
    unpackMantissa_packComponents
  have hzero : BitVec.ofNat 52 f = 0#52 ↔ f = 0 := by
    rw [← BitVec.toNat_inj, BitVec.toNat_ofNat, Nat.mod_eq_of_lt hf]
    simp
  unfold UnpackedFloat.unpack
  simp only [hexp, hman, unpackSign_packed (show 2047 < 2048 by decide) hf, ofBitVec_toBitVec]
  rw [if_pos (by decide)]
  simp only [hzero]

/-- What is unpacked is packed again. -/
theorem pack_unpack (he : e < 2047) (hf : f < 2 ^ 52) :
    UnpackedFloat.pack Format.binary64 (UnpackedFloat.unpack Format.binary64 (packed s e f)) =
      packed s e f := by
  rcases Nat.eq_zero_or_pos e with rfl | hpos
  · rcases Nat.eq_zero_or_pos f with rfl | hfpos
    · rw [unpack_packed_zero]
      rfl
    · have hlog : f.log2 < 52 := (Nat.log2_lt hfpos.ne').2 hf
      have hfew : ¬f.log2 + 1 = Format.binary64.mantissaBits := by
        rw [show Format.binary64.mantissaBits = 53 from rfl]
        omega
      rw [unpack_packed_subnormal hf hfpos, UnpackedFloat.pack]
      dsimp only
      rw [if_neg (by decide), if_neg hfew]
      rfl
  · rw [unpack_packed hpos he hf, pack_finite hpos he hf]

theorem neg_unpack (he : e < 2047) (hf : f < 2 ^ 52) :
    (UnpackedFloat.unpack Format.binary64 (packed s e f)).neg =
      UnpackedFloat.unpack Format.binary64 (packed (-s) e f) := by
  rcases Nat.eq_zero_or_pos e with rfl | hpos
  · rcases Nat.eq_zero_or_pos f with rfl | hfpos
    · rw [unpack_packed_zero, unpack_packed_zero]
      rfl
    · rw [unpack_packed_subnormal hf hfpos, unpack_packed_subnormal hf hfpos]
      rfl
  · rw [unpack_packed hpos he hf, unpack_packed hpos he hf]
    rfl

namespace HasFields

theorem toNat_bits (h : HasFields x s e f) :
    x.toBits.toNat = s.toBitVec.toNat * 2 ^ 63 + e * 2 ^ 52 + f := by
  rw [← toNat_packed h.field_lt h.fraction_lt, ← h.bits]
  rfl

theorem unpack_eq (h : HasFields x s e f) :
    x.toModel.unpack = UnpackedFloat.unpack Format.binary64 (packed s e f) := by
  rw [← h.bits]
  rfl

theorem ofFloat?_eq (h : HasFields x s e f) :
    ofFloat? x = if e = 2047 then none else some (ofFields s e f) := by
  have hbits := h.toNat_bits
  have hsign : s.toBitVec.toNat < 2 := s.toBitVec.isLt
  have he := h.field_lt
  have hf := h.fraction_lt
  have hfield : x.toBits.toNat / Nat.pow 2 52 % Nat.pow 2 11 = e := by
    rw [hbits, Nat.pow_eq, Nat.pow_eq]
    omega
  have hfraction : x.toBits.toNat % Nat.pow 2 52 = f := by
    rw [hbits, Nat.pow_eq]
    omega
  have hnegative : (x.toBits.toNat / Nat.pow 2 63 % 2 == 1) = (s.toBitVec == 1#1) := by
    rw [hbits, Nat.pow_eq]
    cases s <;> simp [Sign.toBitVec] <;> omega
  unfold ofFloat? ofFields
  simp only [hfield, hfraction, hnegative]
  by_cases htop : e = 2047
  · rw [if_pos htop, if_pos htop]
  · rw [if_neg htop, if_neg htop]
    by_cases hzero : e = 0
    · rw [if_pos hzero, if_pos hzero, if_pos hzero]
    · rw [if_neg hzero, if_neg hzero, if_neg hzero, Nat.pow_eq, Nat.add_comm]

/-- Bits that are no NaN are the bits of the double made of them. -/
theorem of_bits {w : UInt64} (he : e < 2047) (hf : f < 2 ^ 52) (hw : w.toBitVec = packed s e f) :
    HasFields (Float.ofBits w) s e f := by
  refine ⟨by omega, hf, ?_⟩
  show UnpackedFloat.pack Format.binary64 (UnpackedFloat.unpack Format.binary64 w.toBitVec) = _
  rw [hw, pack_unpack he hf]

theorem neg (h : HasFields x s e f) (he : e < 2047) : HasFields (-x) (-s) e f := by
  refine ⟨h.field_lt, h.fraction_lt, ?_⟩
  show UnpackedFloat.pack Format.binary64 x.toModel.unpack.neg = _
  rw [h.unpack_eq, neg_unpack he h.fraction_lt, pack_unpack he h.fraction_lt]

end HasFields

/-! ## Doubles as numbers -/

/-- The mantissa has at most 53 bits, and fewer only at the least exponent. -/
structure IsDouble (b : Binary) : Prop where
  mantissa_lt : b.mantissa < 2 ^ 53
  exponent_ge : -1074 ≤ b.exponent
  exponent_le : b.exponent ≤ 971
  normal : b.exponent = -1074 ∨ 2 ^ 52 ≤ b.mantissa

theorem isDouble_ofFields (he : e < 2047) (hf : f < 2 ^ 52) : IsDouble (ofFields s e f) := by
  unfold ofFields
  rcases Nat.eq_zero_or_pos e with rfl | hpos
  · exact ⟨by simp only [if_true]; omega, by simp, by simp, .inl (by simp)⟩
  · have hne : e ≠ 0 := hpos.ne'
    refine ⟨?_, ?_, ?_, .inr ?_⟩ <;> simp only [if_neg hne] <;> omega

theorem exists_fields_of_ofFloat? (h : ofFloat? x = some b) :
    ∃ s e f, e < 2047 ∧ HasFields x s e f ∧ b = ofFields s e f := by
  obtain ⟨s, e, f, hx⟩ := exists_fields x
  rw [hx.ofFloat?_eq] at h
  split at h
  · cases h
  · have := hx.field_lt
    exact ⟨s, e, f, by omega, hx, (Option.some.inj h).symm⟩

theorem isDouble_of_ofFloat? (h : ofFloat? x = some b) : IsDouble b := by
  obtain ⟨s, e, f, he, hx, rfl⟩ := exists_fields_of_ofFloat? h
  exact isDouble_ofFields he hx.fraction_lt

/-- The value makes out the double: no two have the same sign, mantissa and exponent. -/
theorem ofFloat?_injective (h : ofFloat? x = some b) (h' : ofFloat? y = some b) : x = y := by
  obtain ⟨s, e, f, he, hx, rfl⟩ := exists_fields_of_ofFloat? h
  obtain ⟨s', e', f', he', hy, hb⟩ := exists_fields_of_ofFloat? h'
  have hf := hx.fraction_lt
  have hf' := hy.fraction_lt
  simp only [ofFields, Binary.mk.injEq] at hb
  obtain ⟨hs, hm, hk⟩ := hb
  obtain ⟨rfl, rfl⟩ : e = e' ∧ f = f' := by
    split_ifs at hm hk <;> omega
  have hsign : s = s' := by
    cases s <;> cases s' <;> first | rfl | exact absurd hs (by decide)
  subst hsign
  exact float_ext (hx.bits.trans hy.bits.symm)

/-- A number without its sign, as a rational number. -/
def magnitude (b : Binary) : ℚ := b.mantissa * 2 ^ b.exponent

/-- A number as a rational number. -/
def value (b : Binary) : ℚ := if b.negative then -b.magnitude else b.magnitude

theorem magnitude_nonneg (b : Binary) : 0 ≤ b.magnitude :=
  mul_nonneg (Nat.cast_nonneg _) (zpow_nonneg (by norm_num) _)

theorem abs_value (b : Binary) : |b.value| = b.magnitude := by
  unfold value
  split
  · rw [abs_neg, abs_of_nonneg b.magnitude_nonneg]
  · exact abs_of_nonneg b.magnitude_nonneg

theorem magnitude_of_nonneg (h : 0 ≤ b.value) : b.magnitude = b.value := by
  rw [← b.abs_value, abs_of_nonneg h]

theorem negative_of_pos (h : 0 < b.value) : b.negative = false := by
  by_contra hneg
  rw [value, if_pos (by simpa using hneg)] at h
  linarith [b.magnitude_nonneg]

theorem fraction_pos (b : Binary) : 0 < b.fraction.2 := by
  unfold fraction
  split
  · exact Nat.one_pos
  · exact Nat.two_pow_pos _

theorem magnitude_eq (b : Binary) : b.magnitude = b.fraction.1 / b.fraction.2 := by
  unfold magnitude fraction
  split
  · next k hk =>
    rw [hk]
    simp
  · next k hk =>
    rw [hk, zpow_negSucc, Nat.pow_eq]
    push_cast
    rfl

/-- A number with a whole value has no part behind the point. -/
theorem truncate_of_value {a : ℤ} (h : b.value = a) :
    b.fraction.1 % b.fraction.2 = 0 ∧ b.truncate = a := by
  have hmagnitude : b.fraction.1 = a.natAbs * b.fraction.2 := by
    have habs : (b.fraction.1 / b.fraction.2 : ℚ) = a.natAbs := by
      rw [← b.magnitude_eq, ← b.abs_value, h, Nat.cast_natAbs, Int.cast_abs]
    rw [div_eq_iff (Nat.cast_ne_zero.2 b.fraction_pos.ne')] at habs
    exact_mod_cast habs
  have hfloor : b.floor = a.natAbs := by
    rw [floor, hmagnitude, Nat.mul_div_cancel _ b.fraction_pos]
  refine ⟨by rw [hmagnitude, Nat.mul_mod_left], ?_⟩
  have hnonneg := b.magnitude_nonneg
  rw [truncate, hfloor]
  unfold value at h
  split at h
  · next hn =>
    have : (a : ℚ) ≤ 0 := by linarith
    have : a ≤ 0 := by exact_mod_cast this
    rw [if_pos hn]
    omega
  · next hn =>
    have : (0 : ℚ) ≤ a := by linarith
    have : 0 ≤ a := by exact_mod_cast this
    rw [if_neg hn]
    omega

/-- The value of a double in the arithmetic of the machine, none for an infinity or no number. -/
def valueOf? (x : Float) : Option ℚ :=
  match x.toModel.unpack with
  | .zero _ => some 0
  | .finite s m e _ => some (s.apply m * 2 ^ e)
  | .infinity _ => none
  | .notANumber => none

/-- The value of a double is the one read off its bits. -/
theorem valueOf?_eq (x : Float) : valueOf? x = (ofFloat? x).map value := by
  obtain ⟨s, e, f, hx⟩ := exists_fields x
  have he := hx.field_lt
  rw [valueOf?, hx.unpack_eq, hx.ofFloat?_eq]
  rcases Nat.eq_zero_or_pos e with rfl | hpos
  · rcases Nat.eq_zero_or_pos f with rfl | hfpos
    · rw [unpack_packed_zero]
      simp [ofFields, value, magnitude]
    · rw [unpack_packed_subnormal hx.fraction_lt hfpos]
      cases s <;> simp [ofFields, value, magnitude, Sign.apply, Sign.toBitVec]
  · by_cases htop : e = 2047
    · subst htop
      rw [unpack_packed_top hx.fraction_lt]
      by_cases hf : f = 0
      · rw [if_pos hf]
        rfl
      · rw [if_neg hf]
        rfl
    · rw [unpack_packed hpos (by omega) hx.fraction_lt, if_neg htop]
      have hne : e ≠ 0 := hpos.ne'
      cases s
      · simp [ofFields, value, magnitude, Sign.apply, Sign.toBitVec, hne]
        ring
      · simp [ofFields, value, magnitude, Sign.apply, Sign.toBitVec, hne]

theorem exists_of_valueOf? (h : valueOf? x = some v) : ∃ b, ofFloat? x = some b ∧ b.value = v := by
  rwa [valueOf?_eq, Option.map_eq_some_iff] at h

/-- A whole number up to `2 ^ 53` is a double. -/
theorem valueOf?_ofNat {n : ℕ} (h : n ≤ 2 ^ 53) : valueOf? (ofNat n) = some (n : ℚ) := by
  obtain ⟨b, hb, hpositive, hpos, hwhole⟩ := exists_ofFloat?_ofNat h
  rw [valueOf?_eq, hb, Option.map_some, value, hpositive, if_neg Bool.false_ne_true, magnitude_eq,
    hwhole, Nat.cast_mul, mul_div_cancel_right₀ _ (Nat.cast_ne_zero.2 hpos.ne')]

/-- A number has a whole value if and only if it has no digits behind the point. -/
theorem isWhole_iff {b : Binary} : b.isWhole = true ↔ ∃ n : ℕ, b.magnitude = n := by
  have hden : (b.fraction.2 : ℚ) ≠ 0 := Nat.cast_ne_zero.2 b.fraction_pos.ne'
  rw [isWhole, beq_iff_eq, ← Nat.dvd_iff_mod_eq_zero, magnitude_eq]
  constructor
  · rintro ⟨n, hn⟩
    exact ⟨n, by rw [hn, Nat.cast_mul, mul_div_cancel_left₀ _ hden]⟩
  · rintro ⟨n, hn⟩
    rw [div_eq_iff hden] at hn
    exact ⟨n, by rw [Nat.mul_comm]; exact_mod_cast hn⟩

/-! ## Signs -/

theorem ofFloat?_neg (h : ofFloat? x = some b) :
    ofFloat? (-x) = some { b with negative := !b.negative } := by
  obtain ⟨s, e, f, he, hx, rfl⟩ := exists_fields_of_ofFloat? h
  rw [(hx.neg he).ofFloat?_eq, if_neg he.ne]
  cases s <;> rfl

theorem valueOf?_neg (h : valueOf? x = some v) : valueOf? (-x) = some (-v) := by
  obtain ⟨b, hb, rfl⟩ := exists_of_valueOf? h
  rw [valueOf?_eq, ofFloat?_neg hb]
  cases hn : b.negative <;> simp [value, magnitude, hn]

/-- A double is below zero if its value is. -/
theorem lt_zero_iff (h : valueOf? x = some v) : x < 0 ↔ v < 0 := by
  have hzero : (0 : Float).toModel.unpack = .zero .positive := by rfl
  have hlt : x < 0 ↔ UnpackedFloat.lt x.toModel.unpack (.zero .positive) = true := by
    rw [← hzero]
    exact decide_eq_true_iff
  rw [hlt]
  unfold valueOf? at h
  split at h
  · next s hs =>
    obtain rfl := Option.some.inj h
    rw [hs]
    simp [UnpackedFloat.lt, UnpackedFloat.compare]
  · next s m e hm hs =>
    obtain rfl := Option.some.inj h
    have hpos : (0 : ℚ) < m * 2 ^ e := mul_pos (Nat.cast_pos.2 hm) (zpow_pos (by norm_num) _)
    rw [hs]
    cases s
    · simpa [UnpackedFloat.lt, UnpackedFloat.compare, Sign.apply] using hpos
    · simpa [UnpackedFloat.lt, UnpackedFloat.compare, Sign.apply] using hpos.le
  · cases h
  · cases h

/-! ## Doubles of one value -/

theorem eq_of_exponent_le {c : Binary} (hb : IsDouble b) (hc : IsDouble c)
    (h : b.magnitude = c.magnitude) (hle : b.exponent ≤ c.exponent) :
    b.mantissa = c.mantissa ∧ b.exponent = c.exponent := by
  have hpow : (2 : ℚ) ^ c.exponent = 2 ^ b.exponent * 2 ^ (c.exponent - b.exponent) := by
    rw [← zpow_add₀ two_ne_zero]
    congr 1
    omega
  have hquotient : (b.mantissa : ℚ) = c.mantissa * 2 ^ (c.exponent - b.exponent) := by
    refine mul_right_cancel₀ (zpow_ne_zero b.exponent (two_ne_zero (α := ℚ))) ?_
    rw [magnitude, magnitude, hpow] at h
    rw [h]
    ring
  rcases hle.eq_or_lt with heq | hlt
  · rw [heq, sub_self, zpow_zero, mul_one] at hquotient
    exact ⟨Nat.cast_injective hquotient, heq⟩
  · -- The number of the greater exponent has all its 53 bits.
    have hlow : 2 ^ 52 ≤ c.mantissa := hc.normal.resolve_left (by have := hb.exponent_ge; omega)
    have htwo : (2 : ℚ) ≤ 2 ^ (c.exponent - b.exponent) := by
      calc (2 : ℚ) = 2 ^ (1 : ℤ) := (zpow_one _).symm
        _ ≤ 2 ^ (c.exponent - b.exponent) := zpow_le_zpow_right₀ (by norm_num) (by omega)
    have hlow' : (2 ^ 52 : ℚ) ≤ c.mantissa := by exact_mod_cast hlow
    have hlt' : (b.mantissa : ℚ) < 2 ^ 53 := by exact_mod_cast hb.mantissa_lt
    have : (2 ^ 52 : ℚ) * 2 ≤ b.mantissa := by
      rw [hquotient]
      exact mul_le_mul hlow' htwo (by norm_num) (Nat.cast_nonneg _)
    linarith

/-- Numbers of one magnitude have the same mantissa and exponent. -/
theorem eq_of_magnitude {c : Binary} (hb : IsDouble b) (hc : IsDouble c)
    (h : b.magnitude = c.magnitude) : b.mantissa = c.mantissa ∧ b.exponent = c.exponent := by
  rcases Int.le_total b.exponent c.exponent with hle | hle
  · exact eq_of_exponent_le hb hc h hle
  · obtain ⟨hm, he⟩ := eq_of_exponent_le hc hb h.symm hle
    exact ⟨hm.symm, he.symm⟩

/-- But for the two zeros, there is one double of a value. -/
theorem eq_of_value (hx : valueOf? x = some v) (hy : valueOf? y = some v) (hv : v ≠ 0) :
    x = y := by
  obtain ⟨b, hb, rfl⟩ := exists_of_valueOf? hx
  obtain ⟨c, hc, hvalue⟩ := exists_of_valueOf? hy
  have habs : b.magnitude = c.magnitude := by rw [← abs_value, ← abs_value, hvalue]
  have hne : b.magnitude ≠ 0 := by rwa [← abs_value, abs_ne_zero]
  obtain ⟨hm, he⟩ := eq_of_magnitude (isDouble_of_ofFloat? hb) (isDouble_of_ofFloat? hc) habs
  have hsign : b.negative = c.negative := by
    have hpos := b.magnitude_nonneg.lt_of_ne' hne
    unfold value at hvalue
    rw [← habs] at hvalue
    cases hn : b.negative <;> cases hn' : c.negative <;> simp [hn, hn'] at hvalue ⊢ <;> linarith
  obtain ⟨negative, mantissa, exponent⟩ := b
  obtain ⟨negative', mantissa', exponent'⟩ := c
  dsimp only at hm he hsign
  subst hm he hsign
  exact ofFloat?_injective hb hc

end Binary

end Worksheet
