import Mathlib
import Worksheet.Number.Fixed

/-!
# Doubles of whole numbers

Up to `2 ^ 53` every whole number is a double: the quotient that is rounded is exact, whatever
multiple of both sides is taken (`nearestBits_mul`). Such a double is a normal number, given by its
sign, its exponent field and its fraction (`IsPacked`), on which signs and differences are computed
without rounding. Its exact value is the whole number again (`exists_ofFloat?_ofNat`).
-/

namespace Worksheet

namespace Binary

open Float.Model UnpackedFloat

/-! ## Sign, exponent and fraction -/

/-- The bits of a sign, an exponent field and a fraction. -/
def packed (s : Sign) (e f : Nat) : BitVec 64 :=
  packComponents Format.binary64 s (BitVec.ofNat _ e) (BitVec.ofNat _ f)

variable {s : Sign} {e f : Nat}

theorem toNat_packed (he : e < 2048) (hf : f < 2 ^ 52) :
    (packed s e f).toNat = s.toBitVec.toNat * 2 ^ 63 + e * 2 ^ 52 + f := by
  unfold packed packComponents
  simp only [BitVec.toNat_append, BitVec.toNat_ofNat]
  rw [Nat.mod_eq_of_lt he, Nat.mod_eq_of_lt hf, ← Nat.shiftLeft_add_eq_or_of_lt hf,
    ← Nat.shiftLeft_add_eq_or_of_lt he, Nat.shiftLeft_eq, Nat.shiftLeft_eq]
  omega

theorem unpackSign_packed (he : e < 2048) (hf : f < 2 ^ 52) :
    @unpackSign Format.binary64 (packed s e f) = s.toBitVec := by
  apply BitVec.eq_of_toNat_eq
  have h := toNat_packed (s := s) he hf
  simp only [unpackSign, BitVec.toNat_cast, BitVec.extractLsb_toNat, h, Nat.shiftRight_eq_div_pow]
  cases s <;> simp [Sign.toBitVec] <;> omega

theorem ofBitVec_toBitVec : Sign.ofBitVec s.toBitVec = s := by cases s <;> rfl

/-- A double is read as it is packed. -/
theorem unpack_packed (he : 0 < e) (he' : e < 2047) (hf : f < 2 ^ 52) :
    UnpackedFloat.unpack Format.binary64 (packed s e f) =
      .finite s (2 ^ 52 + f) ((e : Int) - 1075) (by omega) := by
  have hexp : @unpackExponent Format.binary64 (packed s e f) = BitVec.ofNat _ e :=
    unpackExponent_packComponents
  have hman : @unpackMantissa Format.binary64 (packed s e f) = BitVec.ofNat _ f :=
    unpackMantissa_packComponents
  have hone : BitVec.ofNat 11 e ≠ -1#11 := by
    intro h
    have := congrArg BitVec.toNat h
    simp at this
    omega
  have hzero : BitVec.ofNat 11 e ≠ 0#11 := by
    intro h
    have := congrArg BitVec.toNat h
    simp at this
    omega
  unfold UnpackedFloat.unpack
  simp only [hexp, hman, unpackSign_packed (show e < 2048 by omega) hf, ofBitVec_toBitVec]
  rw [if_neg hone, if_neg hzero]
  have hm : (1#1 ++ BitVec.ofNat 52 f).toNat = 2 ^ 52 + f := by
    rw [BitVec.toNat_append, BitVec.toNat_ofNat, BitVec.toNat_ofNat, Nat.mod_eq_of_lt hf,
      ← Nat.shiftLeft_add_eq_or_of_lt hf]
    rfl
  have hx : ((BitVec.ofNat 11 e).toNat : Int) - (Format.binary64.exponentBias + (52 : Nat)) =
      (e : Int) - 1075 := by
    rw [BitVec.toNat_ofNat, Nat.mod_eq_of_lt (show e < 2 ^ 11 by omega)]
    simp [Format.exponentBias]
  simp only [hx, hm]

theorem pack_finite (he : 0 < e) (he' : e < 2047) (hf : f < 2 ^ 52) {h : 0 < 2 ^ 52 + f} :
    UnpackedFloat.pack Format.binary64 (.finite s (2 ^ 52 + f) ((e : Int) - 1075) h) =
      packed s e f := by
  have hlog : (2 ^ 52 + f).log2 = 52 := (Nat.log2_eq_iff (by omega)).2 ⟨by omega, by omega⟩
  have hexp : ((e : Int) - 1075 + (Format.binary64.exponentBias : Nat) + (52 : Nat)).toNat = e := by
    simp [Format.exponentBias]
    omega
  rw [UnpackedFloat.pack]
  simp only [hlog, hexp]
  have hbits : 52 + 1 = Format.binary64.mantissaBits := rfl
  rw [if_neg (show ¬2 ^ 11 ≤ e + 1 by omega), if_pos hbits, packed]
  congr 1
  apply BitVec.eq_of_toNat_eq
  rw [BitVec.toNat_ofNat, BitVec.toNat_ofNat]
  omega

/-- The double has the sign, the exponent field `e` and the fraction `f`, and is a normal number. -/
structure IsPacked (x : Float) (s : Sign) (e f : Nat) : Prop where
  pos : 0 < e
  finite : e < 2047
  fraction_lt : f < 2 ^ 52
  bits : x.toBits.toBitVec = packed s e f

theorem float_ext {x y : Float} (h : x.toBits.toBitVec = y.toBits.toBitVec) : x = y := by
  obtain ⟨⟨a, ha⟩⟩ := x
  obtain ⟨⟨b, hb⟩⟩ := y
  have hab : a = b := UInt64.toBitVec_inj.1 h
  subst hab
  rfl

namespace IsPacked

variable {x : Float}

theorem unpack_eq (h : IsPacked x s e f) :
    x.toModel.unpack = .finite s (2 ^ 52 + f) ((e : Int) - 1075) (by omega) := by
  show UnpackedFloat.unpack Format.binary64 x.toBits.toBitVec = _
  rw [h.bits, unpack_packed h.pos h.finite h.fraction_lt]

theorem of_bits {w : UInt64} (hpos : 0 < e) (hfinite : e < 2047) (hf : f < 2 ^ 52)
    (hw : w.toBitVec = packed s e f) : IsPacked (Float.ofBits w) s e f := by
  refine ⟨hpos, hfinite, hf, ?_⟩
  show UnpackedFloat.pack Format.binary64 (UnpackedFloat.unpack Format.binary64 w.toBitVec) = _
  rw [hw, unpack_packed hpos hfinite hf, pack_finite hpos hfinite hf]

theorem neg (h : IsPacked x s e f) : IsPacked (-x) (-s) e f := by
  refine ⟨h.pos, h.finite, h.fraction_lt, ?_⟩
  show UnpackedFloat.pack Format.binary64 x.toModel.unpack.neg = _
  rw [h.unpack_eq]
  exact pack_finite h.pos h.finite h.fraction_lt

theorem abs_eq (h : IsPacked x .positive e f) : x.abs = x := by
  refine float_ext ?_
  show UnpackedFloat.pack Format.binary64 x.toModel.unpack.abs = _
  rw [h.unpack_eq, h.bits]
  exact pack_finite h.pos h.finite h.fraction_lt

theorem sub_self (h : IsPacked x s e f) : x - x = 0 := by
  refine float_ext ?_
  show UnpackedFloat.pack Format.binary64
    (UnpackedFloat.sub Format.binary64 x.toModel.unpack x.toModel.unpack) = _
  rw [h.unpack_eq, UnpackedFloat.sub]
  simp only [Int.sub_self]
  rfl

theorem not_lt_zero (h : IsPacked x .positive e f) : ¬x < 0 := by
  show ¬(decide (UnpackedFloat.lt x.toModel.unpack (0 : Float).toModel.unpack = true)) = true
  rw [h.unpack_eq]
  have hzero : (0 : Float).toModel.unpack = .zero .positive := by rfl
  rw [hzero]
  show ¬decide ((some Ordering.gt == some Ordering.lt) = true) = true
  decide

theorem ofFloat?_eq (h : IsPacked x s e f) :
    ofFloat? x = some ⟨s.toBitVec == 1#1, 2 ^ 52 + f, (e : Int) - 1075⟩ := by
  have hbits : x.toBits.toNat = s.toBitVec.toNat * 2 ^ 63 + e * 2 ^ 52 + f := by
    rw [← toNat_packed (by have := h.finite; omega) h.fraction_lt, ← h.bits]
    rfl
  have hsign : s.toBitVec.toNat < 2 := s.toBitVec.isLt
  have hf := h.fraction_lt
  have hpos := h.pos
  have hfinite := h.finite
  have hfield : x.toBits.toNat / Nat.pow 2 52 % Nat.pow 2 11 = e := by
    rw [hbits, Nat.pow_eq, Nat.pow_eq]
    omega
  have hfraction : x.toBits.toNat % Nat.pow 2 52 = f := by
    rw [hbits, Nat.pow_eq]
    omega
  have hnegative : (x.toBits.toNat / Nat.pow 2 63 % 2 == 1) = (s.toBitVec == 1#1) := by
    rw [hbits, Nat.pow_eq]
    cases s <;> simp [Sign.toBitVec] <;> omega
  unfold ofFloat?
  simp only [hfield, hfraction, hnegative]
  rw [if_neg (by omega), if_neg (by omega), Nat.pow_eq, Nat.add_comm]

end IsPacked

/-! ## Whole numbers -/

/-- The bits of the quotient of a multiple: the exponent is that of the highest bit, and the
fraction is exact. -/
theorem nearestBits_mul {n c : Nat} (hn : 0 < n) (hmax : n ≤ 2 ^ 53) (hc : 0 < c) :
    ∃ f < 2 ^ 52, (2 ^ 52 + f) * 2 ^ n.log2 = n * 2 ^ 52 ∧
      nearestBits (n * c) c = (n.log2 + 1023) * 2 ^ 52 + f := by
  have hlog : n.log2 ≤ 53 := by
    have := (Nat.log2_lt (k := 54) (by omega)).2 (show n < 2 ^ 54 by omega)
    omega
  have hself := Nat.log2_self_le (show n ≠ 0 by omega)
  have hlt := @Nat.lt_log2_self n
  generalize n.log2 = l at hlog hself hlt ⊢
  -- The highest bit of the product is that of both factors, or the next one.
  have hprod : (n * c).log2 = l + c.log2 ∨ (n * c).log2 = l + c.log2 + 1 := by
    have hc' := Nat.log2_self_le (show c ≠ 0 by omega)
    have hc'' := @Nat.lt_log2_self c
    have hlow : l + c.log2 ≤ (n * c).log2 := by
      rw [Nat.le_log2 (Nat.mul_pos hn hc).ne', Nat.pow_add]
      exact Nat.mul_le_mul hself hc'
    have hhigh : (n * c).log2 < l + c.log2 + 2 := by
      rw [Nat.log2_lt (Nat.mul_pos hn hc).ne', show l + c.log2 + 2 = (l + 1) + (c.log2 + 1) by omega,
        Nat.pow_add]
      exact Nat.mul_lt_mul'' hlt hc''
    omega
  have hnum : n * c ≠ 0 := (Nat.mul_pos hn hc).ne'
  rw [nearestBits, if_neg hnum]
  extract_lets top quotient k₀ k m
  have hquotient (j : Nat) : quotient (-(j : Int)) = (n * c * 2 ^ j, c) := by
    cases j with
    | zero =>
      show (n * c, c * 2 ^ 0) = _
      rw [Nat.pow_zero, Nat.mul_one, Nat.mul_one]
    | succ j => rfl
  have hk₀ : k₀ = l - 53 ∨ k₀ = l - 52 := by omega
  have hmax' : (l : Int) - 52 + 1074 = l + 1022 := by omega
  rcases Nat.lt_or_ge l 53 with hl | hl
  · have hfits : n * 2 ^ (52 - l) < 2 ^ 53 := by
      calc n * 2 ^ (52 - l) < 2 ^ (l + 1) * 2 ^ (52 - l) :=
            Nat.mul_lt_mul_of_pos_right hlt (Nat.two_pow_pos _)
        _ = 2 ^ 53 := by rw [← Nat.pow_add]; congr 1; omega
    have hover : 2 ^ 53 ≤ n * 2 ^ (53 - l) := by
      calc 2 ^ 53 = 2 ^ l * 2 ^ (53 - l) := by rw [← Nat.pow_add]; congr 1; omega
        _ ≤ n * 2 ^ (53 - l) := Nat.mul_le_mul_right _ hself
    have hdiv (j : Nat) : n * c * 2 ^ j / c = n * 2 ^ j := by
      rw [Nat.mul_right_comm, Nat.mul_div_cancel _ hc]
    have hk : k = l - 52 := by
      show (if (quotient k₀).1 / (quotient k₀).2 < 2 ^ 53 then k₀ else k₀ + 1) = _
      rcases hk₀ with h | h
      · rw [h, show (l : Int) - 53 = -((53 - l : Nat) : Int) by omega, hquotient, hdiv,
          if_neg (by omega)]
        omega
      · rw [h, show (l : Int) - 52 = -((52 - l : Nat) : Int) by omega, hquotient, hdiv,
          if_pos hfits]
    have hm : m = n * 2 ^ (52 - l) := by
      show roundDiv (quotient k).1 (quotient k).2 = _
      rw [hk, show (l : Int) - 52 = -((52 - l : Nat) : Int) by omega, hquotient, roundDiv]
      dsimp only
      rw [hdiv, Nat.mul_right_comm, Nat.mul_mod_left]
      simp [hc]
    have hlow : 2 ^ 52 ≤ m := by
      rw [hm]
      calc 2 ^ 52 = 2 ^ l * 2 ^ (52 - l) := by rw [← Nat.pow_add]; congr 1; omega
        _ ≤ n * 2 ^ (52 - l) := Nat.mul_le_mul_right _ hself
    have hexact : m * 2 ^ l = n * 2 ^ 52 := by
      rw [hm, Nat.mul_assoc, ← Nat.pow_add, show 52 - l + l = 52 by omega]
    rw [← hm] at hfits
    clear_value m k
    refine ⟨m - 2 ^ 52, by omega, by rw [Nat.add_sub_cancel' hlow, hexact], ?_⟩
    have he : (k + 1074).toNat = l + 1022 := by omega
    have hfinite : (l + 1022) * 2 ^ 52 + m ≤ 2047 * 2 ^ 52 := by omega
    have hcarry : (l + 1022) * 2 ^ 52 + m = (l + 1023) * 2 ^ 52 + (m - 2 ^ 52) := by omega
    rw [he, infinityBits, Nat.pow_eq, Nat.min_eq_left hfinite, hcarry]
  · -- Only the bound itself has that many bits.
    obtain rfl : l = 53 := by omega
    have htop : n = 2 ^ 53 := Nat.le_antisymm hmax hself
    have hone : quotient 1 = (n * c, c * 2) := rfl
    have hzero := hquotient 0
    rw [Nat.pow_zero, Nat.mul_one] at hzero
    have hhalf : n * c / (c * 2) = n / 2 := by
      rw [Nat.mul_comm n, Nat.mul_div_mul_left _ _ hc]
    have hk : k = 1 := by
      show (if (quotient k₀).1 / (quotient k₀).2 < 2 ^ 53 then k₀ else k₀ + 1) = _
      rcases hk₀ with h | h
      · rw [h]
        show (if (quotient (-((0 : Nat) : Int))).1 / (quotient (-((0 : Nat) : Int))).2 < 2 ^ 53
          then (0 : Int) else 1) = 1
        rw [hzero, Nat.mul_div_cancel _ hc, if_neg (by omega)]
      · rw [h]
        show (if (quotient 1).1 / (quotient 1).2 < 2 ^ 53 then (1 : Int) else 2) = 1
        rw [hone, hhalf, if_pos (by omega)]
    have hm : m = n / 2 := by
      show roundDiv (quotient k).1 (quotient k).2 = _
      have heven : n * c % (c * 2) = 0 := by
        rw [Nat.mul_comm n, Nat.mul_mod_mul_left, show n % 2 = 0 by omega, Nat.mul_zero]
      rw [hk, hone, roundDiv, hhalf, heven]
      simp [hc]
    refine ⟨0, Nat.two_pow_pos 52, by rw [htop, Nat.add_zero, Nat.mul_comm], ?_⟩
    have he : (k + 1074).toNat = 1075 := by omega
    rw [he, infinityBits, Nat.pow_eq, hm]
    omega

/-- A whole number of at most 53 bits is a double. -/
theorem exists_isPacked_ofNat {n : Nat} (hn : 0 < n) (hmax : n ≤ 2 ^ 53) :
    ∃ f, (2 ^ 52 + f) * 2 ^ n.log2 = n * 2 ^ 52 ∧
      IsPacked (ofNat n) .positive (n.log2 + 1023) f := by
  obtain ⟨f, hf, hexact, hbits⟩ := nearestBits_mul hn hmax Nat.one_pos
  rw [Nat.mul_one] at hbits
  have hlog : n.log2 < 54 := (Nat.log2_lt hn.ne').2 (by omega)
  refine ⟨f, hexact, .of_bits (by omega) (by omega) hf (BitVec.eq_of_toNat_eq ?_)⟩
  rw [toNat_packed (by omega) hf]
  show (UInt64.ofNat (nearestBits n 1)).toNat = _
  rw [hbits, UInt64.toNat_ofNat']
  simp only [Sign.toBitVec]
  have : (0#1).toNat = 0 := rfl
  omega

/-- The absolute value is the whole number `n`. -/
def IsWholeOf (b : Binary) (n : Nat) : Prop := 0 < b.fraction.2 ∧ b.fraction.1 = n * b.fraction.2

theorem isWholeOf_of_exact {b : Binary} {n : Nat} (h : b.mantissa * 2 ^ n.log2 = n * 2 ^ 52)
    (he : b.exponent = (n.log2 : Int) - 52) : b.IsWholeOf n := by
  unfold IsWholeOf fraction
  generalize n.log2 = l at h he
  rw [he]
  split
  · next k hk =>
    have hk' : (l : Int) - 52 = k := hk
    obtain rfl : l = k + 52 := by omega
    refine ⟨Nat.one_pos, ?_⟩
    dsimp only
    rw [Nat.pow_add, ← Nat.mul_assoc] at h
    rw [Nat.mul_one, Nat.pow_eq]
    exact Nat.eq_of_mul_eq_mul_right (Nat.two_pow_pos 52) h
  · next k hk =>
    obtain ⟨hl, hk⟩ : l < 52 ∧ k + 1 = 52 - l := by omega
    refine ⟨Nat.two_pow_pos _, ?_⟩
    dsimp only
    rw [Nat.pow_eq, hk]
    refine Nat.eq_of_mul_eq_mul_right (Nat.two_pow_pos l) ?_
    rw [h, Nat.mul_assoc, ← Nat.pow_add, show 52 - l + l = 52 by omega]

theorem isWholeOf_zero {negative : Bool} {exponent : Int} :
    IsWholeOf ⟨negative, 0, exponent⟩ 0 := by
  unfold IsWholeOf fraction
  split
  · exact ⟨Nat.one_pos, by simp⟩
  · exact ⟨Nat.two_pow_pos _, by simp⟩

theorem IsWholeOf.floor {b : Binary} {n : Nat} (h : b.IsWholeOf n) : b.floor = n := by
  rw [Binary.floor, h.2, Nat.mul_div_cancel _ h.1]

theorem IsWholeOf.scaled {b : Binary} {n : Nat} (h : b.IsWholeOf n) (places : Nat) :
    b.scaled places = n * 10 ^ places := by
  have hcomm : n * b.fraction.2 * 10 ^ places = b.fraction.2 * (n * 10 ^ places) := by ring
  rw [Binary.scaled, h.2, Nat.pow_eq, hcomm, roundDiv]
  simp only [Nat.mul_div_cancel_left _ h.1, Nat.mul_mod_right]
  rw [if_pos (by simpa using h.1)]

/-- The double of a whole number has its value. -/
theorem exists_ofFloat?_ofNat {n : Nat} (hmax : n ≤ 2 ^ 53) :
    ∃ b, ofFloat? (ofNat n) = some b ∧ b.negative = false ∧ b.IsWholeOf n := by
  rcases Nat.eq_zero_or_pos n with rfl | hn
  · exact ⟨⟨false, 0, -1074⟩, by decide +kernel, rfl, isWholeOf_zero⟩
  · obtain ⟨f, hexact, hx⟩ := exists_isPacked_ofNat hn hmax
    refine ⟨_, hx.ofFloat?_eq, rfl, isWholeOf_of_exact hexact ?_⟩
    dsimp only
    omega

theorem exists_ofFloat?_neg {n : Nat} (hn : 0 < n) (hmax : n ≤ 2 ^ 53) :
    ∃ b, ofFloat? (-(ofNat n)) = some b ∧ b.negative = true ∧ b.IsWholeOf n := by
  obtain ⟨f, hexact, hx⟩ := exists_isPacked_ofNat hn hmax
  refine ⟨_, hx.neg.ofFloat?_eq, rfl, isWholeOf_of_exact hexact ?_⟩
  dsimp only
  omega

end Binary

end Worksheet
