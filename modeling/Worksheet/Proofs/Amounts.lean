import Worksheet.Proofs.Doubles
import Worksheet.Proofs.Respacing
import Worksheet.Proofs.Unmarked

/-!
# Whole amounts are read back

A whole number of at most `2 ^ 53` is shown with its digits in groups, an amount of dollars with two
zeros behind the point. Both are read back as what was shown: the commas are dropped, and the
quotient by a hundred is exact.
-/

namespace Worksheet

/-! ## Whole amounts as text -/

namespace Amount

open Text (ofNat padLeft)
open Binary (IsWholeOf)

variable {n : Nat}

theorem plainDigits_mul (n : Nat) : plainDigits (n * 10 ^ 10) = Fixed.grouped (ofNat n) := by
  have hzeros : trimZeros (Fixed.fractionDigits 10 (n * 10 ^ 10)) = [] := by
    rw [Fixed.fractionDigits, Nat.pow_eq, Nat.mul_mod_left]
    decide +kernel
  rw [plainDigits, hzeros, Nat.pow_eq, Nat.mul_div_cancel _ (Nat.pow_pos (by decide))]

/-- A whole number is shown with its digits in groups. -/
theorem format_ofNat (hmax : n ≤ 2 ^ 53) :
    format (Binary.ofNat n) false = Fixed.grouped (ofNat n) := by
  obtain ⟨b, hb, hpos, hwhole⟩ := Binary.exists_ofFloat?_ofNat hmax
  rw [format, hb]
  dsimp only
  rw [if_neg Bool.false_ne_true, plain, hpos, hwhole.scaled]
  simp only [Bool.false_and, Bool.false_eq_true, if_false, plainDigits_mul]

theorem format_neg (hn : 0 < n) (hmax : n ≤ 2 ^ 53) :
    format (-(Binary.ofNat n)) false = '-' :: Fixed.grouped (ofNat n) := by
  obtain ⟨b, hb, hneg, hwhole⟩ := Binary.exists_ofFloat?_neg hn hmax
  have hne : (n * 10 ^ 10 != 0) = true := bne_iff_ne.2 (Nat.mul_pos hn (Nat.pow_pos (by decide))).ne'
  rw [format, hb]
  dsimp only
  rw [if_neg Bool.false_ne_true, plain, hneg, hwhole.scaled]
  simp only [hne, Bool.and_self, if_true, plainDigits_mul]

/-- An amount of whole dollars has no cents. -/
theorem format_currency (hmax : n ≤ 2 ^ 53) :
    format (Binary.ofNat n) true = '$' :: (Fixed.grouped (ofNat n) ++ ".00".toList) := by
  obtain ⟨b, hb, -, hwhole⟩ := Binary.exists_ofFloat?_ofNat hmax
  obtain ⟨habs, hsub, hlt⟩ : (Binary.ofNat n).abs = Binary.ofNat n ∧
      Binary.ofNat n - Binary.ofNat n = 0 ∧ ¬Binary.ofNat n < 0 := by
    rcases Nat.eq_zero_or_pos n with rfl | hn
    · exact ⟨Binary.float_ext (by decide +kernel), Binary.float_ext (by decide +kernel), by decide +kernel⟩
    · obtain ⟨f, -, hx⟩ := Binary.exists_isPacked_ofNat hn hmax
      exact ⟨hx.abs_eq, hx.sub_self, hx.not_lt_zero⟩
  have hcents : cents (Binary.ofNat n) n = 0 := by
    rw [cents, hsub]
    decide +kernel
  rw [format, hb]
  dsimp only
  rw [if_pos rfl, currency, habs, hb, Option.map_some, Option.getD_some, hwhole.floor, hcents]
  have hcarry : (if (0 : Nat) = 100 then (n + 1, 0) else (n, 0)) = (n, 0) := if_neg (by decide)
  have hplaces : '.' :: padLeft '0' 2 (ofNat 0) = ".00".toList := by decide
  simp only [hlt, if_false, hcarry, hplaces]

end Amount

/-! ## Digits in groups -/

namespace Fixed

variable {t : Text} {p : Char → Bool}

theorem filter_groupReversed (h : ',' ∉ t) : (groupReversed t).filter (· != ',') = t := by
  fun_induction groupReversed t with
  | case1 a b c d r ih =>
    simp only [List.mem_cons, not_or] at h
    obtain ⟨ha, hb, hc, hr⟩ := h
    have hr' : ',' ∉ d :: r := by simpa using hr
    simp [Ne.symm ha, Ne.symm hb, Ne.symm hc, ih hr']
  | case2 t _ => exact List.filter_eq_self.2 fun c hc => bne_iff_ne.2 fun he => h (he ▸ hc)

/-- Without its commas, a grouped number is the number. -/
theorem filter_grouped (h : ',' ∉ t) : (grouped t).filter (· != ',') = t := by
  rw [grouped, List.filter_reverse, filter_groupReversed (by simpa using h), List.reverse_reverse]

theorem all_grouped (hp : p ',' = true) (h : t.all p = true) : (grouped t).all p = true := by
  have hrev {t : Text} (h : t.all p = true) : (groupReversed t).all p = true := by
    fun_induction groupReversed t with
    | case1 a b c d r ih =>
      simp only [List.all_cons, Bool.and_eq_true] at h
      obtain ⟨ha, hb, hc, hr⟩ := h
      have hr' : (d :: r).all p = true := by simpa using hr
      simp [ha, hb, hc, hp, ih hr']
    | case2 => exact h
  rw [grouped, List.all_reverse]
  exact hrev (by rwa [List.all_reverse])

/-- A grouped number begins with its first digit. -/
theorem head?_grouped : (grouped t).head? = t.head? := by
  have hlast {t : Text} : (groupReversed t).getLast? = t.getLast? := by
    fun_induction groupReversed t with
    | case1 a b c d r ih => simp [List.getLast?_cons, ih]
    | case2 => rfl
  rw [grouped, List.head?_reverse, hlast, List.getLast?_reverse]

/-- A grouped number ends with its last digit. -/
theorem getLast?_grouped : (grouped t).getLast? = t.getLast? := by
  have hhead {t : Text} : (groupReversed t).head? = t.head? := by
    fun_cases groupReversed t <;> rfl
  rw [grouped, List.getLast?_reverse, hhead, List.head?_reverse]

end Fixed

/-! ## Reading back -/

namespace Literal

open Text

theorem digitsValue_ofNat (n : Nat) : digitsValue (ofNat n) = n := Nat.ofDigitChars_ten_toDigits

theorem ofNat_ne_nil (n : Nat) : ofNat n ≠ [] := Nat.toDigits_ne_nil

theorem ofNat_zero : (0 : Float) = Binary.ofNat 0 := Binary.float_ext (by decide +kernel)

/-- The size of a whole number of at most 60 bits is far from both bounds. -/
theorem size_bounds {n : Nat} (hn : 0 < n) (hmax : n < 2 ^ 60) :
    0 ≤ (n.log2 : Int) * 3 / 10 ∧ (n.log2 : Int) * 3 / 10 ≤ 18 := by
  have hlog := (Nat.log2_lt hn.ne').2 hmax
  omega

/-- Digits are read as the double of their number. -/
theorem toFloat_whole {n : Nat} (hmax : n ≤ 2 ^ 53) :
    Decimal.toFloat ⟨n, 0⟩ = Binary.ofNat n := by
  rcases Nat.eq_zero_or_pos n with rfl | hn
  · exact ofNat_zero
  · have hsize := size_bounds hn (by omega)
    unfold Decimal.toFloat
    dsimp only
    rw [if_neg hn.ne', if_neg (by omega), if_neg (by omega)]
    show Binary.nearest (n * Nat.pow 10 0) 1 = _
    rw [Nat.pow_eq, Nat.pow_zero, Nat.mul_one]
    rfl

/-- Hundredths of a hundredfold are the number itself. -/
theorem toFloat_hundredths {n : Nat} (hmax : n ≤ 2 ^ 53) :
    Decimal.toFloat ⟨n * 100, -2⟩ = Binary.ofNat n := by
  rcases Nat.eq_zero_or_pos n with rfl | hn
  · exact ofNat_zero
  · have hsize := size_bounds (n := n * 100) (by omega) (by omega)
    unfold Decimal.toFloat
    dsimp only
    rw [if_neg (by omega), if_neg (by omega), if_neg (by omega)]
    show Binary.nearest (n * 100) (Nat.pow 10 2) = Binary.nearest n 1
    obtain ⟨f, -, hexact, hbits⟩ := Binary.nearestBits_mul hn hmax (c := 100) (by decide)
    obtain ⟨f', -, hexact', hbits'⟩ := Binary.nearestBits_mul hn hmax (c := 1) (by decide)
    have hsame := Nat.eq_of_mul_eq_mul_right (Nat.two_pow_pos _) (hexact.trans hexact'.symm)
    obtain rfl : f = f' := by omega
    rw [Nat.mul_one] at hbits'
    rw [Binary.nearest, Binary.nearest, hbits', ← hbits, Nat.pow_eq]

end Literal

namespace Token

open Text Literal
open Reference (ofNat_ascii notMem_ofNat)

variable {n : Nat} {r : Text}

/-- The value of the digits of a whole number in groups. -/
theorem numeralValue_grouped (hmax : n ≤ 2 ^ 53) :
    numeralValue (Fixed.grouped (ofNat n)) = .ok (Binary.ofNat n) := by
  have hpoint := splitPoint_digits (z := []) (ofNat_ascii n)
  rw [List.append_nil] at hpoint
  have hdecimal : decimal? (ofNat n) = some ⟨n, 0⟩ := by
    unfold decimal?
    rw [hpoint]
    simp [splitPoint, ofNat_ne_nil, exponent?, digitsValue_ofNat]
  rw [numeralValue, Fixed.filter_grouped (notMem_ofNat rfl n), hdecimal]
  exact congrArg Except.ok (toFloat_whole hmax)

theorem numeralValue_cents (hmax : n ≤ 2 ^ 53) :
    numeralValue (Fixed.grouped (ofNat n) ++ ".00".toList) = .ok (Binary.ofNat n) := by
  have hpoint := splitPoint_digits (z := ".00".toList) (ofNat_ascii n)
  have hvalue : digitsValue (ofNat n ++ ['0', '0']) = n * 100 := by
    have hn := digitsValue_ofNat n
    rw [digitsValue, digitsFrom] at hn ⊢
    rw [List.foldl_append, hn]
    show 10 * (10 * n + 0) + 0 = n * 100
    omega
  have hdecimal : decimal? (ofNat n ++ ".00".toList) = some ⟨n * 100, -2⟩ := by
    have hplaces : splitPoint ".00".toList = ([], "00".toList, []) := by decide
    unfold decimal?
    rw [hpoint, hplaces]
    simp [exponent?, hvalue]
  have hcomma : (".00".toList).filter (· != ',') = ".00".toList := by decide
  rw [numeralValue, List.filter_append, Fixed.filter_grouped (notMem_ofNat rfl n), hcomma,
    hdecimal]
  exact congrArg Except.ok (toFloat_hundredths hmax)

/-! ## Tokens of amounts -/

/-- Digits with commas between them. -/
def isGrouped (c : Char) : Bool := isAsciiDigit c || c == ','

theorem all_isGrouped (n : Nat) : (Fixed.grouped (ofNat n)).all isGrouped = true := by
  refine Fixed.all_grouped rfl (List.all_eq_true.2 fun c hc => ?_)
  simp [isGrouped, List.all_eq_true.1 (ofNat_ascii n) c hc]

theorem exists_grouped (n : Nat) : ∃ c w, Fixed.grouped (ofNat n) = c :: w ∧
    isAsciiDigit c = true := by
  obtain ⟨c, u, hu⟩ := List.exists_cons_of_ne_nil (ofNat_ne_nil n)
  have hhead : (Fixed.grouped (ofNat n)).head? = some c := by rw [Fixed.head?_grouped, hu]; rfl
  obtain ⟨w, hw⟩ := List.head?_eq_some_iff.1 hhead
  refine ⟨c, w, hw, List.all_eq_true.1 (ofNat_ascii n) c ?_⟩
  rw [hu]
  exact List.mem_cons_self

theorem numeral_grouped {point : Bool} {w : Text} (hw : w.all isGrouped = true) :
    numeral point (w ++ r) = (w ++ (numeral point r).1, (numeral point r).2) := by
  induction w with
  | nil => rfl
  | cons c w ih =>
    simp only [List.all_cons, Bool.and_eq_true] at hw
    rw [List.cons_append, numeral, if_pos (show (isAsciiDigit c || c == ',') = true from hw.1),
      ih hw.2]
    rfl

/-- No numeral goes on, and no percentage ends. -/
def EndsAmount (r : Text) : Prop := r.head?.any Loose.isNumeral = false ∧ r.head? ≠ some '%'

/-- A number in groups is one token. -/
theorem scanFrom_grouped (hmax : n ≤ 2 ^ 53) (hr : EndsAmount r) :
    scanFrom (Fixed.grouped (ofNat n) ++ r) = (scanFrom r).map fun ts =>
      number (Binary.ofNat n) false (Fixed.grouped (ofNat n)) :: ts := by
  have hvalue := numeralValue_grouped hmax
  have hall := all_isGrouped n
  obtain ⟨c, w, hw, hc⟩ := exists_grouped n
  rw [hw] at hvalue hall ⊢
  simp only [List.all_cons, Bool.and_eq_true] at hall
  have hblank := not_isBlank_of_isDigit (isDigit_of_isAsciiDigit hc)
  have hnumeral (point : Bool) : numeral point (w ++ r) = (w, r) := by
    rw [numeral_grouped hall.2, Loose.numeral_stop hr.1, List.append_nil]
  have hnext : next c (w ++ r) = .ok (some (number (Binary.ofNat n) false (c :: w)), r) := by
    unfold next
    rw [if_neg (by simp [hblank]), if_pos (by simp [hc]), hnumeral]
    dsimp only
    rw [hvalue]
    simp only [Except.map]
    split
    · exact absurd rfl hr.2
    · rfl
  rw [List.cons_append, scanFrom_cons, hnext]
  rfl

/-- An amount of whole dollars is one token. -/
theorem scanFrom_dollars (hmax : n ≤ 2 ^ 53) (hr : EndsAmount r) :
    scanFrom ('$' :: (Fixed.grouped (ofNat n) ++ ".00".toList) ++ r) = (scanFrom r).map fun ts =>
      currency (Binary.ofNat n) ('$' :: (Fixed.grouped (ofNat n) ++ ".00".toList)) :: ts := by
  have hvalue := numeralValue_cents hmax
  have hnumeral : numeral false (Fixed.grouped (ofNat n) ++ ".00".toList ++ r) =
      (Fixed.grouped (ofNat n) ++ ".00".toList, r) := by
    have hplaces : numeral false (".00".toList ++ r) = (".00".toList, r) := by
      show ('.' :: (numeral true (['0', '0'] ++ r)).1, (numeral true (['0', '0'] ++ r)).2) = _
      rw [numeral_grouped (by decide), Loose.numeral_stop hr.1]
      rfl
    rw [List.append_assoc, numeral_grouped (all_isGrouped n), hplaces]
  obtain ⟨c, w, hw, hc⟩ := exists_grouped n
  have hnext : next '$' (Fixed.grouped (ofNat n) ++ ".00".toList ++ r) =
      .ok (some (currency (Binary.ofNat n) ('$' :: (Fixed.grouped (ofNat n) ++ ".00".toList))),
        r) := by
    unfold next
    rw [if_neg (by decide), if_neg (by decide), if_pos (by decide), if_pos (by simp [hw, hc]),
      hnumeral]
    dsimp only
    rw [hvalue]
    rfl
  rw [List.cons_append, scanFrom_cons, hnext]
  rfl

end Token

end Worksheet
