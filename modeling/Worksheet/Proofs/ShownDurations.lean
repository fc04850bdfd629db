import Worksheet.Calendar.Duration
import Worksheet.Proofs.QuotientFloors

/-!
# Durations as they are shown

**Theorem (`Duration.tells_format`).** A span of time is shown in seconds, minutes, hours, or days
and hours, by its length. The number lies within half a unit of its last place of the span, up to
142 years without exception. It is rounded after the unit is chosen, so a span that falls short of
the next unit by less than half a place shows sixty seconds, sixty minutes or twenty-four hours.

The span goes through its seconds and their quotient, each the double nearest to the exact number.
Below a day both errors are smaller than what lies between two whole numbers of microseconds, and
only the spans halfway between two places are decided by them (`exists_hundredths`). From a day on
the whole days are those of the seconds (`exists_days`), and what is left of the seconds is computed
without error; the seconds themselves may be off by a microsecond from 142 years on (`le_drift`).
-/

namespace Worksheet

open Text

/-- A positive double is shown as its value, rounded to the places. -/
theorem Fixed.plain_spec {x : Float} {v : ℚ} (hx : Binary.valueOf? x = some v) (hv : 0 < v)
    (places : ℕ) :
    ∃ k, Fixed.plain places x = Fixed.digits false places k ∧ RoundsTo (v * 10 ^ places) k := by
  obtain ⟨b, hb, rfl⟩ := Binary.exists_of_valueOf? hx
  refine ⟨b.scaled places, ?_, ?_⟩
  · rw [Fixed.plain, Fixed.ofFloat, hb]
    dsimp only
    rw [Binary.negative_of_pos hv]
    rfl
  · rw [← Binary.magnitude_of_nonneg hv.le]
    exact Amount.roundsTo_scaled b places

namespace Duration

open Binary (valueOf?)

/-- What a text tells of a span of `n` microseconds. -/
inductive Tells (n : ℕ) : Text → Prop
  | seconds {k : ℕ} (h : n < 60000000) (near : |(n : ℤ) - 10000 * k| ≤ 5000)
      (carry : k < 6000 ↔ n + 5000 ≤ 60000000) :
      Tells n (Fixed.digits false 2 k ++ " seconds".toList)
  | minutes {k : ℕ} (hlow : 60000000 ≤ n) (h : n < 3600000000)
      (near : |(n : ℤ) - 600000 * k| ≤ 300000) (carry : k < 6000 ↔ n + 300000 ≤ 3600000000) :
      Tells n (Fixed.digits false 2 k ++ " minutes".toList)
  | hours {k : ℕ} (hlow : 3600000000 ≤ n) (h : n < microsPerDay)
      (near : |(n : ℤ) - 36000000 * k| ≤ 18000000) (carry : k < 2400 ↔ n + 18000000 < microsPerDay) :
      Tells n (Fixed.digits false 2 k ++ " hours".toList)
  | days {m : ℕ} (hlow : microsPerDay ≤ n) (near : |(n : ℤ) - microsPerDay * m| ≤ (n / 2 ^ 52 : ℕ)) :
      Tells n (ofNat m ++ " days".toList)
  | daysAndHours {m k : ℕ} (hlow : microsPerDay ≤ n) (h : n < microsPerDay * (m + 1))
      (near : |(n : ℤ) - (microsPerDay * m + 360000000 * k)| ≤ 180000000 + (n / 2 ^ 52 : ℕ))
      (le : k ≤ 240) (carry : n < 2 ^ 52 →
        microsPerDay * m < n ∧ (k < 240 ↔ n + 180000000 ≤ microsPerDay * (m + 1))) :
      Tells n (ofNat m ++ " days".toList ++ ' ' :: Fixed.digits false 1 k ++ " hours".toList)

variable {n c : ℕ} {x : Float} {s w : ℚ}

/-! ## Seconds in doubles -/

/-- The seconds of a span. -/
structure Seconds (n : ℕ) (s : ℚ) : Prop where
  value : valueOf? (Binary.nearest n 1000000) = some s
  nearest : Binary.IsNearest (n / 1000000) (Binary.nearest n 1000000)
  near : |(n : ℚ) - 1000000 * s| ≤ n / 2 ^ 53 + 1 / 1000000

theorem exists_seconds (hn : n < microsPerDay * (maxDays + 1)) : ∃ s, Seconds n s := by
  have hmax : (n : ℚ) < 86400000000000000000 := by exact_mod_cast hn
  have hnear : Binary.IsNearest (n / 1000000) (Binary.nearest n 1000000) := by
    have h := Binary.isNearest_nearest n (show 0 < 1000000 by decide)
      (Binary.le_maxValue (by push_cast; linarith))
    exact_mod_cast h
  obtain ⟨s, hs, herr⟩ := hnear.exists_near (by positivity) (by linarith)
  refine ⟨s, hs, hnear, ?_⟩
  rw [abs_le] at herr ⊢
  constructor <;> linarith

theorem valueOf?_sixty : valueOf? 60 = some (60 : ℕ) := by decide +kernel

theorem valueOf?_hour : valueOf? 3600 = some (3600 : ℕ) := by decide +kernel

theorem valueOf?_day : valueOf? 86400 = some (86400 : ℕ) := by decide +kernel

namespace Seconds

/-- Whole seconds are exact. -/
theorem eq_of_mul (h : Seconds n s) {m : ℕ} (hm : m ≤ 2 ^ 53) (hn : n = 1000000 * m) : s = m := by
  have hnear := h.nearest
  rw [hn, Nat.cast_mul, Nat.cast_ofNat, mul_div_cancel_left₀ _ (by norm_num)] at hnear
  have hvalue := h.value
  rw [hn] at hvalue
  exact Option.some.inj (hvalue.symm.trans (hnear.value_eq (Binary.valueOf?_ofNat hm)))

/-- Whole seconds are not lost. -/
theorem le_of_mul_le (h : Seconds n s) {m : ℕ} (hm : m ≤ 2 ^ 53) (hn : 1000000 * m ≤ n) : m ≤ s := by
  have hnat : (1000000 * m : ℚ) ≤ n := by exact_mod_cast hn
  refine h.nearest.le_of_ge h.value (Binary.valueOf?_ofNat hm) ?_
  rw [le_div_iff₀ (by norm_num)]
  linarith

theorem le_iff_of_nat (h : Seconds n s) {m : ℕ} (hm : m ≤ 86400) : m ≤ s ↔ 1000000 * m ≤ n := by
  have hmax : (m : ℚ) ≤ 86400 := by exact_mod_cast hm
  refine ⟨fun hle => ?_, h.le_of_mul_le (by omega)⟩
  by_contra hlt
  have hnat : (n + 1 : ℚ) ≤ 1000000 * m := by exact_mod_cast not_le.1 hlt
  have := (abs_le.1 h.near).1
  linarith

theorem lt_pow (h : Seconds n s) (hn : n < microsPerDay * (maxDays + 1)) : s < 2 ^ 50 := by
  have hmax : (n : ℚ) < 86400000000000000000 := by exact_mod_cast hn
  linarith [(abs_le.1 h.near).1]

theorem nonneg (h : Seconds n s) : 0 ≤ s := by
  have := (h.le_iff_of_nat (m := 0) (by decide)).2 (Nat.zero_le n)
  exact_mod_cast this

/-- The seconds reach a limit if the span does. -/
theorem limit_le_iff (h : Seconds n s) {limit : Float} {m : ℕ} (hlimit : valueOf? limit = some (m : ℚ))
    (hm : m ≤ 86400) : limit ≤ Binary.nearest n 1000000 ↔ 1000000 * m ≤ n :=
  (Binary.le_iff hlimit h.value (Nat.cast_nonneg m) h.nonneg).trans (h.le_iff_of_nat hm)

/-- A span below a day in units of `c` seconds. -/
theorem exists_div (h : Seconds n s) {unit : Float} (hunit : valueOf? unit = some (c : ℚ))
    (hc : 0 < c) (hcmax : c ≤ 3600) (hs : 1 ≤ s) (hn : n < microsPerDay) :
    ∃ w, valueOf? (Binary.nearest n 1000000 / unit) = some w ∧ 0 < w ∧
      |(n : ℚ) - 1000000 * c * w| ≤ 1 / 10 := by
  have hnmax : (n : ℚ) < 86400000000 := by exact_mod_cast hn
  have hcone : (1 : ℚ) ≤ c := by exact_mod_cast hc
  have hcmax : (c : ℚ) ≤ 3600 := by exact_mod_cast hcmax
  obtain ⟨hlow, hhigh⟩ := abs_le.1 h.near
  have hquotient : s / c ≤ s := div_le_self (by linarith) hcone
  have hsmall : s / 3600 ≤ s / c := div_le_div_of_nonneg_left (by linarith) (by linarith) hcmax
  obtain ⟨w, hw, herr⟩ := (Binary.isNearest_div h.value hunit (by linarith) (by linarith)
    (Binary.le_maxValue (by linarith))).exists_near (div_nonneg (by linarith) (by linarith))
      (by linarith)
  refine ⟨w, hw, by linarith [(abs_le.1 herr).2], ?_⟩
  have hmul : |s - c * w| ≤ s / 2 ^ 53 + c / 2 ^ 70 := by
    have hcancel : s - c * w = c * (s / c - w) := by
      rw [mul_sub, mul_div_cancel₀ _ (by linarith)]
    rw [hcancel, abs_mul, abs_of_pos (by linarith)]
    calc c * |s / c - w| ≤ c * (s / c / 2 ^ 53 + 1 / 2 ^ 70) :=
          mul_le_mul_of_nonneg_left herr (by linarith)
      _ = s / 2 ^ 53 + c / 2 ^ 70 := by field_simp
  obtain ⟨hlow', hhigh'⟩ := abs_le.1 hmul
  rw [abs_le]
  constructor <;> linarith

end Seconds

/-! ## Below a day -/

/-- Half a place at most lies between a quantity and what is shown of it. -/
theorem dist_le_of_roundsTo (half : ℕ) {k : ℕ} {q : ℚ} (hk : RoundsTo q k) :
    |2 * half * q - 2 * half * k| ≤ half := by
  have hcancel : 2 * half * q - 2 * half * k = 2 * half * (q - k) := by ring
  rw [hcancel, abs_mul, abs_of_nonneg (by positivity)]
  calc 2 * (half : ℚ) * |q - k| ≤ 2 * half * (1 / 2) :=
        mul_le_mul_of_nonneg_left hk.near (by positivity)
    _ = half := by ring

theorem near_of_roundsTo {half k : ℕ} {q : ℚ} (hq : |(n : ℚ) - 2 * half * q| ≤ 1 / 10)
    (hk : RoundsTo q k) : |(n : ℤ) - 2 * half * k| ≤ half := by
  have hlt : |((n : ℤ) - 2 * half * k : ℚ)| < half + 1 := by
    obtain ⟨hlow, hhigh⟩ := abs_le.1 (dist_le_of_roundsTo half hk)
    obtain ⟨hlow', hhigh'⟩ := abs_le.1 hq
    rw [Int.cast_natCast, abs_lt]
    constructor <;> linarith
  have hint : |(n : ℤ) - 2 * half * k| < half + 1 := by exact_mod_cast hlt
  exact Int.lt_add_one_iff.1 hint

/-- A number of units of `200 * half` microseconds, shown with two places. -/
theorem exists_hundredths (half : ℕ) (hx : valueOf? x = some w) (hpos : 0 < w)
    (hw : |(n : ℚ) - 200 * half * w| ≤ 1 / 10) :
    ∃ k : ℕ, Fixed.plain 2 x = Fixed.digits false 2 k ∧
      (n : ℤ) ≤ 2 * half * k + half ∧ 2 * half * k ≤ (n : ℤ) + half := by
  obtain ⟨k, hplain, hk⟩ := Fixed.plain_spec hx hpos 2
  have hnear := near_of_roundsTo (q := w * 10 ^ 2)
    (by rwa [show 2 * half * (w * 10 ^ 2) = 200 * half * w by ring]) hk
  obtain ⟨hlow, hhigh⟩ := abs_le.1 hnear
  exact ⟨k, hplain, by linarith, by linarith⟩

/-- A span below a day, shown in units of `c` seconds. -/
theorem exists_units {unit : Float} (hunit : valueOf? unit = some (c : ℚ)) (hc : 0 < c)
    (hcmax : c ≤ 3600) (hlow : 1000000 ≤ n) (h : n < microsPerDay) :
    ∃ k : ℕ, Fixed.plain 2 (Binary.nearest n 1000000 / unit) = Fixed.digits false 2 k ∧
      (n : ℤ) ≤ 10000 * c * k + 5000 * c ∧ 10000 * c * k ≤ (n : ℤ) + 5000 * c := by
  obtain ⟨s, hs⟩ := exists_seconds (n := n) (by unfold microsPerDay maxDays at *; omega)
  have hone : 1 ≤ s := by
    have := (hs.le_iff_of_nat (m := 1) (by decide)).2 hlow
    exact_mod_cast this
  obtain ⟨w, hw, hpos, herr⟩ := hs.exists_div hunit hc hcmax hone h
  obtain ⟨k, hk, hle, hge⟩ := exists_hundredths (5000 * c) hw hpos
    (by push_cast; rwa [show 200 * (5000 * (c : ℚ)) * w = 1000000 * c * w by ring])
  push_cast at hle hge
  exact ⟨k, hk, by linarith, by linarith⟩

theorem tells_seconds (h : n < 60000000) :
    Tells n (Fixed.plain 2 (Binary.nearest n 1000000) ++ " seconds".toList) := by
  rcases Nat.eq_zero_or_pos n with rfl | hpos
  · have hshown : Fixed.plain 2 (Binary.nearest 0 1000000) = Fixed.digits false 2 0 := by
      decide +kernel
    rw [hshown]
    exact .seconds (by decide) (by decide) (by decide)
  by_cases htie : n = 59995000
  · subst htie
    have hshown : Fixed.plain 2 (Binary.nearest 59995000 1000000) = Fixed.digits false 2 5999 := by
      decide +kernel
    rw [hshown]
    exact .seconds h (by decide) (by decide)
  obtain ⟨s, hs⟩ := exists_seconds (n := n) (by unfold microsPerDay maxDays; omega)
  have hn : (1 : ℚ) ≤ n := by exact_mod_cast hpos
  have hnmax : (n : ℚ) < 60000000 := by exact_mod_cast h
  obtain ⟨hlow, hhigh⟩ := abs_le.1 hs.near
  have herr : |(n : ℚ) - 200 * (5000 : ℕ) * s| ≤ 1 / 10 := by
    rw [abs_le]
    push_cast
    constructor <;> linarith
  obtain ⟨k, hk, hle, hge⟩ := exists_hundredths 5000 hs.value (by linarith) herr
  rw [hk]
  push_cast at hle hge
  exact .seconds h (abs_le.2 ⟨by omega, by omega⟩) (by omega)

theorem tells_minutes (hlow : 60000000 ≤ n) (h : n < 3600000000) :
    Tells n (Fixed.plain 2 (Binary.nearest n 1000000 / 60) ++ " minutes".toList) := by
  by_cases htie : n = 3599700000
  · subst htie
    have hshown : Fixed.plain 2 (Binary.nearest 3599700000 1000000 / 60) =
        Fixed.digits false 2 5999 := by
      decide +kernel
    rw [hshown]
    exact .minutes hlow h (by decide) (by decide)
  obtain ⟨k, hk, hle, hge⟩ := exists_units (n := n) valueOf?_sixty (by decide) (by decide) (by omega)
    (by unfold microsPerDay; omega)
  rw [hk]
  exact .minutes hlow h (abs_le.2 ⟨by omega, by omega⟩) (by omega)

theorem tells_hours (hlow : 3600000000 ≤ n) (h : n < microsPerDay) :
    Tells n (Fixed.plain 2 (Binary.nearest n 1000000 / 3600) ++ " hours".toList) := by
  by_cases htie : n = 86382000000
  · subst htie
    have hshown : Fixed.plain 2 (Binary.nearest 86382000000 1000000 / 3600) =
        Fixed.digits false 2 2400 := by
      decide +kernel
    rw [hshown]
    exact .hours hlow h (by decide) (by decide)
  obtain ⟨k, hk, hle, hge⟩ := exists_units valueOf?_hour (by decide) (by decide) (by omega) h
  rw [hk]
  unfold microsPerDay at h
  exact .hours hlow h (abs_le.2 ⟨by omega, by omega⟩) (by unfold microsPerDay; omega)

/-! ## From a day on -/

/-- Days and hours are told up to what the seconds are off by. -/
theorem le_drift {e : ℤ} (h : (e : ℚ) ≤ n / 2 ^ 53 + 1 / 1000) : e ≤ (n / 2 ^ 52 : ℕ) := by
  rcases le_or_gt e 0 with hneg | hpos
  · exact hneg.trans (Int.natCast_nonneg _)
  · have hone : (1 : ℚ) ≤ e := by exact_mod_cast hpos
    obtain ⟨m, rfl⟩ := Int.eq_ofNat_of_zero_le hpos.le
    rw [Int.cast_natCast] at h hone
    have hmul : (m * 2 ^ 52 : ℚ) ≤ n := by linarith
    exact_mod_cast (Nat.le_div_iff_mul_le (by decide)).2 (by exact_mod_cast hmul)

/-- The whole days of the seconds. -/
structure Days (s : ℚ) (m : ℕ) : Prop where
  le : (m * 86400 : ℕ) ≤ s
  lt : s < ((m + 1) * 86400 : ℕ)

theorem exists_days (hs : Seconds n s) (hn : n < microsPerDay * (maxDays + 1)) (hday : 86400 ≤ s) :
    ∃ m, ((Binary.ofFloat? (Binary.nearest n 1000000 / 86400)).map Binary.floor).getD 0 = m ∧
      Days s m := by
  have hmax := hs.lt_pow hn
  have hquotient := Binary.isNearest_div hs.value valueOf?_day (by linarith) (by norm_num)
    (Binary.le_maxValue (by push_cast; linarith))
  obtain ⟨w, hw, -⟩ := id hquotient
  obtain ⟨b, hb, -⟩ := Binary.exists_of_valueOf? hw
  have hfloor := Binary.floor_eq_of_isNearest hs.value (by linarith) (by push_cast; linarith)
    (by decide) (by decide) hquotient hb
  have hnonneg : 0 ≤ s / (86400 : ℕ) := div_nonneg (by linarith) (by norm_num)
  refine ⟨b.floor, by rw [hb]; rfl, ?_, ?_⟩
  · have hle := Nat.floor_le hnonneg
    rw [← hfloor, le_div_iff₀ (by norm_num)] at hle
    push_cast at hle ⊢
    linarith
  · have hlt := Nat.lt_floor_add_one (s / (86400 : ℕ))
    rw [← hfloor, div_lt_iff₀ (by norm_num)] at hlt
    push_cast at hlt ⊢
    linarith

namespace Days

variable {m : ℕ}

theorem mul_lt (h : Days s m) (hmax : s < 2 ^ 50) : m * 86400 < 2 ^ 50 := by
  exact_mod_cast h.le.trans_lt hmax

/-- The span ends before the next day. -/
theorem lt_micros (h : Days s m) (hs : Seconds n s) (hmax : s < 2 ^ 50) :
    n < microsPerDay * (m + 1) := by
  have hmul := h.mul_lt hmax
  by_contra hge
  have hle := hs.le_of_mul_le (m := (m + 1) * 86400) (by omega)
    (by unfold microsPerDay at hge; omega)
  exact absurd h.lt (not_lt.2 hle)

/-- The span has the whole days, as far as the seconds are off by less than one microsecond. -/
theorem le_micros (h : Days s m) (hs : Seconds n s) (hn : n < 2 ^ 52) : microsPerDay * m ≤ n := by
  have hle := h.le
  have hfew : (n : ℚ) < 2 ^ 52 := by exact_mod_cast hn
  obtain ⟨hnear, -⟩ := abs_le.1 hs.near
  have hlt : (86400000000 * m : ℚ) < n + 1 := by
    push_cast at hle
    linarith
  have hmicros : 86400000000 * m < n + 1 := by exact_mod_cast hlt
  unfold microsPerDay
  omega

/-- Half a tenth of an hour below the next day, what is left is `23.95` hours without error. -/
theorem rest_of_tie (h : Days s m) (hs : Seconds n s) (hmax : s < 2 ^ 50)
    (htie : n + 180000000 = microsPerDay * (m + 1)) :
    Binary.nearest n 1000000 - Binary.ofNat (m * 86400) = Binary.ofNat 86220 := by
  have hmul := h.mul_lt hmax
  have hexact : s = (m * 86400 + 86220 : ℕ) :=
    hs.eq_of_mul (by omega) (by unfold microsPerDay at htie; omega)
  have hrest := Binary.valueOf?_sub_ofNat hs.value h.le (by linarith)
  refine Binary.eq_of_value (v := (86220 : ℕ)) (hrest.trans ?_)
    (Binary.valueOf?_ofNat (by decide)) (by norm_num)
  rw [hexact]
  push_cast
  congr 1
  ring

end Days

/-- No seconds are no hours. -/
theorem valueOf?_zero_div (hx : valueOf? x = some 0) : valueOf? (x / 3600) = some 0 := by
  have hhour : (3600 : Float).toModel.unpack = .finite .positive 7916483719987200 (-41) (by decide) := by
    rfl
  have hdiv : (x / 3600).toBits.toBitVec = (x.toModel.unpack.div Float.Model.Format.binary64
    (3600 : Float).toModel.unpack).pack Float.Model.Format.binary64 := rfl
  rcases Binary.exists_unpack hx le_rfl with ⟨-, sign, hsign⟩ | ⟨m, e, hm, -, hzero⟩
  · rw [hsign, hhour] at hdiv
    exact Binary.valueOf?_of_zero hdiv
  · exact absurd hzero.symm (mul_pos (Nat.cast_pos.2 hm) (Binary.zpow_pos_two e)).ne'

/-- The hours of the seconds that are left without the whole days. -/
structure Hours (s : ℚ) (m : ℕ) (w : ℚ) : Prop where
  nonneg : 0 ≤ w
  le : w ≤ 24
  near : |s - (m * 86400 : ℕ) - 3600 * w| ≤ 1 / 10 ^ 10
  zero : s = (m * 86400 : ℕ) → w = 0

theorem exists_hours {m : ℕ} (hx : valueOf? x = some (s - (m * 86400 : ℕ))) (hd : Days s m) :
    ∃ w, valueOf? (x / 3600) = some w ∧ Hours s m w := by
  have hlt := hd.lt
  rcases hd.le.eq_or_lt with heq | hpos
  · rw [heq, sub_self] at hx
    exact ⟨0, valueOf?_zero_div hx, le_rfl, by norm_num, by simp [heq], fun _ => rfl⟩
  have hrest : s - (m * 86400 : ℕ) ≤ 86400 := by
    push_cast at hlt ⊢
    linarith
  generalize hr : s - (m * 86400 : ℕ) = r at hx hrest
  have hrpos : 0 < r := by linarith
  have hquotient := Binary.isNearest_div hx valueOf?_hour hrpos (by norm_num)
    (Binary.le_maxValue (by push_cast; linarith))
  have hnonneg : 0 ≤ r / (3600 : ℕ) := div_nonneg hrpos.le (by norm_num)
  have h24 : r / (3600 : ℕ) ≤ 24 := by
    rw [div_le_iff₀ (by norm_num)]
    push_cast
    linarith
  obtain ⟨w, hw, herr⟩ := hquotient.exists_near hnonneg (by linarith)
  refine ⟨w, hw, ?_, ?_, ?_, fun he => ?_⟩
  · have := hquotient.le_of_ge hw (Binary.valueOf?_ofNat (n := 0) (by decide)) (by simpa using hnonneg)
    exact_mod_cast this
  · have := hquotient.le_of_le hw (Binary.valueOf?_ofNat (n := 24) (by decide)) (by exact_mod_cast h24)
    exact_mod_cast this
  · rw [hr]
    rw [abs_le] at herr ⊢
    push_cast at herr
    constructor <;> linarith
  · linarith

namespace Hours

variable {m k : ℕ}

/-- Days and hours lie within half a tenth of the span, but for what the seconds are off by. -/
theorem near_micros (h : Hours s m w) (hs : Seconds n s) (hk : RoundsTo (w * 10 ^ 1) k) :
    |(n : ℤ) - (microsPerDay * m + 360000000 * k)| ≤ 180000000 + (n / 2 ^ 52 : ℕ) := by
  obtain ⟨hnear, hnear'⟩ := abs_le.1 hs.near
  obtain ⟨hleft, hleft'⟩ := abs_le.1 h.near
  obtain ⟨hplace, hplace'⟩ := abs_le.1 (dist_le_of_roundsTo 180000000 hk)
  push_cast at hleft hleft' hplace hplace'
  have hdrift : |(n : ℤ) - (microsPerDay * m + 360000000 * k)| - 180000000 ≤ (n / 2 ^ 52 : ℕ) := by
    refine le_drift ?_
    push_cast
    rw [sub_le_iff_le_add, abs_le, microsPerDay]
    push_cast
    constructor <;> linarith
  linarith

/-- Without hours the days lie within what the seconds are off by. -/
theorem near_days (h : Hours s m 0) (hs : Seconds n s) :
    |(n : ℤ) - microsPerDay * m| ≤ (n / 2 ^ 52 : ℕ) := by
  obtain ⟨hnear, hnear'⟩ := abs_le.1 hs.near
  obtain ⟨hleft, hleft'⟩ := abs_le.1 h.near
  push_cast at hleft hleft'
  refine le_drift ?_
  push_cast
  rw [abs_le, microsPerDay]
  push_cast
  constructor <;> linarith

/-- Where there are hours, the span is longer than its whole days. -/
theorem lt_micros (h : Hours s m w) (hw : 0 < w) (hd : Days s m) (hs : Seconds n s)
    (hmax : s < 2 ^ 50) (hn : n < 2 ^ 52) : microsPerDay * m < n := by
  have hmul := hd.mul_lt hmax
  refine (hd.le_micros hs hn).lt_of_ne fun he => hw.ne' (h.zero ?_)
  exact hs.eq_of_mul (by omega) (by rw [← he]; unfold microsPerDay; omega)

end Hours

/-- A span from a day on is told by its days, and by the hours of what is left. -/
theorem tells_days (hs : Seconds n s) (hn : n < microsPerDay * (maxDays + 1))
    (hlow : microsPerDay ≤ n) :
    let m := ((Binary.ofFloat? (Binary.nearest n 1000000 / 86400)).map Binary.floor).getD 0
    let hours := (Binary.nearest n 1000000 - Binary.ofNat (m * 86400)) / 3600
    let days := ofNat m ++ " days".toList
    Tells n (if 0 < hours then days ++ ' ' :: Fixed.plain 1 hours ++ " hours".toList else days) := by
  have hday : 86400 ≤ s := by
    have := (hs.le_iff_of_nat (m := 86400) (by decide)).2 hlow
    exact_mod_cast this
  have hmax := hs.lt_pow hn
  obtain ⟨m, hm, hd⟩ := exists_days hs hn hday
  have hhigh := hd.lt_micros hs hmax
  dsimp only
  rw [hm]
  by_cases htie : n + 180000000 = microsPerDay * (m + 1)
  · have hshown : Fixed.plain 1 (Binary.ofNat 86220 / 3600) = Fixed.digits false 1 239 := by
      decide +kernel
    rw [hd.rest_of_tie hs hmax htie, if_pos (by decide +kernel), hshown]
    refine .daysAndHours hlow hhigh (abs_le.2 ⟨?_, ?_⟩) (by decide) fun _ => ⟨?_, ?_⟩ <;>
      unfold microsPerDay at * <;> omega
  obtain ⟨w, hw, hhours⟩ := exists_hours
    (Binary.valueOf?_sub_ofNat hs.value hd.le (by linarith)) hd
  have hiff := Binary.lt_iff Binary.valueOf?_zero hw le_rfl hhours.nonneg
  split
  · next hpos =>
    obtain ⟨k, hk, hround⟩ := Fixed.plain_spec hw (hiff.1 hpos) 1
    have hnear := hhours.near_micros hs hround
    have hle : k ≤ 240 := hround.le_of_le (by push_cast; linarith [hhours.le])
    rw [hk]
    refine .daysAndHours hlow hhigh hnear hle fun hfew => ?_
    refine ⟨hhours.lt_micros (hiff.1 hpos) hd hs hmax hfew, ?_⟩
    rw [Nat.div_eq_of_lt hfew, Nat.cast_zero, add_zero] at hnear
    obtain ⟨hlower, hupper⟩ := abs_le.1 hnear
    unfold microsPerDay at *
    omega
  · next hzero =>
    obtain rfl : w = 0 := le_antisymm (not_lt.1 (mt hiff.2 hzero)) hhours.nonneg
    exact .days hlow (hhours.near_days hs)

/-- A text tells a span in its largest unit. -/
theorem tells_formatSeconds (hn : n < microsPerDay * (maxDays + 1)) :
    Tells n (formatSeconds (Binary.nearest n 1000000)) := by
  obtain ⟨s, hs⟩ := exists_seconds hn
  unfold formatSeconds
  split
  · next h => exact tells_days hs hn ((hs.limit_le_iff valueOf?_day (by decide)).1 h)
  · next hday =>
    rw [hs.limit_le_iff valueOf?_day (by decide)] at hday
    split
    · next h =>
      exact tells_hours ((hs.limit_le_iff valueOf?_hour (by decide)).1 h) (by unfold microsPerDay; omega)
    · next hhour =>
      rw [hs.limit_le_iff valueOf?_hour (by decide)] at hhour
      split
      · next h => exact tells_minutes ((hs.limit_le_iff valueOf?_sixty (by decide)).1 h) (by omega)
      · next hminute =>
        rw [hs.limit_le_iff valueOf?_sixty (by decide)] at hminute
        exact tells_seconds (by omega)

/-- **Durations are shown in their largest unit, to half a place.** A text tells the unit by the span,
and its number lies within half a unit of the last place of the span. From `2 ^ 52` microseconds on,
142 years and more, it may be off by one more microsecond for each of these. Spans that fall short
of the next unit by less than half a place carry over: they show sixty seconds, sixty minutes or
twenty-four hours. -/
theorem tells_format {d : Duration} (h : ofMicros (n : ℤ) = .ok d) : Tells n d.format := by
  unfold ofMicros at h
  split at h
  · next hn =>
    cases h
    have hmax : n < microsPerDay * (maxDays + 1) := by
      unfold microsPerDay maxDays at *
      rw [Int.fdiv_eq_ediv_of_nonneg _ (by decide)] at hn
      omega
    have hformat : format ⟨n⟩ = formatSeconds (Binary.nearest n 1000000) := by
      unfold format
      rw [if_neg (not_lt.2 (Int.natCast_nonneg n))]
      rfl
    rw [hformat]
    exact tells_formatSeconds hmax
  · cases h

/-- Four milliseconds below a minute, sixty seconds are shown. -/
theorem tells_format_sixty : ∃ d, ofMicros (59996000 : ℕ) = .ok d ∧
    d.format = "60.00 seconds".toList ∧ Tells 59996000 d.format :=
  ⟨⟨59996000⟩, rfl, by decide +kernel, tells_format rfl⟩

end Duration

end Worksheet
