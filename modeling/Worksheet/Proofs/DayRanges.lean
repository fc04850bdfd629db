import Worksheet.Proofs.Months
import Worksheet.Proofs.Quotients
import Worksheet.Proofs.ShownNumbers
import Worksheet.Proofs.Tellings

/-!
# Ranges of dates

**Theorem (`Calendar.range_counts`).** A text is cut at the first word of a range that has something
before it, and both sides are read. The answer tells how far the end lies behind the start, in days:
exactly if they are whole (`TellsDays.eq_of_mul`), else rounded to one place. An end before the start
is moved by one year, and by no second one (`Rolls`); so the answer is below zero, with a minus sign
in front, if and only if the end lies before the start even then. It does not if the end is of no
earlier year than the start, as with two dates without a year (`Rolls.nonneg`).

A distance goes through two doubles, its seconds and their quotient by those of a day. Both are
nearest to the exact numbers. No two moments of the calendar are so far apart that the two errors
come to more than a small part of the place that is shown (`exists_days`).
-/

namespace Worksheet

open Text Result

/-! ## How far moments are apart -/

namespace Zone

/-- The clocks of a zone are less than a day away from Greenwich. -/
def WithinDay (z : Zone) : Prop := ∀ year t fold, (z.atWall year t fold).offset.natAbs < 86400

theorem offsets_entries : ∀ es ∈ entries, ∀ e ∈ es, ∀ p ∈ e.periods ++ e.tail.periods,
    p.offset.natAbs < 86400 := by
  decide +kernel

theorem withinDay_utc : utc.WithinDay := fun _ _ _ => by
  show (0 : ℤ).natAbs < 86400
  decide

/-- All zones that there are are within a day of Greenwich if the clock's zone is. -/
theorem Available.withinDay {now : Moment} {z : Zone} (h : z.Available now)
    (hnow : ∀ z ∈ now.zone, z.WithinDay) : z.WithinDay := by
  rcases h with hz | rfl | ⟨name, hz⟩
  · exact hnow z hz
  · exact withinDay_utc
  · exact atWall_ofName? (P := fun p => p.offset.natAbs < 86400) (by decide) offsets_entries hz

end Zone

namespace Moment

variable {now m a b : Moment} {t : Text}

theorem placed_ofPartialText? (h : ofPartialText? now t = .ok (some m)) : Placed now m := by
  unfold ofPartialText? at h
  dsimp only at h
  split at h
  · exact placed_ofText? (placed_now now) h
  · split at h
    · next hdate =>
      cases h
      obtain ⟨d, -, hd⟩ := Option.bind_eq_some_iff.1 hdate
      exact (placed_now now).of_zone_eq (zone_ofDate? hd)
    · cases h

/-- From the first moment of the years to the last one, and two days for the zones. -/
def maxDistance : Nat := (Date.maxOrdinal + 2) * 86400000000

theorem instant_bounds {z : Zone} (hz : m.zone = some z) (hday : z.WithinDay) :
    -86400000000 < m.instant?.getD 0 ∧
      m.instant?.getD 0 < (Date.maxOrdinal + 1) * 86400000000 := by
  have hoffset := hday m.date.year m.wallSeconds m.fold
  have hwall := m.wall_lt
  have hinstant : m.instant?.getD 0 =
      m.wall - (z.atWall m.date.year m.wallSeconds m.fold).offset * 1000000 := by
    rw [instant?, offset?, period?, hz]
    rfl
  rw [hinstant]
  omega

/-- No two moments are further apart. -/
theorem between_bound {d : Int} (hnow : ∀ z ∈ now.zone, z.WithinDay) (ha : Placed now a)
    (hb : Placed now b) (h : a.between b = .ok d) : d.natAbs < maxDistance := by
  have hwall := a.wall_lt
  have hwall' := b.wall_lt
  unfold maxDistance
  unfold between at h
  dsimp only at h
  split at h
  · cases h
    omega
  · next y z hy hz =>
    have hlow := instant_bounds hy ((ha y hy).withinDay hnow)
    have hhigh := instant_bounds hz ((hb z hz).withinDay hnow)
    split at h
    · cases h
      omega
    · cases h
      omega
  · cases h

end Moment

/-! ## Distances in days -/

namespace Calendar

open Moment (microsPerDay maxDistance)

variable {d : ℕ} {t : Text}

theorem valueOf?_secondsPerDay : Binary.valueOf? 86400 = some 86400 := by decide +kernel

theorem isNearest_seconds (hd : d < maxDistance) :
    Binary.IsNearest (d / 1000000) (Binary.nearest d 1000000) := by
  have hmax : (d : ℚ) < 3652061 * 86400000000 := by exact_mod_cast hd
  have h := Binary.isNearest_nearest d (show 0 < 1000000 by decide)
    (Binary.le_maxValue (by push_cast; linarith))
  exact_mod_cast h

/-- The quotient that is shown is within a tiny part of the distance in days. -/
theorem exists_days (hpos : 0 < d) (hd : d < maxDistance) :
    ∃ v, Binary.valueOf? (Binary.nearest d 1000000 / 86400) = some v ∧ 0 < v ∧
      |(d / microsPerDay : ℚ) - v| ≤ 1 / 10 ^ 8 := by
  have hmin : (1 : ℚ) ≤ d := by exact_mod_cast hpos
  have hmax : (d : ℚ) < 3652061 * 86400000000 := by exact_mod_cast hd
  obtain ⟨s, hs, hseconds⟩ :=
    (isNearest_seconds hd).exists_near (by positivity) (by linarith)
  obtain ⟨hlow, hhigh⟩ := abs_le.1 hseconds
  have hspos : 0 < s := by linarith
  have hquotient := Binary.isNearest_div hs valueOf?_secondsPerDay hspos (by norm_num)
    (Binary.le_maxValue (by linarith))
  obtain ⟨v, hv, hdays⟩ := hquotient.exists_near (by positivity) (by linarith)
  obtain ⟨hlow', hhigh'⟩ := abs_le.1 hdays
  refine ⟨v, hv, by linarith, ?_⟩
  rw [abs_le, microsPerDay]
  push_cast
  constructor <;> linarith

/-- A whole number of days is exact in seconds and in days. -/
theorem valueOf?_days {n : ℕ} (hn : 0 < n) (hd : n * microsPerDay < maxDistance) :
    Binary.valueOf? (Binary.nearest (n * microsPerDay) 1000000 / 86400) = some (n : ℚ) := by
  have hlt : n < 3652061 := by
    unfold microsPerDay maxDistance Date.maxOrdinal at hd
    omega
  have hseconds := isNearest_seconds hd
  have hquotient : ((n * microsPerDay : ℕ) / 1000000 : ℚ) = (n * 86400 : ℕ) := by
    rw [microsPerDay]
    push_cast
    ring
  rw [hquotient] at hseconds
  have hexact := hseconds.value_eq (Binary.valueOf?_ofNat (by omega))
  have hdays := Binary.isNearest_div hexact valueOf?_secondsPerDay
    (Nat.cast_pos.2 (by omega)) (by norm_num) (Binary.le_maxValue ?_)
  · rw [Nat.cast_mul, Nat.cast_ofNat, mul_div_cancel_right₀ _ (by norm_num)] at hdays
    exact hdays.value_eq (Binary.valueOf?_ofNat (by omega))
  · have hbound : (n : ℚ) < 3652061 := by exact_mod_cast hlt
    push_cast
    linarith

/-- A text tells a distance in days: as a whole number that is as good as exact, or, if it is not
whole, rounded to one place. -/
inductive TellsDays (d : ℕ) : Text → Prop
  | whole {n : ℕ} : |(d / microsPerDay : ℚ) - n| ≤ 1 / 10 ^ 8 →
      TellsDays d (ofNat n ++ " days".toList)
  | tenths {n : ℕ} : ¬microsPerDay ∣ d → |(d / microsPerDay : ℚ) - n / 10| ≤ 1 / 20 + 1 / 10 ^ 8 →
      TellsDays d (ofNat (n / 10) ++ '.' :: ofNat (n % 10) ++ " days".toList)

/-- Whole days are told exactly. -/
theorem TellsDays.eq_of_mul {n : ℕ} (h : TellsDays d t) (hd : d = n * microsPerDay) :
    t = ofNat n ++ " days".toList := by
  subst hd
  cases h with
  | @whole m hm =>
    rw [Nat.cast_mul, mul_div_cancel_right₀ _ (by norm_num [microsPerDay])] at hm
    have hlt : |((n : ℤ) - m : ℤ)| < 1 := by
      have : |((n : ℚ) - m)| < 1 := hm.trans_lt (by norm_num)
      exact_mod_cast this
    have heq : (n : ℤ) = m := sub_eq_zero.1 (Int.abs_lt_one_iff.1 hlt)
    rw [Int.ofNat_inj.1 heq]
  | tenths hdvd _ => exact absurd (Nat.dvd_mul_left _ _) hdvd

theorem digits_zero (n : ℕ) : Fixed.digits false 0 n = ofNat n := by
  simp [Fixed.digits]

theorem digits_one (n : ℕ) :
    Fixed.digits false 1 n = ofNat (n / 10) ++ '.' :: ofNat (n % 10) := by
  have hlen : 1 ≤ (ofNat (n % 10)).length := List.length_pos_of_ne_nil (Literal.ofNat_ne_nil _)
  have hpad : 1 - (ofNat (n % 10)).length = 0 := by omega
  simp [Fixed.digits, Fixed.fractionDigits, padLeft, hpad]

/-- What is shown of a number that is near the distance tells the distance. -/
theorem tellsDays_digits {b : Binary} (hnear : |(d / microsPerDay : ℚ) - b.magnitude| ≤ 1 / 10 ^ 8)
    (hexact : ∀ n : ℕ, n * microsPerDay = d → b.magnitude = n) {places : ℕ}
    (hplaces : places = if b.isWhole then 0 else 1) :
    TellsDays d (Fixed.digits false places (b.scaled places) ++ " days".toList) := by
  have hround := Amount.roundsTo_scaled b places
  split at hplaces
  · next hwhole =>
    subst hplaces
    obtain ⟨n, hn⟩ := Binary.isWhole_iff.1 hwhole
    rw [hn, pow_zero, mul_one] at hround
    rw [digits_zero, hround.eq_of_natCast]
    exact .whole (hn ▸ hnear)
  · next hpart =>
    subst hplaces
    rw [digits_one]
    refine .tenths (fun ⟨n, hn⟩ => hpart ?_) ?_
    · exact Binary.isWhole_iff.2 ⟨n, hexact n (by rw [hn, Nat.mul_comm])⟩
    · have hplace := hround.near
      rw [abs_le] at hplace hnear ⊢
      constructor <;> linarith

/-- **Theorem.** A distance is shown by its days, with a minus sign if it goes backwards. -/
theorem tellsDays_formatDays {d : ℤ} (hd : d.natAbs < maxDistance) :
    ∃ u, formatDays d = (if d < 0 then '-' :: u else u) ∧ TellsDays d.natAbs u := by
  rcases eq_or_ne d 0 with rfl | hne
  · exact ⟨ofNat 0 ++ " days".toList, by decide +kernel, .whole (by norm_num)⟩
  have hdpos : 0 < d.natAbs := Int.natAbs_pos.2 hne
  obtain ⟨v, hv, hpos, hnear⟩ := exists_days hdpos hd
  have hexact (n : ℕ) (hn : n * microsPerDay = d.natAbs) : v = n := by
    rw [← hn] at hv hd hdpos
    exact Option.some.inj (hv.symm.trans (valueOf?_days (Nat.pos_of_mul_pos_right hdpos) hd))
  obtain ⟨b, hb, rfl⟩ := Binary.exists_of_valueOf? hv
  have hpositive := Binary.negative_of_pos hpos
  have hmagnitude := (Binary.magnitude_of_nonneg hpos.le).symm
  rw [hmagnitude] at hnear hexact
  refine ⟨_, ?_, tellsDays_digits hnear hexact rfl⟩
  unfold formatDays Duration.seconds
  dsimp only
  split
  · rw [Fixed.plain, Fixed.ofFloat, Binary.ofFloat?_neg hb, hpositive]
    rfl
  · rw [Fixed.plain, Fixed.ofFloat, hb]
    dsimp only
    rw [hpositive]
    rfl

/-! ## Ranges -/

variable {now start stop : Moment} {expr low a b : Text}

/-- A text is cut at the first of some words that has something before it. -/
def CutsAt (words : List Text) (low a b : Text) : Prop :=
  ∃ before w after, words = before ++ w :: after ∧ cutAtPhrase w low = some (a, b) ∧ a ≠ [] ∧
    ∀ v ∈ before, ∀ a' b', cutAtPhrase v low = some (a', b') → a' = []

/-- What answers a range has cut it at the first word and read both ends. -/
theorem exists_ends {words : List Text} (h : rangeAt now low words = .ok (some t)) :
    ∃ a b start stop, CutsAt words low a b ∧ Moment.ofPartialText? now a = .ok (some start) ∧
      Moment.ofPartialText? now b = .ok (some stop) ∧ daysBetween start stop = .ok t := by
  induction words with
  | nil => cases h
  | cons w ws ih =>
    have hskip (hw : ∀ a b, cutAtPhrase w low = some (a, b) → a = [])
        (h : rangeAt now low ws = .ok (some t)) :
        ∃ a b start stop, CutsAt (w :: ws) low a b ∧
          Moment.ofPartialText? now a = .ok (some start) ∧
          Moment.ofPartialText? now b = .ok (some stop) ∧ daysBetween start stop = .ok t := by
      obtain ⟨a, b, start, stop, ⟨before, v, after, rfl, hcut, hne, hbefore⟩, hread⟩ := ih h
      refine ⟨a, b, start, stop, ⟨w :: before, v, after, rfl, hcut, hne, ?_⟩, hread⟩
      exact List.forall_mem_cons.2 ⟨hw, hbefore⟩
    rw [rangeAt] at h
    split at h
    · next hnone => exact hskip (fun a b hab => by rw [hnone] at hab; cases hab) h
    · next hempty => exact hskip (fun a b hab => by rw [hempty] at hab; cases hab; rfl) h
    · next a b hne hcut =>
      obtain ⟨x, hx, h⟩ := bind_eq_ok.1 h
      obtain ⟨y, hy, h⟩ := bind_eq_ok.1 h
      cases x with
      | none => cases h
      | some start =>
        cases y with
        | none => cases h
        | some stop =>
          obtain ⟨u, hu, h⟩ := bind_eq_ok.1 h
          cases h
          exact ⟨a, b, start, stop, ⟨[], w, ws, rfl, hcut, hne, by simp⟩, hx, hy, hu⟩

/-- The end of a range, taken `years` later, lies `d` microseconds behind the start. -/
def Lies (start stop : Moment) (years : ℕ) (d : ℤ) : Prop :=
  ∃ later, stop.addMonths (12 * years) = .ok later ∧ start.between later = .ok d

/-- How far the end of a range is moved: not at all or by one year, and only if the end lies before
the start without that. -/
structure Rolls (start stop : Moment) (years : ℕ) (d : ℤ) : Prop where
  lies : Lies start stop years d
  first : ∀ j < years, ∀ e, Lies start stop j e → e < 0
  unmoved : years = 0 → 0 ≤ d
  once : years ≤ 1

theorem rolls_of_daysBetween (h : daysBetween start stop = .ok t) :
    ∃ years d, Rolls start stop years d ∧ t = formatDays d := by
  have hself : stop.addMonths (12 * (0 : ℕ)) = .ok stop := stop.addMonths_zero
  have hlies {later : Moment} (years : ℕ) (hlater : stop.addMonths (12 * years) = .ok later)
      (h : (do return formatDays (← start.between later)) = (.ok t : Result Text)) :
      ∃ d, start.between later = .ok d ∧ Lies start stop years d ∧ t = formatDays d := by
    obtain ⟨d, hd, h⟩ := bind_eq_ok.1 h
    cases h
    exact ⟨d, hd, ⟨later, hlater, hd⟩, rfl⟩
  obtain ⟨r, hr, h⟩ := bind_eq_ok.1 h
  obtain ⟨e, he, hr⟩ := bind_eq_ok.1 hr
  have hr : decide (0 ≤ e) = r := Except.ok.inj hr
  cases r with
  | true =>
    obtain ⟨d, hd, hlies, ht⟩ := hlies 0 hself h
    rw [he] at hd
    cases hd
    exact ⟨0, e, ⟨hlies, by simp, fun _ => by simpa using hr, by simp⟩, ht⟩
  | false =>
    rw [if_neg Bool.false_ne_true] at h
    cases hmoved : stop.addMonths 12 with
    | error f =>
      rw [hmoved] at h
      split at h
      · cases h
      · cases h
    | ok later =>
      rw [hmoved] at h
      obtain ⟨d, -, hlies, ht⟩ := hlies 1 hmoved h
      refine ⟨1, d, ⟨hlies, ?_, by simp, le_rfl⟩, ht⟩
      rintro j hj e' ⟨same, hsame, he'⟩
      obtain rfl : j = 0 := by omega
      rw [hself] at hsame
      cases hsame
      rw [he] at he'
      cases he'
      simpa using hr

/-- An end that does not lie in an earlier year is not before the start. -/
theorem Rolls.nonneg {years : ℕ} {d : ℤ} (h : Rolls start stop years d)
    (hclock : start.SameClock stop) (hyear : start.date.year ≤ stop.date.year) : 0 ≤ d := by
  obtain ⟨⟨later, hlater, hd⟩, -, hunmoved, honce⟩ := h
  rcases Nat.eq_zero_or_pos years with hzero | hpos
  · exact hunmoved hzero
  obtain rfl : years = 1 := by omega
  obtain ⟨-, hindex, -, hzone, -⟩ := Moment.addMonths_spec hlater
  have hsame : start.SameClock later := by
    unfold Moment.SameClock
    rw [hzone]
    exact hclock
  have hwall : start.wall < later.wall := by
    refine Moment.wall_lt_of_ordinal_lt
      (Date.ordinal_lt_of_monthIndex_lt start.date_isValid later.date_isValid ?_)
    show start.monthIndex < later.monthIndex
    obtain ⟨-, -, hone, hle, -, -⟩ := Date.isValid_iff.1 start.date_isValid
    unfold Moment.monthIndex at hindex ⊢
    omega
  rw [Moment.between_of_sameClock hsame] at hd
  cases hd
  omega

/-- **Theorem.** The answer to a range tells how far its end, moved by at most one year, lies behind
its start, with a minus sign if it still lies before it. -/
theorem range_counts (hnow : ∀ z ∈ now.zone, z.WithinDay) (h : range now expr low = .ok (some t)) :
    ∃ a b start stop years d u, CutsAt rangeWords low a b ∧
      Moment.ofPartialText? now a = .ok (some start) ∧
      Moment.ofPartialText? now b = .ok (some stop) ∧ Rolls start stop years d ∧
      t = (if d < 0 then '-' :: u else u) ∧ TellsDays d.natAbs u ∧
      (∀ n, d.natAbs = n * microsPerDay → u = ofNat n ++ " days".toList) ∧
      (start.SameClock stop → start.date.year ≤ stop.date.year → 0 ≤ d) := by
  obtain ⟨a, b, start, stop, hcut, ha, hb, hdays⟩ := exists_ends h
  obtain ⟨years, d, hrolls, rfl⟩ := rolls_of_daysBetween hdays
  obtain ⟨later, hlater, hd⟩ := hrolls.lies
  have hplaced : Moment.Placed now later :=
    (Moment.placed_ofPartialText? hb).of_zone_eq (Moment.addMonths_spec hlater).2.2.2.1
  obtain ⟨u, hu, htells⟩ := tellsDays_formatDays
    (Moment.between_bound hnow (Moment.placed_ofPartialText? ha) hplaced hd)
  exact ⟨a, b, start, stop, years, d, u, hcut, ha, hb, hrolls, hu, htells,
    fun n hn => htells.eq_of_mul hn, hrolls.nonneg⟩

/-- An end more than a year before the start stays before it. -/
theorem range_counts_backwards : ∃ now : Moment, (∀ z ∈ now.zone, z.WithinDay) ∧
    range now [] "2025-06-01 till 2020-01-01".toList = .ok (some "-1612 days".toList) ∧
    ∃ a b start stop years d u,
      CutsAt rangeWords "2025-06-01 till 2020-01-01".toList a b ∧
      Moment.ofPartialText? now a = .ok (some start) ∧
      Moment.ofPartialText? now b = .ok (some stop) ∧ Rolls start stop years d ∧
      "-1612 days".toList = (if d < 0 then '-' :: u else u) ∧ TellsDays d.natAbs u ∧
      (∀ n, d.natAbs = n * microsPerDay → u = ofNat n ++ " days".toList) ∧
      (start.SameClock stop → start.date.year ≤ stop.date.year → 0 ≤ d) := by
  have hnow : ∀ z ∈ some Zone.utc, z.WithinDay := by
    rintro _ ⟨⟩
    exact Zone.withinDay_utc
  have h : range ⟨63902347200000000, some Zone.utc, false, by decide⟩ []
      "2025-06-01 till 2020-01-01".toList = .ok (some "-1612 days".toList) := by
    decide +kernel
  exact ⟨_, hnow, h, range_counts hnow h⟩

end Calendar

end Worksheet
