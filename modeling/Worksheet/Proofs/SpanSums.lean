import Worksheet.Proofs.Months
import Worksheet.Proofs.Spans
import Worksheet.Proofs.SpanTexts
import Mathlib.Tactic.IntervalCases

/-!
# What a span adds up to

**Theorem (`between_addsUp`).** Moved by the years and months that a span tells, in one step, and
then by its weeks, days, hours and minutes, the earlier moment comes to the later one, to under a
minute, exactly if the count has not lost a day on its way (`KeepsDay`).

A count goes year by year and then month by month, and each step cuts the day to the length of its
month. So it ends on the least of the first day and the lengths of all months that it comes by
(`Climbs.le_day_iff`), where one step cuts the day once. If it has lost a day, the rest of the span
was measured from a day too early, and there may be a twelfth month, as a year would have come behind
the end.
-/

namespace Worksheet

open Result

namespace Date

variable {d e : Date}

/-- The days of the month with an index. -/
def monthLength (index : Nat) : Nat := daysInMonth (index / 12) (index % 12 + 1)

theorem daysInMonth_eq (h : d.isValid = true) :
    daysInMonth d.year d.month = monthLength d.monthIndex := by
  obtain ⟨-, -, hm, hm', -⟩ := isValid_iff.1 h
  have hyear : d.monthIndex / 12 = d.year := by
    rw [monthIndex]
    omega
  have hmonth : d.monthIndex % 12 + 1 = d.month := by
    rw [monthIndex]
    omega
  rw [monthLength, hyear, hmonth]

/-- In one month, ordinals are as far apart as days. -/
theorem ordinal_add_day (hd : d.isValid = true) (he : e.isValid = true)
    (h : d.monthIndex = e.monthIndex) : d.ordinal + e.day = e.ordinal + d.day := by
  obtain ⟨-, -, hdm, hdm', -⟩ := isValid_iff.1 hd
  obtain ⟨-, -, hem, hem', -⟩ := isValid_iff.1 he
  unfold monthIndex at h
  have hyear : d.year = e.year := by omega
  have hmonth : d.month = e.month := by omega
  rw [ordinal, ordinal, hyear, hmonth]
  omega

end Date

namespace Moment

variable {a b c m : Moment}

/-! ## Two moments of one clock -/

theorem SameClock.symm (h : a.SameClock b) : b.SameClock a := by
  have hsame {y z : Zone} (h : y.same z = true) : z.same y = true := by
    cases y <;> cases z <;> simp_all [Zone.same]
  unfold SameClock at *
  split at h
  · next ha hb => rw [ha, hb]; trivial
  · next ha hb => rw [ha, hb]; exact hsame h
  · exact h.elim

theorem SameClock.of_zone_eq (h : a.SameClock b) (hzone : c.zone = a.zone) : c.SameClock b := by
  unfold SameClock at *
  rwa [hzone]

/-- The earlier one of two moments of one clock. -/
def earlier (a b : Moment) : Moment := if a.wall ≤ b.wall then a else b

/-- The later one of two moments of one clock. -/
def later (a b : Moment) : Moment := if a.wall ≤ b.wall then b else a

theorem wall_le_of_notAfter (h : a.SameClock b) (hle : a.notAfter b = .ok true) :
    a.wall ≤ b.wall := by
  rw [notAfter_of_sameClock h] at hle
  exact of_decide_eq_true (Except.ok.inj hle)

theorem wall_lt_of_notAfter (h : a.SameClock b) (hlt : a.notAfter b = .ok false) :
    b.wall < a.wall := by
  rw [notAfter_of_sameClock h] at hlt
  exact Nat.lt_of_not_le (of_decide_eq_false (Except.ok.inj hlt))

/-! ## Days of the month -/

theorem day_le_monthLength (m : Moment) : m.date.day ≤ Date.monthLength m.monthIndex := by
  obtain ⟨-, -, -, -, -, hday⟩ := Date.isValid_iff.1 m.date_isValid
  exact Nat.le_trans hday (Nat.le_of_eq (Date.daysInMonth_eq m.date_isValid))

theorem day_eq_min {n : Int} (h : a.addMonths n = .ok b) :
    b.date.day = min a.date.day (Date.monthLength b.monthIndex) :=
  (day_addMonths h).trans (congrArg _ (Date.daysInMonth_eq b.date_isValid))

/-- In one month and at one time of day, moments are as far apart as their days. -/
theorem wall_add_day (hmonth : a.monthIndex = b.monthIndex) (htime : a.timeOfDay = b.timeOfDay) :
    a.wall + b.date.day * microsPerDay = b.wall + a.date.day * microsPerDay := by
  have hdays := Date.ordinal_add_day a.date_isValid b.date_isValid hmonth
  have ha := Date.one_le_ordinal a.date_isValid
  have hb := Date.one_le_ordinal b.date_isValid
  rw [a.wall_eq, b.wall_eq, htime, microsPerDay]
  omega

end Moment

namespace Span

open Moment
open Date (monthLength)

variable {first last a b c : Moment} {s : Span} {months steps n k d : Nat}

/-! ## The day that a count ends on -/

theorem Climbs.monthIndex_le (h : Climbs (months : Int) last a b) :
    a.monthIndex ≤ b.monthIndex := by
  induction h with
  | refl => exact Nat.le_refl _
  | step h _ _ ih =>
    have := (addMonths_spec h).2.1
    omega

theorem Climbs.timeOfDay_eq {months : Int} (h : Climbs months last a b) :
    b.timeOfDay = a.timeOfDay := by
  induction h with
  | refl => rfl
  | step h _ _ ih => rw [ih, (addMonths_spec h).2.2.1]

theorem Climbs.wall_le {months : Int} (h : Climbs months last a b) (hclock : a.SameClock last)
    (hle : a.wall ≤ last.wall) : b.wall ≤ last.wall := by
  induction h with
  | refl => exact hle
  | step h hb _ ih =>
    have hclock := hclock.of_zone_eq (addMonths_spec h).2.2.2.1
    exact ih hclock (wall_le_of_notAfter hclock hb)

/-- A count ends on the least of its first day and the lengths of the months that it comes by. -/
theorem Climbs.le_day_iff (h : Climbs (months : Int) last a b) (hmonths : 0 < months) :
    d ≤ b.date.day ↔ d ≤ a.date.day ∧ ∀ i, 1 ≤ i → a.monthIndex + months * i ≤ b.monthIndex →
      d ≤ monthLength (a.monthIndex + months * i) := by
  induction h with
  | refl a =>
    refine ⟨fun hd => ⟨hd, fun i hi hle => ?_⟩, And.left⟩
    have := Nat.mul_pos hmonths hi
    omega
  | @step a c b h _ hc ih =>
    have hindex : c.monthIndex = a.monthIndex + months := by
      have := (addMonths_spec h).2.1
      omega
    have hnext (i : Nat) : a.monthIndex + months * (i + 1) = c.monthIndex + months * i := by
      rw [Nat.mul_succ, hindex]
      omega
    have hreached := hc.monthIndex_le
    rw [ih, day_eq_min h, le_min_iff, and_assoc]
    refine and_congr_right fun _ => ⟨?_, fun hall => ⟨?_, fun i hi hle => ?_⟩⟩
    · rintro ⟨hlen, hall⟩ i hi hle
      obtain ⟨i, rfl⟩ := Nat.exists_eq_add_of_le' hi
      rw [hnext] at hle ⊢
      rcases Nat.eq_zero_or_pos i with rfl | hi
      · exact hlen
      · exact hall i hi hle
    · have hone := hall 1 (Nat.le_refl 1)
      rw [hnext 0] at hone
      exact hone hreached
    · have hsucc := hall (i + 1) (Nat.succ_le_succ (Nat.zero_le i))
      rw [hnext] at hsucc
      exact hsucc hle

/-! ## What is counted -/

/-- What is counted is the steps. -/
theorem advance_count {months : Int} (h : advance months last steps n a = .ok (k, b)) :
    ∃ j, k = n + j ∧ (b.monthIndex : Int) = a.monthIndex + months * j := by
  induction steps generalizing n a with
  | zero =>
    cases h
    exact ⟨0, rfl, by simp⟩
  | succ steps ih =>
    obtain ⟨c, hc, h⟩ := bind_eq_ok.1 h
    obtain ⟨r, -, h⟩ := bind_eq_ok.1 h
    cases r with
    | false =>
      obtain ⟨rfl, rfl⟩ := Prod.mk.inj (pure_eq_ok.1 h)
      exact ⟨0, rfl, by simp⟩
    | true =>
      obtain ⟨j, hk, hindex⟩ := ih h
      have hstep := (addMonths_spec hc).2.1
      refine ⟨j + 1, by omega, ?_⟩
      rw [Int.natCast_add, Int.mul_add]
      omega

/-- The microseconds of the weeks, days, hours and minutes. -/
def rest (s : Span) : Nat :=
  (((s.weeks * 7 + s.days) * 24 + s.hours) * 60 + s.minutes) * (60 * microsPerSecond)

/-- The years of a span lead to `b`, its months on to `c`, and the rest is measured from there. -/
structure Counts (first last : Moment) (s : Span) (b c : Moment) : Prop where
  years : Settles 12 last first b
  months : Settles 1 last b c
  afterYears : b.monthIndex = first.monthIndex + 12 * s.years
  afterMonths : c.monthIndex = b.monthIndex + s.months
  rest_le : c.wall + s.rest ≤ last.wall
  lt_rest : last.wall < c.wall + s.rest + 60 * microsPerSecond
  days_le : s.days ≤ 6
  hours_le : s.hours ≤ 23
  minutes_le : s.minutes ≤ 59

theorem exists_counts (hclock : first.SameClock last) (hle : first.wall ≤ last.wall)
    (h : forward first last = .ok s) : ∃ b c, Counts first last s b c := by
  obtain ⟨⟨years, b⟩, hb, h⟩ := bind_eq_ok.1 h
  obtain ⟨⟨months, c⟩, hc, h⟩ := bind_eq_ok.1 h
  obtain ⟨left, hleft, h⟩ := bind_eq_ok.1 h
  obtain ⟨y, hy, hindexb⟩ := advance_count hb
  obtain ⟨m, hm, hindexc⟩ := advance_count hc
  have hyears := (advance_eq_ok (suffice_maxSteps (by decide))).1 ⟨years, hb⟩
  have hmonths := (advance_eq_ok (suffice_maxSteps (by decide))).1 ⟨months, hc⟩
  have hclockb := hclock.of_zone_eq hyears.1.zone_eq
  have hclockc := hclockb.of_zone_eq hmonths.1.zone_eq
  have hwall := hmonths.1.wall_le hclockb (hyears.1.wall_le hclock hle)
  have hbetween : left = (last.wall : Int) - c.wall :=
    Except.ok.inj (hleft.symm.trans (between_of_sameClock hclockc))
  have hminutes := Nat.div_add_mod left.toNat (60 * microsPerSecond)
  have hmod := Nat.mod_lt left.toNat (show 0 < 60 * microsPerSecond by decide)
  cases pure_eq_ok.1 h
  refine ⟨b, c, hyears, hmonths, by dsimp only; omega, by dsimp only; omega, ?_, ?_, ?_, ?_, ?_⟩
  all_goals
    dsimp only [rest]
    rw [microsPerSecond] at *
    omega

/-! ## Years and months in one step -/

/-- The count of a span stops `n` months after its start: at the end of a year, and from the last
one on at the end of a month. -/
def Stops (s : Span) (n : Nat) : Prop :=
  (∃ i ≤ s.years, n = 12 * i) ∨ ∃ j ≤ s.months, n = 12 * s.years + j

/-- Of the days of its last month the count misses none: no month that it stops in is shorter than
the day that one step from the start comes to. -/
def KeepsDay (s : Span) (first : Moment) : Prop :=
  ∀ n, s.Stops n →
    min first.date.day (monthLength (first.monthIndex + (12 * s.years + s.months))) ≤
      monthLength (first.monthIndex + n)

/-- The years and months of a span in one step, and then the rest of it, lead from `first` to `last`,
to under a minute. -/
def AddsUp (s : Span) (first last : Moment) : Prop :=
  ∃ moved stop, first.addMonths (12 * s.years + s.months : Nat) = .ok moved ∧
    moved.add s.rest = .ok stop ∧ stop.wall ≤ last.wall ∧
      last.wall < stop.wall + 60 * microsPerSecond

/-- No month is shorter than 28 days. -/
theorem keepsDay_of_day_le (h : first.date.day ≤ 28) (s : Span) : s.KeepsDay first :=
  fun _ _ => min_le_of_left_le (Nat.le_trans h (Date.le_daysInMonth _ _))

namespace Counts

variable (h : Counts first last s b c)
include h

theorem monthIndex_eq : c.monthIndex = first.monthIndex + (12 * s.years + s.months) := by
  rw [h.afterMonths, h.afterYears, Nat.add_assoc]

theorem timeOfDay_eq : c.timeOfDay = first.timeOfDay :=
  h.months.1.timeOfDay_eq.trans h.years.1.timeOfDay_eq

/-- The count ends on the least of the first day and the lengths of the months it stops in. -/
theorem le_day_iff : d ≤ c.date.day ↔
    d ≤ first.date.day ∧ ∀ n, s.Stops n → d ≤ monthLength (first.monthIndex + n) := by
  have hyears : Climbs ((12 : Nat) : Int) last first b := h.years.1
  have hmonths : Climbs ((1 : Nat) : Int) last b c := h.months.1
  rw [hmonths.le_day_iff (by decide), hyears.le_day_iff (by decide), and_assoc]
  refine and_congr_right fun hd => ⟨?_, fun hall => ⟨fun i _ hi => ?_, fun j _ hj => ?_⟩⟩
  · rintro ⟨hy, hm⟩ n (⟨i, hi, rfl⟩ | ⟨j, hj, rfl⟩)
    · rcases Nat.eq_zero_or_pos i with rfl | hpos
      · exact Nat.le_trans hd first.day_le_monthLength
      · exact hy i hpos (by rw [h.afterYears]; omega)
    · rcases Nat.eq_zero_or_pos j with rfl | hpos
      · rcases Nat.eq_zero_or_pos s.years with hzero | hpos
        · rw [hzero]
          exact Nat.le_trans hd first.day_le_monthLength
        · exact hy s.years hpos (by rw [h.afterYears])
      · have := hm j hpos (by rw [h.afterMonths]; omega)
        rwa [h.afterYears, Nat.one_mul, Nat.add_assoc] at this
  · refine hall _ (.inl ⟨i, ?_, rfl⟩)
    rw [h.afterYears] at hi
    omega
  · rw [h.afterYears, Nat.one_mul, Nat.add_assoc]
    refine hall _ (.inr ⟨j, ?_, rfl⟩)
    rw [h.afterMonths] at hj
    omega

/-- One step leads to the month that the count ends in, to its day if the count keeps it and to a
later day else. -/
theorem exists_moved : ∃ moved, first.addMonths (12 * s.years + s.months : Nat) = .ok moved ∧
    moved.date.day = min first.date.day (monthLength c.monthIndex) ∧
    c.date.day ≤ moved.date.day ∧
    moved.wall + c.date.day * microsPerDay = c.wall + moved.date.day * microsPerDay := by
  have hin : first.HasMonth (12 * s.years + s.months : Nat) := by
    have hbounds := c.monthIndex_bounds
    rw [h.monthIndex_eq] at hbounds
    unfold HasMonth
    rw [maxMonthIndex] at hbounds
    omega
  obtain ⟨moved, hmoved⟩ := exists_addMonths hin
  obtain ⟨-, hindex, htime, -⟩ := addMonths_spec hmoved
  have hmonth : moved.monthIndex = c.monthIndex := by
    rw [h.monthIndex_eq]
    omega
  have hday : moved.date.day = min first.date.day (monthLength c.monthIndex) := by
    rw [day_eq_min hmoved, hmonth]
  refine ⟨moved, hmoved, hday, ?_, wall_add_day hmonth (htime.trans h.timeOfDay_eq.symm)⟩
  rw [hday]
  exact le_min (h.le_day_iff.1 (Nat.le_refl _)).1 c.day_le_monthLength

theorem keepsDay_iff : s.KeepsDay first ↔
    min first.date.day (monthLength c.monthIndex) ≤ c.date.day := by
  rw [h.le_day_iff, KeepsDay, h.monthIndex_eq]
  exact (and_iff_right (min_le_left _ _)).symm

theorem addsUp_iff : s.AddsUp first last ↔ s.KeepsDay first := by
  obtain ⟨moved, hmoved, hday, hle, hwall⟩ := h.exists_moved
  have hrest := h.rest_le
  have hrest' := h.lt_rest
  rw [h.keepsDay_iff, ← hday]
  constructor
  · rintro ⟨moved', stop, hmoved', hstop, hstop_le, -⟩
    cases hmoved.symm.trans hmoved'
    have hadd := (add_eq_ok hstop).1
    rw [microsPerDay, microsPerSecond] at *
    omega
  · intro hge
    have hsame : moved.wall = c.wall := by
      rw [Nat.le_antisymm hle hge] at hwall
      omega
    have hin : InYears (moved.wall + s.rest : Int) := by
      have := last.wall_lt
      rw [hsame]
      exact ⟨by omega, by omega⟩
    have hok : ¬Faults (moved.add s.rest) := fun hf => faults_add.1 hf hin
    cases hstop : moved.add s.rest with
    | error e =>
      cases add_error hstop
      exact absurd (by simp [hstop]) hok
    | ok stop =>
      have hadd := (add_eq_ok hstop).1
      exact ⟨moved, stop, hmoved, hstop, by omega, by omega⟩

/-- The months of a count that keeps its day are under a year. -/
theorem months_le (hkeeps : s.KeepsDay first) (hle : c.wall ≤ last.wall)
    (hclock : first.SameClock last) : s.months ≤ 11 := by
  obtain ⟨-, e, he, hpast⟩ := h.years
  have hclocke : e.SameClock last :=
    (hclock.of_zone_eq h.years.1.zone_eq).of_zone_eq (addMonths_spec he).2.2.2.1
  have hlt : c.wall < e.wall := Nat.lt_of_le_of_lt hle (wall_lt_of_notAfter hclocke hpast)
  have hindex : (e.monthIndex : Int) = b.monthIndex + 12 := (addMonths_spec he).2.1
  have htime : e.timeOfDay = c.timeOfDay :=
    (addMonths_spec he).2.2.1.trans h.months.1.timeOfDay_eq.symm
  have hafter := h.afterMonths
  rcases Nat.lt_trichotomy s.months 12 with hm | hm | hm
  · exact Nat.le_of_lt_succ hm
  · -- A twelfth month ends in the month of the further year, on the day of the further year.
    have hmonth : e.monthIndex = c.monthIndex := by omega
    have hday : e.date.day ≤ c.date.day := by
      refine Nat.le_trans ?_ (h.keepsDay_iff.1 hkeeps)
      rw [day_eq_min he, hmonth]
      refine min_le_min_right _ ?_
      have hyears : Climbs ((12 : Nat) : Int) last first b := h.years.1
      exact ((hyears.le_day_iff (by decide)).1 (Nat.le_refl _)).1
    have hwall := wall_add_day hmonth htime
    rw [microsPerDay] at hwall
    omega
  · have hlt' : e.wall < c.wall :=
      wall_lt_of_ordinal_lt (Date.ordinal_lt_of_monthIndex_lt e.date_isValid c.date_isValid
        (show e.monthIndex < c.monthIndex by omega))
    omega

end Counts

/-- **What a span adds up to.** Of two moments of one clock whose span has a text, the numbers of days,
hours and minutes that the text tells stay below a week, a day and an hour. The months stay below a
year and the whole adds up, from the earlier moment to the later one, exactly if the count keeps its
day, and it does so from each of the first 28 days of a month. -/
theorem between_addsUp {t : Text} (hclock : a.SameClock b)
    (h : (between a b).map format = .ok t) :
    (ofText t).days ≤ 6 ∧ (ofText t).hours ≤ 23 ∧ (ofText t).minutes ≤ 59 ∧
      ((ofText t).months ≤ 11 ∧ (ofText t).AddsUp (earlier a b) (later a b) ↔
        (ofText t).KeepsDay (earlier a b)) ∧
      ((earlier a b).date.day ≤ 28 → (ofText t).KeepsDay (earlier a b)) := by
  obtain ⟨s, hs, rfl⟩ := map_eq_ok.1 h
  rw [ofText_format]
  have hforward : forward (earlier a b) (later a b) = .ok s ∧
      (earlier a b).SameClock (later a b) ∧ (earlier a b).wall ≤ (later a b).wall := by
    rw [between, notAfter_of_sameClock hclock, ok_bind] at hs
    unfold earlier later
    by_cases hle : a.wall ≤ b.wall
    · simp only [hle, decide_true, if_true] at hs ⊢
      exact ⟨hs, hclock, trivial⟩
    · simp only [hle, decide_false, if_false] at hs ⊢
      exact ⟨hs, hclock.symm, Nat.le_of_not_le hle⟩
  obtain ⟨hs, hclock, hle⟩ := hforward
  obtain ⟨b', c, hc⟩ := exists_counts hclock hle hs
  have hreached : c.wall ≤ (later a b).wall := Nat.le_trans (Nat.le_add_right _ _) hc.rest_le
  refine ⟨hc.days_le, hc.hours_le, hc.minutes_le, ?_, fun h => keepsDay_of_day_le h s⟩
  rw [hc.addsUp_iff]
  exact and_iff_right_of_imp fun hkeeps => hc.months_le hkeeps hreached hclock

/-- From 12:34 on 1 March 2024 back to the last day of January 2023: no month that the count stops in
is shorter than its last one. -/
theorem between_addsUp_january : ∃ (a b : Moment) (t : Text), a.SameClock b ∧
    (between a b).map format = .ok t ∧ t = "1 year 1 month 1 day 12 hours 34 min".toList ∧
    (earlier a b).date = ⟨2023, 1, 31⟩ ∧ (ofText t).AddsUp (earlier a b) (later a b) := by
  let a : Moment := ⟨63844893240000000, none, false, by decide⟩
  let b : Moment := ⟨63810720000000000, none, false, by decide⟩
  have hspan : (between a b).map format = .ok "1 year 1 month 1 day 12 hours 34 min".toList := by
    decide +kernel
  obtain ⟨-, -, -, hiff, -⟩ := between_addsUp (show a.SameClock b from trivial) hspan
  have hkeeps : (ofText "1 year 1 month 1 day 12 hours 34 min".toList).KeepsDay (earlier a b) := by
    rintro n (⟨i, hi, rfl⟩ | ⟨j, hj, rfl⟩)
    · have hi : i ≤ 1 := hi
      interval_cases i <;> decide +kernel
    · have hj : j ≤ 1 := hj
      interval_cases j <;> decide +kernel
  exact ⟨a, b, _, trivial, hspan, rfl, by decide +kernel, (hiff.2 hkeeps).2⟩

/-- The first step from the 29th of February loses the day, and the fourth does not find it again. -/
example : (between ⟨63844761600000000, none, false, by decide⟩
    ⟨63970992000000000, none, false, by decide⟩).map format = .ok "4 years 1 day".toList := by
  decide +kernel

end Span

end Worksheet
