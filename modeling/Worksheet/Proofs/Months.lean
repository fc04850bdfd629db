import Worksheet.Proofs.Moments

/-!
# Moving by months

**Theorem (`addMonths_calendar`).** A moment moved by months keeps its zone and its time of day, and
its day as far as the month has it. On the wall clock more months lead further, later moments of one
time of day stay later, and up to the 28th day of a month two moves are one.

Dates are ordered as their months and then as their days (`Date.ordinal_le_iff`), and moments of one
time of day as their dates, so that cutting a day to the length of its month keeps the order.
-/

namespace Worksheet

/-! ## The order of dates -/

namespace Date

variable {d e : Date}

/-- Months from the start of the year 0. -/
def monthIndex (d : Date) : Nat := 12 * d.year + (d.month - 1)

/-- The dates of a month stand before those of all later months. -/
theorem ordinal_lt_of_monthIndex_lt (hd : d.isValid = true) (he : e.isValid = true)
    (h : d.monthIndex < e.monthIndex) : d.ordinal < e.ordinal := by
  obtain ⟨-, -, hdm, hdm', -, hdd⟩ := isValid_iff.1 hd
  obtain ⟨-, -, hem, hem', hed, -⟩ := isValid_iff.1 he
  unfold monthIndex at h
  rcases Nat.lt_or_ge d.year e.year with hy | hy
  · calc d.ordinal ≤ daysBeforeYear (d.year + 1) := (ordinal_bounds hd).2
      _ ≤ daysBeforeYear e.year := daysBeforeYear_mono hy
      _ < e.ordinal := (ordinal_bounds he).1
  · have hyear : d.year = e.year := by omega
    have hsucc := daysBeforeMonth_succ d.year hdm
    have hmono := daysBeforeMonth_mono d.year (m := d.month + 1) (k := e.month) (by omega) (by omega)
    rw [ordinal, ordinal, ← hyear]
    omega

/-- In one month, dates are ordered as their days. -/
theorem ordinal_le_iff_day_le (hd : d.isValid = true) (he : e.isValid = true)
    (h : d.monthIndex = e.monthIndex) : d.ordinal ≤ e.ordinal ↔ d.day ≤ e.day := by
  obtain ⟨-, -, hdm, hdm', -⟩ := isValid_iff.1 hd
  obtain ⟨-, -, hem, hem', -⟩ := isValid_iff.1 he
  unfold monthIndex at h
  have hyear : d.year = e.year := by omega
  have hmonth : d.month = e.month := by omega
  rw [ordinal, ordinal, hyear, hmonth, Nat.add_le_add_iff_left]

/-- Dates are ordered as their months, and in one month as their days. -/
theorem ordinal_le_iff (hd : d.isValid = true) (he : e.isValid = true) :
    d.ordinal ≤ e.ordinal ↔
      d.monthIndex < e.monthIndex ∨ (d.monthIndex = e.monthIndex ∧ d.day ≤ e.day) := by
  rcases Nat.lt_trichotomy d.monthIndex e.monthIndex with h | h | h
  · have := ordinal_lt_of_monthIndex_lt hd he h
    omega
  · have := ordinal_le_iff_day_le hd he h
    omega
  · have := ordinal_lt_of_monthIndex_lt he hd h
    omega

theorem le_daysInMonth (year month : Nat) : 28 ≤ daysInMonth year month := by
  unfold daysInMonth
  split
  · split <;> omega
  · split <;> omega

end Date

namespace Moment

variable {a b t t' u v : Moment} {m n : Int}

/-! ## The order of moments -/

theorem ordinal_date (m : Moment) : m.date.ordinal = m.ordinal :=
  (Date.ofOrdinal_isValid m.one_le_ordinal m.ordinal_le).2

/-- The wall clock shows the date and the time of day. -/
theorem wall_eq (m : Moment) : m.wall = (m.date.ordinal - 1) * microsPerDay + m.timeOfDay := by
  rw [ordinal_date, ordinal, Nat.add_sub_cancel, timeOfDay, Nat.div_add_mod']

theorem wall_lt_of_ordinal_lt (h : u.date.ordinal < v.date.ordinal) : u.wall < v.wall := by
  have hu := u.timeOfDay_lt
  have hone := Date.one_le_ordinal u.date_isValid
  rw [u.wall_eq, v.wall_eq]
  rw [microsPerDay] at *
  omega

/-- At one time of day, moments are ordered as their dates. -/
theorem wall_le_iff (h : u.timeOfDay = v.timeOfDay) :
    u.wall ≤ v.wall ↔ u.date.ordinal ≤ v.date.ordinal := by
  have hu := Date.one_le_ordinal u.date_isValid
  have hv := Date.one_le_ordinal v.date_isValid
  rw [u.wall_eq, v.wall_eq, h, microsPerDay]
  omega

/-- Two moments are told by one clock: both without a zone, or both of one zone. -/
def SameClock (a b : Moment) : Prop :=
  match a.zone, b.zone with
  | none, none => True
  | some y, some z => y.same z = true
  | _, _ => False

/-- Moments of one clock are as far apart as what it shows. -/
theorem between_of_sameClock (h : a.SameClock b) : a.between b = .ok ((b.wall : Int) - a.wall) := by
  unfold SameClock at h
  unfold between
  generalize a.zone = y, b.zone = z at h
  cases y with
  | none =>
    cases z with
    | none => rfl
    | some z => exact h.elim
  | some y =>
    cases z with
    | none => exact h.elim
    | some z => exact if_pos h

theorem notAfter_of_sameClock (h : a.SameClock b) :
    a.notAfter b = .ok (decide (a.wall ≤ b.wall)) := by
  have hle : decide (0 ≤ (b.wall : Int) - a.wall) = decide (a.wall ≤ b.wall) :=
    decide_eq_decide.2 (by omega)
  rw [notAfter, between_of_sameClock h, ← hle]
  rfl

/-! ## Moving -/

/-- The month `n` months further on lies in the years 1 to 9999. -/
def HasMonth (t : Moment) (n : Int) : Prop :=
  1 ≤ (t.monthIndex + n) / 12 ∧ (t.monthIndex + n) / 12 ≤ Date.maxYear

instance (t : Moment) (n : Int) : Decidable (t.HasMonth n) := inferInstanceAs (Decidable (_ ∧ _))

theorem exists_addMonths (h : t.HasMonth n) : ∃ u, t.addMonths n = .ok u := by
  obtain ⟨-, -, -, -, hday, -⟩ := Date.isValid_iff.1 t.date_isValid
  have hin : 12 ≤ t.monthIndex + n ∧ t.monthIndex + n ≤ maxMonthIndex := by
    unfold HasMonth at h
    rw [maxMonthIndex]
    rw [Date.maxYear] at *
    omega
  obtain ⟨u, hu, -⟩ :=
    ofDate?_spec t.zone t.fold ((monthDate_isValid hday).2 hin) t.timeOfDay_lt
  exact ⟨u, by rw [addMonths_eq, hu]⟩

/-- The day is that of before, cut to the length of the month that is reached. -/
theorem day_addMonths (h : t.addMonths n = .ok u) :
    u.date.day = min t.date.day (Date.daysInMonth u.date.year u.date.month) := by
  rw [(addMonths_spec h).1]
  rfl

/-- More months lead further. -/
theorem wall_addMonths_lt (hu : t.addMonths m = .ok u) (hv : t.addMonths n = .ok v) (h : m < n) :
    u.wall < v.wall := by
  have hum := (addMonths_spec hu).2.1
  have hvm := (addMonths_spec hv).2.1
  refine wall_lt_of_ordinal_lt (Date.ordinal_lt_of_monthIndex_lt u.date_isValid v.date_isValid ?_)
  show u.monthIndex < v.monthIndex
  omega

/-- A later moment of the same time of day stays later. -/
theorem wall_addMonths_le (hu : t.addMonths n = .ok u) (hv : t'.addMonths n = .ok v)
    (htime : t.timeOfDay = t'.timeOfDay) (h : t.wall ≤ t'.wall) : u.wall ≤ v.wall := by
  obtain ⟨-, hum, hut, -⟩ := addMonths_spec hu
  obtain ⟨-, hvm, hvt, -⟩ := addMonths_spec hv
  rw [wall_le_iff htime, Date.ordinal_le_iff t.date_isValid t'.date_isValid] at h
  rw [wall_le_iff (hut.trans (htime.trans hvt.symm)),
    Date.ordinal_le_iff u.date_isValid v.date_isValid]
  rcases h with h | ⟨h, hday⟩
  · have h : t.monthIndex < t'.monthIndex := h
    exact .inl (show u.monthIndex < v.monthIndex by omega)
  · have h : t.monthIndex = t'.monthIndex := h
    refine .inr ⟨show u.monthIndex = v.monthIndex by omega, ?_⟩
    rw [(addMonths_spec hu).1, (addMonths_spec hv).1, monthDate, monthDate, h]
    exact min_le_min_right _ hday

/-- The date of a moment is that of the number of its month. -/
theorem monthDate_monthIndex (m : Moment) : monthDate m.monthIndex m.date.day = m.date := by
  obtain ⟨-, -, hone, hle, -, hday⟩ := Date.isValid_iff.1 m.date_isValid
  have hyear : ((m.monthIndex : ℤ) / 12).toNat = m.date.year := by
    rw [monthIndex]
    omega
  have hmonth : ((m.monthIndex : ℤ) % 12).toNat + 1 = m.date.month := by
    rw [monthIndex]
    omega
  rw [monthDate, hyear, hmonth, min_eq_left hday]

/-- Moved by no month, a moment stays. -/
theorem addMonths_zero (m : Moment) : m.addMonths 0 = .ok m := by
  have hin : m.HasMonth 0 := by
    have h := m.monthIndex_bounds
    rw [maxMonthIndex] at h
    unfold HasMonth
    omega
  obtain ⟨u, hu⟩ := exists_addMonths hin
  obtain ⟨hdate, -, htime, hzone, hfold⟩ := addMonths_spec hu
  have hwall : u.wall = m.wall := by
    rw [u.wall_eq, m.wall_eq, hdate, htime, add_zero, monthDate_monthIndex]
  rw [hu]
  cases u
  cases m
  cases hwall
  cases hzone
  cases hfold
  rfl

/-- Up to the 28th day of a month no day is cut, and two moves are one. -/
theorem addMonths_addMonths (hu : t.addMonths m = .ok u) (hday : t.date.day ≤ 28) (n : Int) :
    u.addMonths n = t.addMonths (m + n) := by
  obtain ⟨-, hindex, htime, hzone, hfold⟩ := addMonths_spec hu
  have hsame : u.date.day = t.date.day := by
    rw [day_addMonths hu, min_eq_left (Nat.le_trans hday (Date.le_daysInMonth _ _))]
  rw [addMonths_eq, addMonths_eq, hindex, hsame, htime, hzone, hfold, Int.add_assoc]

/-- **Calendar arithmetic of months.** Where the month that is reached lies in the years 1 to 9999, a
move by months succeeds. It keeps the zone and the time of day, adds to the number of the month, and
cuts the day to the length of the month. In the order of the wall clock, which is that of moments of
one clock (`notAfter_of_sameClock`), more months lead to a later moment, and of two moments with one
time of day the later one stays the later one. Up to the 28th day, moving on from there is moving by
the sum. -/
theorem addMonths_calendar (t : Moment) (n : Int) (hn : t.HasMonth n) :
    ∃ u, t.addMonths n = .ok u ∧ u.zone = t.zone ∧ u.timeOfDay = t.timeOfDay ∧
      (12 * u.date.year + u.date.month : Int) = 12 * t.date.year + t.date.month + n ∧
      u.date.day = min t.date.day (Date.daysInMonth u.date.year u.date.month) ∧
      (∀ k, t.HasMonth k → n < k → ∃ v, t.addMonths k = .ok v ∧ u.wall < v.wall) ∧
      (∀ t' : Moment, t'.HasMonth n → t.timeOfDay = t'.timeOfDay → t.wall ≤ t'.wall →
        ∃ u', t'.addMonths n = .ok u' ∧ u.wall ≤ u'.wall) ∧
      (t.date.day ≤ 28 → ∀ k, u.addMonths k = t.addMonths (n + k)) := by
  obtain ⟨u, hu⟩ := exists_addMonths hn
  obtain ⟨-, hindex, htime, hzone, -⟩ := addMonths_spec hu
  refine ⟨u, hu, hzone, htime, ?number, day_addMonths hu, fun k hk hlt => ?further,
    fun t' ht' hsame hle => ?later, fun hday k => addMonths_addMonths hu hday k⟩
  case number =>
    obtain ⟨-, -, ht, -⟩ := Date.isValid_iff.1 t.date_isValid
    obtain ⟨-, -, hm, -⟩ := Date.isValid_iff.1 u.date_isValid
    rw [monthIndex, monthIndex] at hindex
    omega
  case further =>
    obtain ⟨v, hv⟩ := exists_addMonths hk
    exact ⟨v, hv, wall_addMonths_lt hu hv hlt⟩
  case later =>
    obtain ⟨u', hu'⟩ := exists_addMonths ht'
    exact ⟨u', hu', wall_addMonths_le hu hu' hsame hle⟩

/-- From noon of 31 January 2023 back over the new year to the 30th of November, and on to the 29th
of February. -/
theorem addMonths_calendar_leap : ∃ t u v : Moment, t.date = ⟨2023, 1, 31⟩ ∧ t.HasMonth (-2) ∧
    t.addMonths (-2) = .ok u ∧ u.date.day = min 31 (Date.daysInMonth u.date.year u.date.month) ∧
    t.addMonths 13 = .ok v ∧ u.wall < v.wall := by
  have hn : HasMonth ⟨63810763200000000, none, false, by decide⟩ (-2) := by decide +kernel
  have hdate : date ⟨63810763200000000, none, false, by decide⟩ = ⟨2023, 1, 31⟩ := by
    decide +kernel
  obtain ⟨u, hu, -, -, -, hday, hfurther, -⟩ := addMonths_calendar _ _ hn
  obtain ⟨v, hv, hwall⟩ := hfurther 13 (by decide +kernel) (by decide)
  rw [hdate] at hday
  exact ⟨_, u, v, hdate, hn, hu, hday, hv, hwall⟩

end Moment

end Worksheet
