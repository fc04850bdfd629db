import Worksheet.Calendar.Shift
import Worksheet.Proofs.Dates
import Worksheet.Proofs.Result

/-!
# Moments in the calendar

Which steps lead out of the years 1 to 9999: moving a moment on the wall clock (`faults_add`), telling
it in another zone (`faults_toZone`), and moving it by months (`faults_addMonths`). A step that stays
inside does what it says: `addMonths_spec`.
-/

namespace Worksheet

open Result

namespace Moment

variable {m m' : Moment} {wall : Int} {zone : Option Zone} {fold : Bool}

/-- Whether a wall time lies in the years 1 to 9999. -/
def InYears (wall : Int) : Prop := 0 ≤ wall ∧ wall < Date.maxOrdinal * 86400000000

theorem ofWall?_eq_none (zone : Option Zone) (fold : Bool) :
    ofWall? wall zone fold = none ↔ ¬InYears wall := by
  cases wall with
  | ofNat w =>
    simp only [ofWall?, dite_eq_right_iff, reduceCtorEq, imp_false, InYears, Int.ofNat_eq_natCast,
      Int.natCast_nonneg, true_and]
    omega
  | negSucc w =>
    simp only [ofWall?, InYears, true_iff]
    omega

theorem ofWall?_eq_some (h : ofWall? wall zone fold = some m) :
    (m.wall : Int) = wall ∧ m.zone = zone ∧ m.fold = fold := by
  cases wall with
  | ofNat w =>
    rw [ofWall?] at h
    split at h
    · cases h
      exact ⟨rfl, rfl, rfl⟩
    · cases h
  | negSucc w => cases h

/-! ## On the wall clock -/

theorem add_eq_ok {n : Int} (h : m.add n = .ok m') : (m'.wall : Int) = m.wall + n ∧
    m'.zone = m.zone ∧ m'.fold = false := by
  unfold add at h
  split at h
  · next hw =>
    cases h
    exact ofWall?_eq_some hw
  · cases h

theorem faults_add {n : Int} : Faults (m.add n) ↔ ¬InYears (m.wall + n) := by
  rw [← ofWall?_eq_none m.zone false, add]
  split
  · next h => simp [h]
  · next h => simp [h]

theorem add_error {n : Int} {e : Failure} (h : m.add n = .error e) : e = .fault .tooLarge := by
  unfold add at h
  split at h <;> cases h
  rfl

/-! ## In another zone -/

/-- The calendar ends before a moment comes to the zone `z`: in UTC, through which it goes, or in the
zone itself. -/
def Leaves (m : Moment) (z : Zone) : Prop :=
  m.zone.any z.same = false ∧
    (¬InYears (m.wall - m.offset?.getD 0 * microsPerSecond) ∨
      ∃ utc, m.add (-(m.offset?.getD 0) * microsPerSecond) = .ok utc ∧
        ¬InYears (utc.wall + (z.atInstant utc.date.year utc.wallSeconds).1.offset * microsPerSecond))

theorem faults_toZone {z : Zone} : Faults (m.toZone z) ↔ m.Leaves z := by
  unfold toZone Leaves
  split
  · next h => simp [h]
  · next h =>
    simp only [Bool.not_eq_true] at h
    simp only [h, faults_bind, faults_add, not_faults_pure, and_false, exists_false, or_false,
      true_and, Int.neg_mul, ← Int.sub_eq_add_neg]

theorem toZone_error {z : Zone} {e : Failure} (h : m.toZone z = .error e) :
    e = .fault .tooLarge := by
  unfold toZone at h
  split at h
  · cases h
  · rcases bind_eq_error.1 h with h | ⟨utc, -, h⟩
    · exact add_error h
    · rcases bind_eq_error.1 h with h | ⟨there, -, h⟩
      · exact add_error h
      · cases h

theorem isSome_zone_toZone {z : Zone} (h : m.toZone z = .ok m') : m'.zone.isSome = true := by
  unfold toZone at h
  split at h
  · next hz =>
    cases h
    cases hm : m.zone with
    | none => simp [hm] at hz
    | some => rfl
  · obtain ⟨utc, -, h⟩ := bind_eq_ok.1 h
    obtain ⟨there, -, h⟩ := bind_eq_ok.1 h
    cases h
    rfl

/-! ## Dates -/

theorem one_le_ordinal (m : Moment) : 1 ≤ m.ordinal := Nat.succ_le_succ (Nat.zero_le _)

theorem ordinal_le (m : Moment) : m.ordinal ≤ Date.maxOrdinal := by
  have := m.wall_lt
  rw [ordinal, microsPerDay]
  omega

theorem date_isValid (m : Moment) : m.date.isValid = true :=
  (Date.ofOrdinal_isValid m.one_le_ordinal m.ordinal_le).1

theorem timeOfDay_lt (m : Moment) : m.timeOfDay < microsPerDay := Nat.mod_lt _ (by decide)

/-- A date that exists, with a time, is a moment of that date and time. -/
theorem ofDate?_spec (zone : Option Zone) (fold : Bool) {d : Date} {t : Nat}
    (hd : d.isValid = true) (ht : t < microsPerDay) :
    ∃ m, ofDate? d t zone fold = some m ∧ m.date = d ∧ m.timeOfDay = t ∧ m.zone = zone ∧
      m.fold = fold := by
  have ho := Date.one_le_ordinal hd
  have ho' := Date.ordinal_le hd
  have hin : InYears ((d.ordinal - 1) * microsPerDay + t : Nat) := by
    refine ⟨Int.natCast_nonneg _, ?_⟩
    rw [microsPerDay] at ht ⊢
    omega
  rw [ofDate?, if_pos (by simp [hd, ht])]
  cases hm : ofWall? ((d.ordinal - 1) * microsPerDay + t : Nat) zone fold with
  | none => exact absurd hin ((ofWall?_eq_none _ _).1 hm)
  | some m =>
    obtain ⟨hw, hz, hf⟩ := ofWall?_eq_some hm
    have hday : m.wall / microsPerDay = d.ordinal - 1 ∧ m.wall % microsPerDay = t := by
      rw [microsPerDay] at *
      omega
    refine ⟨m, rfl, ?_, hday.2, hz, hf⟩
    rw [date, ordinal, hday.1, Nat.sub_add_cancel ho, Date.ofOrdinal_ordinal hd]

theorem zone_ofDate? {d : Date} {t : Nat} (h : ofDate? d t zone fold = some m) : m.zone = zone := by
  unfold ofDate? at h
  split at h
  · exact (ofWall?_eq_some h).2.1
  · cases h

theorem zone_setTime (m : Moment) (t : Nat) : (m.setTime t).zone = m.zone := by
  unfold setTime
  cases h : ofWall? ((m.ordinal - 1) * microsPerDay + t : Nat) m.zone m.fold with
  | none => rfl
  | some m' => exact (ofWall?_eq_some h).2.1

/-- The start of the day. -/
theorem wall_setTime_zero (m : Moment) : (m.setTime 0).wall = (m.ordinal - 1) * microsPerDay := by
  have hin : InYears ((m.ordinal - 1) * microsPerDay + 0 : Nat) := by
    have := m.ordinal_le
    have := m.wall_lt
    refine ⟨Int.natCast_nonneg _, ?_⟩
    rw [ordinal, microsPerDay] at *
    omega
  unfold setTime
  cases h : ofWall? ((m.ordinal - 1) * microsPerDay + 0 : Nat) m.zone m.fold with
  | none => exact absurd hin ((ofWall?_eq_none _ _).1 h)
  | some m' =>
    have := (ofWall?_eq_some h).1
    rw [Option.getD_some]
    omega

/-! ## Moments with a zone -/

/-- Two moments with a zone can be compared. -/
theorem between_eq_ok {a b : Moment} (ha : a.zone.isSome = true) (hb : b.zone.isSome = true) :
    ∃ n, a.between b = .ok n := by
  obtain ⟨y, hy⟩ := Option.isSome_iff_exists.1 ha
  obtain ⟨z, hz⟩ := Option.isSome_iff_exists.1 hb
  rw [between, hy, hz]
  dsimp only
  split
  · exact ⟨_, rfl⟩
  · exact ⟨_, rfl⟩

theorem notAfter_eq_ok {a b : Moment} (ha : a.zone.isSome = true) (hb : b.zone.isSome = true) :
    ∃ r, a.notAfter b = .ok r := by
  obtain ⟨n, hn⟩ := between_eq_ok ha hb
  rw [notAfter, hn]
  exact ⟨_, rfl⟩

/-! ## By months -/

/-- Months from the start of the year 0. -/
def monthIndex (m : Moment) : Nat := 12 * m.date.year + (m.date.month - 1)

/-- The index of the last month. -/
def maxMonthIndex : Nat := 12 * Date.maxYear + 11

theorem monthIndex_bounds (m : Moment) : 12 ≤ m.monthIndex ∧ m.monthIndex ≤ maxMonthIndex := by
  obtain ⟨hy, hy', hm, hm', -⟩ := Date.isValid_iff.1 m.date_isValid
  rw [monthIndex, maxMonthIndex]
  omega

/-- The day of a month index, cut to the length of the month. -/
def monthDate (index : Int) (day : Nat) : Date :=
  let year := (index / 12).toNat
  let month := (index % 12).toNat + 1
  ⟨year, month, min day (Date.daysInMonth year month)⟩

theorem one_le_daysInMonth (year month : Nat) : 1 ≤ Date.daysInMonth year month := by
  unfold Date.daysInMonth
  split
  · split <;> omega
  · split <;> omega

theorem monthDate_isValid {index : Int} {day : Nat} (hd : 1 ≤ day) :
    (monthDate index day).isValid = true ↔ 12 ≤ index ∧ index ≤ maxMonthIndex := by
  rw [Date.isValid_iff, monthDate, maxMonthIndex, Date.maxYear]
  dsimp only
  have hone := one_le_daysInMonth (index / 12).toNat ((index % 12).toNat + 1)
  omega

theorem ofDate?_eq_none {d : Date} {t : Nat} (h : d.isValid = false) :
    ofDate? d t zone fold = none := by
  rw [ofDate?, if_neg (by simp [h])]

/-- Moving by months adds to the month index; the day is cut to the length of its month. -/
theorem addMonths_eq (m : Moment) (n : Int) : m.addMonths n =
    match ofDate? (monthDate (m.monthIndex + n) m.date.day) m.timeOfDay m.zone m.fold with
    | some m => .ok m
    | none =>
      .error
        (.fault (if isRepresentable ((m.monthIndex + n) / 12) then .badValue else .tooLarge)) := by
  obtain ⟨-, -, -, -, hd, -⟩ := Date.isValid_iff.1 m.date_isValid
  have hyear : m.date.year + ((m.date.month - 1 : Nat) + n : Int).fdiv 12 =
      (m.monthIndex + n) / 12 := by
    rw [Int.fdiv_eq_ediv_of_nonneg _ (by decide), monthIndex]
    omega
  have hmonth : ((m.date.month - 1 : Nat) + n : Int).fmod 12 = (m.monthIndex + n) % 12 := by
    rw [Int.fmod_eq_emod_of_nonneg _ (by decide), monthIndex]
    omega
  unfold addMonths
  dsimp only
  rw [hyear, hmonth]
  cases hr : isRepresentable ((m.monthIndex + n) / 12) with
  | true => rfl
  | false =>
    have hv : (monthDate (m.monthIndex + n) m.date.day).isValid = false := by
      rw [← Bool.not_eq_true, monthDate_isValid hd, maxMonthIndex, Date.maxYear]
      simp only [isRepresentable, Bool.and_eq_false_iff, decide_eq_false_iff_not] at hr
      omega
    rw [ofDate?_eq_none hv]
    rfl

theorem faults_addMonths {n : Int} : Faults (m.addMonths n) ↔
    ¬(12 ≤ m.monthIndex + n ∧ m.monthIndex + n ≤ maxMonthIndex) := by
  obtain ⟨-, -, -, -, hd, -⟩ := Date.isValid_iff.1 m.date_isValid
  rw [← monthDate_isValid hd, addMonths_eq]
  cases hv : (monthDate (m.monthIndex + n) m.date.day).isValid with
  | true =>
    obtain ⟨m', hm', -⟩ := ofDate?_spec m.zone m.fold hv m.timeOfDay_lt
    simp [hm']
  | false => simp [ofDate?_eq_none hv]

/-- A moment moved by months. -/
theorem addMonths_spec {n : Int} (h : m.addMonths n = .ok m') :
    m'.date = monthDate (m.monthIndex + n) m.date.day ∧ (m'.monthIndex : Int) = m.monthIndex + n ∧
      m'.timeOfDay = m.timeOfDay ∧ m'.zone = m.zone ∧ m'.fold = m.fold := by
  obtain ⟨-, -, -, -, hd, -⟩ := Date.isValid_iff.1 m.date_isValid
  have hv : (monthDate (m.monthIndex + n) m.date.day).isValid = true := by
    refine Classical.byContradiction fun hv => ?_
    have : Faults (m.addMonths n) := faults_addMonths.2 fun hb => hv ((monthDate_isValid hd).2 hb)
    simp [h] at this
  obtain ⟨m'', hm'', hdate, ht, hz, hf⟩ :=
    ofDate?_spec m.zone m.fold hv m.timeOfDay_lt
  rw [addMonths_eq, hm''] at h
  cases h
  refine ⟨hdate, ?_, ht, hz, hf⟩
  have hb := (monthDate_isValid hd).1 hv
  rw [monthIndex, hdate, monthDate]
  dsimp only
  omega

/-- An error of moving by months is one of two faults. -/
theorem addMonths_error {n : Int} {e : Failure} (h : m.addMonths n = .error e) :
    e = .fault .badValue ∨ e = .fault .tooLarge := by
  rw [addMonths_eq] at h
  split at h
  · cases h
  · cases h
    split
    · exact .inl rfl
    · exact .inr rfl

end Moment

end Worksheet
