import Worksheet.Calendar.Reading
import Worksheet.Proofs.Moments
import Worksheet.Proofs.ZoneNames

/-!
# Reading by the clock

A date stands for itself, but `now`, a word for a day and a time of day are read by the clock, which
may have to be told in another zone. Near the ends of the calendar that fails
(`faults_ofText?`). What is read by a clock that knows its zone has a zone, since every abbreviation
of a zone names one of the zone table.
-/

namespace Worksheet

open Text Result

/-! ## What is read -/

namespace Moment

variable {now m : Moment} {zone : Option Zone} {t word : Text}

theorem isSome_zone_inZone (h : now.inZone zone = .ok m) : m.zone.isSome = true :=
  isSome_zone_toZone h

theorem isSome_zone_ofDayWord (h : ofDayWord now word zone = .ok m) : m.zone.isSome = true := by
  obtain ⟨today, ht, h⟩ := bind_eq_ok.1 h
  rw [(add_eq_ok h).2.1, zone_setTime]
  exact isSome_zone_inZone ht

/-- What is read in a zone has one. -/
theorem isSome_zone_ofPlainText? (hz : zone.isSome = true)
    (h : ofPlainText? now zone t = .ok (some m)) : m.zone.isSome = true := by
  unfold ofPlainText? at h
  dsimp only at h
  split at h
  · obtain ⟨m', hm', h⟩ := bind_eq_ok.1 h
    cases h
    exact isSome_zone_inZone hm'
  split at h
  · obtain ⟨m', hm', h⟩ := bind_eq_ok.1 h
    cases h
    exact isSome_zone_ofDayWord hm'
  split at h
  · rw [zone_ofDate? (Except.ok.inj h)]
    exact hz
  split at h
  · obtain ⟨m', hm', h⟩ := bind_eq_ok.1 h
    cases h
    rw [zone_setTime]
    exact isSome_zone_inZone hm'
  · cases h

theorem isSome_zone_splitZone (hz : zone.isSome = true) : (splitZone zone t).1.isSome = true := by
  unfold splitZone
  split
  · split
    · next h =>
      rw [Bool.and_eq_true] at h
      exact Zone.isSome_ofText? h.2
    · exact hz
  · exact hz

theorem isSome_zone_ofText? (hnow : now.zone.isSome = true)
    (h : ofText? now zone t = .ok (some m)) : m.zone.isSome = true := by
  refine isSome_zone_ofPlainText? (isSome_zone_splitZone ?_) h
  cases zone with
  | none => exact hnow
  | some => rfl

/-! ## What cannot be read -/

/-- Whether a text is read by the clock: it says now, names a day by a word, or is a time of day. -/
def GoesByClock (t : Text) : Prop :=
  isNow (lower t) = true ∨ isDayWord (lower t) = true ∨
    ((Format.dates.findSome? fun f => f.read? t) = none ∧
      (Format.times.findSome? fun f => f.read? (lower t)).isSome = true)

/-- The day that a word names lies behind the last day or before the first. -/
def LacksDay (today : Moment) (word : Text) : Prop :=
  (word = "tomorrow".toList ∧ today.ordinal = Date.maxOrdinal) ∨
    (word = "yesterday".toList ∧ today.ordinal = 1)

/-- A text is read by the clock, and the calendar ends before the clock comes to the zone of the text,
or before the day that it names. -/
def Unreadable (now : Moment) (zone : Option Zone) (t : Text) : Prop :=
  let (zone, t) := splitZone (zone.or now.zone) (trim t)
  (GoesByClock t ∧ now.Leaves (zone.getD Zone.utc)) ∨
    ∃ today, now.inZone zone = .ok today ∧ LacksDay today (lower t)

/-- The start of the day `days` further on lies outside the years. -/
theorem not_inYears_day {o : Nat} {days : Int} (ho : 1 ≤ o) (ho' : o ≤ Date.maxOrdinal)
    (hd : -1 ≤ days) (hd' : days ≤ 1) :
    ¬InYears (((o - 1) * microsPerDay : Nat) + days * microsPerDay) ↔
      (days = 1 ∧ o = Date.maxOrdinal) ∨ (days = -1 ∧ o = 1) := by
  unfold InYears
  rw [microsPerDay]
  omega

theorem faults_ofDayWord : Faults (ofDayWord now word zone) ↔
    now.Leaves (zone.getD Zone.utc) ∨ ∃ today, now.inZone zone = .ok today ∧ LacksDay today word := by
  unfold ofDayWord
  simp only [faults_bind, inZone, faults_toZone, faults_add, wall_setTime_zero]
  refine or_congr Iff.rfl (exists_congr fun today => and_congr_right fun _ => ?_)
  generalize hdays : (if word == "tomorrow".toList then 1
    else if word == "yesterday".toList then -1 else 0 : Int) = days
  have hd : (-1 ≤ days ∧ days ≤ 1) ∧ (days = 1 ↔ word = "tomorrow".toList) ∧
      (days = -1 ↔ word = "yesterday".toList) := by
    by_cases ht : word = "tomorrow".toList
    · subst ht
      subst hdays
      decide
    by_cases hy : word = "yesterday".toList
    · subst hy
      subst hdays
      decide
    · rw [if_neg (by simpa using ht), if_neg (by simpa using hy)] at hdays
      subst hdays
      simp only [ht, hy]
      decide
  rw [not_inYears_day today.one_le_ordinal today.ordinal_le hd.1.1 hd.1.2, hd.2.1, hd.2.2,
    LacksDay]

theorem faults_ofPlainText? : Faults (ofPlainText? now zone t) ↔
    (GoesByClock t ∧ now.Leaves (zone.getD Zone.utc)) ∨
      ∃ today, now.inZone zone = .ok today ∧ LacksDay today (lower t) := by
  have hnow (h : isNow (lower t) = true) (today : Moment) : ¬LacksDay today (lower t) := by
    rintro (⟨hl, -⟩ | ⟨hl, -⟩) <;> rw [hl] at h <;> exact absurd h (by decide)
  have hday (h : isDayWord (lower t) ≠ true) (today : Moment) : ¬LacksDay today (lower t) := by
    rintro (⟨hl, -⟩ | ⟨hl, -⟩) <;> rw [hl] at h <;> exact h (by decide)
  have hleaves : Faults (now.inZone zone) ↔ now.Leaves (zone.getD Zone.utc) := faults_toZone
  unfold ofPlainText? GoesByClock
  dsimp only
  split
  · next h => simp [hleaves, h, hnow h]
  · next h =>
    split
    · next h' => simp [h', faults_ofDayWord]
    · next h' =>
      split
      · next hd => simp [h, h', hd, hday h']
      · next hd =>
        split
        · next ht => simp [h, h', hd, ht, hday h', hleaves]
        · next ht => simp [h, h', hd, ht, hday h']

/-- Reading fails where the calendar ends, and only there. -/
theorem faults_ofText? : Faults (ofText? now zone t) ↔ Unreadable now zone t := faults_ofPlainText?

/-! ## Dates without a year -/

theorem isSome_zone_ofPartialText? (hnow : now.zone.isSome = true)
    (h : ofPartialText? now t = .ok (some m)) : m.zone.isSome = true := by
  unfold ofPartialText? at h
  dsimp only at h
  split at h
  · exact isSome_zone_ofText? hnow h
  · split at h
    · next hd =>
      cases h
      obtain ⟨d, -, hd⟩ := Option.bind_eq_some_iff.1 hd
      rw [zone_ofDate? hd]
      exact hnow
    · cases h

/-- The day and the month that a text names, if it names a month. -/
def monthAndDay? (t : Text) : Option (Nat × Text) :=
  (nameAndDay? (lower (trim t))).bind fun (name, day) => (monthOfName? name).map (·, day)

/-- A text that names no month is read as any other. -/
theorem faults_ofPartialText? : Faults (ofPartialText? now t) ↔
    monthAndDay? t = none ∧ Unreadable now now.zone (lower (trim t)) := by
  unfold ofPartialText?
  dsimp only
  rw [← monthAndDay?]
  split
  · next h => simp [h, faults_ofText?]
  · next h =>
    rw [h]
    split <;> simp

end Moment

end Worksheet
