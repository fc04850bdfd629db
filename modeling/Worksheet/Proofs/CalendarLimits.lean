import Worksheet.Calendar.Phrase
import Worksheet.Proofs.Limits
import Worksheet.Proofs.Readings
import Worksheet.Proofs.Spans

/-!
# Limits of phrases about dates

A phrase about dates faults where the calendar ends in the middle of its computation: where a text
in it cannot be read by the clock (`Unreadable`), where the clock has to be told in another zone, and
where the years or months of a span are counted to the last one (`Span.Overruns`). Dates that are
moved and dates that are told in another zone are refused instead, as are durations that are too
long. The clock is taken to know its zone.
-/

namespace Worksheet

open Text Result

namespace Calendar

/-! ## Refusals in place of faults -/

/-- A fault that stems from a limit of the calendar. -/
def IsCalendarFault (e : Failure) : Prop := e = .fault .badValue ∨ e = .fault .tooLarge

section Refusals

variable {α : Type} {e : PhraseError} {x : Result α}

theorem not_faults_orElseFail (h : ∀ f, x = .error (.fault f) → IsCalendarFault (.fault f)) :
    ¬Faults (orElseFail e x) := by
  unfold orElseFail
  split
  · exact not_faults_line _
  · exact not_faults_line _
  · next hl hv =>
    rintro ⟨f, hf⟩
    rcases h f hf with hc | hc
    · exact hv (hf.trans (congrArg _ hc))
    · exact hl (hf.trans (congrArg _ hc))

theorem ofUnits_error {amount : Float} {size : Nat} {e : Failure}
    (h : Duration.ofUnits amount size = .error e) : IsCalendarFault e := by
  unfold Duration.ofUnits Duration.ofMicros at h
  unfold IsCalendarFault
  split at h
  · cases h
    split <;> simp
  · dsimp only at h
    split at h
    · cases h
      exact .inr rfl
    · split at h <;> cases h
      exact .inr rfl

theorem ofUnit_error {amount : Float} {u : TimeUnit} {e : Failure}
    (h : Duration.ofUnit amount u = .error e) : IsCalendarFault e := by
  cases u <;> exact ofUnits_error h

theorem shift_error {m : Moment} {amount : Float} {u : TimeUnit} {e : Failure}
    (h : m.shift amount u = .error e) : IsCalendarFault e := by
  unfold Moment.shift at h
  split at h
  · exact Moment.addMonths_error h
  · rcases bind_eq_error.1 h with h | ⟨d, -, h⟩
    · exact ofUnit_error h
    · exact .inr (Moment.add_error h)

end Refusals

/-! ## Single rules -/

section Rules

variable {now : Moment} {p : Pattern} {f : Match → Result (Option Text)} {expr low : Text}

theorem faults_onWhole (expr low : Text) :
    Faults (onWhole p f expr low) ↔ ∃ m, p.matchStart expr = some m ∧ Faults (f m) := by
  unfold onWhole
  split
  · next m hm => simp [hm]
  · next hm => simp [hm]

/-- The clock has to be told in a zone in which the calendar has ended. -/
def nowElsewhereLimit (now : Moment) (expr _ : Text) : Prop :=
  ∃ m, nowIn.matchStart expr = some m ∧ ∃ z, Zone.ofText? (m.group 1) = some z ∧ now.Leaves z

theorem faults_nowElsewhere (expr low : Text) :
    Faults (nowElsewhere now expr low) ↔ nowElsewhereLimit now expr low := by
  unfold nowElsewhere nowElsewhereLimit
  rw [faults_onWhole]
  refine exists_congr fun m => and_congr_right fun _ => ?_
  split
  · next h => simp [h]
  · next z h => simp [h, Moment.faults_toZone]

/-- A word names a day that the calendar does not have. -/
def dayWordLimit (now : Moment) (_ low : Text) : Prop :=
  Moment.isDayWord low = true ∧
    (now.Leaves (now.zone.getD Zone.utc) ∨
      ∃ today, now.inZone now.zone = .ok today ∧ Moment.LacksDay today low)

theorem faults_nowHere (expr low : Text) :
    Faults (nowHere now expr low) ↔ dayWordLimit now expr low := by
  unfold nowHere dayWordLimit
  split
  · next h =>
    have hday : Moment.isDayWord low = false := by
      rw [Moment.isNow, Bool.or_eq_true, beq_iff_eq, beq_iff_eq] at h
      rcases h with rfl | rfl <;> decide
    simp [hday]
  · split
    · next h => simp [h, Moment.faults_ofDayWord]
    · next h => simp [h]

/-- A text cannot be read in a zone, where both zones are known. -/
def RetoldLimit (now : Moment) (t source target : Text) : Prop :=
  ∃ z z', Zone.ofText? source = some z ∧ Zone.ofText? target = some z' ∧
    Moment.Unreadable now (some z) t

theorem faults_retold {t source target : Text} :
    Faults (retold now t source target) ↔ RetoldLimit now t source target := by
  unfold retold RetoldLimit
  split
  · next z z' hz hz' =>
    rw [faults_bind, Moment.faults_ofText?]
    have hzones : (∃ y y', Zone.ofText? source = some y ∧ Zone.ofText? target = some y' ∧
        Moment.Unreadable now (some y) t) ↔ Moment.Unreadable now (some z) t := by
      simp [hz, hz']
    rw [hzones, or_iff_left]
    rintro ⟨_ | m, -, h⟩
    · exact not_faults_pure _ h
    · rcases faults_bind.1 h with h | ⟨m', -, h⟩
      · exact not_faults_orElseFail (fun f hf => .inr (Moment.toZone_error hf)) h
      · exact not_faults_pure _ h
  · next h =>
    refine iff_of_false (not_faults_ok _) ?_
    rintro ⟨z, z', hz, hz', -⟩
    exact h z z' hz hz'

/-- A duration is converted into another unit, and the conversion ends in a fault of its own. -/
def durationInUnitLimit (expr _ : Text) : Prop :=
  ∃ m, durationIn.matchStart expr = some m ∧ ∃ x, m.number 1 = .ok x ∧
    Faults (convert x (.ofWord (m.group 2)) (.ofWord (m.group 3)))

theorem faults_durationInUnit (expr low : Text) :
    Faults (durationInUnit expr low) ↔ durationInUnitLimit expr low := by
  unfold durationInUnit durationInUnitLimit
  rw [faults_onWhole]
  refine exists_congr fun m => and_congr_right fun _ => ?_
  simp only [faults_bind, not_faults_number, false_or, not_faults_pure, and_false, exists_false,
    or_false]

/-- The date that is to be moved cannot be read. -/
def movedDateLimit (now : Moment) (expr _ : Text) : Prop :=
  ∃ m, moved.matchStart expr = some m ∧ Moment.Unreadable now none (m.group 1)

theorem faults_movedDate (expr low : Text) :
    Faults (movedDate now expr low) ↔ movedDateLimit now expr low := by
  unfold movedDate movedDateLimit
  rw [faults_onWhole]
  refine exists_congr fun m => and_congr_right fun _ => ?_
  rw [faults_bind, Moment.faults_ofText?]
  refine or_iff_left ?_
  rintro ⟨_ | base, -, h⟩
  · exact not_faults_pure _ h
  · rcases faults_bind.1 h with h | ⟨x, -, h⟩
    · exact not_faults_number h
    · rcases faults_bind.1 h with h | ⟨m', -, h⟩
      · exact not_faults_orElseFail (fun f hf => shift_error hf) h
      · exact not_faults_pure _ h

/-- A multiple of a duration is refused where it is too long. -/
theorem not_faults_multiple (expr low : Text) : ¬Faults (multiple expr low) := by
  unfold multiple
  split
  · exact not_faults_ok _
  · dsimp only
    split
    · exact not_faults_pure _
    · simp only [faults_bind, not_faults_number, false_or, not_faults_pure, and_false, exists_false,
        or_false, not_exists, not_and]
      exact fun x _ y _ => not_faults_orElseFail fun f hf => ofUnit_error hf

theorem faults_moment (expr low : Text) :
    Faults (moment now expr low) ↔ Moment.Unreadable now none expr := by
  unfold moment
  rw [faults_bind, Moment.faults_ofText?, or_iff_left]
  rintro ⟨r, -, h⟩
  exact not_faults_pure _ h

/-! ## Spans -/

/-- At the first dash between two dates the span cannot be counted, or at a dash up to there a text
cannot be read. -/
def SpanLimit (now : Moment) : List Match → Prop
  | [] => False
  | m :: ms =>
    Moment.Unreadable now none m.left ∨
      ∃ a, Moment.ofText? now none m.left = .ok a ∧
        (Moment.Unreadable now none m.right ∨
          ∃ b, Moment.ofText? now none m.right = .ok b ∧
            match a, b with
            | some a, some b =>
              (b.notAfter a = .ok true ∧ Span.Overruns b a) ∨
                (b.notAfter a = .ok false ∧ Span.Overruns a b)
            | _, _ => SpanLimit now ms)

theorem faults_spanAt (hnow : now.zone.isSome = true) {ms : List Match} :
    Faults (spanAt now ms) ↔ SpanLimit now ms := by
  induction ms with
  | nil => exact iff_of_false (not_faults_ok _) id
  | cons m ms ih =>
    rw [spanAt, SpanLimit, faults_bind, Moment.faults_ofText?]
    refine or_congr Iff.rfl (exists_congr fun a => and_congr_right fun ha => ?_)
    rw [faults_bind, Moment.faults_ofText?]
    refine or_congr Iff.rfl (exists_congr fun b => and_congr_right fun hb => ?_)
    cases a with
    | none => exact ih
    | some a =>
      cases b with
      | none => exact ih
      | some b =>
        have hza := Moment.isSome_zone_ofText? hnow ha
        have hzb := Moment.isSome_zone_ofText? hnow hb
        rw [faults_bind, Span.faults_between hzb hza, or_iff_left]
        rintro ⟨s, -, h⟩
        exact not_faults_pure _ h

/-! ## Ranges -/

/-- A year further on, only the last year is missing. -/
theorem addMonths_twelve_error {m : Moment} {e : Failure} (h : m.addMonths 12 = .error e) :
    e = .fault .badValue := by
  have hi := m.monthIndex_bounds
  rw [Moment.maxMonthIndex, Date.maxYear] at hi
  have hr : Moment.isRepresentable ((m.monthIndex + 12) / 12) = true := by
    rw [Moment.isRepresentable, Bool.and_eq_true, decide_eq_true_eq, decide_eq_true_eq]
    omega
  rw [Moment.addMonths_eq, hr] at h
  split at h
  · cases h
  · cases h
    rfl

/-- A range that is rolled by a year is refused at the end of the calendar. -/
theorem not_faults_daysBetween {a b : Moment} (ha : a.zone.isSome = true)
    (hb : b.zone.isSome = true) : ¬Faults (daysBetween a b) := by
  obtain ⟨r, hr⟩ := Moment.notAfter_eq_ok ha hb
  have hdays {c : Moment} (hc : c.zone.isSome = true) :
      ¬Faults (do return formatDays (← a.between c) : Result Text) := by
    obtain ⟨n, hn⟩ := Moment.between_eq_ok ha hc
    rw [hn, ok_bind]
    exact not_faults_pure _
  unfold daysBetween
  rw [hr, ok_bind]
  cases r with
  | true => exact hdays hb
  | false =>
    rw [if_neg (by decide)]
    cases hc : b.addMonths 12 with
    | ok c => exact hdays ((Moment.addMonths_spec hc).2.2.2.1 ▸ hb)
    | error e =>
      rw [addMonths_twelve_error hc]
      exact not_faults_line _

/-- A date of a range cannot be read: it names no month, and the clock cannot be told for it. -/
def PartUnreadable (now : Moment) (t : Text) : Prop :=
  Moment.monthAndDay? t = none ∧ Moment.Unreadable now now.zone (lower (trim t))

/-- At the first word of a range that has something in front of it, one of the two dates cannot be
read. -/
def RangeLimit (now : Moment) (low : Text) : List Text → Prop
  | [] => False
  | w :: ws =>
    match cutAtPhrase w low with
    | none | some ([], _) => RangeLimit now low ws
    | some (a, b) =>
      PartUnreadable now a ∨
        ((∃ start, Moment.ofPartialText? now a = .ok start) ∧ PartUnreadable now b)

theorem faults_rangeAt (hnow : now.zone.isSome = true) {ws : List Text} :
    Faults (rangeAt now low ws) ↔ RangeLimit now low ws := by
  induction ws with
  | nil => exact iff_of_false (not_faults_ok _) id
  | cons w ws ih =>
    rw [rangeAt, RangeLimit]
    match cutAtPhrase w low with
    | none | some ([], _) => exact ih
    | some (c :: a, b) =>
      dsimp only
      rw [faults_bind, Moment.faults_ofPartialText?, ← exists_and_right]
      refine or_congr Iff.rfl (exists_congr fun start => and_congr_right fun ha => ?_)
      rw [faults_bind, Moment.faults_ofPartialText?]
      refine or_iff_left ?_
      rintro ⟨stop, hb, h⟩
      cases start with
      | none => exact not_faults_pure _ h
      | some start =>
        cases stop with
        | none => exact not_faults_pure _ h
        | some stop =>
          rcases faults_bind.1 h with h | ⟨t, -, h⟩
          · exact not_faults_daysBetween (Moment.isSome_zone_ofPartialText? hnow ha)
              (Moment.isSome_zone_ofPartialText? hnow hb) h
          · exact not_faults_pure _ h

end Rules

/-! ## All rules -/

open LimitedRule

/-- The rules about dates with their limits. -/
def limited (now : Moment) : List LimitedRule := [
  ⟨nowElsewhere now, nowElsewhereLimit now⟩,
  ⟨nowHere now, dayWordLimit now⟩,
  ⟨timeElsewhere now, fun expr _ => ∃ m, timeIn.matchStart expr = some m ∧
    RetoldLimit now (trim (m.group 1)) (trim (m.group 2)) (trim (m.group 3))⟩,
  ⟨durationInUnit, durationInUnitLimit⟩,
  ⟨movedDate now, movedDateLimit now⟩,
  ⟨spanBetween now, fun expr _ => SpanLimit now (dash.findAll expr)⟩,
  ⟨momentElsewhere now, fun expr _ => ∃ m, momentIn.matchStart expr = some m ∧
    RetoldLimit now (m.group 1) (m.group 2) (m.group 3)⟩,
  ⟨range now, fun _ low => RangeLimit now low rangeWords⟩,
  harmless multiple,
  ⟨moment now, fun expr _ => Moment.Unreadable now none expr⟩]

theorem map_limited (now : Moment) : (limited now).map (·.rule) = rules now := rfl

theorem exact_limited {now : Moment} (hnow : now.zone.isSome = true) :
    ∀ r ∈ limited now, r.Exact := by
  simp only [limited, List.forall_mem_cons]
  refine ⟨faults_nowElsewhere, faults_nowHere, fun expr low => ?_, faults_durationInUnit,
    faults_movedDate, fun _ _ => faults_spanAt hnow, fun expr low => ?_,
    fun _ _ => faults_rangeAt hnow, exact_harmless not_faults_multiple, faults_moment, nofun⟩
  all_goals
    refine (faults_onWhole expr low).trans (exists_congr fun m => and_congr_right fun _ => ?_)
    exact faults_retold

end Calendar

end Worksheet
