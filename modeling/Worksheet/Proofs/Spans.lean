import Worksheet.Calendar.Span
import Worksheet.Proofs.Moments

/-!
# Counting a span

Years and months of a span are counted by steps that do not pass its end, and each count looks one
step further. So a count faults if its steps lead on to the end of the calendar (`faults_between`),
however near the end of the span is.
-/

namespace Worksheet

open Result

namespace Span

variable {months : Int} {stop a b c : Moment}

/-- Steps of `months` lead from one moment to another, none of them past `stop`. -/
inductive Climbs (months : Int) (stop : Moment) : Moment → Moment → Prop
  | refl (a : Moment) : Climbs months stop a a
  | step {a b c : Moment} (h : a.addMonths months = .ok b) (hb : b.notAfter stop = .ok true)
      (hc : Climbs months stop b c) : Climbs months stop a c

/-- The last moment that steps of `months` lead to: a further step passes `stop`. -/
def Settles (months : Int) (stop a b : Moment) : Prop :=
  Climbs months stop a b ∧ ∃ c, b.addMonths months = .ok c ∧ c.notAfter stop = .ok false

theorem Climbs.zone_eq (h : Climbs months stop a b) : b.zone = a.zone := by
  induction h with
  | refl => rfl
  | step h _ _ ih => rw [ih, (Moment.addMonths_spec h).2.2.2.1]

/-! ## One count -/

/-- The steps that a count may take reach over the end of the calendar. -/
def Suffice (months : Int) (steps : Nat) (a : Moment) : Prop :=
  Moment.maxMonthIndex < a.monthIndex + months * steps

theorem Suffice.next {steps : Nat} (h : Suffice months (steps + 1) a)
    (hb : a.addMonths months = .ok b) : Suffice months steps b := by
  have hi := (Moment.addMonths_spec hb).2.1
  unfold Suffice at *
  rw [Int.natCast_add, Int.mul_add] at h
  omega

theorem not_suffice_zero : ¬Suffice months 0 a := by
  have := a.monthIndex_bounds.2
  unfold Suffice
  omega

theorem suffice_maxSteps (hm : 1 ≤ months) : Suffice months maxSteps a := by
  have := a.monthIndex_bounds.1
  unfold Suffice
  rw [Moment.maxMonthIndex, maxSteps, Date.maxYear]
  omega

theorem faults_advance (hstop : stop.zone.isSome = true) {steps n : Nat}
    (ha : a.zone.isSome = true) (hs : Suffice months steps a) :
    Faults (advance months stop steps n a) ↔
      ∃ b, Climbs months stop a b ∧ Faults (b.addMonths months) := by
  induction steps generalizing n a with
  | zero => exact absurd hs not_suffice_zero
  | succ steps ih =>
    rw [advance, faults_bind]
    constructor
    · rintro (h | ⟨b, hb, h⟩)
      · exact ⟨a, .refl a, h⟩
      · have hz : b.zone.isSome = true := by rwa [(Moment.addMonths_spec hb).2.2.2.1]
        obtain ⟨r, hr⟩ := Moment.notAfter_eq_ok hz hstop
        rw [hr] at h
        cases r with
        | false => simp at h
        | true =>
          obtain ⟨c, hc, hf⟩ := (ih hz (hs.next hb)).1 (by simpa using h)
          exact ⟨c, .step hb hr hc, hf⟩
    · rintro ⟨c, hc, hf⟩
      cases hc with
      | refl => exact .inl hf
      | step hb hr hc =>
        have hz := (Moment.addMonths_spec hb).2.2.2.1 ▸ ha
        refine .inr ⟨_, hb, ?_⟩
        rw [hr, ok_bind]
        exact (ih hz (hs.next hb)).2 ⟨c, hc, hf⟩

theorem advance_eq_ok {steps n : Nat} (hs : Suffice months steps a) :
    (∃ k, advance months stop steps n a = .ok (k, b)) ↔ Settles months stop a b := by
  induction steps generalizing n a with
  | zero => exact absurd hs not_suffice_zero
  | succ steps ih =>
    simp only [advance, bind_eq_ok]
    constructor
    · rintro ⟨k, c, hc, r, hr, h⟩
      cases r with
      | false =>
        obtain ⟨rfl, rfl⟩ := Prod.mk.inj (pure_eq_ok.1 h)
        exact ⟨.refl _, c, hc, hr⟩
      | true =>
        obtain ⟨hb, hstep⟩ := (ih (hs.next hc)).1 ⟨k, h⟩
        exact ⟨.step hc hr hb, hstep⟩
    · rintro ⟨hb, hstep⟩
      cases hb with
      | refl =>
        obtain ⟨c, hc, hr⟩ := hstep
        exact ⟨n, c, hc, false, hr, rfl⟩
      | step hc hr hb =>
        obtain ⟨k, hk⟩ := (ih (n := n + 1) (hs.next hc)).2 ⟨hb, hstep⟩
        exact ⟨k, _, hc, true, hr, hk⟩

/-! ## Years and months -/

/-- Counting from `a` to `stop` leaves the calendar: steps of a year lead on to its last year, or
else steps of a month to its last month. -/
def Overruns (a stop : Moment) : Prop :=
  (∃ b, Climbs 12 stop a b ∧ b.date.year = Date.maxYear) ∨
    ∃ b c, Settles 12 stop a b ∧ Climbs 1 stop b c ∧ c.date.year = Date.maxYear ∧
      c.date.month = 12

theorem faults_addMonths_twelve : Faults (a.addMonths 12) ↔ a.date.year = Date.maxYear := by
  obtain ⟨hy, hy', hm, hm', -⟩ := Date.isValid_iff.1 a.date_isValid
  rw [Moment.faults_addMonths, Moment.monthIndex, Moment.maxMonthIndex]
  omega

theorem faults_addMonths_one :
    Faults (a.addMonths 1) ↔ a.date.year = Date.maxYear ∧ a.date.month = 12 := by
  obtain ⟨hy, hy', hm, hm', -⟩ := Date.isValid_iff.1 a.date_isValid
  rw [Moment.faults_addMonths, Moment.monthIndex, Moment.maxMonthIndex]
  omega

theorem faults_forward (ha : a.zone.isSome = true) (hstop : stop.zone.isSome = true) :
    Faults (forward a stop) ↔ Overruns a stop := by
  have hs (months : Int) (hm : 1 ≤ months) (a : Moment) : Suffice months maxSteps a :=
    suffice_maxSteps hm
  unfold forward Overruns
  generalize maxSteps = steps at hs ⊢
  rw [faults_bind, faults_advance hstop ha (hs 12 (by decide) a)]
  simp only [faults_addMonths_twelve]
  refine or_congr Iff.rfl ?_
  constructor
  · rintro ⟨⟨k, b⟩, hk, h⟩
    have hb := (advance_eq_ok (hs 12 (by decide) a)).1 ⟨k, hk⟩
    have hz : b.zone.isSome = true := hb.1.zone_eq ▸ ha
    rw [faults_bind, faults_advance hstop hz (hs 1 (by decide) b)] at h
    rcases h with ⟨c, hc, hf⟩ | ⟨⟨k', c⟩, hk', h⟩
    · exact ⟨b, c, hb, hc, faults_addMonths_one.1 hf⟩
    · have hc := (advance_eq_ok (hs 1 (by decide) b)).1 ⟨k', hk'⟩
      obtain ⟨n, hn⟩ := Moment.between_eq_ok (hc.1.zone_eq ▸ hz) hstop
      rw [hn, ok_bind] at h
      exact absurd h (not_faults_pure _)
  · rintro ⟨b, c, hb, hc, hf⟩
    obtain ⟨k, hk⟩ := (advance_eq_ok (n := 0) (hs 12 (by decide) a)).2 hb
    have hz : b.zone.isSome = true := hb.1.zone_eq ▸ ha
    refine ⟨(k, b), hk, faults_bind.2 (.inl ?_)⟩
    exact (faults_advance hstop hz (hs 1 (by decide) b)).2 ⟨c, hc, faults_addMonths_one.2 hf⟩

/-- A span cannot be counted if the count from its earlier end leaves the calendar. -/
theorem faults_between (ha : a.zone.isSome = true) (hb : b.zone.isSome = true) :
    Faults (between a b) ↔
      (a.notAfter b = .ok true ∧ Overruns a b) ∨ (a.notAfter b = .ok false ∧ Overruns b a) := by
  obtain ⟨r, hr⟩ := Moment.notAfter_eq_ok ha hb
  rw [between, hr, ok_bind]
  cases r with
  | true =>
    rw [if_pos rfl, faults_forward ha hb]
    simp
  | false =>
    rw [if_neg (by decide), faults_forward hb ha]
    simp

end Span

end Worksheet
