import Worksheet.Proofs.CalendarLimits
import Worksheet.Proofs.Dependence
import Worksheet.Proofs.Passing

/-!
# Lines that fail alone

**Theorem (`Document.evaluate_isolates`).** A document is evaluated to its end, and each line that
has no answer shows an error and leaves nothing, unless a line comes to a limit.

An evaluator faults at its limit and only there (`Evaluator.faults_answer`): subnets, percentages and
arithmetic where a run of digits is too long or a number too large, dates where the calendar ends,
units where the conversion does. An expression comes to the limit of an evaluator if those in front
of it pass the expression on (`faults_answerFrom`), and a document comes to that of the first line
that is at one (`faults_evaluateFrom`).
-/

namespace Worksheet

open Text Result

variable {s : Surroundings} {e : Earlier} {expr : Text}

/-! ## Limits of evaluators -/

namespace Evaluator

open LimitedRule

/-- What makes an evaluator fault. The rules about dates see the expression with the texts of earlier
lines in place of references. -/
def Limit (s : Surroundings) (e : Earlier) (expr : Text) : Evaluator → Prop
  | subnets => Reach Subnet.limited (trim expr) (lower (trim expr))
  | dates =>
    Reference.Overlong e.dateTime expr ∨ ∃ t, Reference.replaceM e.dateTime expr = .ok t ∧
      Reach (Calendar.limited s.now) (trim t) (lower (trim t))
  | percentages => Reach Percentage.limited (trim expr) (lower (trim expr))
  | units => Reach (Measure.limited s.rates) (trim expr) (lower (trim expr))
  | arithmetic => Token.Overlong (Token.normalize (trim expr))

theorem faults_answerBy {rules : List PhraseRule} :
    Faults (answerBy rules expr) ↔ Faults (PhraseRule.run rules expr) := by
  unfold answerBy
  rw [faults_bind]
  refine or_iff_left ?_
  rintro ⟨a, -, h⟩
  exact not_faults_pure _ h

/-- An evaluator faults at its limit, and only there. -/
theorem faults_answer (hnow : s.now.zone.isSome = true) (hlive : s.rates.live = false)
    (e : Earlier) (expr : Text) (ev : Evaluator) :
    Faults (ev.answer s e expr) ↔ ev.Limit s e expr := by
  cases ev with
  | subnets =>
    refine faults_answerBy.trans ?_
    rw [PhraseRule.run, ← Subnet.map_limited]
    exact faults_firstAnswer Subnet.exact_limited _ _
  | dates =>
    have hdate (n : Nat) : ¬Faults (e.dateTime n) := by
      unfold Earlier.dateTime
      split <;> simp
    unfold answer Limit
    rw [faults_bind, Reference.faults_replaceM hdate]
    refine or_congr Iff.rfl (exists_congr fun t => and_congr_right fun _ => ?_)
    rw [faults_bind, or_iff_left fun ⟨_, _, h⟩ => not_faults_pure _ h, PhraseRule.run,
      ← Calendar.map_limited]
    exact faults_firstAnswer (Calendar.exact_limited hnow) _ _
  | percentages =>
    refine faults_answerBy.trans ?_
    rw [PhraseRule.run, ← Percentage.map_limited]
    exact faults_firstAnswer Percentage.exact_limited _ _
  | units =>
    refine faults_answerBy.trans ?_
    exact faults_firstAnswer (Measure.exact_limited hlive) _ _
  | arithmetic => exact faults_map.trans faults_calculate

end Evaluator

/-- An evaluator is asked and at its limit, and those in front of it pass the expression on. -/
def AtLimit (s : Surroundings) (e : Earlier) (expr : Text) : List Evaluator → Prop
  | [] => False
  | ev :: evs =>
    (ev.claims expr = true ∧ ev.Limit s e expr) ∨ (Passes s e expr ev ∧ AtLimit s e expr evs)

theorem faults_answerFrom (hnow : s.now.zone.isSome = true) (hlive : s.rates.live = false)
    {last : LineError} {evs : List Evaluator} :
    Faults (answerFrom s e expr last evs) ↔ AtLimit s e expr evs := by
  induction evs generalizing last with
  | nil => exact iff_of_false (not_faults_line _) id
  | cons ev evs ih =>
    have hf := Evaluator.faults_answer hnow hlive e expr ev
    rw [answerFrom, AtLimit, ← hf, Passes]
    split
    · next hc =>
      simp only [hc, true_and, forall_const]
      split
      · next a ha => simp [ha]
      · next ha => simp [ha, ih]
      · next l hl => simp [hl, ih]
      · next f hf => simp [hf]
    · next hc => simp [hc, ih]

/-! ## Limits of lines -/

namespace Document

/-- The expression of a line comes to a limit. -/
def LineAtLimit (s : Surroundings) (e : Earlier) (l : Text) : Prop :=
  ∃ expr comment, expressionOf? l = some (expr, comment) ∧ AtLimit s e expr Evaluator.all

variable {active : Int} {n : Nat} {l : Text} {ls : List Text} {es : List EvaluatedLine}

theorem faults_evaluateLine (hnow : s.now.zone.isSome = true) (hlive : s.rates.live = false)
    {isActive : Bool} : Faults (evaluateLine s isActive e l) ↔ LineAtLimit s e l := by
  unfold evaluateLine LineAtLimit
  cases expressionOf? l with
  | none => simp
  | some p =>
    obtain ⟨expr, comment⟩ := p
    have hf : Faults (Worksheet.evaluate s Evaluator.all e expr) ↔ AtLimit s e expr Evaluator.all :=
      faults_answerFrom hnow hlive
    have hx : (∃ expr' comment', some (expr, comment) = some (expr', comment') ∧
        AtLimit s e expr' Evaluator.all) ↔ AtLimit s e expr Evaluator.all := by simp
    rw [hx, ← hf]
    dsimp only
    match Worksheet.evaluate s Evaluator.all e expr with
    | .ok a => simp
    | .error (.line err) => simp
    | .error (.fault f) => simp

/-- A line fails only by a fault. -/
theorem evaluateLine_error {isActive : Bool} {f : Failure}
    (h : evaluateLine s isActive e l = .error f) : Faults (evaluateLine s isActive e l) := by
  unfold evaluateLine at h ⊢
  split at h
  · cases h
  · dsimp only at h ⊢
    split at h
    · cases h
    · cases h
    · exact faults_fault _

theorem evaluateFrom_error {f : Failure} (h : evaluateFrom s active n e ls = .error f) :
    Faults (evaluateFrom s active n e ls) := by
  induction ls generalizing n e with
  | nil => cases h
  | cons l ls ih =>
    rw [evaluateFrom] at h ⊢
    rcases bind_eq_error.1 h with h | ⟨x, hx, h⟩
    · exact faults_bind.2 (.inl (evaluateLine_error h))
    · rcases bind_eq_error.1 h with h | ⟨xs, hxs, h⟩
      · exact faults_bind.2 (.inr ⟨x, hx, faults_bind.2 (.inl (ih h))⟩)
      · cases h

/-- A run faults at the first line that is at a limit. -/
theorem faults_evaluateFrom (hnow : s.now.zone.isSome = true) (hlive : s.rates.live = false) :
    Faults (evaluateFrom s active n e ls) ↔ ∃ before l after es, ls = before ++ l :: after ∧
      evaluateFrom s active n e before = .ok es ∧ LineAtLimit s (e ++ es.map (·.outcome)) l := by
  induction ls generalizing n e with
  | nil => exact iff_of_false (not_faults_ok _) fun ⟨_, _, _, _, h, _⟩ => by simp at h
  | cons l ls ih =>
    rw [evaluateFrom, faults_bind, faults_evaluateLine hnow hlive]
    constructor
    · rintro (h | ⟨x, hx, h⟩)
      · exact ⟨[], l, ls, [], rfl, rfl, by simpa using h⟩
      · rw [faults_bind, ih] at h
        rcases h with ⟨before, m, after, es, rfl, hes, hm⟩ | ⟨xs, -, h⟩
        · refine ⟨l :: before, m, after, x :: es, rfl, ?_, by simpa using hm⟩
          exact evaluateFrom_cons.2 ⟨x, es, hx, hes, rfl⟩
        · exact absurd h (not_faults_pure _)
    · rintro ⟨_ | ⟨l', before⟩, m, after, es, hl, hes, hm⟩
      · cases hl
        cases hes
        exact .inl (by simpa using hm)
      · cases hl
        obtain ⟨x, xs, hx, hxs, rfl⟩ := evaluateFrom_cons.1 hes
        refine .inr ⟨x, hx, faults_bind.2 (.inl (ih.2 ⟨before, m, after, xs, rfl, hxs, ?_⟩))⟩
        simpa using hm

/-! ## Lines without an answer -/

/-- The expression as a line shows it. -/
def shown (isActive : Bool) (expr : Text) : Text := if isActive then expr else Spacing.format expr

/-- What is written behind the result of a line. -/
def commentTail (comment : Text) : Text := if comment.isEmpty then [] else ' ' :: comment

/-- A line whose expression has no answer shows an error, and leaves nothing. -/
theorem evaluateLine_unanswered {isActive : Bool} {expr comment : Text} {r : EvaluatedLine}
    (hx : expressionOf? l = some (expr, comment)) (h : evaluateLine s isActive e l = .ok r)
    (hno : ∀ a, Worksheet.evaluate s Evaluator.all e expr ≠ .ok a) :
    r = ⟨shown isActive expr ++ " = ERR".toList ++ commentTail comment, {}⟩ := by
  rw [evaluateLine, hx] at h
  dsimp only at h
  split at h
  · next a ha => exact absurd ha (hno a)
  · cases h
    simp [Line.render, shown, errorText, commentTail]
  · cases h

/-- The lines of a run, one by one. -/
theorem evaluateFrom_getElem? {i : Nat} {r : EvaluatedLine}
    (h : evaluateFrom s active n e ls = .ok es) (hl : ls[i]? = some l) (hr : es[i]? = some r) :
    evaluateLine s (active == (n + i : Nat)) (e ++ (es.take i).map (·.outcome)) l = .ok r := by
  obtain ⟨hi, rfl⟩ := List.getElem?_eq_some_iff.1 hl
  have hls : ls = ls.take i ++ ls[i] :: ls.drop (i + 1) := by
    rw [List.getElem_cons_drop, List.take_append_drop]
  rw [hls] at h
  obtain ⟨xs, ys, hxs, hys, rfl⟩ := evaluateFrom_append.1 h
  obtain ⟨y, zs, hy, -, rfl⟩ := evaluateFrom_cons.1 hys
  have hlen : xs.length = i := by
    rw [length_evaluateFrom hxs, List.length_take]
    omega
  have hlen' : (ls.take i).length = i := by
    rw [List.length_take]
    omega
  rw [List.getElem?_append_right (by omega), hlen, Nat.sub_self] at hr
  cases hr
  rw [hlen'] at hy
  rwa [List.take_left' hlen]

/-- In a document that is evaluated to its end, no line is at a limit. -/
theorem not_lineAtLimit_of_evaluate (hnow : s.now.zone.isSome = true)
    (hlive : s.rates.live = false) (h : evaluate s active ls = .ok es) (before : List Text)
    (l : Text) (after : List Text) (xs : List EvaluatedLine)
    (hls : Line.counted ls = before ++ l :: after)
    (hxs : evaluateFrom s active 1 [] before = .ok xs) :
    ¬LineAtLimit s (xs.map (·.outcome)) l := by
  intro hl
  have hfault : Faults (evaluate s active ls) :=
    (faults_evaluateFrom hnow hlive).2 ⟨before, l, after, xs, hls, hxs, hl⟩
  simp [h] at hfault

-- A span of days past the last year of the calendar is at a limit, and ends the document.
example :
    let s : Surroundings := ⟨⟨0, some Zone.utc, false, by decide⟩, .fixed⟩
    (evaluate s 0 (["9999-06-01 - 9998-01-01 =", "2 + 3 ="].map String.toList)).toOption.isSome =
      false := by
  decide +kernel

end Document

end Worksheet
