import Worksheet.Proofs.Copying

/-!
# What spacing changes

**Theorem (`evaluate_format`).** What is shown of an expression has the answer of the expression if
and only if phrases make the same of both, or neither has an answer.

Arithmetic does not see blanks: what is shown has the tokens of the expression, so it has the same
value, also with literals set aside, where the expression holds none of the characters that stand in
for them (`toOption_calculate_format`). Phrases are asked first, and are recognised by blanks. An
answer to a phrase is no number, so arithmetic does not make up for phrases that differ
(`value_of_heard`).

Of an expression that arithmetic has a value for, only phrases about dates can be recognised
(`Expr.claims_eq_false`); spacing keeps what it means if these make the same of what is shown
(`evaluate_format_of_calculate`).
-/

namespace Worksheet

open Text Result Spacing

variable {s : Surroundings} {e : Earlier} {expr : Text} {a : Answer}

theorem value_of_heard (h : heard s e phrases expr = .ok (some a)) : a.value = none := by
  obtain ⟨ev, hev, -, ha⟩ := exists_of_answerFrom (eq_ok_of_settle h)
  refine value_of_answer ?_ ha
  rintro rfl
  exact absurd hev (by decide)

/-- An answer tells whether it is one to a phrase. -/
theorem heard_of_evaluate (h : (evaluate s Evaluator.all e expr).toOption = some a) :
    (heard s e phrases expr).toOption = some (if a.value.isNone then some a else none) := by
  rw [toOption_evaluate] at h
  rcases hphrase : heard s e phrases expr with f | (_ | b) <;> rw [hphrase] at h
  · cases h
  · obtain ⟨_, x, -, -, hvalue, -⟩ := exists_of_calculate (eq_ok_of_toOption h)
    rw [hvalue]
    rfl
  · obtain rfl : b = a := Option.some.inj h
    rw [value_of_heard hphrase]
    rfl

/-- Expressions with the same value are answered alike if and only if phrases make the same of both,
or neither has an answer. -/
theorem evaluate_agree_iff {t t' : Text}
    (h : (calculate e t').toOption = (calculate e t).toOption) :
    (evaluate s Evaluator.all e t').toOption = (evaluate s Evaluator.all e t).toOption ↔
      (heard s e phrases t').toOption = (heard s e phrases t).toOption ∨
        (evaluate s Evaluator.all e t').toOption = none ∧
          (evaluate s Evaluator.all e t).toOption = none := by
  constructor
  · intro hsame
    cases hanswer : (evaluate s Evaluator.all e t).toOption with
    | none => exact .inr ⟨hsame.trans hanswer, rfl⟩
    | some a =>
      rw [heard_of_evaluate hanswer, heard_of_evaluate (hsame.trans hanswer)]
      exact .inl rfl
  · rintro (hphrases | ⟨hnone', hnone⟩)
    · rw [toOption_evaluate, toOption_evaluate, hphrases, h]
    · rw [hnone', hnone]

-- Two lines that are dates: the dash between them tells the span only with blanks around it.
example :
    let s : Surroundings := ⟨⟨0, some Zone.utc, false, by decide⟩, .fixed⟩
    let e : Earlier := ["2025-01-02 00:00 UTC", "2025-01-01 00:00 UTC"].map fun t =>
      ⟨true, none, false, some t.toList⟩
    let expr := "\\1-\\2".toList
    format expr = "\\1 - \\2".toList ∧ (evaluate s Evaluator.all e expr).toOption.isNone ∧
      (evaluate s Evaluator.all e (format expr)).toOption.map (·.text) = some "1 day".toList := by
  decide +kernel

/-- Of an expression that arithmetic has a value for, only phrases about dates are recognised. -/
theorem heard_of_calculate (ht : Tight expr) (h : calculate e expr = .ok a) :
    heard s e phrases expr = heard s e [.dates] expr := by
  obtain ⟨ts, x, hts, hx, -⟩ := exists_of_calculate h
  exact heard_phrases (Expr.claims_eq_false ht hts hx)

/-- Spacing keeps what an expression with a value means, if phrases about dates make the same of
what is shown. -/
theorem evaluate_format_of_calculate (ht : Tight expr) (h : Unmixed expr)
    (ha : calculate e expr = .ok a) :
    (evaluate s Evaluator.all e (format expr)).toOption =
        (evaluate s Evaluator.all e expr).toOption ↔
      (heard s e [.dates] (format expr)).toOption = (heard s e [.dates] expr).toOption := by
  have hvalue : (calculate e (format expr)).toOption = some a := by
    rw [toOption_calculate_format h, ha]
    rfl
  -- With a value at hand, only a fault in a phrase leaves an expression without an answer.
  have hfault {t : Text} (hv : (calculate e t).toOption = some a)
      (hnone : (evaluate s Evaluator.all e t).toOption = none) :
      (heard s e phrases t).toOption = none := by
    rw [toOption_evaluate, hv] at hnone
    rcases hphrase : heard s e phrases t with f | (_ | b) <;> rw [hphrase] at hnone
    · rfl
    · cases hnone
    · cases hnone
  rw [evaluate_agree_iff (toOption_calculate_format h),
    ← heard_of_calculate (tight_format expr) (eq_ok_of_toOption hvalue), ← heard_of_calculate ht ha]
  refine or_iff_left_of_imp ?_
  rintro ⟨hshown, htyped⟩
  rw [hfault hvalue hshown, hfault (by rw [ha]; rfl) htyped]

end Worksheet
