import Worksheet.Proofs.Isolation
import Worksheet.Proofs.Precedence

/-!
# References that lead nowhere

**Theorem (`Document.evaluate_unresolved`).** A line that refers to line 0, to itself, to a line
behind it or to one without a result shows an error and leaves nothing.

A line without a result leaves nothing that arithmetic or a phrase about dates could use
(`outcome_of_no_result`), and both need a value for each reference of the expression: arithmetic as
the tokens hold all of them (`Token.references_of_scan`), dates as every one is replaced. The other
evaluators do not resolve references. Their phrases may be found in the text around a reference, and
even in its digits, so the theorem asks that they have no answer.
-/

namespace Worksheet

open Result

variable {s : Surroundings} {e : Earlier} {expr digits : Text} {n : Nat}

/-! ## Evaluators that resolve references -/

/-- Where a text takes the place of each reference, each has one. -/
theorem Reference.exists_of_replaceM {f : Nat → Result Text} {t u : Text}
    (h : replaceM f t = .ok u) (hd : digits ∈ runs t) (hn : line digits = .ok n) :
    ∃ v, f n = .ok v := by
  obtain ⟨ps, hps, -⟩ := bind_eq_ok.1 h
  obtain ⟨p, hp, hdigits⟩ := List.mem_filterMap.1 hd
  cases p with
  | char c => cases hdigits
  | reference digits' =>
    cases hdigits
    have hm : (line digits >>= f) ∈ ps.map Except.ok :=
      mapM_eq_ok.1 hps ▸ List.mem_map.2 ⟨_, hp, rfl⟩
    obtain ⟨v, -, hv⟩ := List.mem_map.1 hm
    obtain ⟨m, hm, hf⟩ := bind_eq_ok.1 hv.symm
    rw [hn] at hm
    cases hm
    exact ⟨v, hf⟩

/-- Tokens have a value only if each reference has one. -/
theorem Expr.exists_of_evaluateTokens {resolve : Resolver} {ts : List Token} {x : Float} {t : Text}
    (h : evaluateTokens (some resolve) ts = .ok x) (ht : .reference n t ∈ ts) :
    ∃ y, resolve n = .ok y := by
  obtain ⟨p, hp⟩ := evaluateTokens_eq_ok.1 h
  obtain ⟨tree, htree, hv, -⟩ := derives_of_read hp
  exact (htree.exists_value_iff.1 ⟨x, hv⟩).1 n t ht

theorem exists_reference {ts : List Token} (h : Token.scan expr = .ok ts)
    (hd : digits ∈ Reference.runs expr) (hn : Reference.line digits = .ok n) :
    ∃ t, .reference n t ∈ ts := by
  have hm : n ∈ ts.filterMap Token.line? :=
    mem_of_mapM (Token.references_of_scan h) hd hn
  obtain ⟨t, ht, hline⟩ := List.mem_filterMap.1 hm
  cases t with
  | reference m u =>
    cases hline
    exact ⟨u, ht⟩
  | _ => cases hline

/-- Phrases about dates have no answer where a reference is not to a date. -/
theorem passes_dates (hd : digits ∈ Reference.runs expr) (hn : Reference.line digits = .ok n)
    (hseen : (e.seen n).dateTime = none) : Passes s e expr .dates := by
  intro _ a ha
  obtain ⟨t, ht, -⟩ := bind_eq_ok.1 ha
  obtain ⟨v, hv⟩ := Reference.exists_of_replaceM ht hd hn
  have := e.settle_dateTime n
  rw [hv, hseen] at this
  cases this

/-- Arithmetic has no answer where a reference is not to a number. -/
theorem passes_arithmetic (hd : digits ∈ Reference.runs expr) (hn : Reference.line digits = .ok n)
    (hseen : (e.seen n).value = none) : Passes s e expr .arithmetic := by
  intro _ a ha
  obtain ⟨b, hb, -⟩ := map_eq_ok.1 ha
  obtain ⟨ts, hts, hb⟩ := bind_eq_ok.1 hb
  obtain ⟨c, -, hb⟩ := bind_eq_ok.1 hb
  obtain ⟨x, hx, -⟩ := bind_eq_ok.1 hb
  obtain ⟨t, ht⟩ := exists_reference hts hd hn
  have hvalue : Expr.evaluateTokens (some e.value) ts = .ok x := by
    cases hv : Expr.evaluateTokens (some e.value) ts with
    | ok y =>
      rw [hv] at hx
      exact congrArg Except.ok (Except.ok.inj hx)
    | error err =>
      rw [hv] at hx
      cases hx
  obtain ⟨y, hy⟩ := Expr.exists_of_evaluateTokens hvalue ht
  have := e.toOption_value n
  rw [hy, hseen, ite_self] at this
  cases this

/-! ## Lines -/

namespace Document

variable {isActive : Bool} {active : Int} {l : Text} {ls : List Text} {r : EvaluatedLine}
  {es : List EvaluatedLine}

/-- A line without a result leaves nothing. -/
theorem outcome_of_no_result (h : evaluateLine s isActive e l = .ok r)
    (hr : r.outcome.hasResult = false) : r.outcome = {} := by
  unfold evaluateLine at h
  split at h
  · cases h
    rfl
  · dsimp only at h
    split at h
    · cases h
      cases hr
    · cases h
      rfl
    · cases h

theorem outcome_of_no_result_of_mem (h : evaluateFrom s active n e ls = .ok es) (hm : r ∈ es)
    (hr : r.outcome.hasResult = false) : r.outcome = {} := by
  induction ls generalizing n e es with
  | nil =>
    cases h
    cases hm
  | cons l ls ih =>
    obtain ⟨x, xs, hx, hxs, rfl⟩ := evaluateFrom_cons.1 h
    rcases List.mem_cons.1 hm with rfl | hm
    · exact outcome_of_no_result hx hr
    · exact ih hxs hm

/-- What line `n` leaves to line `i + 1`, if it is not in front of that or has no result. -/
theorem seen_of_no_result {i : Nat} (h : evaluate s active ls = .ok es)
    (hn : n = 0 ∨ i < n ∨ ∃ r, es[n - 1]? = some r ∧ r.outcome.hasResult = false) :
    Earlier.seen ((es.take i).map (·.outcome)) n = {} := by
  rcases hn with rfl | hn | ⟨r, hr, hres⟩
  · rfl
  · exact Earlier.seen_of_length_lt (by simp; omega)
  · have ho := outcome_of_no_result_of_mem h (List.mem_of_getElem? hr) hres
    unfold Earlier.seen Earlier.line?
    split
    · rfl
    · rw [List.getElem?_map, List.getElem?_take]
      split
      · rw [hr, Option.map_some, ho]
        rfl
      · rfl

/-- **A reference is to an earlier result, or the line fails.** If the expression of line `i + 1`
has a reference to line 0, to itself, to a line behind it or to one without a result, the line shows
an error in place of the result and leaves nothing, provided that none of the evaluators that
do not resolve references has an answer. -/
theorem evaluate_unresolved {i : Nat} {comment : Text} (h : evaluate s active ls = .ok es)
    (hl : (Line.counted ls)[i]? = some l) (hx : expressionOf? l = some (expr, comment))
    (hd : digits ∈ Reference.runs expr) (hline : Reference.line digits = .ok n)
    (hn : n = 0 ∨ i < n ∨ ∃ r, es[n - 1]? = some r ∧ r.outcome.hasResult = false)
    (hpass : ∀ ev ∈ [Evaluator.subnets, .percentages, .units],
      Passes s ((es.take i).map (·.outcome)) expr ev) :
    es[i]? = some ⟨shown (active == (i + 1 : Nat)) expr ++ " = ERR".toList ++ commentTail comment,
      {}⟩ := by
  have hseen := seen_of_no_result h hn
  have hi : i < es.length := by
    rw [length_evaluateFrom h]
    exact (List.getElem?_eq_some_iff.1 hl).1
  have hr := List.getElem?_eq_getElem hi
  have hone := evaluateFrom_getElem? h hl hr
  rw [List.nil_append, Nat.add_comm 1 i] at hone
  rw [hr, ← evaluateLine_unanswered hx hone (answerFrom_ne_ok fun ev _ => ?_)]
  cases ev with
  | dates => exact passes_dates hd hline (by rw [hseen])
  | arithmetic => exact passes_arithmetic hd hline (by rw [hseen])
  | subnets | percentages | units => exact hpass _ (by simp)

/-- The second of two lines refers to a third. -/
theorem evaluate_unresolved_third :
    let s : Surroundings := ⟨⟨0, none, false, by decide⟩, .fixed⟩
    let ls := ["2 =", "\\3 + \\1 = # sum"].map String.toList
    ∃ es, evaluate s 0 ls = .ok es ∧ es[1]? = some ⟨"\\3 + \\1 = ERR # sum".toList, {}⟩ := by
  intro s ls
  obtain ⟨es, h⟩ := exists_eq_ok (show (evaluate s 0 ls).toOption.isSome = true by decide +kernel)
  have hx : expressionOf? "\\3 + \\1 = # sum".toList =
      some ("\\3 + \\1".toList, "# sum".toList) := by decide +kernel
  have hruns : Reference.runs "\\3 + \\1".toList = ["3".toList, "1".toList] := by cbv
  have hpass : ∀ ev ∈ [Evaluator.subnets, .percentages, .units],
      ev.claims "\\3 + \\1".toList = false := by decide +kernel
  exact ⟨es, h, evaluate_unresolved (i := 1) h rfl hx (hruns ▸ List.mem_cons_self) (n := 3) rfl
    (.inr (.inl (by decide))) fun ev hev => passes_of_not_claims (hpass ev hev)⟩

-- The phrase for percentages reads the digits of a reference as a number.
example :
    let s : Surroundings := ⟨⟨0, none, false, by decide⟩, .fixed⟩
    (evaluate s 0 ["\\5% of 200 =".toList]).toOption.map (·.map (·.output)) =
      some ["\\5% of 200 = 10".toList] := by
  decide +kernel

end Document

end Worksheet
