import Worksheet.Proofs.FilledLines

/-!
# Lines without their results

**Theorem (`Document.evaluate_stripped`).** When results are taken off the lines of a document,
every expression is evaluated as before. A line without an expression is passed through as it was
stripped, so the evaluated lines are the same exactly if those lines hold nothing that looks like a
result.

A line and a stripped line are cut at the same equals sign, as what follows it does not decide about
it (`cutResult_before`). So they have the same expression and the same comment
(`expressionOf_stripResult`). But a line is cut before its comment is taken off, and an equals sign
in a comment counts.
-/

namespace Worksheet

open Text Reference

namespace Line

variable {l a b w : Text}

/-! ## The equals sign of a stripped line -/

/-- What follows the equals sign does not decide about it, unless it is one more. -/
theorem cutResult_before (h : cutResult l = some (a, b)) (hw : w.head? ≠ some '=') :
    cutResult (a ++ '=' :: w) = some (a, w) := by
  induction hn : l.length using Nat.strongRecOn generalizing l a with
  | ind n ih =>
    cases l with
    | nil => cases h
    | cons c r =>
      rw [cutResult_cons] at h
      split at h
      · next hp =>
        obtain ⟨⟨a', b'⟩, hr, he⟩ := Option.map_eq_some_iff.1 h
        cases he
        have hlt : r.tail.length < n := by
          rw [← hn, List.length_cons, List.length_tail]
          omega
        simp only [Bool.and_eq_true] at hp
        rw [List.cons_append, List.cons_append, cutResult_cons, if_pos (by simp [hp.1]),
          List.tail_cons, ih _ hlt hr rfl]
        rfl
      · next hp =>
        split at h
        · cases h
          rw [List.nil_append, cutResult_cons, if_neg (by simp [hw]), if_pos rfl]
        · next hc =>
          obtain ⟨⟨a', b'⟩, hr, he⟩ := Option.map_eq_some_iff.1 h
          cases he
          have hhead : (a' ++ '=' :: w).head? = r.head? := by
            rw [cutResult_append hr]
            cases a' <;> rfl
          rw [List.cons_append, cutResult_cons, hhead, if_neg hp, if_neg hc,
            ih _ (by simp [← hn]) hr rfl]
          rfl

/-- A line with an equals sign is stripped of what follows it up to a comment. -/
theorem stripResult_eq_append (h : cutResult l = some (a, b)) :
    ∃ w, stripResult l = a ++ '=' :: w ∧ w.head? ≠ some '=' ∧
      (cutAt '#' b = none ∧ w = [] ∨ ∃ v r, cutAt '#' b = some (v, r) ∧ w = ' ' :: '#' :: r) := by
  rw [stripResult, h]
  dsimp only
  cases hc : cutAt '#' b with
  | none => exact ⟨[], rfl, nofun, .inl ⟨rfl, rfl⟩⟩
  | some p => exact ⟨' ' :: '#' :: p.2, rfl, by simp, .inr ⟨p.1, p.2, rfl, rfl⟩⟩

/-- Behind the equals sign of a line nothing stands, or a space and a comment. -/
def IsStripped (l : Text) : Prop :=
  ∀ a b, cutResult l = some (a, b) → b = [] ∨ [' ', '#'] <+: b

theorem stripResult_eq_self_iff : stripResult l = l ↔ IsStripped l := by
  cases h : cutResult l with
  | none =>
    refine iff_of_true (by rw [stripResult, h]) fun a b hab => ?_
    rw [h] at hab
    cases hab
  | some p =>
    obtain ⟨a, b⟩ := p
    obtain ⟨w, hstrip, -, hw⟩ := stripResult_eq_append h
    have hself : stripResult l = l ↔ w = b := by
      rw [hstrip, cutResult_append h, List.append_cancel_left_eq]
      exact ⟨fun he => (List.cons.inj he).2, fun he => he ▸ rfl⟩
    have hiff : IsStripped l ↔ b = [] ∨ [' ', '#'] <+: b :=
      ⟨fun hs => hs a b h, fun hb a' b' h' => by
        cases h.symm.trans h'
        exact hb⟩
    rw [hself, hiff]
    rcases hw with ⟨hcut, rfl⟩ | ⟨v, r, hcut, rfl⟩
    · refine ⟨fun he => .inl he.symm, fun hb => ?_⟩
      rcases hb with rfl | ⟨t, rfl⟩
      · rfl
      · exact absurd (by simp) (cutAt_eq_none.1 hcut)
    · refine ⟨fun he => .inr ⟨r, he⟩, fun hb => ?_⟩
      rcases hb with rfl | ⟨t, rfl⟩
      · cases hcut
      · cases hcut
        rfl

/-! ## What is stripped remains -/

theorem isOutput_stripResult (l : Text) : isOutput (stripResult l) = isOutput l := by
  cases h : cutResult l with
  | none => rw [stripResult, h]
  | some p =>
    obtain ⟨a, b⟩ := p
    obtain ⟨w, hw, -⟩ := stripResult_eq_append h
    -- An output line is told by its first two characters, and the equals sign is neither of them.
    have hfront (x : Text) : isOutput (a ++ '=' :: x) = isOutput (a ++ ['=']) := by
      unfold isOutput trimLeft
      rw [List.dropWhile_append, List.dropWhile_append]
      split
      · rfl
      · rcases a.dropWhile isBlank with _ | ⟨c, _ | ⟨d, r⟩⟩ <;> rfl
    rw [hw, cutResult_append h, hfront, hfront b]

/-- The expression of a line with an equals sign stands in front of it, but not in a comment. -/
theorem expressionOf_of_cutResult (h : cutResult l = some (a, b)) : Document.expressionOf? l =
    if '#' ∈ a ∨ trim a = [] then none else some (trim a, (splitComment l).2) := by
  have hiff (expr : Text) : (∃ comment, Document.expressionOf? l = some (expr, comment)) ↔
      '#' ∉ a ∧ trim a = expr ∧ expr ≠ [] := by
    rw [exists_expressionOf]
    constructor
    · rintro ⟨a', b', h', hspec⟩
      cases h.symm.trans h'
      exact hspec
    · exact fun hspec => ⟨a, b, h, hspec⟩
  split
  · next hno =>
    refine Option.eq_none_iff_forall_not_mem.2 fun p hp => ?_
    obtain ⟨hmark, htrim, hne⟩ := (hiff p.1).1 ⟨p.2, hp⟩
    exact hno.elim hmark fun he => hne (htrim ▸ he)
  · next hno =>
    rw [not_or] at hno
    obtain ⟨comment, hc⟩ := (hiff (trim a)).2 ⟨hno.1, rfl, hno.2⟩
    rw [hc, Document.comment_of_expressionOf hc]

/-- A stripped line has the expression that the line had, and its comment. -/
theorem expressionOf_stripResult (l : Text) :
    Document.expressionOf? (stripResult l) = Document.expressionOf? l := by
  cases h : cutResult l with
  | none => rw [stripResult, h]
  | some p =>
    obtain ⟨a, b⟩ := p
    obtain ⟨w, hstrip, hhead, hw⟩ := stripResult_eq_append h
    rw [expressionOf_of_cutResult h, hstrip, expressionOf_of_cutResult (cutResult_before h hhead)]
    split
    · rfl
    · next hno =>
      rw [not_or] at hno
      -- The comment begins with the first comment mark behind the equals sign.
      have hcomment {v r : Text} (hv : '#' ∉ v) :
          (splitComment (a ++ '=' :: (v ++ '#' :: r))).2 = trimRight ('#' :: r) := by
        have hmark : '#' ∉ a ++ '=' :: v := by simp [hno.1, hv]
        rw [splitComment, ← List.cons_append, ← List.append_assoc, cutAt_append_cons hmark]
      have hnone {v : Text} (hv : '#' ∉ v) : (splitComment (a ++ '=' :: v)).2 = [] := by
        have hmark : '#' ∉ a ++ '=' :: v := by simp [hno.1, hv]
        rw [splitComment, cutAt_eq_none.2 hmark]
      rw [cutResult_append h]
      rcases hw with ⟨hcut, rfl⟩ | ⟨v, r, hcut, rfl⟩
      · rw [hnone (by simp), hnone (cutAt_eq_none.1 hcut)]
      · have hspace : ' ' :: '#' :: r = [' '] ++ '#' :: r := rfl
        rw [cutAt_append hcut, hspace, hcomment (by decide), hcomment (notMem_of_cutAt hcut)]

end Line

/-! ## Stripped documents -/

/-- What evaluating a stripped line gives: the same, but a line without an expression is shown as it
was stripped. -/
def EvaluatedLine.stripped (l : Text) (r : EvaluatedLine) : EvaluatedLine :=
  if (Document.expressionOf? l).isSome then r else { r with output := Line.stripResult l }

namespace Document

variable {s : Surroundings} {active : Int} {ls : List Text} {es : List EvaluatedLine}

theorem evaluateLine_stripResult (s : Surroundings) (isActive : Bool) (e : Earlier) (l : Text) :
    evaluateLine s isActive e (Line.stripResult l) =
      (evaluateLine s isActive e l).map (EvaluatedLine.stripped l) := by
  unfold evaluateLine EvaluatedLine.stripped
  rw [Line.expressionOf_stripResult]
  cases expressionOf? l with
  | none => rfl
  | some p =>
    dsimp only
    rcases Worksheet.evaluate s Evaluator.all e p.1 with (err | f) | a <;> rfl

theorem outcome_stripped (l : Text) (r : EvaluatedLine) : (r.stripped l).outcome = r.outcome := by
  unfold EvaluatedLine.stripped
  split <;> rfl

/-- Lines leave the same when they are stripped, so those behind them see the same. -/
theorem evaluateFrom_stripResult (n : Nat) (e : Earlier) (ls : List Text) :
    evaluateFrom s active n e (ls.map Line.stripResult) =
      (evaluateFrom s active n e ls).map (List.zipWith EvaluatedLine.stripped ls) := by
  induction ls generalizing n e with
  | nil => rfl
  | cons l ls ih =>
    rw [List.map_cons, evaluateFrom, evaluateFrom, evaluateLine_stripResult]
    cases evaluateLine s (active == n) e l with
    | error f => rfl
    | ok r =>
      show (evaluateFrom s active (n + 1) (e ++ [(r.stripped l).outcome]) _ >>= _) =
        (evaluateFrom s active (n + 1) (e ++ [r.outcome]) ls >>= _).map _
      rw [outcome_stripped, ih]
      cases evaluateFrom s active (n + 1) (e ++ [r.outcome]) ls <;> rfl

theorem counted_stripResult (ls : List Text) :
    Line.counted (ls.map Line.stripResult) = (Line.counted ls).map Line.stripResult := by
  unfold Line.counted
  rw [List.filter_map]
  congr 1
  exact List.filter_congr fun l _ => by rw [Function.comp_apply, Line.isOutput_stripResult]

/-- Lines that are passed through are shown as they are. -/
theorem output_of_none {isActive : Bool} {e : Earlier} {l : Text} {r : EvaluatedLine}
    (hx : expressionOf? l = none) (h : evaluateLine s isActive e l = .ok r) : r.output = l := by
  rw [evaluateLine, hx] at h
  cases h
  rfl

theorem zipWith_stripped_iff {n : Nat} {e : Earlier} (h : evaluateFrom s active n e ls = .ok es) :
    List.zipWith EvaluatedLine.stripped ls es = es ↔
      ∀ l ∈ ls, expressionOf? l = none → Line.IsStripped l := by
  induction ls generalizing n e es with
  | nil =>
    cases h
    simp
  | cons l ls ih =>
    obtain ⟨r, rs, hr, hrs, rfl⟩ := evaluateFrom_cons.1 h
    have hline : r.stripped l = r ↔ (expressionOf? l = none → Line.IsStripped l) := by
      unfold EvaluatedLine.stripped
      cases hx : expressionOf? l with
      | some p => simp
      | none =>
        have hout := output_of_none hx hr
        rw [← Line.stripResult_eq_self_iff]
        obtain ⟨output, outcome⟩ := r
        cases hout
        simp
    rw [List.zipWith_cons_cons, List.cons.injEq, hline, ih hrs, List.forall_mem_cons]

/-- **Stripping takes results off and nothing else, as far as lines are evaluated.** A stripped
document is evaluated to its end if the document is, every line with an expression is evaluated as
before, and every other one is shown as it was stripped. So nothing has changed exactly if behind
the equals sign of a line without an expression nothing stands but a comment. -/
theorem evaluate_stripped (h : evaluate s active ls = .ok es) :
    evaluate s active (ls.map Line.stripResult) =
        .ok (List.zipWith EvaluatedLine.stripped (Line.counted ls) es) ∧
      (evaluate s active (ls.map Line.stripResult) = .ok es ↔
        ∀ l ∈ Line.counted ls, expressionOf? l = none → Line.IsStripped l) := by
  have heval : evaluate s active (ls.map Line.stripResult) =
      .ok (List.zipWith EvaluatedLine.stripped (Line.counted ls) es) := by
    unfold evaluate at h ⊢
    rw [counted_stripResult, evaluateFrom_stripResult, h]
    rfl
  exact ⟨heval, by rw [heval, Except.ok.injEq, zipWith_stripped_iff h]⟩

/-- A sum and a product are evaluated as before, but the comment between them has an equals sign and
loses what stands behind it. -/
theorem evaluate_stripped_comment :
    let s : Surroundings := ⟨⟨0, none, false, by decide⟩, .fixed⟩
    let ls := ["2 + 3 = 5 # sum", "# total = 5", "\\1 * 2 = 10"].map String.toList
    ∃ es, evaluate s 0 ls = .ok es ∧
      evaluate s 0 (ls.map Line.stripResult) = .ok (List.zipWith EvaluatedLine.stripped ls es) ∧
      evaluate s 0 (ls.map Line.stripResult) ≠ .ok es := by
  intro s ls
  obtain ⟨es, h⟩ := Result.exists_eq_ok
    (show (evaluate s 0 ls).toOption.isSome = true by decide +kernel)
  obtain ⟨heval, hsame⟩ := evaluate_stripped h
  refine ⟨es, h, heval, fun he => ?_⟩
  have hcut : Line.cutResult "# total = 5".toList = some ("# total ".toList, " 5".toList) := by
    decide
  rcases hsame.1 he "# total = 5".toList (by decide) (by decide) _ _ hcut with hb | hb
  · cases hb
  · exact absurd hb (by decide)

end Document

end Worksheet
