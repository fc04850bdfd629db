import Worksheet.Proofs.Numbering

/-!
# Rendered lines are split again

**Theorem (`Document.split_output`).** The first line of a result is split into the expression that
it shows and the comment of the line that was evaluated, whether it shows an answer or an error. The
lines below it are output lines.

Up to its result such a line is what was shown, which has no mark of a comment (`splitComment_append`)
and no equals sign of its own, so it is cut behind the expression (`cutResult_firstLine`). That needs
nothing from the result. The comment is found at its own mark only if the result holds none
(`splitComment_firstLine`). A result takes over texts of earlier lines, so this is carried from
line to line (`unmarked_evaluateLine`, `unmarked_evaluateFrom`). The names of zones can come from the
clock, hence the condition on it.
-/

namespace Worksheet

open Text Reference Result Spacing

/-! ## The parts of a rendered line -/

namespace Line

variable {shown text comment u : Text}

/-- A comment begins behind what holds no comment mark. -/
theorem splitComment_append (hu : Unmarked u) (w : Text) :
    splitComment (u ++ w) = (u ++ (splitComment w).1, (splitComment w).2) := by
  cases hw : cutAt '#' w with
  | none =>
    have hnone : cutAt '#' (u ++ w) = none :=
      cutAt_eq_none.2 (Unmarked.append_iff.2 ⟨hu, cutAt_eq_none.1 hw⟩)
    rw [splitComment, splitComment, hw, hnone]
  | some p =>
    obtain ⟨a, b⟩ := p
    have hcut : cutAt '#' (u ++ w) = some (u ++ a, b) := by
      rw [cutAt_append hw, ← List.append_assoc]
      exact cutAt_append_cons (Unmarked.append_iff.2 ⟨hu, notMem_of_cutAt hw⟩)
    rw [splitComment, splitComment, hw, hcut]

theorem head?_splitComment {w : Text} {c : Char} (h : w.head? ≠ some c) :
    (splitComment w).1.head? ≠ some c := by
  rw [splitComment]
  split
  · exact h
  · next a b hcut =>
    rw [cutAt_append hcut] at h
    cases a with
    | nil => simp
    | cons d a => exact h

/-- A rendered line is cut behind the expression that it shows, whatever its result and comment. -/
theorem cutResult_firstLine (h : Rereadable shown) (text comment : Text) :
    ∃ b, cutResult (splitComment (firstLine shown text comment)).1 = some (shown ++ [' '], b) := by
  have htail : (resultPart text ++ Document.commentTail comment).head? ≠ some '=' := by
    unfold resultPart Document.commentTail
    split <;> split <;> simp
  have hline : firstLine shown text comment =
      (shown ++ [' ', '=']) ++ (resultPart text ++ Document.commentTail comment) := by
    simp [firstLine]
  have hmark : Unmarked (shown ++ [' ', '=']) :=
    Unmarked.append_iff.2 ⟨h.uncommented, by decide⟩
  refine ⟨(splitComment (resultPart text ++ Document.commentTail comment)).1, ?_⟩
  rw [hline, splitComment_append hmark, List.append_assoc]
  exact cutResult_shown h (head?_splitComment htail)

/-- The comment of a rendered line is found again if its result holds no comment mark. -/
theorem splitComment_firstLine (h : Rereadable shown) (ht : Unmarked text)
    (hc : IsComment comment) : (splitComment (firstLine shown text comment)).2 = comment := by
  have hpart : Unmarked (resultPart text) := by
    unfold resultPart
    split
    · exact .nil
    · exact Unmarked.cons_iff.2 ⟨by decide, ht⟩
  have hmark : Unmarked (shown ++ ' ' :: '=' :: resultPart text) := by
    simp [show Unmarked shown from h.uncommented, hpart]
  obtain ⟨b, -, -, hsplit⟩ := splitComment_tail hmark hc
  rw [firstLine, hsplit]

end Line

/-! ## Results without a comment mark -/

namespace Document

variable {s : Surroundings} {e : Earlier} {active : Int} {isActive : Bool} {n i : Nat}
  {expr comment l : Text} {ls : List Text} {r : EvaluatedLine} {es : List EvaluatedLine}

theorem unmarked_of_expressionOf (h : expressionOf? l = some (expr, comment)) : Unmarked expr := by
  obtain ⟨-, -, a, b, hcut, rfl⟩ := cutResult_of_expressionOf h
  refine Unmarked.trim fun hm => notMem_splitComment l ?_
  rw [Line.cutResult_append hcut]
  exact List.mem_append_left _ hm

/-- A line leaves no comment mark to the lines behind it. -/
theorem unmarked_evaluateLine (hnow : s.now.Unmarked) (he : e.Unmarked)
    (h : evaluateLine s isActive e l = .ok r) : (e ++ [r.outcome]).Unmarked := by
  cases hx : expressionOf? l with
  | none =>
    rw [outcome_of_none hx h]
    exact he.append nofun
  | some p =>
    obtain ⟨expr, comment⟩ := p
    obtain ⟨o, ho, houtcome⟩ := outcome_of_some hx h
    rw [houtcome]
    cases o with
    | none => exact he.append nofun
    | some a =>
      exact (unmarked_evaluate hnow he (unmarked_of_expressionOf hx) (eq_ok_of_settle ho)).2

/-- In front of each line there is no comment mark in what the lines leave. -/
theorem unmarked_evaluateFrom (hnow : s.now.Unmarked) (he : e.Unmarked)
    (h : evaluateFrom s active n e ls = .ok es) (i : Nat) :
    (e ++ (es.take i).map (·.outcome)).Unmarked := by
  induction ls generalizing n e es i with
  | nil =>
    cases h
    simpa using he
  | cons l ls ih =>
    obtain ⟨r, rs, hr, hrs, rfl⟩ := evaluateFrom_cons.1 h
    cases i with
    | zero => simpa using he
    | succ i => simpa using ih (unmarked_evaluateLine hnow he hr) hrs i

/-! ## Lines of a document -/

/-- **A rendered line is split as it was put together.** The expression in front of its equals sign
is the one that is shown of the line, and its comment that of the line, whatever it was answered with.
Each further line is an output line. For the comment the names of the clock's zone must be without
the mark of a comment. -/
theorem split_output (h : evaluate s active ls = .ok es) (hl : (Line.counted ls)[i]? = some l)
    (hsingle : '\n' ∉ l) (hx : expressionOf? l = some (expr, comment)) :
    ∃ r rest, es[i]? = some r ∧ lines r.output = r.first :: rest ∧
      (∀ p ∈ rest, Line.isOutput p = true) ∧
      (∃ a b, Line.cutResult (Line.splitComment r.first).1 = some (a, b) ∧
        trim a = shown (active == (i + 1 : Nat)) expr) ∧
      (s.now.Unmarked → (Line.splitComment r.first).2 = comment) := by
  have hlength : es.length = (Line.counted ls).length := length_evaluateFrom h
  have hi : i < es.length := hlength ▸ (List.getElem?_eq_some_iff.1 hl).1
  have hr := evaluateFrom_getElem? h hl (List.getElem?_eq_getElem hi)
  rw [Nat.add_comm 1 i] at hr
  obtain ⟨hread, hcomment, hcommentSingle⟩ := expressionOf_spec hx hsingle
  obtain ⟨text, htext, hanswer⟩ := exists_output_eq hx hr
  have hshown : Rereadable (shown (active == (i + 1 : Nat)) expr) := hread.shown
  obtain ⟨rest, hrest, houtput⟩ := Line.lines_render text hshown.single hcommentSingle
  rw [← htext] at hrest
  have hfirst : es[i].first =
      Line.firstLine (shown (active == (i + 1 : Nat)) expr) text comment := by
    rw [EvaluatedLine.first, hrest]
    rfl
  refine ⟨es[i], rest, List.getElem?_eq_getElem hi, hfirst ▸ hrest, houtput, ?_, fun hnow => ?_⟩
  · obtain ⟨b, hcut⟩ := Line.cutResult_firstLine hshown text comment
    exact ⟨_, b, hfirst ▸ hcut, Line.trim_append_blank hshown.tight⟩
  · rw [hfirst]
    refine Line.splitComment_firstLine hshown ?_ hcomment
    rcases hanswer with rfl | ⟨a, ha, rfl⟩
    · decide
    · exact (unmarked_evaluate hnow (unmarked_evaluateFrom hnow (by simp [Earlier.Unmarked]) h i)
        hread.uncommented ha).1

/-- Behind an old output line and a line with an error, the facts about a block stand below the line with
its comment. -/
theorem split_output_block :
    let s : Surroundings := ⟨⟨0, some Zone.utc, false, by decide⟩, .fixed⟩
    let ls := ["> old", "1+(2 = 7", "10.0.0.0/30 =#  block "].map String.toList
    ∃ es r rest, evaluate s 0 ls = .ok es ∧ es[1]? = some r ∧ lines r.output = r.first :: rest ∧
      rest.length = 5 ∧ (∀ p ∈ rest, Line.isOutput p = true) ∧
      (∃ a b, Line.cutResult (Line.splitComment r.first).1 = some (a, b) ∧
        trim a = "10.0.0.0/30".toList) ∧ (Line.splitComment r.first).2 = "#  block".toList := by
  intro s ls
  obtain ⟨es, h⟩ := exists_eq_ok (show (evaluate s 0 ls).toOption.isSome = true by decide +kernel)
  have hx : expressionOf? "10.0.0.0/30 =#  block ".toList =
      some ("10.0.0.0/30".toList, "#  block".toList) := by decide +kernel
  obtain ⟨r, rest, hr, hlines, houtput, hcut, hcomment⟩ :=
    split_output h (i := 1) rfl (by decide) hx
  have hshown : shown ((0 : Int) == (1 + 1 : Nat)) "10.0.0.0/30".toList = "10.0.0.0/30".toList := by
    decide +kernel
  have hnow : s.now.Unmarked := fun z hz => by
    cases hz
    exact Zone.unmarked_utc
  have hlengths : (evaluate s 0 ls).toOption.map (·.map fun r => (lines r.output).length) =
      some [1, 6] := by decide +kernel
  rw [h] at hlengths
  have hlength := congrArg (·[1]?) (Option.some.inj hlengths)
  rw [List.getElem?_map, hr, Option.map_some, hlines] at hlength
  exact ⟨es, r, rest, h, hr, hlines, Nat.succ.inj (Option.some.inj hlength), houtput,
    hshown ▸ hcut, hcomment hnow⟩

end Document

end Worksheet
