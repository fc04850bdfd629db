import Worksheet.Proofs.Insertion
import Worksheet.Proofs.Resolution

/-!
# References to deleted lines

**Theorem (`Document.evaluate_deleted`).** A reference to a deleted line fails, unless a line with a
result has come to stand at its number in front of the line that refers.

Renumbering leaves the number of such a reference as it is (`renumbering_of_deleted`), but the lines
behind the block slide up into the numbers that have become free (`numbered?_of_deleted`). Where the
line that slides there has a result and is in front of the referring line, the reference is to that
line, and nothing shows that it was to another.
-/

namespace Worksheet

open Text Result

/-! ## Numbers of deleted lines -/

section Numbered

variable {P X S : List Text} {n : Nat}

/-- The number of a deleted line is free for the line that many lines behind it. -/
theorem numbered?_of_deleted (hn : P.length < n) :
    Line.numbered? (P ++ S) n = Line.numbered? (P ++ X ++ S) (n + X.length) := by
  rw [numbered?_append_right hn, numbered?_append_right (by simp only [List.length_append]; omega)]
  congr 1
  simp only [List.length_append]
  omega

end Numbered

namespace Reference

/-- The number of a line after `count` lines from `start` on have been deleted. -/
def shrinking (start count n : Nat) : Nat := if start + count ≤ n then n - count else n

variable {P X S : List Text} {old new adj : Text}

/-- Where the deleted lines differ from those behind them, the block begins with them. -/
theorem adjust_deleted (hold : Line.logical old = P ++ X ++ S) (hnew : Line.logical new = P ++ S)
    (hX : X ≠ []) (hhead : X.head? ≠ S.head?) (hadj : adjust old new = .ok adj) :
    adj = rewrite (renumbering (shrinking (P.length + 1) X.length)) new ∧
      ∀ digits ∈ runs new, Writable (shrinking (P.length + 1) X.length) digits := by
  have hfirst : firstDifference (P ++ X ++ S) (P ++ S) = P.length + 1 := by
    obtain ⟨x, X, rfl⟩ := List.exists_cons_of_ne_nil hX
    have hone : firstDifference (x :: X ++ S) S = 1 := firstDifference_eq_one hhead
    rw [List.append_assoc, firstDifference_append, hone]
  rw [adjust_of_deleted hold hnew hX, hfirst] at hadj
  refine (renumber_eq_ok _ fun n => ?_).1 hadj
  unfold shrinking
  split <;> split <;> omega

/-- A reference to a deleted line keeps its number. -/
theorem renumbering_of_deleted {start count n : Nat} {digits : Text}
    (hw : Writable (shrinking start count) digits) (hn : line digits = .ok n)
    (hlt : n < start + count) : line (renumbering (shrinking start count) digits) = .ok n := by
  rw [line_eq_ok] at hn ⊢
  rw [natural?_renumbering hw, hn, Option.map_some, shrinking, if_neg (Nat.not_le.2 hlt)]

end Reference

namespace Document

variable {s : Surroundings} {e : Earlier} {active : Int} {n i : Nat} {l expr comment digits : Text}
  {r : EvaluatedLine} {old new adj : Text} {es : List EvaluatedLine}

/-- A line that refers to nothing that is left shows an error, if only evaluators that resolve
references have an answer. -/
theorem evaluateLine_unresolved {isActive : Bool} (h : evaluateLine s isActive e l = .ok r)
    (hx : expressionOf? l = some (expr, comment)) (hd : digits ∈ Reference.runs expr)
    (hn : Reference.line digits = .ok n) (hseen : e.seen n = {})
    (hpass : ∀ ev ∈ [Evaluator.subnets, .percentages, .units], Passes s e expr ev) :
    r = ⟨shown isActive expr ++ " = ERR".toList ++ commentTail comment, {}⟩ := by
  refine evaluateLine_unanswered hx h (answerFrom_ne_ok fun ev _ => ?_)
  cases ev with
  | dates => exact passes_dates hd hn (by rw [hseen])
  | arithmetic => exact passes_arithmetic hd hn (by rw [hseen])
  | subnets | percentages | units => exact hpass _ (by simp)

/-- **References to deleted lines fail.** The lines `X`, which share no text with the others, are
deleted, and a line that is left has a reference to one of them. After renumbering the reference
names the line that was `X.length` lines behind the deleted one. If that line is not in front of the
referring one or has no result, the referring line shows an error in place of the result and leaves
nothing, provided that none of the evaluators that do not resolve references has an answer. -/
theorem evaluate_deleted (P X S : List Text) (hold : Line.logical old = P ++ X ++ S)
    (hnew : Line.logical new = P ++ S) (hX : X ≠ []) (hfresh : ∀ x ∈ X, x ∉ P ++ S)
    (hadj : Reference.adjust old new = .ok adj) (h : evaluate s active (lines adj) = .ok es)
    (hl : (Line.logical new)[i]? = some l) (hx : expressionOf? l = some (expr, comment))
    (hd : digits ∈ Reference.runs expr) (hn : Reference.line digits = .ok n)
    (hdeleted : P.length < n ∧ n ≤ P.length + X.length) :
    ∃ l' expr' comment' digits', (Line.logical adj)[i]? = some l' ∧
      expressionOf? l' = some (expr', comment') ∧ digits' ∈ Reference.runs expr' ∧
      Reference.line digits' = .ok n ∧
      Line.numbered? (Line.logical new) n = Line.numbered? (Line.logical old) (n + X.length) ∧
      ((i < n ∨ ∃ r, es[n - 1]? = some r ∧ r.outcome.hasResult = false) →
        (∀ ev ∈ [Evaluator.subnets, .percentages, .units],
          Passes s ((es.take i).map (·.outcome)) expr' ev) →
        es[i]? = some ⟨shown (active == (i + 1 : Nat)) expr' ++ " = ERR".toList ++
          commentTail comment', {}⟩) := by
  have hhead : X.head? ≠ S.head? := by
    obtain ⟨x, X, rfl⟩ := List.exists_cons_of_ne_nil hX
    refine fun hs => hfresh x List.mem_cons_self (List.mem_append_right P ?_)
    exact List.mem_of_mem_head? hs.symm
  obtain ⟨rfl, hw⟩ := Reference.adjust_deleted hold hnew hX hhead hadj
  generalize hσ : Reference.shrinking (P.length + 1) X.length = σ at hw h
  have hρ : Reference.KeepsRuns (Reference.renumbering σ) := Reference.keepsRuns_renumbering
  have hlogical := Reference.logical_rewrite hρ new
  -- The reference is one of the text, and so can be read and written.
  have hmem : digits ∈ Reference.runs new := by
    have hline : l ∈ lines new := (List.mem_filter.1 (List.mem_of_getElem? hl)).1
    have hsub := Reference.runs_subset_unlines hline
    rw [show unlines (lines new) = new from join_split '\n' new] at hsub
    exact hsub ((Reference.runs_expressionOf hx).subset hd)
  have hl' : (Line.logical (Reference.rewrite (Reference.renumbering σ) new))[i]? =
      some (Reference.rewrite (Reference.renumbering σ) l) := by
    rw [hlogical, List.getElem?_map, hl, Option.map_some]
  have hx' : expressionOf? (Reference.rewrite (Reference.renumbering σ) l) =
      some (Reference.rewrite (Reference.renumbering σ) expr,
        Reference.rewrite (Reference.renumbering σ) comment) := by
    rw [Reference.expressionOf_rewrite hρ, hx, Option.map_some]
  have hd' : Reference.renumbering σ digits ∈
      Reference.runs (Reference.rewrite (Reference.renumbering σ) expr) := by
    rw [Reference.runs_rewrite hρ]
    exact List.mem_map_of_mem hd
  have hn' : Reference.line (Reference.renumbering σ digits) = .ok n := by
    subst hσ
    exact Reference.renumbering_of_deleted (hw digits hmem) hn (by omega)
  refine ⟨_, _, _, _, hl', hx', hd', hn', ?_, fun hfree hpass => ?_⟩
  · rw [hold, hnew]
    exact numbered?_of_deleted hdeleted.1
  · have hi : i < es.length := by
      rw [length_evaluateFrom h]
      exact (List.getElem?_eq_some_iff.1 hl').1
    have hr := List.getElem?_eq_getElem hi
    have hone := evaluateFrom_getElem? h hl' hr
    rw [List.nil_append, Nat.add_comm 1 i] at hone
    rw [hr, evaluateLine_unresolved hone hx' hd' hn' (seen_of_no_result h (.inr hfree)) hpass]

/-- The second of three lines is deleted, and the third is left with a reference to itself. -/
theorem evaluate_deleted_second :
    let s : Surroundings := ⟨⟨0, none, false, by decide⟩, .fixed⟩
    let old := "2 =\n3 =\n\\2 * \\1 = # area".toList
    let new := "2 =\n\\2 * \\1 = # area".toList
    ∃ es, Reference.adjust old new = .ok new ∧ evaluate s 0 (lines new) = .ok es ∧
      es[1]? = some ⟨"\\2 * \\1 = ERR # area".toList, {}⟩ := by
  intro s old new
  have hadj := eq_ok_of_toOption
    (show (Reference.adjust old new).toOption = some new by decide +kernel)
  obtain ⟨es, h⟩ := exists_eq_ok
    (show (evaluate s 0 (lines new)).toOption.isSome = true by decide +kernel)
  have hx : expressionOf? "\\2 * \\1 = # area".toList =
      some ("\\2 * \\1".toList, "# area".toList) := by decide +kernel
  have hruns : Reference.runs "\\2 * \\1".toList = ["2".toList, "1".toList] := by cbv
  obtain ⟨l', expr', comment', digits', hl', hx', -, -, -, herr⟩ :=
    evaluate_deleted (i := 1) (n := 2) ["2 =".toList] ["3 =".toList] ["\\2 * \\1 = # area".toList]
      (by decide +kernel) (by decide +kernel) (by decide) (by decide) hadj h (by decide +kernel) hx
      (hruns ▸ List.mem_cons_self) rfl (by decide)
  have hline : (Line.logical new)[1]? = some "\\2 * \\1 = # area".toList := by decide +kernel
  cases hline.symm.trans hl'
  cases hx.symm.trans hx'
  have hclaims : ∀ ev ∈ [Evaluator.subnets, .percentages, .units],
      ev.claims "\\2 * \\1".toList = false := by decide +kernel
  exact ⟨es, hadj, h, herr (.inl (by decide)) fun ev hev => passes_of_not_claims (hclaims ev hev)⟩

-- The first of three lines is deleted, and the reference to it becomes one to the line behind.
example :
    let s : Surroundings := ⟨⟨0, none, false, by decide⟩, .fixed⟩
    let new := "2 =\n\\1 + 1 =".toList
    (Reference.adjust "1 =\n2 =\n\\1 + 1 =".toList new).toOption = some new ∧
      (evaluate s 0 (lines new)).toOption.map (·.map (·.output)) =
        some ["2 = 2".toList, "\\1 + 1 = 3".toList] := by
  decide +kernel

end Document

end Worksheet
