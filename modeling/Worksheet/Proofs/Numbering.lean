import Worksheet.Proofs.Idempotence
import Worksheet.Proofs.Undoing

/-!
# Evaluation keeps the numbers of lines

**Theorem (`Document.logical_render`).** The lines that count in a rendered document are the first
lines of its results, one for each, if and only if no expression is shown so that its line begins
like an output line. Then the rendered document is no edit, and no reference is renumbered.

A result is shown in one line that holds the equals sign, or in that line and output lines below it
(`lines_output`). So a rendered document counts those of the first lines that are no output lines
(`logical_render_eq`). The first line begins like the expression that it shows; blanks are set
around signs, but no angle bracket is put in front (`head?_format`).
-/

namespace Worksheet

open Text Reference Result Spacing

/-- The first line of what is shown of a line. -/
def EvaluatedLine.first (r : EvaluatedLine) : Text := (lines r.output).headD []

/-! ## What is shown begins with what was typed -/

namespace Spacing

variable {t t' : Text}

theorem Patched.head?_bracket (h : Patched t t') (ht : t.head? ≠ some '>') :
    t'.head? ≠ some '>' := by
  cases h with
  | nil => exact ht
  | keep => exact ht
  | patch _ hv _ hinert _ =>
    obtain ⟨c, v, rfl⟩ := List.exists_cons_of_ne_nil hv
    rintro hc
    cases hc
    exact absurd (hinert '>' List.mem_cons_self) (by decide)

/-- An angle bracket in front of what is shown is one of the expression. -/
theorem head?_format (ht : Tight t) (h : t.head? ≠ some '>') : (format t).head? ≠ some '>' :=
  format_induction t (ht.trim_eq.symm ▸ h) fun _ _ hp _ hu => hp.head?_bracket hu

theorem Rereadable.shown (h : Rereadable t) {isActive : Bool} :
    Rereadable (Document.shown isActive t) := by
  unfold Document.shown
  split
  · exact h
  · exact h.format

end Spacing

namespace Document

variable {s : Surroundings} {e : Earlier} {active : Int} {isActive : Bool}
  {expr comment l : Text} {ls : List Text} {r : EvaluatedLine} {es : List EvaluatedLine}

/-! ## Lines of a rendered document -/

/-- A line that is evaluated shows its expression, a text, and its comment. -/
theorem exists_output_eq (hx : expressionOf? l = some (expr, comment))
    (h : evaluateLine s isActive e l = .ok r) :
    ∃ text, r.output = Line.render (shown isActive expr) text comment ∧ (text = errorText ∨
      ∃ a, Worksheet.evaluate s Evaluator.all e expr = .ok a ∧ text = a.text) := by
  rw [evaluateLine, hx] at h
  dsimp only at h
  split at h
  · next a ha =>
    cases h
    exact ⟨a.text, rfl, .inr ⟨a, ha, rfl⟩⟩
  · cases h
    exact ⟨errorText, rfl, .inl rfl⟩
  · cases h

/-- The lines of a result: the first, which counts if the expression is not shown like an output
line, and output lines. -/
theorem lines_output (hl : '\n' ∉ l) (hout : Line.isOutput l = false)
    (h : evaluateLine s isActive e l = .ok r) :
    ∃ rest, lines r.output = r.first :: rest ∧ (∀ p ∈ rest, Line.isOutput p = true) ∧
      (Line.isOutput r.first = false ↔ ∀ expr comment, expressionOf? l = some (expr, comment) →
        Line.isOutput (shown isActive expr ++ [' ']) = false) := by
  cases hx : expressionOf? l with
  | none =>
    have hr : r = ⟨l, {}⟩ := by
      rw [evaluateLine, hx] at h
      exact (Except.ok.inj h).symm
    have hlines : lines l = [l] := split_of_notMem hl
    subst hr
    refine ⟨[], ?_, by simp, ?_⟩
    · rw [EvaluatedLine.first, hlines]
      rfl
    · rw [EvaluatedLine.first, hlines]
      exact iff_of_true hout fun expr comment he => by cases he
  | some p =>
    obtain ⟨expr, comment⟩ := p
    obtain ⟨hread, -, hsingle⟩ := expressionOf_spec hx hl
    obtain ⟨text, htext, -⟩ := exists_output_eq hx h
    have hshown : Rereadable (shown isActive expr) := hread.shown
    obtain ⟨rest, hrest, houtput⟩ := Line.lines_render text hshown.single hsingle
    rw [← htext] at hrest
    have hfirst : r.first = Line.firstLine (shown isActive expr) text comment := by
      rw [EvaluatedLine.first, hrest]
      rfl
    refine ⟨rest, by rw [hfirst, hrest], houtput, ?_⟩
    rw [hfirst, Line.isOutput_firstLine hshown]
    simp

/-- Of a rendered document those of the first lines count that are no output lines. -/
theorem logical_render_eq (hne : es ≠ []) (hes : ∀ r ∈ es, ∃ rest, lines r.output = r.first :: rest ∧
    ∀ p ∈ rest, Line.isOutput p = true) :
    Line.logical (render es) = Line.counted (es.map EvaluatedLine.first) := by
  have hcounted : Line.counted (es.flatMap fun r => lines r.output) =
      Line.counted (es.map EvaluatedLine.first) := by
    clear hne
    induction es with
    | nil => rfl
    | cons r es ih =>
      obtain ⟨⟨rest, hrest, houtput⟩, hes⟩ := List.forall_mem_cons.1 hes
      have hbelow : Line.counted rest = [] :=
        List.filter_eq_nil_iff.2 fun p hp => by simp [houtput p hp]
      unfold Line.counted at hbelow ih ⊢
      rw [List.flatMap_cons, hrest, List.map_cons, List.cons_append, List.filter_cons,
        List.filter_cons, List.filter_append, hbelow, List.nil_append, ih hes]
  rw [render, Line.logical, Line.lines_unlines (by simpa using hne), List.flatMap_map, hcounted]

/-- No expression is shown so that its line begins like an output line. -/
def ShowsCounted (active : Int) (ls : List Text) : Prop :=
  ∀ i l expr comment, (Line.counted ls)[i]? = some l → expressionOf? l = some (expr, comment) →
    Line.isOutput (shown (active == (i + 1 : Nat)) expr ++ [' ']) = false

/-- Only an expression that begins with an angle bracket can be shown like an output line. -/
theorem showsCounted_of_head? (hls : ∀ l ∈ ls, '\n' ∉ l)
    (h : ∀ l ∈ Line.counted ls, ∀ expr comment, expressionOf? l = some (expr, comment) →
      expr.head? ≠ some '>') : ShowsCounted active ls := by
  intro i l expr comment hl hx
  have hm := List.mem_of_getElem? hl
  obtain ⟨hread, -, -⟩ := expressionOf_spec hx (hls l (List.mem_filter.1 hm).1)
  have hhead : (shown (active == (i + 1 : Nat)) expr).head? ≠ some '>' := by
    unfold shown
    split
    · exact h l hm expr comment hx
    · exact head?_format hread.tight (h l hm expr comment hx)
  have hshown : Rereadable (shown (active == (i + 1 : Nat)) expr) := hread.shown
  generalize shown (active == (i + 1 : Nat)) expr = u at hhead hshown ⊢
  obtain ⟨c, r, rfl⟩ := List.exists_cons_of_ne_nil hshown.ne_nil
  have hblank : isBlank c = false := hshown.tight.1
  have hbracket : ('>' == c) = false := beq_eq_false_iff_ne.2 fun hc => hhead (hc ▸ rfl)
  rw [Line.isOutput, trimLeft, List.cons_append, List.dropWhile_cons_of_neg (by simp [hblank]),
    Line.outputMark, List.isPrefixOf, hbracket, Bool.false_and]

/-- **Evaluation is no edit.** The lines that count in a rendered document are the first lines of
its results, one for each, if and only if every expression is shown so that its line counts. Then
renumbering after the evaluation leaves the rendered document as it is. -/
theorem logical_render (hls : ∀ l ∈ ls, '\n' ∉ l) (hne : Line.counted ls ≠ [])
    (h : evaluate s active ls = .ok es) :
    (Line.logical (render es) = es.map EvaluatedLine.first ↔ ShowsCounted active ls) ∧
      (ShowsCounted active ls → Reference.adjust (unlines ls) (render es) = .ok (render es)) := by
  have hlength : es.length = (Line.counted ls).length := length_evaluateFrom h
  have hline {i : Nat} {l : Text} {r : EvaluatedLine} (hl : (Line.counted ls)[i]? = some l)
      (hr : es[i]? = some r) : ∃ rest, lines r.output = r.first :: rest ∧
        (∀ p ∈ rest, Line.isOutput p = true) ∧ (Line.isOutput r.first = false ↔
          ∀ expr comment, expressionOf? l = some (expr, comment) →
            Line.isOutput (shown (active == (i + 1 : Nat)) expr ++ [' ']) = false) := by
    obtain ⟨hm, hout⟩ := List.mem_filter.1 (List.mem_of_getElem? hl)
    have hr := evaluateFrom_getElem? h hl hr
    rw [Nat.add_comm 1 i] at hr
    exact lines_output (hls l hm) (by simpa using hout) hr
  have hlogical : Line.logical (render es) = Line.counted (es.map EvaluatedLine.first) := by
    refine logical_render_eq (fun hes => hne ?_) fun r hr => ?_
    · rw [hes] at hlength
      exact List.length_eq_zero_iff.1 hlength.symm
    · obtain ⟨i, hi, rfl⟩ := List.mem_iff_getElem.1 hr
      obtain ⟨rest, hrest, houtput, -⟩ :=
        hline (List.getElem?_eq_getElem (hlength ▸ hi)) (List.getElem?_eq_getElem hi)
      exact ⟨rest, hrest, houtput⟩
  have hall : Line.logical (render es) = es.map EvaluatedLine.first ↔ ShowsCounted active ls := by
    rw [hlogical, Line.counted, List.filter_eq_self, List.forall_mem_map]
    constructor
    · intro hout i l expr comment hl hx
      have hi : i < es.length := hlength ▸ (List.getElem?_eq_some_iff.1 hl).1
      obtain ⟨-, -, -, hiff⟩ := hline hl (List.getElem?_eq_getElem hi)
      exact hiff.1 (by simpa using hout _ (List.getElem_mem hi)) expr comment hx
    · intro hshows r hr
      obtain ⟨i, hi, rfl⟩ := List.mem_iff_getElem.1 hr
      have hl := List.getElem?_eq_getElem (hlength ▸ hi : i < (Line.counted ls).length)
      obtain ⟨-, -, -, hiff⟩ := hline hl (List.getElem?_eq_getElem hi)
      rw [hiff.2 fun expr comment hx => hshows i _ expr comment hl hx]
      rfl
  refine ⟨hall, fun hshows => Reference.adjust_of_length_eq ?_⟩
  have hls' : ls ≠ [] := fun hnil => hne (by rw [hnil]; rfl)
  rw [Reference.logical_unlines hls' hls, hall.2 hshows, List.length_map, hlength]

/-- The facts about a block and an old output line stand between two lines, and the reference behind
them keeps its number. -/
theorem logical_render_block :
    let s : Surroundings := ⟨⟨0, some Zone.utc, false, by decide⟩, .fixed⟩
    let ls := ["10.0.0.0/30 =", "> Hostmask", "2*3 = 5 # rows", "\\2+4 ="].map String.toList
    (∀ l ∈ ls, '\n' ∉ l) ∧ Line.counted ls ≠ [] ∧ ∃ es, evaluate s 3 ls = .ok es ∧
      (Line.logical (render es) = es.map EvaluatedLine.first ↔ ShowsCounted 3 ls) ∧
      Reference.adjust (unlines ls) (render es) = .ok (render es) := by
  intro s ls
  have hsingle : ∀ l ∈ ls, '\n' ∉ l := by decide
  have hne : Line.counted ls ≠ [] := by decide
  obtain ⟨es, h⟩ := exists_eq_ok (show (evaluate s 3 ls).toOption.isSome = true by decide +kernel)
  have hheads : (Line.counted ls).all (fun l => (expressionOf? l).all fun x =>
      x.1.head? != some '>') = true := by decide +kernel
  have hshows : ShowsCounted 3 ls := showsCounted_of_head? hsingle fun l hl expr comment hx => by
    have := List.all_eq_true.1 hheads l hl
    simpa [hx] using this
  obtain ⟨hiff, hadjust⟩ := logical_render hsingle hne h
  exact ⟨hsingle, hne, es, h, hiff, hadjust hshows⟩

-- Behind the bracket stands another blank than in an output line, and it is shown as one.
example :
    let s : Surroundings := ⟨⟨0, some Zone.utc, false, by decide⟩, .fixed⟩
    let t := ">\t5 =\n1 =\n\\2 =".toList
    let shown := (evaluate s 0 (lines t)).toOption.map render
    (shown.map Line.logical).map List.length = some 2 ∧
      (shown.bind fun u => (Reference.adjust t u).toOption) =
        some "> 5 = ERR\n1 = 1\n\\1 = 1".toList := by
  decide +kernel

end Document

end Worksheet
