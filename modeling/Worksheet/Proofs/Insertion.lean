import Worksheet.Proofs.Dependence
import Worksheet.Proofs.Passing
import Worksheet.Proofs.Phrases
import Worksheet.Proofs.Renumbering
import Worksheet.Proofs.Rescanning

/-!
# Lines put in between

**Theorem (`Document.evaluate_inserted`).** When blank lines or comments are put into a document and
its references are renumbered, every line leaves to the others what it left before.

A renumbered line has the expression of the old one with other references (`expressionOf_rewrite`),
and behind the inserted lines these lead to the same outcomes. So each evaluator answers both
expressions alike (`settle_evaluate_rewrite`), and an induction over the lines goes through
(`evaluateFrom_rewrite`).

Two ways to write a reference are left out, as the theorem fails for them: with digits of another
script, which renumbering writes anew, and inside the name of a unit.
-/

namespace Worksheet

open Text Result

/-! ## The same answer to a renumbered expression -/

section Answers

variable {s : Surroundings} {e e' : Earlier} {expr : Text} {ρ : Text → Text} {σ : Nat → Nat}

/-- What the answer of an evaluator leaves, if it has one. -/
def answered (x : Result (Option Answer)) : Except Fault (Option (Option Outcome)) :=
  (settle x).map (Option.map (Option.map Answer.outcome))

theorem answered_answerBy {rules : List PhraseRule} {expr expr' : Text}
    (h : shape (PhraseRule.run rules expr') = shape (PhraseRule.run rules expr)) :
    answered (Evaluator.answerBy rules expr') = answered (Evaluator.answerBy rules expr) := by
  unfold Evaluator.answerBy
  match PhraseRule.run rules expr', PhraseRule.run rules expr, h with
  | .ok (some _), .ok (some _), _ => rfl
  | .ok none, .ok none, _ => rfl
  | .error (.line _), .error (.line _), _ => rfl
  | .error (.fault _), .error (.fault _), h =>
    cases h
    rfl

/-- The evaluators that take notice of references through the lines they name. -/
def readers : List Evaluator := [.subnets, .dates, .percentages, .arithmetic]

/-- Renumbering keeps the answer of all evaluators but the one for units. -/
theorem settle_answerFrom_rewrite {last last' : LineError} (hρ : Reference.KeepsRuns ρ)
    (hρa : Reference.KeepsAscii ρ) (hs : SameSeen σ expr e e') (hb : '\\' ∈ expr)
    (ha : ∀ digits ∈ Reference.runs expr, digits.all isAsciiDigit = true ∧
      Literal.natural? (ρ digits) = (Literal.natural? digits).map σ) :
    (settle (answerFrom s e' (Reference.rewrite ρ expr) last' readers)).map
        (Option.map Answer.outcome) =
      (settle (answerFrom s e expr last readers)).map (Option.map Answer.outcome) := by
  have hascii : ∀ digits ∈ Reference.runs expr, digits.all isAsciiDigit = true := fun digits hd =>
    (ha digits hd).1
  have hr : Reference.Renames σ ρ expr (Reference.rewrite ρ expr) := by
    refine ⟨Reference.pieces_rewrite hρ expr, fun digits hd => ?_⟩
    rw [Reference.line, Reference.line, (ha digits hd).2]
    cases Literal.natural? digits <;> rfl
  have hdates {t : Text} (ht : '\\' ∈ t) : Calendar.claims t = true := by
    rw [Calendar.claims, List.contains_iff_mem.2 ht, Bool.or_true]
  refine settle_answerFrom_congr (fun ev hev => ?_) fun ev hev => ?_
  · cases ev with
    | subnets => exact Subnet.claims_rewrite hρ hρa hascii
    | dates => exact (hdates (Reference.backslash_mem_rewrite hb)).trans (hdates hb).symm
    | percentages => exact Percentage.claims_rewrite hρ hρa hascii
    | units => simp [readers] at hev
    | arithmetic => rfl
  · cases ev with
    | subnets => exact answered_answerBy (Subnet.shape_rules hρ hρa hascii)
    | dates => rw [settle_answer_dates hr hs]
    | percentages => exact answered_answerBy (Percentage.shape_rules hρ hρa hascii)
    | units => simp [readers] at hev
    | arithmetic => rw [settle_answer_arithmetic hr hs (Token.scan_rewrite hρ hρa ha)]

end Answers

namespace Document

variable {s : Surroundings} {e e' : Earlier} {ρ : Text → Text} {σ : Nat → Nat} {l : Text}
  {r r' : EvaluatedLine}

/-- Whether an expression is answered as a conversion of units or currencies. -/
def isConverted (s : Surroundings) (expr : Text) : Bool :=
  Evaluator.units.claims expr && ((Evaluator.answer s [] expr .units).toOption.join).isSome

theorem passes_of_not_converted {expr : Text} (h : isConverted s expr = false) (e : Earlier) :
    Passes s e expr .units := by
  intro hc a ha
  have ha : Evaluator.answer s [] expr .units = .ok (some a) := ha
  rw [isConverted, hc, ha] at h
  cases h

/-- Whether the references of the expression of a line are written in ASCII digits. -/
def refersInAscii (l : Text) : Bool :=
  (expressionOf? l).all fun p => (Reference.runs p.1).all (·.all isAsciiDigit)

/-- Whether the expression of a line refers to a line and is answered as a conversion. -/
def convertsReference (s : Surroundings) (l : Text) : Bool :=
  (expressionOf? l).any fun p => !(Reference.runs p.1).isEmpty && isConverted s p.1

section Conditions

variable {expr comment : Text}

theorem all_ascii (hx : expressionOf? l = some (expr, comment)) (h : refersInAscii l = true) :
    ∀ digits ∈ Reference.runs expr, digits.all isAsciiDigit = true := by
  rw [refersInAscii, hx] at h
  exact List.all_eq_true.1 h

theorem not_converted (hx : expressionOf? l = some (expr, comment))
    (hr : Reference.runs expr ≠ []) (h : convertsReference s l = false) :
    isConverted s expr = false := by
  rw [convertsReference, hx] at h
  simpa [hr] using h

end Conditions

theorem outcome_of_none {isActive : Bool} (hx : expressionOf? l = none)
    (h : evaluateLine s isActive e l = .ok r) : r.outcome = {} := by
  rw [evaluateLine, hx] at h
  cases h
  rfl

theorem outcome_of_remark {isActive : Bool} (hl : Reference.isRemark l = true)
    (h : evaluateLine s isActive e l = .ok r) : r.outcome = {} := by
  refine outcome_of_none ?_ h
  rw [Reference.expressionOf_eq, if_pos hl]

theorem outcome_of_some {isActive : Bool} {expr comment : Text}
    (hx : expressionOf? l = some (expr, comment)) (h : evaluateLine s isActive e l = .ok r) :
    ∃ o, settle (Worksheet.evaluate s Evaluator.all e expr) = .ok o ∧
      r.outcome = (o.map Answer.outcome).getD {} := by
  rw [evaluateLine, hx] at h
  dsimp only at h
  match Worksheet.evaluate s Evaluator.all e expr, h with
  | .ok a, h =>
    cases h
    exact ⟨some a, rfl, rfl⟩
  | .error (.line _), h =>
    cases h
    exact ⟨none, rfl, rfl⟩

/-- A line leaves the same after renumbering, where its references lead to the same outcomes. -/
theorem outcome_rewrite {isActive isActive' : Bool} (hρ : Reference.KeepsRuns ρ)
    (hρa : Reference.KeepsAscii ρ)
    (hnat : ∀ digits ∈ Reference.runs l,
      Literal.natural? (ρ digits) = (Literal.natural? digits).map σ)
    (ha : refersInAscii l = true) (hc : convertsReference s l = false)
    (hc' : convertsReference s (Reference.rewrite ρ l) = false) (hs : ∀ n, e'.seen (σ n) = e.seen n)
    (h : evaluateLine s isActive e l = .ok r)
    (h' : evaluateLine s isActive' e' (Reference.rewrite ρ l) = .ok r') :
    r'.outcome = r.outcome := by
  have hx' := Reference.expressionOf_rewrite hρ (l := l)
  cases hx : expressionOf? l with
  | none =>
    rw [hx] at hx'
    rw [outcome_of_none hx h, outcome_of_none hx' h']
  | some p =>
    obtain ⟨expr, comment⟩ := p
    rw [hx] at hx'
    obtain ⟨o, ho, hr⟩ := outcome_of_some hx h
    obtain ⟨o', ho', hr'⟩ := outcome_of_some hx' h'
    have hsub := (Reference.runs_expressionOf hx).subset
    have hseen : SameSeen σ expr e e' := fun digits _ n _ => hs n
    rw [hr, hr']
    suffices h : (settle (Worksheet.evaluate s Evaluator.all e' (Reference.rewrite ρ expr))).map
        (Option.map Answer.outcome) =
          (settle (Worksheet.evaluate s Evaluator.all e expr)).map (Option.map Answer.outcome) by
      rw [ho, ho'] at h
      exact congrArg (·.getD {}) (Except.ok.inj h)
    by_cases hb : Reference.runs expr = []
    · have hid : Reference.rewrite ρ expr = expr := Reference.rewrite_of_runs hb
      have hnone : SameSeen id expr e e' := by
        intro digits hd
        rw [hb] at hd
        cases hd
      rw [hid, settle_evaluate s Evaluator.all hnone]
    · have hruns : Reference.runs (Reference.rewrite ρ expr) ≠ [] := by
        rw [Reference.runs_rewrite hρ]
        simpa using hb
      have hback : '\\' ∈ expr := Classical.byContradiction fun hm => hb (Reference.runs_eq_nil hm)
      -- The evaluator for units takes no part, so that the others decide.
      have hskip {e : Earlier} {expr : Text} {o : Option Answer} (hp : Passes s e expr .units)
          (ho : settle (Worksheet.evaluate s Evaluator.all e expr) = .ok o) :
          settle (Worksheet.evaluate s Evaluator.all e expr) =
            settle (answerFrom s e expr (.phrase (.notUnderstood expr)) readers) := by
        rw [ho]
        exact (heard_skip [.subnets, .dates, .percentages] [.arithmetic]
          (List.forall_mem_singleton.2 hp) ho).symm
      rw [hskip (passes_of_not_converted (not_converted hx hb hc) e) ho,
        hskip (passes_of_not_converted (not_converted hx' hruns hc') e') ho']
      exact settle_answerFrom_rewrite hρ hρa hseen hback fun digits hd =>
        ⟨all_ascii hx ha digits hd, hnat digits (hsub hd)⟩

/-! ## Runs over renumbered lines -/

variable {active active' : Int} {n n' : Nat} {ls : List Text} {es es' : List EvaluatedLine}

/-- Two runs leave the same outcomes if what holds of the lines behind, `Inv`, is kept by every line
and leads each reference to the outcome it had. A remark leaves nothing. -/
theorem evaluateFrom_rewrite (Inv : Earlier → Earlier → List Text → Prop)
    (hstep : ∀ e e' l ls (o : Outcome), Inv e e' (l :: ls) → (Reference.isRemark l = true → o = {}) →
      Inv (e ++ [o]) (e' ++ [o]) ls)
    (hsee : ∀ e e' ls, Inv e e' ls → ∀ n, e'.seen (σ n) = e.seen n)
    (hρ : Reference.KeepsRuns ρ) (hρa : Reference.KeepsAscii ρ)
    (hnat : ∀ l ∈ ls, ∀ digits ∈ Reference.runs l,
      Literal.natural? (ρ digits) = (Literal.natural? digits).map σ)
    (ha : ∀ l ∈ ls, refersInAscii l = true) (hc : ∀ l ∈ ls, convertsReference s l = false)
    (hc' : ∀ l ∈ ls.map (Reference.rewrite ρ), convertsReference s l = false) (hi : Inv e e' ls)
    (h : evaluateFrom s active n e ls = .ok es)
    (h' : evaluateFrom s active' n' e' (ls.map (Reference.rewrite ρ)) = .ok es') :
    es'.map (·.outcome) = es.map (·.outcome) := by
  induction ls generalizing n n' e e' es es' with
  | nil =>
    cases h
    cases h'
    rfl
  | cons l ls ih =>
    obtain ⟨x, xs, hx, hxs, rfl⟩ := evaluateFrom_cons.1 h
    obtain ⟨x', xs', hx', hxs', rfl⟩ := evaluateFrom_cons.1 h'
    have ho : x'.outcome = x.outcome :=
      outcome_rewrite hρ hρa (hnat l List.mem_cons_self) (ha l List.mem_cons_self)
        (hc l List.mem_cons_self) (hc' _ List.mem_cons_self) (hsee e e' _ hi) hx hx'
    rw [ho] at hxs'
    have hrest := ih (fun m hm => hnat m (List.mem_cons_of_mem l hm))
      (fun m hm => ha m (List.mem_cons_of_mem l hm)) (fun m hm => hc m (List.mem_cons_of_mem l hm))
      (fun m hm => hc' m (List.mem_cons_of_mem _ hm))
      (hstep e e' l ls _ hi fun hl => outcome_of_remark hl hx) hxs hxs'
    rw [List.map_cons, List.map_cons, ho, hrest]

theorem outcomes_of_remarks (hl : ∀ l ∈ ls, Reference.isRemark l = true)
    (h : evaluateFrom s active n e ls = .ok es) :
    es.map (·.outcome) = List.replicate ls.length {} := by
  induction ls generalizing n e es with
  | nil =>
    cases h
    rfl
  | cons l ls ih =>
    obtain ⟨x, xs, hx, hxs, rfl⟩ := evaluateFrom_cons.1 h
    rw [List.map_cons, outcome_of_remark (hl l List.mem_cons_self) hx,
      ih (fun m hm => hl m (List.mem_cons_of_mem l hm)) hxs]
    rfl

/-- Which line is being edited has no part in what lines leave. -/
theorem outcomes_active (h : evaluateFrom s active n e ls = .ok es)
    (h' : evaluateFrom s active' n e ls = .ok es') :
    es'.map (·.outcome) = es.map (·.outcome) := by
  induction ls generalizing n e es es' with
  | nil =>
    cases h
    cases h'
    rfl
  | cons l ls ih =>
    obtain ⟨x, xs, hx, hxs, rfl⟩ := evaluateFrom_cons.1 h
    obtain ⟨x', xs', hx', hxs', rfl⟩ := evaluateFrom_cons.1 h'
    have ho : x'.outcome = x.outcome := by
      cases he : expressionOf? l with
      | none => rw [outcome_of_none he hx, outcome_of_none he hx']
      | some p =>
        obtain ⟨o, ho, hr⟩ := outcome_of_some he hx
        obtain ⟨o', ho', hr'⟩ := outcome_of_some he hx'
        rw [ho] at ho'
        rw [hr, hr', Except.ok.inj ho']
    rw [ho] at hxs'
    rw [List.map_cons, List.map_cons, ho, ih hxs hxs']

end Document

/-! ## Remarks in a text -/

namespace Reference

variable {bs xs : List Text}

/-- Lines that agree with the inserted remarks, or with lines behind these, are remarks too. -/
theorem isRemark_of_firstDifference (hxs : ∀ x ∈ xs, isRemark x = true) (hne : xs ≠ []) {i : Nat}
    (hi : i + 1 < firstDifference bs (xs ++ bs)) {l : Text} (hl : bs[i]? = some l) :
    isRemark l = true := by
  induction i using Nat.strongRecOn generalizing l with
  | ind i ih =>
    have h := getElem?_of_firstDifference hi
    rw [hl] at h
    have hpos := List.length_pos_iff.2 hne
    rcases Nat.lt_or_ge i xs.length with hlt | hge
    · rw [List.getElem?_append_left hlt] at h
      exact hxs l (List.mem_of_getElem? h.symm)
    · rw [List.getElem?_append_right hge] at h
      exact ih (i - xs.length) (by omega) (by omega) h.symm

/-! ## Lines of a renumbered text -/

theorem isOutput_of_isRemark {l : Text} (h : isRemark l = true) : Line.isOutput l = false := by
  refine Bool.eq_false_iff.2 fun ho => ?_
  have ho : ['>', ' '].isPrefixOf (trimLeft l) = true := ho
  obtain ⟨r, hr⟩ := List.isPrefixOf_iff_prefix.1 ho
  -- The mark is no blank, so it is still there when blanks are taken off the right end.
  have happend : trim l ++ ((trimLeft l).reverse.takeWhile isBlank).reverse = '>' :: ' ' :: r :=
    (trimRight_append (trimLeft l)).trans hr.symm
  cases htrim : trim l with
  | nil =>
    rw [htrim, List.nil_append] at happend
    have hb : isBlank '>' = true := by
      refine List.all_eq_true.1 (List.all_takeWhile (p := isBlank) (l := (trimLeft l).reverse)) _ ?_
      rw [← List.mem_reverse, happend]
      exact List.mem_cons_self
    exact absurd hb (by decide)
  | cons c t =>
    rw [htrim] at happend
    rw [isRemark, htrim, (List.cons.inj happend).1] at h
    exact absurd h (by simp)

theorem counted_rewrite {ρ : Text → Text} (ls : List Text) :
    Line.counted (ls.map (rewrite ρ)) = (Line.counted ls).map (rewrite ρ) := by
  unfold Line.counted
  rw [List.filter_map]
  congr 1
  refine List.filter_congr fun l _ => ?_
  rw [Function.comp_apply, isOutput_rewrite]

/-- The lines of a rewritten text that count are those of the text, rewritten. -/
theorem logical_rewrite {ρ : Text → Text} (hρ : KeepsRuns ρ) (t : Text) :
    Line.logical (rewrite ρ t) = (Line.logical t).map (rewrite ρ) := by
  rw [Line.logical, lines, split_rewrite hρ (by decide) (by decide), counted_rewrite]
  rfl

theorem isRemark_rewrite {ρ : Text → Text} (hρ : KeepsRuns ρ) (l : Text) :
    isRemark (rewrite ρ l) = isRemark l := by
  rw [isRemark, isRemark, trim_rewrite hρ, head?_rewrite]

theorem runs_subset_unlines {ls : List Text} {l : Text} (h : l ∈ ls) :
    runs l ⊆ runs (unlines ls) := by
  induction ls with
  | nil => cases h
  | cons p ls ih =>
    cases ls with
    | nil =>
      rw [List.mem_singleton.1 h]
      exact List.Subset.refl _
    | cons q ls =>
      have hjoin : runs (unlines (p :: q :: ls)) = runs p ++ runs (unlines (q :: ls)) := by
        show runs (p ++ ['\n'] ++ unlines (q :: ls)) = _
        have hnl : (['\n'] ++ unlines (q :: ls)).head?.any isDigit = false :=
          show isDigit '\n' = false by decide
        rw [List.append_assoc, runs_append hnl]
        exact congrArg _ (runs_cons fun h => absurd h (by decide))
      rw [hjoin]
      rcases List.mem_cons.1 h with rfl | h
      · exact List.subset_append_left _ _
      · exact List.Subset.trans (ih h) (List.subset_append_right _ _)

end Reference

namespace Document

variable {s : Surroundings} {active active' : Int} {es es' : List EvaluatedLine}

/-- Behind `k` inserted lines, with `E` left in front of them: both runs have left the same since.
The first `d - 1` of those lines are remarks, and have left nothing so far. -/
def Behind (k d : Nat) (E e e' : Earlier) (ls : List Text) : Prop :=
  ∃ F : Earlier, e = E ++ F ∧ e' = E ++ (List.replicate k ({} : Outcome) ++ F) ∧
    (∀ i, i + 1 < d → (F[i]?).getD {} = {}) ∧
      ∀ i l, F.length + i + 1 < d → ls[i]? = some l → Reference.isRemark l = true

variable {k d : Nat} {E e e' : Earlier}

theorem Behind.append {l : Text} {ls : List Text} {o : Outcome} (h : Behind k d E e e' (l :: ls))
    (ho : Reference.isRemark l = true → o = {}) : Behind k d E (e ++ [o]) (e' ++ [o]) ls := by
  obtain ⟨F, rfl, rfl, hF, hls⟩ := h
  refine ⟨F ++ [o], by simp, by simp, fun i hi => ?_, fun i m hi hm => ?_⟩
  · rcases Nat.lt_trichotomy i F.length with hlt | rfl | hgt
    · rw [List.getElem?_append_left hlt]
      exact hF i hi
    · rw [ho (hls 0 l hi rfl)]
      simp
    · rw [List.getElem?_eq_none (by simp; omega)]
      rfl
  · rw [List.length_append, List.length_singleton] at hi
    exact hls (i + 1) m (by omega) hm

/-- A line that is not moved is in front of the inserted ones, or has left nothing in both runs. -/
theorem Behind.seen_eq {ls : List Text} (h : Behind k d E e e' ls) (hd : 0 < d) (n : Nat) :
    e'.seen (if E.length + d ≤ n then n + k else n) = e.seen n := by
  obtain ⟨F, rfl, rfl, hF, -⟩ := h
  cases n with
  | zero =>
    rw [if_neg (by omega)]
    rfl
  | succ n =>
    split
    · rw [show n + 1 + k = n + k + 1 by omega]
      show ((E ++ _)[n + k]?).getD {} = ((E ++ F)[n]?).getD {}
      rw [List.getElem?_append_right (by omega), List.getElem?_append_right (by simp; omega),
        List.getElem?_append_right (by omega), List.length_replicate,
        show n + k - E.length - k = n - E.length by omega]
    · show ((E ++ _)[n]?).getD {} = ((E ++ F)[n]?).getD {}
      rcases Nat.lt_or_ge n E.length with hlt | hge
      · rw [List.getElem?_append_left hlt, List.getElem?_append_left hlt]
      · rw [List.getElem?_append_right hge, List.getElem?_append_right hge, hF _ (by omega)]
        rcases Nat.lt_or_ge (n - E.length) k with hlt | hge'
        · rw [List.getElem?_append_left (by simpa using hlt)]
          simp [hlt]
        · rw [List.getElem?_append_right (by simpa using hge')]
          exact hF _ (by simp; omega)

/-- Lines in front of the inserted ones and behind them leave the same. -/
theorem outcomes_inserted {as xs bs : List Text} {ρ : Text → Text} {σ : Nat → Nat}
    (hσ : ∀ n, σ n = if as.length + d ≤ n then n + xs.length else n) (hd : 0 < d)
    (hxs : ∀ x ∈ xs, Reference.isRemark x = true)
    (hbs : ∀ i l, i + 1 < d → bs[i]? = some l → Reference.isRemark l = true)
    (hρ : Reference.KeepsRuns ρ) (hρa : Reference.KeepsAscii ρ)
    (hnat : ∀ l ∈ as ++ bs, ∀ digits ∈ Reference.runs l,
      Literal.natural? (ρ digits) = (Literal.natural? digits).map σ)
    (ha : ∀ l ∈ as ++ bs, refersInAscii l = true)
    (hc : ∀ l ∈ as ++ bs, convertsReference s l = false)
    (hc' : ∀ l ∈ (as ++ bs).map (Reference.rewrite ρ), convertsReference s l = false)
    (h : evaluateFrom s active 1 [] (as ++ bs) = .ok es)
    (h' : evaluateFrom s active' 1 [] ((as ++ xs ++ bs).map (Reference.rewrite ρ)) = .ok es') :
    es'.map (·.outcome) = (es.map (·.outcome)).take as.length ++
      List.replicate xs.length ({} : Outcome) ++ (es.map (·.outcome)).drop as.length := by
  rw [List.map_append, List.map_append] at h'
  obtain ⟨fs, gs, hfs, hgs, rfl⟩ := evaluateFrom_append.1 h
  obtain ⟨ps', gs', hps', hgs', rfl⟩ := evaluateFrom_append.1 h'
  obtain ⟨fs', zs', hfs', hzs', rfl⟩ := evaluateFrom_append.1 hps'
  -- In front of the inserted lines, a reference that is moved leads to no line yet.
  have hfront : fs'.map (·.outcome) = fs.map (·.outcome) := by
    refine evaluateFrom_rewrite
      (fun e e' ls => e' = e ∧ e.length + ls.length ≤ as.length) ?_ ?_ hρ hρa
      (fun l hl => hnat l (List.mem_append_left bs hl))
      (fun l hl => ha l (List.mem_append_left bs hl))
      (fun l hl => hc l (List.mem_append_left bs hl))
      (fun l hl => hc' l (by rw [List.map_append]; exact List.mem_append_left _ hl))
      ⟨rfl, by simp⟩ hfs hfs'
    · rintro e _ l ls o ⟨rfl, hlen⟩ -
      refine ⟨rfl, ?_⟩
      rw [List.length_cons] at hlen
      rw [List.length_append, List.length_singleton]
      omega
    · rintro e _ ls ⟨rfl, hlen⟩ n
      rw [hσ]
      split
      · rw [Earlier.seen_of_length_lt (by omega), Earlier.seen_of_length_lt (by omega)]
      · rfl
  have hmiddle : zs'.map (·.outcome) = List.replicate xs.length ({} : Outcome) := by
    have hr : ∀ l ∈ xs.map (Reference.rewrite ρ), Reference.isRemark l = true := by
      intro l hl
      obtain ⟨x, hx, rfl⟩ := List.mem_map.1 hl
      rw [Reference.isRemark_rewrite hρ, hxs x hx]
    rw [outcomes_of_remarks hr hzs', List.length_map]
  have hlen : (fs.map (·.outcome)).length = as.length := by
    rw [List.length_map, length_evaluateFrom hfs]
  have hback : gs'.map (·.outcome) = gs.map (·.outcome) := by
    rw [List.map_append, hfront, hmiddle] at hgs'
    refine evaluateFrom_rewrite (Behind xs.length d (fs.map (·.outcome)))
      (fun _ _ _ _ _ h ho => h.append ho) (fun _ _ _ h n => ?_) hρ hρa
      (fun l hl => hnat l (List.mem_append_right as hl))
      (fun l hl => ha l (List.mem_append_right as hl))
      (fun l hl => hc l (List.mem_append_right as hl))
      (fun l hl => hc' l (by rw [List.map_append]; exact List.mem_append_right _ hl))
      ⟨[], by simp, by simp, by simp, by simpa using hbs⟩ hgs hgs'
    rw [hσ, ← hlen]
    exact h.seen_eq hd n
  rw [List.map_append, List.map_append, List.map_append, hfront, hmiddle, hback,
    List.take_left' hlen, List.drop_left' hlen]

/-- **Inserted remarks change nothing that a line leaves.** The lines of a text are cut in two, and
blank lines and comments are put in between. After the references are renumbered, each line leaves
at its new place what it left before. -/
theorem evaluate_inserted (as xs bs : List Text) {old adj : Text} (hold : lines old = as ++ bs)
    (hxs : ∀ x ∈ xs, Reference.isRemark x = true ∧ '\n' ∉ x)
    (hadj : Reference.adjust old (unlines (as ++ xs ++ bs)) = .ok adj)
    (ha : ∀ l ∈ lines old, refersInAscii l = true)
    (hc : ∀ l ∈ lines old, convertsReference s l = false)
    (hc' : ∀ l ∈ lines adj, convertsReference s l = false) (h : evaluate s active (lines old) = .ok es)
    (h' : evaluate s active' (lines adj) = .ok es') :
    es'.map (·.outcome) = (es.map (·.outcome)).take (Line.counted as).length ++
      List.replicate xs.length ({} : Outcome) ++
        (es.map (·.outcome)).drop (Line.counted as).length := by
  have hnl : ∀ l ∈ as ++ xs ++ bs, '\n' ∉ l := by
    intro l hl
    have hmem {l : Text} (hl : l ∈ as ++ bs) : '\n' ∉ l := not_mem_of_mem_split (hold ▸ hl)
    simp only [List.mem_append] at hl hmem
    rcases hl with (hl | hl) | hl
    · exact hmem (.inl hl)
    · exact (hxs l hl).2
    · exact hmem (.inr hl)
  have hne : as ++ xs ++ bs ≠ [] := by
    have := split_ne_nil '\n' old
    rw [show split '\n' old = as ++ bs from hold] at this
    simp only [ne_eq, List.append_eq_nil_iff, not_and] at this ⊢
    exact fun h => this h.1
  have hnew : lines (unlines (as ++ xs ++ bs)) = as ++ xs ++ bs := Reference.split_join hne hnl
  have hcx : Line.counted xs = xs := by
    refine List.filter_eq_self.2 fun x hx => ?_
    rw [Reference.isOutput_of_isRemark (hxs x hx).1]
    rfl
  have happend (as bs : List Text) :
      Line.counted (as ++ bs) = Line.counted as ++ Line.counted bs := List.filter_append _ _
  have hlo : Line.logical old = Line.counted as ++ Line.counted bs := by
    rw [Line.logical, hold, happend]
  have hln : Line.logical (unlines (as ++ xs ++ bs)) =
      Line.counted as ++ xs ++ Line.counted bs := by
    rw [Line.logical, hnew, happend, happend, hcx]
  unfold evaluate at h h'
  have hcount : Line.counted (lines old) = Line.counted as ++ Line.counted bs := hlo
  unfold Reference.adjust at hadj
  simp only [hlo, hln, List.length_append] at hadj
  by_cases hxe : xs = []
  · -- Nothing was inserted, so that the text is the old one.
    subst hxe
    rw [if_pos (by simp)] at hadj
    have hadj : lines adj = lines old := by
      rw [← Except.ok.inj hadj, hnew, hold, List.append_nil]
    rw [hadj] at h'
    rw [outcomes_active h h', List.length_nil, List.replicate_zero, List.append_nil,
      List.take_append_drop]
  · have hpos := List.length_pos_iff.2 hxe
    rw [if_neg (by omega), if_pos (by omega), Reference.shiftForInsert, if_neg (by omega),
      List.append_assoc, Reference.firstDifference_append] at hadj
    have hd : 0 < Reference.firstDifference (Line.counted bs) (xs ++ Line.counted bs) :=
      Reference.firstDifference_pos
    generalize hdef : Reference.firstDifference (Line.counted bs) (xs ++ Line.counted bs) = d at *
    obtain ⟨rfl, hw⟩ := (Reference.renumber_eq_ok
      (fun n => if (Line.counted as).length + d ≤ n then n + xs.length else n)
      (fun n => by split <;> split <;> omega)).1 hadj
    have hnat := fun digits hd => Reference.natural?_renumbering (hw digits hd)
    generalize hσ : (fun n => if (Line.counted as).length + d ≤ n then n + xs.length else n) = σ
      at hadj hnat h' hc'
    have hσn (n : Nat) : σ n = if (Line.counted as).length + d ≤ n then n + xs.length else n := by
      rw [← hσ]
    have hρ : Reference.KeepsRuns (Reference.renumbering σ) := Reference.keepsRuns_renumbering
    have hlines : lines (Reference.rewrite (Reference.renumbering σ) (unlines (as ++ xs ++ bs))) =
        (as ++ xs ++ bs).map (Reference.rewrite (Reference.renumbering σ)) := by
      rw [lines, Reference.split_rewrite hρ (by decide) (by decide)]
      exact congrArg _ hnew
    rw [hlines, Reference.counted_rewrite, happend, happend, hcx] at h'
    rw [hcount] at h
    have hsub {l : Text} (hl : l ∈ Line.counted as ++ Line.counted bs) : l ∈ as ++ bs := by
      rw [← happend] at hl
      exact (List.mem_filter.1 hl).1
    have hsub' {l : Text} (hl : l ∈ as ++ bs) : l ∈ as ++ xs ++ bs := by
      simp only [List.mem_append] at hl ⊢
      exact hl.imp_left .inl
    refine outcomes_inserted hσn hd (fun x hx => (hxs x hx).1)
      (fun i l hi hl => Reference.isRemark_of_firstDifference (fun x hx => (hxs x hx).1) hxe
        (hdef ▸ hi) hl) hρ Reference.keepsAscii_renumbering ?_ ?_ ?_ ?_ h h'
    · exact fun l hl digits hdig =>
        hnat digits (Reference.runs_subset_unlines (hsub' (hsub hl)) hdig)
    · exact fun l hl => ha l (hold ▸ hsub hl)
    · exact fun l hl => hc l (hold ▸ hsub hl)
    · intro l hl
      obtain ⟨m, hm, rfl⟩ := List.mem_map.1 hl
      exact hc' _ (by rw [hlines]; exact List.mem_map_of_mem (hsub' (hsub hm)))

/-- A comment is put in behind the first of three lines, and the reference to the second moves. -/
theorem evaluate_inserted_comment :
    let s : Surroundings := ⟨⟨0, none, false, by decide⟩, .fixed⟩
    let old := "2 =\n3 =\n\\2 * \\1 =".toList
    let adj := "2 =\n# three\n3 =\n\\3 * \\1 =".toList
    ∃ es es', Reference.adjust old "2 =\n# three\n3 =\n\\2 * \\1 =".toList = .ok adj ∧
      evaluate s 0 (lines old) = .ok es ∧ evaluate s 0 (lines adj) = .ok es' ∧
        es'.map (·.outcome) = (es.map (·.outcome)).take 1 ++ List.replicate 1 ({} : Outcome) ++
          (es.map (·.outcome)).drop 1 := by
  intro s old adj
  obtain ⟨es, h⟩ := exists_eq_ok
    (show (evaluate s 0 (lines old)).toOption.isSome = true by decide +kernel)
  obtain ⟨es', h'⟩ := exists_eq_ok
    (show (evaluate s 0 (lines adj)).toOption.isSome = true by decide +kernel)
  have hadj := eq_ok_of_toOption (show (Reference.adjust old
    "2 =\n# three\n3 =\n\\2 * \\1 =".toList).toOption = some adj by decide +kernel)
  refine ⟨es, es', hadj, h, h', ?_⟩
  exact evaluate_inserted ["2 =".toList] ["# three".toList] ["3 =".toList, "\\2 * \\1 =".toList]
    (by decide +kernel) (by decide +kernel) hadj (by decide +kernel) (by decide +kernel)
    (by decide +kernel) h h'

/-- Which lines of a text have a result. -/
def resultsOf (s : Surroundings) (t : Text) : Option (List Bool) :=
  (evaluate s 0 (lines t)).toOption.map fun es => es.map (·.outcome.hasResult)

-- A reference in Arabic digits has no value before it is renumbered and one afterwards.
example :
    let s : Surroundings := ⟨⟨0, none, false, by decide⟩, .fixed⟩
    let old := "100 =\n\\\u0661 + 1 =".toList
    let adj := "# n\n100 =\n\\2 + 1 =".toList
    (Reference.adjust old ("# n\n".toList ++ old)).toOption = some adj ∧
      resultsOf s old = some [true, false] ∧ resultsOf s adj = some [false, true, true] := by
  decide +kernel

end Document

end Worksheet
