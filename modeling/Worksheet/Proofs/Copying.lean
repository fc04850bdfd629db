import Worksheet.Proofs.Claiming
import Worksheet.Proofs.InlineResults

/-!
# Values in place of references

A document is copied with the results of its lines in place of the references to them.

**Theorem (`Document.evaluate_resolved`).** A line of the copy has the value that the line of the
document has, and is an amount of dollars if that is one, provided that its expression is fit for
copying (`Copyable`).

What is shown for a whole amount is read as the operand that the reference was
(`Outcome.Legible.exists_readAs`), so the tokens of a copied expression are those of the expression
with operands exchanged, and arithmetic gives the same value (`exists_scan_copy`). The evaluators in
front of arithmetic let the copy pass: three do not ask for an expression whose tokens have a value
(`Expr.claims_eq_false`), and that no rule about dates answers is part of the condition.
-/

namespace Worksheet

open Text Result

/-! ## Amounts that are read as they are shown -/

/-- A whole amount that is shown as it is read: no debt in dollars and no minus zero. -/
def Outcome.Legible (o : Outcome) : Prop :=
  ∃ n ≤ 2 ^ 53, o.value = some (Binary.ofNat n) ∨
    0 < n ∧ o.value = some (-Binary.ofNat n) ∧ o.isCurrency = false

/-- What is read in place of a legible amount: an operand of the same value, one level deeper behind
a minus sign. -/
structure Outcome.ReadAs (o : Outcome) (w : Text) (ws : List Token) : Prop where
  shown : o.display? = some w
  amount : Token.IsAmount w ws
  currency : ws.any Token.isCurrency = o.isCurrency
  unreferring : ∀ token ∈ ws, token.line? = none
  operand : ∀ x, o.value = some x → ∀ k, (w.head? = some '-' → 1 ≤ k) → ∀ resolve d r,
    Expr.operand resolve (d + 1 + k) (ws ++ r) = .ok (⟨x, false⟩, r)

theorem Outcome.Legible.exists_readAs {o : Outcome} (h : o.Legible) : ∃ w ws, o.ReadAs w ws := by
  obtain ⟨n, hmax, hv | ⟨hn, hv, hc⟩⟩ := h
  · cases hc : o.isCurrency with
    | false =>
      refine ⟨_, _, ?_, .number hmax, by rw [hc]; rfl, by simp [Token.line?], ?_⟩
      · rw [Outcome.display?, hv, hc]
        dsimp only
        rw [Amount.format_ofNat hmax]
      · rintro x hx k - resolve d r
        cases hv.symm.trans hx
        rw [Nat.add_right_comm]
        rfl
    | true =>
      refine ⟨_, _, ?_, .dollars hmax, by rw [hc]; rfl, by simp [Token.line?], ?_⟩
      · rw [Outcome.display?, hv, hc]
        dsimp only
        rw [Amount.format_currency hmax]
      · rintro x hx k - resolve d r
        cases hv.symm.trans hx
        rw [Nat.add_right_comm]
        rfl
  · refine ⟨_, _, ?_, .negative hmax, by rw [hc]; rfl, by simp [Token.line?], ?_⟩
    · rw [Outcome.display?, hv, hc]
      dsimp only
      rw [Amount.format_neg hn hmax]
    · rintro x hx k hk resolve d r
      cases hv.symm.trans hx
      obtain ⟨k, rfl⟩ := Nat.exists_eq_add_of_le' (hk rfl)
      rw [← Nat.add_assoc, Nat.add_right_comm d 1 k]
      exact Expr.negative_eq_ok.2 ⟨⟨Binary.ofNat n, false⟩, rfl, rfl⟩

/-! ## Copies of an expression -/

namespace Document

/-- What a copy has in place of a reference: the text of a line that has a value or a date. -/
def copies (e : Earlier) : Text → Text := Reference.written fun n => (e.seen n).display?

theorem copies_eq {e : Earlier} {digits w : Text} {n : Nat} (hn : Reference.line digits = .ok n)
    (hw : (e.seen n).display? = some w) : copies e digits = w := by
  simp [copies, Reference.written, hn, Except.toOption, hw]

end Document

/-- Nothing takes the place of references where there are none. -/
theorem Reference.replaceM_of_runs {f : Nat → Result Text} {t : Text} (h : runs t = []) :
    replaceM f t = .ok t := by
  have hchars : ∀ p ∈ pieces t, p.digits? = none := List.filterMap_eq_nil_iff.1 h
  refine bind_eq_ok.2 ⟨(pieces t).map Piece.text, mapM_eq_ok.2 ?_, congrArg Except.ok (flatten_pieces t)⟩
  rw [List.map_map]
  refine List.map_congr_left fun p hp => ?_
  cases p with
  | char c => rfl
  | reference digits => cases hchars _ hp

namespace Expr

variable {resolve : Option Resolver} {ts : List Token} {x : Float}

/-- Tokens that have a value without earlier lines have it with any. -/
theorem evaluateTokens_of_none (h : evaluateTokens none ts = .ok x) :
    evaluateTokens resolve ts = .ok x ∧ ts.filterMap Token.line? = [] := by
  obtain ⟨p, hp⟩ := evaluateTokens_eq_ok.1 h
  obtain ⟨tree, htree, hv, -⟩ := derives_of_read hp
  have hno : RefersTo (fun _ => False) ts := fun n t hm => by
    obtain ⟨y, hy⟩ := (htree.exists_value_iff.1 ⟨x, hv⟩).1 n t hm
    cases hy
  have hstands : StandsIn none resolve (fun _ => False) 0 fun _ => [] := fun _ _ hF => hF.elim
  have hread := (read_exchange hstands maxDepth).2 0 .comparison Level.bounds_comparison ts _ [] hno
    rfl hp
  rw [hno.flatMap_exchange] at hread
  refine ⟨evaluateTokens_eq_ok.2 ⟨p, hread⟩, List.filterMap_eq_nil_iff.2 fun t ht => ?_⟩
  cases t with
  | reference n t => exact (hno n t ht).elim
  | _ => rfl

end Expr

/-- An amount of dollars takes part in the copy when it did in the expression, or was referred to. -/
theorem Token.any_isCurrency_exchange {τ : Nat → List Token} {flag : Nat → Bool} {ts : List Token}
    (h : ∀ n ∈ ts.filterMap line?, (τ n).any isCurrency = flag n) :
    (ts.flatMap (exchange τ)).any isCurrency =
      (ts.any isCurrency || (ts.filterMap line?).any flag) := by
  induction ts with
  | nil => rfl
  | cons t ts ih =>
    cases t with
    | reference n u =>
      obtain ⟨hn, h⟩ := List.forall_mem_cons.1 (show ∀ m ∈ n :: ts.filterMap line?, _ from h)
      rw [List.flatMap_cons, List.any_append, ih h]
      show ((τ n).any isCurrency || _) = (ts.any isCurrency || (flag n || _))
      rw [hn, Bool.or_left_comm]
    | number | currency | word | symbol =>
      have ih := ih h
      rw [List.flatMap_cons, List.any_append, ih, List.any_cons, Bool.or_assoc]
      rfl

section Calculate

variable {e e' E : Earlier} {expr : Text} {ts : List Token} {a : Answer} {x : Float}

/-- A line with a value left the same to all lines behind it. -/
theorem Earlier.seen_eq_of_prefix (h : e <+: E) {n : Nat} (hn : e.value n = .ok x) :
    E.seen n = e.seen n ∧ (e.seen n).value = some x := by
  have hvalue := e.toOption_value n
  rw [hn] at hvalue
  obtain ⟨E, rfl⟩ := h
  split at hvalue
  · refine ⟨?_, hvalue.symm⟩
    unfold Earlier.seen Earlier.line? at hvalue ⊢
    split
    · rfl
    · next hzero =>
      rw [if_neg hzero] at hvalue
      cases hline : e[n - 1]? with
      | none => simp [hline, Except.toOption] at hvalue
      | some o => rw [List.getElem?_append_left (List.getElem?_eq_some_iff.1 hline).1, hline]
  · cases hvalue

/-- A question is passed on: it is not recognised, or the attempt to answer it fails. -/
def Unanswered {α : Type} (x : Result (Option α)) : Prop :=
  x = .ok none ∨ ∃ l, x = .error (.line l)

/-- An expression is fit for copying with the outcomes `E` of a document in place of references: the
amounts are legible, no `x` changes its meaning, no phrase about dates is recognised in the copy, and
minus signs nest the copy no deeper than operands may be. -/
structure Copyable (s : Surroundings) (E : Earlier) (expr : Text) : Prop where
  legible : ∀ digits ∈ Reference.runs expr, ∀ n, Reference.line digits = .ok n → (E.seen n).Legible
  factors : Token.KeepsFactors (Document.copies E) expr
  undated : Calendar.claims (Reference.fill (Document.copies E) expr) = true →
    Unanswered (PhraseRule.run (Calendar.rules s.now) (Reference.fill (Document.copies E) expr))
  shallow : (∀ digits ∈ Reference.runs expr, (Document.copies E digits).head? ≠ some '-') ∨
    ∀ ts, Token.scan (Reference.fill (Document.copies E) expr) = .ok ts → ¬Expr.HitsLimit none ts

variable {s : Surroundings}

/-- Amounts that are not negative are copied as they are, where there is no `x` for a sign and
nothing that might be about dates. -/
theorem Copyable.of_natural (hvalue : ∀ digits ∈ Reference.runs expr, ∀ n,
      Reference.line digits = .ok n → ∃ m ≤ 2 ^ 53, (E.seen n).value = some (Binary.ofNat m))
    (hcross : expr.any Token.isCross = false)
    (hclaims : Calendar.claims (Reference.fill (Document.copies E) expr) = false) :
    Copyable s E expr where
  legible digits hd n hn := by
    obtain ⟨m, hmax, hv⟩ := hvalue digits hd n hn
    exact ⟨m, hmax, .inl hv⟩
  factors c r hs hc := by
    exact absurd hc (List.any_eq_false.1 hcross c (hs.subset List.mem_cons_self))
  undated h := by
    rw [hclaims] at h
    cases h
  shallow := .inl fun digits hd => by
    cases hn : Reference.line digits with
    | error err =>
      have hcopy : Document.copies E digits = '\\' :: digits := by
        simp [Document.copies, Reference.written, hn, Except.toOption]
      simp [hcopy]
    | ok n =>
      obtain ⟨m, hmax, hv⟩ := hvalue digits hd n hn
      obtain ⟨c, w, hw, hc⟩ := Token.exists_grouped m
      have hminus : c ≠ '-' := by
        rintro rfl
        cases hc
      rw [Document.copies_eq hn (by rw [Outcome.display?, hv])]
      cases (E.seen n).isCurrency with
      | false => simpa [Amount.format_ofNat hmax, hw] using hminus
      | true => simp [Amount.format_currency hmax]

/-- Whether dollars take part, by the tokens of an expression and what its references saw. -/
def involvesDollars (e : Earlier) (ts : List Token) : Bool :=
  ts.any Token.isCurrency || (ts.filterMap Token.line?).any fun n => (e.seen n).isCurrency

/-- The tokens of a copy, and its value. -/
theorem exists_scan_copy (ht : Tight expr) (hE : e <+: E) (hc : Copyable s E expr)
    (hts : Token.scan expr = .ok ts) (h : Expr.evaluateTokens (some e.value) ts = .ok x) :
    Tight (Reference.fill (Document.copies E) expr) ∧
      ∃ ts', Token.scan (Reference.fill (Document.copies E) expr) = .ok ts' ∧
        Expr.evaluateTokens none ts' = .ok x ∧
        ts'.any Token.isCurrency = involvesDollars e ts := by
  obtain ⟨p, hp⟩ := Expr.evaluateTokens_eq_ok.1 h
  obtain ⟨tree, htree, -⟩ := Expr.derives_of_read hp
  have hfind : (Reference.runs expr).mapM Reference.line = .ok (ts.filterMap Token.line?) :=
    Token.references_of_scan hts
  -- The lines that are referred to, what they left, and what is read in their place.
  have hvalue {n : Nat} (hn : n ∈ ts.filterMap Token.line?) : ∃ y, e.value n = .ok y := by
    obtain ⟨t, ht, hline⟩ := List.mem_filterMap.1 hn
    cases t with
    | reference m u =>
      cases hline
      exact Expr.exists_of_evaluateTokens h ht
    | _ => cases hline
  have hread (n : Nat) : ∃ w ws, n ∈ ts.filterMap Token.line? → (E.seen n).ReadAs w ws := by
    by_cases hn : n ∈ ts.filterMap Token.line?
    · obtain ⟨digits, hd, hline⟩ := exists_of_mem_mapM hfind hn
      obtain ⟨w, ws, hw⟩ := (hc.legible digits hd n hline).exists_readAs
      exact ⟨w, ws, fun _ => hw⟩
    · exact ⟨[], [], fun hm => absurd hm hn⟩
  choose W τ hτ using hread
  have hruns : ∀ digits ∈ Reference.runs expr, ∃ n ∈ ts.filterMap Token.line?,
      Reference.line digits = .ok n ∧ Document.copies E digits = W n := by
    intro digits hd
    obtain ⟨n, hn, hline⟩ := exists_of_mem_of_mapM hfind hd
    exact ⟨n, hn, hline, Document.copies_eq hline (hτ n hn).shown⟩
  have hamount : ∀ digits ∈ Reference.runs expr, ∃ n, Literal.natural? digits = some n ∧
      Token.IsAmount (Document.copies E digits) (τ n) := by
    intro digits hd
    obtain ⟨n, hn, hline, hcopy⟩ := hruns digits hd
    refine ⟨n, ?_, hcopy ▸ (hτ n hn).amount⟩
    unfold Reference.line at hline
    split at hline
    · cases hline
      assumption
    · cases hline
  have htight : Tight (Reference.fill (Document.copies E) expr) :=
    (Reference.keepsEnds_fill fun digits hd => by
      obtain ⟨n, -, hw⟩ := hamount digits hd
      exact ⟨hw.ne_nil, hw.not_isBlank⟩).tight ht
  have hscan := Token.scan_fill ht htight hts htree.apart hamount hc.factors
  have hrefers : Expr.RefersTo (· ∈ ts.filterMap Token.line?) ts := fun n t hm =>
    List.mem_filterMap.2 ⟨_, hm, rfl⟩
  have hstands {k : Nat} (hk : ∀ n ∈ ts.filterMap Token.line?, (W n).head? = some '-' → 1 ≤ k) :
      Expr.StandsIn (some e.value) none (· ∈ ts.filterMap Token.line?) k τ := by
    intro n y hn hy
    obtain ⟨hseen, hv⟩ := Earlier.seen_eq_of_prefix hE hy
    exact (hτ n hn).operand y (hseen ▸ hv) k (hk n hn) none
  have hdeep {k : Nat} (hk : ∀ n ∈ ts.filterMap Token.line?, (W n).head? = some '-' → 1 ≤ k) :=
    (Expr.read_exchange (hstands hk) Expr.maxDepth).2 0 .comparison Expr.Level.bounds_comparison ts
      _ [] hrefers rfl hp
  refine ⟨htight, _, hscan, Expr.evaluateTokens_eq_ok.2 ⟨p, ?_⟩, ?_⟩
  · rcases hc.shallow with hshallow | hshallow
    · refine hdeep (k := 0) fun n hn hw => ?_
      obtain ⟨digits, hd, hline⟩ := exists_of_mem_mapM hfind hn
      exact absurd (Document.copies_eq hline (hτ n hn).shown ▸ hw) (hshallow digits hd)
    · have hone := hdeep (k := 1) fun _ _ _ => Nat.le_refl 1
      by_contra hne
      refine hshallow _ hscan ⟨Expr.maxDepth + 1, Nat.le_succ _, fun he => hne ?_⟩
      rw [← he]
      exact hone
  · refine Token.any_isCurrency_exchange fun n hn => ?_
    obtain ⟨y, hy⟩ := hvalue hn
    rw [(hτ n hn).currency, (Earlier.seen_eq_of_prefix hE hy).1]

theorem concernsCurrency_eq (hts : Token.scan expr = .ok ts) :
    concernsCurrency e expr ts = .ok (involvesDollars e ts) := by
  unfold concernsCurrency involvesDollars
  split
  · next hc => rw [hc, Bool.true_or]
  · next hc =>
    rw [refersToCurrency, Token.references_of_scan hts, ok_bind, Bool.eq_false_iff.2 hc,
      Bool.false_or]
    simp only [Earlier.isCurrency_seen]
    rfl

/-- The number that arithmetic answers with is that of the tokens. -/
theorem exists_of_calculate (h : calculate e expr = .ok a) : ∃ ts x, Token.scan expr = .ok ts ∧
    Expr.evaluateTokens (some e.value) ts = .ok x ∧ a.value = some x ∧
      a.isCurrency = involvesDollars e ts := by
  obtain ⟨ts, hts, h⟩ := bind_eq_ok.1 h
  rw [concernsCurrency_eq hts, ok_bind] at h
  obtain ⟨x, hx, h⟩ := bind_eq_ok.1 h
  cases h
  refine ⟨ts, x, hts, ?_, rfl, rfl⟩
  cases hv : Expr.evaluateTokens (some e.value) ts with
  | error err => rw [hv] at hx; cases hx
  | ok y => rw [hv] at hx; exact congrArg Except.ok (Except.ok.inj hx)

theorem calculate_of_tokens (hts : Token.scan expr = .ok ts)
    (hx : Expr.evaluateTokens (some e.value) ts = .ok x) : ∃ a, calculate e expr = .ok a ∧
      a.value = some x ∧ a.isCurrency = involvesDollars e ts := by
  rw [calculate, hts, ok_bind, concernsCurrency_eq hts, ok_bind, hx]
  exact ⟨_, rfl, rfl, rfl⟩

/-- What a phrase is answered with is no number. -/
theorem value_of_answer {ev : Evaluator} (hne : ev ≠ .arithmetic)
    (h : ev.answer s e expr = .ok (some a)) : a.value = none := by
  have hby {rules : List PhraseRule} (h : Evaluator.answerBy rules expr = .ok (some a)) :
      a.value = none := by
    obtain ⟨t, -, h⟩ := bind_eq_ok.1 h
    obtain ⟨u, -, rfl⟩ := Option.map_eq_some_iff.1 (Except.ok.inj h)
    rfl
  cases ev with
  | subnets | percentages | units => exact hby h
  | dates =>
    obtain ⟨t, -, h⟩ := bind_eq_ok.1 h
    obtain ⟨u, -, h⟩ := bind_eq_ok.1 h
    obtain ⟨v, -, rfl⟩ := Option.map_eq_some_iff.1 (Except.ok.inj h)
    rfl
  | arithmetic => exact absurd rfl hne

/-- Only arithmetic gives a number. -/
theorem calculate_of_evaluate (h : evaluate s Evaluator.all e expr = .ok a)
    (hv : a.value = some x) : calculate e expr = .ok a := by
  obtain ⟨ev, -, -, hev⟩ := exists_of_answerFrom h
  by_cases hne : ev = .arithmetic
  · subst hne
    obtain ⟨b, hb, hsome⟩ := map_eq_ok.1 hev
    cases hsome
    exact hb
  · rw [value_of_answer hne hev] at hv
    cases hv

/-- Of an expression that the evaluators for subnets, percentages and units are not asked about, only
phrases about dates are recognised. -/
theorem heard_phrases
    (h : ∀ ev ∈ [Evaluator.subnets, .percentages, .units], ev.claims expr = false) :
    heard s e phrases expr = heard s e [.dates] expr := by
  have hpass (evs : List Evaluator)
      (hevs : ∀ ev ∈ evs, ev ∈ [Evaluator.subnets, .percentages, .units]) :
      heard s e evs expr = .ok none := heard_of_not_claims fun ev hev => h ev (hevs ev hev)
  have hsplit : phrases = ([.subnets] ++ [.dates]) ++ [.percentages, .units] := rfl
  rw [hsplit, heard_append, heard_append, hpass [.subnets] (by decide),
    hpass [.percentages, .units] (by decide)]
  rcases heard s e [.dates] expr with f | (_ | a) <;> rfl

/-- An expression that no phrase takes has the answer of arithmetic. -/
theorem evaluate_of_calculate
    (hclaims : ∀ ev ∈ [Evaluator.subnets, .percentages, .units], ev.claims expr = false)
    (hdates : Evaluator.claims .dates expr = true → Unanswered (Evaluator.answer s e expr .dates))
    (h : calculate e expr = .ok a) : evaluate s Evaluator.all e expr = .ok a := by
  have hnone : heard s e [.dates] expr = .ok none := by
    rw [heard, answerFrom]
    split
    · next hd =>
      rcases hdates hd with hnone | ⟨l, hl⟩
      · rw [hnone]
        rfl
      · rw [hl]
        rfl
    · rfl
  refine eq_ok_of_toOption ?_
  rw [toOption_evaluate, heard_phrases hclaims, hnone, h]
  rfl

/-- **A copied expression has the answer that it had.** Whatever lines stand in front of the copy, it
has the value of the expression, and is an amount of dollars if that was one. -/
theorem evaluate_copy (ht : Tight expr) (hE : e <+: E) (hc : Copyable s E expr)
    (h : evaluate s Evaluator.all e expr = .ok a) (hv : a.value = some x) (e' : Earlier) :
    ∃ a', evaluate s Evaluator.all e' (Reference.fill (Document.copies E) expr) = .ok a' ∧
      a'.value = some x ∧ a'.isCurrency = a.isCurrency := by
  obtain ⟨ts, y, hts, hy, hv', hdollars⟩ := exists_of_calculate (calculate_of_evaluate h hv)
  obtain rfl : x = y := Option.some.inj (hv.symm.trans hv')
  obtain ⟨htight, ts', hts', hy', hcurrency⟩ := exists_scan_copy ht hE hc hts hy
  obtain ⟨hagain, hunreferring⟩ : Expr.evaluateTokens (some e'.value) ts' = .ok x ∧
      ts'.filterMap Token.line? = [] := Expr.evaluateTokens_of_none hy'
  obtain ⟨a', ha', hvalue, hflag⟩ := calculate_of_tokens hts' hagain
  refine ⟨a', evaluate_of_calculate (Expr.claims_eq_false htight hts' hy') (fun hd => ?_) ha', hvalue,
    ?_⟩
  · have hruns : Reference.runs (Reference.fill (Document.copies E) expr) = [] := by
      have hfind := mapM_eq_ok.1 (Token.references_of_scan hts')
      rw [hunreferring] at hfind
      exact List.map_eq_nil_iff.1 hfind
    rw [Evaluator.answer, Reference.replaceM_of_runs hruns, ok_bind]
    rcases hc.undated hd with hnone | ⟨l, hl⟩
    · rw [hnone]
      exact .inl rfl
    · rw [hl]
      exact .inr ⟨l, rfl⟩
  · rw [hflag, hdollars, involvesDollars, hcurrency, hunreferring, List.any_nil, Bool.or_false]

end Calculate

/-! ## Lines of a copy -/

namespace Document

variable {s : Surroundings} {t t' : Text} {es es' : List EvaluatedLine} {E : Earlier} {r : EvaluatedLine}
  {l : Text} {x : Float}

/-- The texts for references are those of the outcomes that the lines leave. -/
theorem lookup_values (es : List EvaluatedLine) (n : Nat) :
    ((es.zipIdx 1).filterMap fun (r, n) => r.outcome.display?.map (n, ·)).lookup n =
      (Earlier.seen (es.map (·.outcome)) n).display? := by
  have hfrom (k : Nat) : ((es.zipIdx k).filterMap fun (r, n) =>
      r.outcome.display?.map (n, ·)).lookup n =
        if k ≤ n then es[n - k]?.bind (·.outcome.display?) else none := by
    induction es generalizing k with
    | nil => simp
    | cons r es ih =>
      -- The first outcome is skipped, or it is the one looked for.
      have hcons : (((r :: es).zipIdx k).filterMap fun (r, n) =>
          r.outcome.display?.map (n, ·)).lookup n =
            if n = k then r.outcome.display?.or (((es.zipIdx (k + 1)).filterMap fun (r, n) =>
              r.outcome.display?.map (n, ·)).lookup n)
            else ((es.zipIdx (k + 1)).filterMap fun (r, n) =>
              r.outcome.display?.map (n, ·)).lookup n := by
        rw [List.zipIdx_cons, List.filterMap_cons]
        dsimp only
        cases r.outcome.display? with
        | none => simp
        | some w =>
          by_cases hn : n = k
          · subst hn
            simp
          · rw [if_neg hn, Option.map_some, List.lookup_cons, beq_eq_false_iff_ne.2 hn]
      rw [hcons, ih]
      rcases Nat.lt_trichotomy n k with hlt | rfl | hgt
      · rw [if_neg (by omega), if_neg (by omega), if_neg (by omega)]
      · rw [if_pos rfl, if_neg (by omega), if_pos (Nat.le_refl n), Nat.sub_self, Option.or_none]
        rfl
      · obtain ⟨m, rfl⟩ := Nat.exists_eq_add_of_lt hgt
        rw [if_neg (by omega), if_pos (by omega), if_pos (by omega),
          show k + m + 1 - k = m + 1 by omega, show k + m + 1 - (k + 1) = m by omega,
          List.getElem?_cons_succ]
  rw [hfrom 1]
  unfold Earlier.seen Earlier.line?
  cases n with
  | zero => rfl
  | succ n =>
    rw [if_pos (by omega), if_neg (by omega), List.getElem?_map]
    cases es[n + 1 - 1]? <;> rfl

/-- Where what stands for lines is of one line, so is what the copy has in place of references. -/
theorem inline_copies (hE : ∀ n w, (E.seen n).display? = some w → Inline w) {digits : Text}
    (hd : digits.all isDigit = true) : Inline (copies E digits) := by
  unfold copies Reference.written
  cases hw : (Reference.line digits).toOption.bind fun n => (E.seen n).display? with
  | none => exact .cons rfl fun hm => absurd (List.all_eq_true.1 hd _ hm) (by decide)
  | some w =>
    obtain ⟨n, -, hw⟩ := Option.bind_eq_some_iff.1 hw
    exact hE n w hw

/-- The lines of the copy that count are those of the text with values in place of references. -/
theorem logical_copy (hinline : ∀ digits : Text, digits.all isDigit = true → Inline (copies E digits)) :
    Line.logical (unlines ((lines t).map fun l =>
      if Line.isOutput l then l else Reference.fill (copies E) l)) =
        (Line.logical t).map (Reference.fill (copies E)) := by
  have hfill (l : Text) : ∀ digits ∈ Reference.runs l, Inline (copies E digits) :=
    fun digits hd => hinline digits (Reference.all_isDigit_of_mem_runs hd)
  have hsingle : ∀ l ∈ (lines t).map fun l =>
      if Line.isOutput l then l else Reference.fill (copies E) l, '\n' ∉ l := by
    intro l hl
    obtain ⟨m, hm, rfl⟩ := List.mem_map.1 hl
    have hm := not_mem_of_mem_split hm
    split
    · exact hm
    · exact Reference.notMem_fill hm fun digits hd => (hfill m digits hd).single
  have hne : (lines t).map (fun l =>
      if Line.isOutput l then l else Reference.fill (copies E) l) ≠ [] := by
    simp [lines, split_ne_nil]
  rw [Line.logical, lines, unlines, Reference.split_join hne hsingle, Line.logical, Line.counted,
    Line.counted]
  induction lines t with
  | nil => rfl
  | cons l ls ih =>
    have hsame := Reference.isOutput_fill (hfill l)
    rw [List.map_cons, List.filter_cons, List.filter_cons, ih]
    cases hl : Line.isOutput l with
    | true => simp [hl]
    | false => simp [hsame, hl]

/-- The copy has the lines of the text with values in place of references, if the digits of these are
not too many to be read. -/
theorem resolveReferences_eq_ok (h : evaluate s 0 (lines t) = .ok es) :
    resolveReferences s t = .ok t' ↔
      (∀ l ∈ Line.logical t, ∀ digits ∈ Reference.runs l, digits.length ≤ Literal.maxDigits) ∧
        t' = unlines ((lines t).map fun l =>
          if Line.isOutput l then l else Reference.fill (copies (es.map (·.outcome))) l) := by
  have hvalues : values s (lines t) = .ok ((es.zipIdx 1).filterMap fun (r, n) =>
      r.outcome.display?.map (n, ·)) := by
    rw [values, h]
    rfl
  have hline (l w : Text) : (if Line.isOutput l = true then Except.ok l else Reference.substitute
        (fun n => ((es.zipIdx 1).filterMap fun (r, n) => r.outcome.display?.map (n, ·)).lookup n) l) =
          .ok w ↔
      w = (if Line.isOutput l then l else Reference.fill (copies (es.map (·.outcome))) l) ∧
        (Line.isOutput l = false → ∀ digits ∈ Reference.runs l,
          digits.length ≤ Literal.maxDigits) := by
    rw [funext (lookup_values es)]
    cases Line.isOutput l with
    | true => simp [eq_comm]
    | false => simp [Reference.substitute_eq_ok, copies]
  have hlogical : (∀ l ∈ lines t, Line.isOutput l = false → ∀ digits ∈ Reference.runs l,
        digits.length ≤ Literal.maxDigits) ↔
      ∀ l ∈ Line.logical t, ∀ digits ∈ Reference.runs l, digits.length ≤ Literal.maxDigits := by
    simp [Line.logical, Line.counted, List.mem_filter]
  rw [resolveReferences, hvalues, ok_bind, bind_eq_ok]
  refine (exists_congr fun ls => and_congr_left' (mapM_eq_ok_iff hline)).trans ?_
  rw [hlogical]
  constructor
  · rintro ⟨_, ⟨rfl, hdigits⟩, ht⟩
    exact ⟨hdigits, (pure_eq_ok.1 ht).symm⟩
  · rintro ⟨hdigits, rfl⟩
    exact ⟨_, ⟨rfl, hdigits⟩, rfl⟩

/-- An expression without references has the same answer behind other lines. -/
theorem evaluate_of_runs {e e' : Earlier} {expr : Text} {a : Answer}
    (h : Worksheet.evaluate s Evaluator.all e expr = .ok a) (hruns : Reference.runs expr = []) :
    Worksheet.evaluate s Evaluator.all e' expr = .ok a := by
  have hseen : SameSeen id expr e e' := fun digits hd => by
    rw [hruns] at hd
    cases hd
  have hsettle := settle_evaluate s Evaluator.all hseen
  rw [h] at hsettle
  exact eq_ok_of_settle hsettle

/-- The line of a copy has the value that the line of the document had, whatever lines stand in
front of it. -/
theorem evaluateLine_copy {e : Earlier} (hE : e <+: E) (hl : '\n' ∉ l)
    (hinline : ∀ digits : Text, digits.all isDigit = true → Inline (copies E digits))
    (h : evaluateLine s false e l = .ok r) (hv : r.outcome.value = some x)
    (hc : ∀ expr comment, expressionOf? l = some (expr, comment) → Reference.runs expr ≠ [] →
      Copyable s E expr) (e' : Earlier) :
    ∃ r', evaluateLine s false e' (Reference.fill (copies E) l) = .ok r' ∧
      r'.outcome.value = some x ∧ r'.outcome.isCurrency = r.outcome.isCurrency := by
  cases hx : expressionOf? l with
  | none =>
    rw [evaluateLine, hx] at h
    cases h
    cases hv
  | some p =>
    obtain ⟨expr, comment⟩ := p
    obtain ⟨o, ho, rfl⟩ := (evaluateLine_eq_ok hx).1 h
    cases o with
    | none => cases hv
    | some a =>
      have ha := eq_ok_of_settle ho
      have htight : Tight expr := (expressionOf_spec hx hl).1.tight
      obtain ⟨ts, -, hts, -⟩ := exists_of_calculate (calculate_of_evaluate ha hv)
      -- References have amounts in their place, if there are any.
      have hamount : ∀ digits ∈ Reference.runs expr, ∃ ws, Token.IsAmount (copies E digits) ws := by
        intro digits hd
        have hcopyable := hc expr comment hx (List.ne_nil_of_mem hd)
        obtain ⟨n, -, hn⟩ := exists_of_mem_of_mapM (Token.references_of_scan hts) hd
        obtain ⟨w, ws, hw⟩ := (hcopyable.legible digits hd n hn).exists_readAs
        exact ⟨ws, copies_eq hn hw.shown ▸ hw.amount⟩
      obtain ⟨comment', hx'⟩ := Reference.expressionOf_fill hx
        (fun digits hd => hinline digits (Reference.all_isDigit_of_mem_runs hd)) hamount
      obtain ⟨a', ha', hvalue, hflag⟩ : ∃ a', Worksheet.evaluate s Evaluator.all e'
          (Reference.fill (copies E) expr) = .ok a' ∧ a'.value = some x ∧
            a'.isCurrency = a.isCurrency := by
        by_cases hruns : Reference.runs expr = []
        · rw [Reference.fill_of_runs hruns]
          exact ⟨a, evaluate_of_runs ha hruns, hv, rfl⟩
        · exact evaluate_copy htight hE (hc expr comment hx hruns) ha hv e'
      exact ⟨_, (evaluateLine_eq_ok hx').2 ⟨some a', by rw [ha']; rfl, rfl⟩, hvalue, hflag⟩

/-- **A copy with values in place of references has the values of the document.** If line `i` has a
value, and is fit for copying unless it refers to no line, then line `i` of the copy has that value
by itself, whatever lines stand in front of it, and so it has when the copy is evaluated. The names
of the clock's zone must not break a line, as they stand in place of references to dates. -/
theorem evaluate_resolved {i : Nat} (hnow : ∀ z ∈ s.now.zone, z.Lacks '\n')
    (h : evaluate s 0 (lines t) = .ok es) (ht : resolveReferences s t = .ok t')
    (hl : (Line.logical t)[i]? = some l) (hr : es[i]? = some r) (hv : r.outcome.value = some x)
    (hc : ∀ expr comment, expressionOf? l = some (expr, comment) → Reference.runs expr ≠ [] →
      Copyable s (es.map (·.outcome)) expr) :
    ∃ l', (Line.logical t')[i]? = some l' ∧
      (∀ e, ∃ r', evaluateLine s false e l' = .ok r' ∧ r'.outcome.value = some x ∧
        r'.outcome.isCurrency = r.outcome.isCurrency) ∧
      ∀ es', evaluate s 0 (lines t') = .ok es' → ∃ r', es'[i]? = some r' ∧
        r'.outcome.value = some x ∧ r'.outcome.isCurrency = r.outcome.isCurrency := by
  have hsingle : ∀ l ∈ lines t, '\n' ∉ l := fun l hl => not_mem_of_mem_split hl
  have hinline (digits : Text) (hd : digits.all isDigit = true) :
      Inline (copies (es.map (·.outcome)) digits) :=
    inline_copies (fun n w hw => inline_display hnow hsingle h hw) hd
  have hlogical : Line.logical t' = (Line.logical t).map
      (Reference.fill (copies (es.map (·.outcome)))) := by
    rw [((resolveReferences_eq_ok h).1 ht).2, logical_copy hinline]
  have hl' : (Line.logical t')[i]? = some (Reference.fill (copies (es.map (·.outcome))) l) := by
    rw [hlogical, List.getElem?_map, hl]
    rfl
  have hactive : ((0 : Int) == (1 + i : Nat)) = false := by
    rw [beq_eq_false_iff_ne]
    omega
  have hline := evaluateFrom_getElem? h hl hr
  rw [hactive, List.nil_append] at hline
  have hcopy := evaluateLine_copy ((List.take_prefix i es).map _)
    (hsingle l (List.mem_filter.1 (List.mem_of_getElem? hl)).1) hinline hline hv hc
  refine ⟨_, hl', hcopy, fun es' h' => ?_⟩
  have hi : i < es'.length := by
    rw [length_evaluateFrom h']
    exact (List.getElem?_eq_some_iff.1 hl').1
  have hr' := List.getElem?_eq_getElem hi
  have hline' := evaluateFrom_getElem? h' hl' hr'
  rw [hactive] at hline'
  obtain ⟨r', hr'', hvalue, hflag⟩ := hcopy _
  rw [hline'] at hr''
  cases hr''
  exact ⟨_, hr', hvalue, hflag⟩

/-- A sum of a product that is referred to is copied. -/
theorem evaluate_resolved_second :
    let s : Surroundings := ⟨⟨0, none, false, by decide⟩, .fixed⟩
    let t := "6 * 7 =\n\\1 + 1 =".toList
    let t' := "6 * 7 =\n42 + 1 =".toList
    resolveReferences s t = .ok t' ∧ ∃ es es' r r', evaluate s 0 (lines t) = .ok es ∧
      evaluate s 0 (lines t') = .ok es' ∧ es[1]? = some r ∧ es'[1]? = some r' ∧
        r'.outcome.value = r.outcome.value ∧ r'.outcome.isCurrency = r.outcome.isCurrency := by
  intro s t t'
  have hcopy : resolveReferences s t = .ok t' :=
    eq_ok_of_toOption (show (resolveReferences s t).toOption = some t' by decide +kernel)
  obtain ⟨es, h⟩ := exists_eq_ok (show (evaluate s 0 (lines t)).toOption.isSome = true by
    decide +kernel)
  obtain ⟨es', h'⟩ := exists_eq_ok (show (evaluate s 0 (lines t')).toOption.isSome = true by
    decide +kernel)
  have hleft : (evaluate s 0 (lines t)).toOption.map
      (·.map fun r => (r.outcome.value.map Float.toBits, r.outcome.display?)) =
        some [(some (Binary.ofNat 42).toBits, some "42".toList),
          (some (Binary.ofNat 43).toBits, some "43".toList)] := by decide +kernel
  rw [h] at hleft
  obtain ⟨r₁, rest, rfl, hr₁, hrest⟩ := List.map_eq_cons_iff.1 (Option.some.inj hleft)
  obtain ⟨r₂, rest, rfl, hr₂, hnil⟩ := List.map_eq_cons_iff.1 hrest
  obtain rfl := List.map_eq_nil_iff.1 hnil
  obtain ⟨hbits₁, hdisplay⟩ := Prod.mk.inj hr₁
  obtain ⟨hbits₂, -⟩ := Prod.mk.inj hr₂
  have hvalue {r : EvaluatedLine} {n : Nat}
      (hr : r.outcome.value.map Float.toBits = some (Binary.ofNat n).toBits) :
      r.outcome.value = some (Binary.ofNat n) := by
    obtain ⟨x, hx, hbits⟩ := Option.map_eq_some_iff.1 hr
    rw [hx, Binary.float_ext (congrArg UInt64.toBitVec hbits)]
  obtain ⟨-, -, -, hlast⟩ := evaluate_resolved (i := 1) (l := "\\1 + 1 =".toList)
    (fun _ hz => by cases hz) h hcopy (by decide +kernel) rfl (hvalue hbits₂)
    fun expr comment hx _ => by
      have hexpr : expressionOf? "\\1 + 1 =".toList = some ("\\1 + 1".toList, []) := by
        decide +kernel
      obtain ⟨rfl, -⟩ := Prod.mk.inj (Option.some.inj (hexpr.symm.trans hx))
      refine .of_natural (fun digits hd n hn => ?_) rfl ?_
      · have hruns : Reference.runs "\\1 + 1".toList = ["1".toList] := by cbv
        rw [hruns, List.mem_singleton] at hd
        subst hd
        obtain rfl : 1 = n := Except.ok.inj hn
        exact ⟨42, by decide, hvalue hbits₁⟩
      · have hfill : Reference.fill (copies ([r₁, r₂].map (·.outcome))) "\\1 + 1".toList =
            "42 + 1".toList := by
          refine (Reference.fill_run (u := ['1']) (r := " + 1".toList) (by decide) rfl rfl).trans ?_
          have hcopy : copies ([r₁, r₂].map (·.outcome)) ['1'] = "42".toList :=
            copies_eq (n := 1) rfl hdisplay
          rw [Reference.fill_of_notMem (by decide), hcopy]
          rfl
        rw [hfill]
        decide +kernel
  obtain ⟨r', hr', hsame, hflag⟩ := hlast es' h'
  exact ⟨hcopy, _, es', r₂, r', h, h', rfl, hr', hsame.trans (hvalue hbits₂).symm, hflag⟩

-- A debt in dollars is shown with its sign behind the `$`, where no amount is read.
example :
    let s : Surroundings := ⟨⟨0, none, false, by decide⟩, .fixed⟩
    let shown (t : String) := (evaluate s 0 (lines t.toList)).toOption.map fun es =>
      es.map fun r => String.ofList r.output
    (resolveReferences s "$3 - $8 =\n\\1 + 1 =".toList).toOption =
        some "$3 - $8 =\n$-5.00 + 1 =".toList ∧
      shown "$3 - $8 =\n\\1 + 1 =" = some ["$3 - $8 = $-5.00", "\\1 + 1 = $-4.00"] ∧
      shown "$3 - $8 =\n$-5.00 + 1 =" = some ["$3 - $8 = $-5.00", "$-5.00 + 1 = ERR"] := by
  decide +kernel

end Document

end Worksheet
