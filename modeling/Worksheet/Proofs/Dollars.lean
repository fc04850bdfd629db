import Worksheet.Proofs.Copying
import Worksheet.Proofs.Insertion

/-!
# Amounts of dollars

**Theorem (`Document.isCurrency_iff_reaches`).** The value of a line is an amount of dollars exactly
if a chain of references leads from the line to one whose expression shows an amount of dollars.

A line with a value has an expression that arithmetic has read: a dollar sign in it is one of an
amount (`Token.any_isCurrency_of_scan`), and each of its references leads to a line in front that
has a value too. So the flag of a line is told by its own expression and by the flags of the lines
that it refers to (`isCurrency_step`), and an induction over the lines follows the chains.
-/

namespace Worksheet

open Text Result

/-! ## Dollar signs -/

namespace Token

variable {c d : Char} {t u r w rest : Text} {ts : List Token} {token : Option Token}

/-- What an amount begins with behind its dollar sign. -/
def beginsAmount (c : Char) : Bool := isAsciiDigit c || c == '.'

/-- An amount of dollars is written in the text. -/
def ShowsDollars (t : Text) : Prop := ∃ c, beginsAmount c = true ∧ ['$', c] <:+: t

theorem showsDollars_append (hu : '$' ∉ u) : ShowsDollars (u ++ t) ↔ ShowsDollars t := by
  refine exists_congr fun c => and_congr_right fun _ => ?_
  induction u with
  | nil => rfl
  | cons x u ih =>
    simp only [List.mem_cons, not_or] at hu
    rw [List.cons_append, List.infix_cons_iff, ih hu.2, or_iff_right]
    exact fun h => hu.1 (List.cons_prefix_cons.1 h).1

/-- Only a dollar sign begins an amount of dollars, and no other token holds one. -/
theorem Reads.plain (h : Reads c w token rest) (hc : c ≠ '$') :
    token.any isCurrency = false ∧ '$' ∉ c :: w := by
  have hnumeral {point : Bool} {n z : Text} (hn : numeral point (n ++ z) = (n, z)) : '$' ∉ n := by
    intro hm
    have hall := all_numeral point (n ++ z)
    rw [hn] at hall
    exact absurd (List.all_eq_true.1 hall _ hm) (by decide)
  have hclass {p : Char → Bool} (hp : p '$' = false) {v : Text} (hv : v.all p = true) : '$' ∉ v :=
    fun hm => by
      rw [List.all_eq_true.1 hv _ hm] at hp
      cases hp
  rw [List.mem_cons, not_or]
  cases h with
  | blank => exact ⟨rfl, hc.symm, by simp⟩
  | number v _ hn => exact ⟨rfl, hc.symm, hnumeral hn⟩
  | percent v _ hn => exact ⟨rfl, hc.symm, by simp [hnumeral hn]⟩
  | dollars v hd => exact absurd hd hc
  | reference n _ hw => exact ⟨rfl, hc.symm, hclass (by decide) hw⟩
  | sign hs htoken =>
    refine ⟨?_, hc.symm, fun hm => absurd (hs _ (List.mem_cons_of_mem _ hm)) (by decide)⟩
    cases token with
    | none => rfl
    | some token => cases token <;> first | rfl | cases htoken
  | word _ hw => exact ⟨rfl, hc.symm, hclass (by decide) hw⟩

/-- A text that has tokens has an amount of dollars among them exactly if it shows one. -/
theorem any_isCurrency_of_scanFrom (h : scanFrom t = .ok ts) :
    ts.any isCurrency = true ↔ ShowsDollars t := by
  induction hn : t.length using Nat.strongRecOn generalizing t ts with
  | ind n ih =>
    cases t with
    | nil =>
      rw [scanFrom] at h
      cases h
      simp [ShowsDollars]
    | cons c r =>
      rw [scanFrom_cons] at h
      split at h
      · cases h
      · next token rest hnext =>
        obtain ⟨us, hus, rfl⟩ := map_eq_ok.1 h
        by_cases hc : c = '$'
        · subst hc
          unfold next at hnext
          rw [if_neg (by decide), if_neg (by decide), if_pos (by decide)] at hnext
          split at hnext
          · next hd =>
            obtain ⟨v, -, hv⟩ := map_eq_ok.1 hnext
            cases hv
            cases r with
            | nil => cases hd
            | cons d r => exact iff_of_true rfl ⟨d, hd, [], r, rfl⟩
          · cases hnext
        · obtain ⟨w, rfl, hreads⟩ := exists_reads hnext
          obtain ⟨htoken, hw⟩ := hreads.plain hc
          have hlt : rest.length < n := by
            rw [← hn, List.length_cons, List.length_append]
            omega
          have hfirst : token.toList.any isCurrency = false := by
            cases token with
            | none => rfl
            | some token => simpa using htoken
          rw [List.any_append, hfirst, Bool.false_or, ih _ hlt hus rfl, ← List.cons_append,
            showsDollars_append hw]

theorem multiplySigns_head {b : Text} (hd : d ≠ '*') :
    d :: w = multiplySigns b (c :: r) → d = c ∧ w = multiplySigns (c :: b) r := by
  intro h
  rw [multiplySigns_sign] at h
  obtain ⟨hc, hw⟩ := List.cons.inj h
  refine ⟨?_, hw⟩
  unfold signBetween at hc
  split at hc
  · exact absurd hc hd
  · exact hc

theorem plainSign_eq (hd : d ∉ ['*', '/', '-']) (h : plainSign c = d) : c = d := by
  unfold plainSign at h
  split at h <;> first | exact h | exact absurd (by simp [← h]) hd

/-- Reading pasted operators makes no amount of dollars and breaks none. -/
theorem showsDollars_normalize (t : Text) : ShowsDollars (normalize t) ↔ ShowsDollars t := by
  have hamount {c : Char} (hc : beginsAmount c = true) : c ∉ ['*', '/', '-'] ∧
      plainSign c = c ∧ isCross c = false := by
    rcases Bool.or_eq_true_iff.1 hc with hd | hd
    · have hdigit := isDigit_of_isAsciiDigit hd
      have hne {x : Char} (hx : isDigit x = false) : c ≠ x := by
        rintro rfl
        rw [hdigit] at hx
        cases hx
      refine ⟨?_, plainSign_of_isDigit hdigit, ?_⟩
      · simp [hne (x := '*') (by decide), hne (x := '/') (by decide), hne (x := '-') (by decide)]
      · simp [isCross, hne (x := 'x') (by decide), hne (x := 'X') (by decide)]
    · rw [beq_iff_eq.1 hd]
      decide
  refine exists_congr fun c => and_congr_right fun hc => ?_
  obtain ⟨hsign, hplain, hcross⟩ := hamount hc
  constructor
  · have hback (b t : Text) :
        ['$', c] <:+: multiplySigns b (t.map plainSign) → ['$', c] <:+: t := by
      induction t generalizing b with
      | nil => exact fun h => absurd (List.eq_nil_of_infix_nil h) (by simp)
      | cons x r ih =>
        rw [List.map_cons, multiplySigns_sign, List.infix_cons_iff, ← multiplySigns_sign,
          List.infix_cons_iff]
        refine Or.imp (fun h => ?_) (ih _)
        obtain ⟨v, hv⟩ := h
        obtain ⟨hx, hv⟩ := multiplySigns_head (by decide) hv
        cases r with
        | nil => cases hv
        | cons y r =>
          obtain ⟨hy, -⟩ := multiplySigns_head (fun he => hsign (by simp [he])) hv
          rw [plainSign_eq (by decide) hx.symm, plainSign_eq hsign hy.symm]
          exact ⟨r, rfl⟩
    exact hback [] t
  · rintro ⟨u, v, rfl⟩
    obtain ⟨u', v', h⟩ := normalize_part (m := ['$', c])
      (List.forall_mem_cons.2 ⟨by decide, by simp [hplain, hcross]⟩) u v
    exact ⟨u', v', by rw [List.append_assoc, List.append_assoc, h]⟩

theorem any_isCurrency_of_scan (ht : Tight t) (h : scan t = .ok ts) :
    ts.any isCurrency = true ↔ ShowsDollars t := by
  rw [scan, ht.trim_eq] at h
  rw [any_isCurrency_of_scanFrom h, showsDollars_normalize]

end Token

/-! ## Chains of references -/

namespace Document

variable {s : Surroundings} {active : Int} {e : Earlier} {ls : List Text} {es : List EvaluatedLine}
  {l expr : Text} {r : EvaluatedLine} {n : Nat} {x : Float}

/-- The expression of line `n`, counted from 1 among the lines that count. -/
def expressionAt? (ls : List Text) (n : Nat) : Option Text :=
  if n = 0 then none else
    (Line.counted ls)[n - 1]?.bind fun l => (expressionOf? l).map Prod.fst

/-- The expression of line `n` refers to line `m`. -/
def LeadsTo (ls : List Text) (n m : Nat) : Prop :=
  ∃ expr digits, expressionAt? ls n = some expr ∧ digits ∈ Reference.runs expr ∧
    Reference.line digits = .ok m

theorem leadsTo_iff (hx : expressionAt? ls n = some expr) {m : Nat} :
    LeadsTo ls n m ↔ ∃ digits ∈ Reference.runs expr, Reference.line digits = .ok m := by
  constructor
  · rintro ⟨expr', digits, hx', hd, hm⟩
    obtain rfl : expr = expr' := Option.some.inj (hx.symm.trans hx')
    exact ⟨digits, hd, hm⟩
  · rintro ⟨digits, hd, hm⟩
    exact ⟨expr, digits, hx, hd, hm⟩

/-- A line with a value has an expression; each line that it refers to has a value; and it is an
amount of dollars if it shows one, or refers to one. -/
theorem isCurrency_step {isActive : Bool} (h : evaluateLine s isActive e l = .ok r)
    (hv : r.outcome.value = some x) : ∃ expr comment, expressionOf? l = some (expr, comment) ∧
      (∀ digits ∈ Reference.runs expr, ∀ m, Reference.line digits = .ok m →
        ∃ y, (e.seen m).value = some y) ∧
      (r.outcome.isCurrency = true ↔ Token.ShowsDollars expr ∨
        ∃ digits ∈ Reference.runs expr, ∃ m, Reference.line digits = .ok m ∧
          (e.seen m).isCurrency = true) := by
  cases hx : expressionOf? l with
  | none =>
    rw [outcome_of_none hx h] at hv
    cases hv
  | some p =>
    obtain ⟨expr, comment⟩ := p
    obtain ⟨o, ho, hr⟩ := outcome_of_some hx h
    cases o with
    | none =>
      rw [hr] at hv
      cases hv
    | some a =>
      rw [hr] at hv ⊢
      obtain ⟨ts, y, hts, hy, -, hflag⟩ :=
        exists_of_calculate (calculate_of_evaluate (eq_ok_of_settle ho) hv)
      have hfind := Token.references_of_scan hts
      refine ⟨expr, comment, rfl, fun digits hd m hm => ?_, ?_⟩
      · obtain ⟨t, ht⟩ := exists_reference hts hd hm
        obtain ⟨z, hz⟩ := Expr.exists_of_evaluateTokens hy ht
        exact ⟨z, (Earlier.seen_eq_of_prefix (List.prefix_refl e) hz).2⟩
      · show a.isCurrency = true ↔ _
        rw [hflag, involvesDollars, Bool.or_eq_true,
          Token.any_isCurrency_of_scan (tight_of_expressionOf hx) hts, List.any_eq_true]
        refine or_congr_right ⟨?_, ?_⟩
        · rintro ⟨m, hm, hc⟩
          obtain ⟨digits, hd, hline⟩ := exists_of_mem_mapM hfind hm
          exact ⟨digits, hd, m, hline, hc⟩
        · rintro ⟨digits, hd, m, hline, hc⟩
          exact ⟨m, mem_of_mapM hfind hd hline, hc⟩

/-- Line `m` of those in front of line `i`, if it left a value. -/
theorem exists_of_seen_take {i m : Nat}
    (h : (Earlier.seen ((es.take i).map (·.outcome)) m).value = some x) :
    ∃ j r, m = j + 1 ∧ j < i ∧ es[j]? = some r ∧
      Earlier.seen ((es.take i).map (·.outcome)) m = r.outcome := by
  unfold Earlier.seen Earlier.line? at h ⊢
  cases m with
  | zero => cases h
  | succ j =>
    rw [if_neg (Nat.succ_ne_zero j), Nat.add_one_sub_one, List.getElem?_map, List.getElem?_take]
      at h ⊢
    split at h
    · next hj =>
      rw [if_pos hj]
      cases hr : es[j]? with
      | none =>
        rw [hr] at h
        cases h
      | some r => exact ⟨j, r, rfl, hj, hr, rfl⟩
    · cases h

/-- **A value is an amount of dollars exactly if its line leads to one.** If line `i + 1` of a
document has a value, the value is an amount of dollars if and only if a chain of references, of any
length, leads from the line to one whose expression shows an amount of dollars. -/
theorem isCurrency_iff_reaches {i : Nat} (h : evaluate s active ls = .ok es)
    (hr : es[i]? = some r) (hv : r.outcome.value = some x) :
    r.outcome.isCurrency = true ↔ ∃ m expr, Relation.ReflTransGen (LeadsTo ls) (i + 1) m ∧
      expressionAt? ls m = some expr ∧ Token.ShowsDollars expr := by
  induction i using Nat.strongRecOn generalizing r x with
  | ind i ih =>
    have hi : i < (Line.counted ls).length := by
      rw [← length_evaluateFrom h]
      exact (List.getElem?_eq_some_iff.1 hr).1
    have hl := List.getElem?_eq_getElem hi
    have hline := evaluateFrom_getElem? h hl hr
    rw [List.nil_append] at hline
    obtain ⟨expr, comment, hx, hvalues, hflag⟩ := isCurrency_step hline hv
    have hat : expressionAt? ls (i + 1) = some expr := by
      rw [expressionAt?, if_neg (Nat.succ_ne_zero i), Nat.add_one_sub_one, hl, Option.bind_some, hx]
      rfl
    -- A line that is referred to is in front, and has its flag by the induction.
    have hback {digits : Text} (hd : digits ∈ Reference.runs expr) {m : Nat}
        (hm : Reference.line digits = .ok m) :
        (Earlier.seen ((es.take i).map (·.outcome)) m).isCurrency = true ↔
          ∃ k expr, Relation.ReflTransGen (LeadsTo ls) m k ∧ expressionAt? ls k = some expr ∧
            Token.ShowsDollars expr := by
      obtain ⟨y, hy⟩ := hvalues digits hd m hm
      obtain ⟨j, r', rfl, hj, hr', hseen⟩ := exists_of_seen_take hy
      rw [hseen] at hy ⊢
      exact ih j hj hr' hy
    rw [hflag]
    constructor
    · rintro (hshows | ⟨digits, hd, m, hm, hc⟩)
      · exact ⟨i + 1, expr, .refl, hat, hshows⟩
      · obtain ⟨k, expr', hreach, hk, hshows⟩ := (hback hd hm).1 hc
        exact ⟨k, expr', .head ((leadsTo_iff hat).2 ⟨digits, hd, hm⟩) hreach, hk, hshows⟩
    · rintro ⟨k, expr', hreach, hk, hshows⟩
      rcases hreach.cases_head with rfl | ⟨m, hstep, hreach⟩
      · obtain rfl : expr = expr' := Option.some.inj (hat.symm.trans hk)
        exact .inl hshows
      · obtain ⟨digits, hd, hm⟩ := (leadsTo_iff hat).1 hstep
        exact .inr ⟨digits, hd, m, hm, (hback hd hm).2 ⟨k, expr', hreach, hk, hshows⟩⟩

/-- Dollars come to the third line through the second. -/
theorem isCurrency_chain :
    let s : Surroundings := ⟨⟨0, none, false, by decide⟩, .fixed⟩
    let ls := ["$5 =", "\\1 * 2 =", "\\2 + 1 ="].map String.toList
    ∃ es r x, evaluate s 0 ls = .ok es ∧ es[2]? = some r ∧ r.outcome.value = some x ∧
      r.outcome.isCurrency = true := by
  intro s ls
  obtain ⟨es, h⟩ := exists_eq_ok (show (evaluate s 0 ls).toOption.isSome = true by decide +kernel)
  have hvalues : (evaluate s 0 ls).toOption.map
      (·.map fun r => r.outcome.value.isSome) = some [true, true, true] := by decide +kernel
  rw [h] at hvalues
  obtain ⟨r₁, rest, rfl, -, hrest⟩ := List.map_eq_cons_iff.1 (Option.some.inj hvalues)
  obtain ⟨r₂, rest, rfl, -, hrest⟩ := List.map_eq_cons_iff.1 hrest
  obtain ⟨r₃, rest, rfl, hr₃, hnil⟩ := List.map_eq_cons_iff.1 hrest
  obtain ⟨x, hx⟩ := Option.isSome_iff_exists.1 hr₃
  have hstep {n m : Nat} (expr digits : Text) (hat : expressionAt? ls n = some expr)
      (hruns : Reference.runs expr = [digits]) (hm : Reference.line digits = .ok m) :
      LeadsTo ls n m :=
    (leadsTo_iff hat).2 ⟨digits, by simp [hruns], hm⟩
  have hthird : LeadsTo ls 3 2 :=
    hstep "\\2 + 1".toList ['2'] (by decide +kernel) (by cbv) rfl
  have hsecond : LeadsTo ls 2 1 :=
    hstep "\\1 * 2".toList ['1'] (by decide +kernel) (by cbv) rfl
  refine ⟨_, r₃, x, h, rfl, hx, (isCurrency_iff_reaches (i := 2) h rfl hx).2 ?_⟩
  exact ⟨1, "$5".toList, .head hthird (.single hsecond), by decide +kernel,
    '5', by decide, [], [], rfl⟩

end Document

end Worksheet
