import Worksheet.Document
import Worksheet.Proofs.Renaming
import Worksheet.Proofs.Rewriting
import Worksheet.Proofs.Scanning

/-!
# What an expression sees of earlier lines

The evaluators use earlier lines in three ways: arithmetic takes values, it asks which of them are
amounts of dollars, and phrases about dates put texts in place of references. Each of the three
looks at the references of the expression and at nothing else (`settle_evaluate`).

This is said for two expressions at once. The second has other references than the first, and they
lead to lines that left the same (`Reference.Renames`). With the references themselves unchanged, it
says that an answer depends on the lines that the expression refers to.
-/

namespace Worksheet

open Result

/-! ## What a line left -/

/-- What line `n` left; a line that is not there left nothing. -/
def Earlier.seen (e : Earlier) (n : Nat) : Outcome := (e.line? n).getD {}

theorem Earlier.seen_mem {e : Earlier} {n : Nat} : e.seen n = {} ∨ e.seen n ∈ e := by
  unfold Earlier.seen Earlier.line?
  split
  · exact .inl rfl
  · cases h : e[n - 1]? with
    | none => exact .inl rfl
    | some o => exact .inr (List.mem_of_getElem? h)

theorem Earlier.toOption_value (e : Earlier) (n : Nat) : (e.value n).toOption =
    if (e.seen n).hasResult then (e.seen n).value else none := by
  unfold Earlier.value Earlier.seen
  cases e.line? n with
  | none => rfl
  | some o =>
    obtain ⟨hasResult, value, _, _⟩ := o
    cases hasResult <;> cases value <;> rfl

theorem Earlier.settle_dateTime (e : Earlier) (n : Nat) : settle (e.dateTime n) =
    .ok ((e.seen n).dateTime.bind fun t => if t.isEmpty then none else some t) := by
  unfold Earlier.dateTime Earlier.seen
  cases e.line? n with
  | none => rfl
  | some o =>
    obtain ⟨_, _, _, dateTime⟩ := o
    match dateTime with
    | none | some [] | some (_ :: _) => rfl

theorem Earlier.isCurrency_seen (e : Earlier) (n : Nat) :
    (n != 0 && (e.map (·.isCurrency)).getD (n - 1) false) = (e.seen n).isCurrency := by
  unfold Earlier.seen Earlier.line?
  cases n with
  | zero => rfl
  | succ n =>
    simp only [Nat.add_one_sub_one, Nat.add_one_ne_zero, if_false]
    cases h : e[n]? <;> simp [h, List.getD_eq_getElem?_getD]

/-! ## References exchanged -/

namespace Reference

/-- The second text is the first with the digits of its references exchanged by `ρ`. The lines that
they name are exchanged by `σ`. -/
structure Renames (σ : Nat → Nat) (ρ : Text → Text) (t t' : Text) : Prop where
  pieces_eq : pieces t' = (pieces t).map (Piece.rename ρ)
  line_eq : ∀ digits ∈ runs t, line (ρ digits) = (line digits).map σ

theorem Renames.refl (t : Text) : Renames id id t t := by
  refine ⟨?_, fun digits _ => by rw [id]; cases line digits <;> rfl⟩
  have h : Piece.rename id = id := by
    funext p
    cases p <;> rfl
  rw [h, List.map_id]

variable {σ : Nat → Nat} {ρ : Text → Text} {t t' : Text}

theorem Renames.runs_eq (h : Renames σ ρ t t') : runs t' = (runs t).map ρ := by
  rw [runs, runs, h.pieces_eq, List.filterMap_map, List.map_filterMap]
  congr 1
  funext p
  cases p <;> rfl

theorem mapM_map_congr {ε α β γ : Type} {l : List α} {f : α → Except ε β} {g : α → Except ε γ}
    {k : β → γ} (h : ∀ a ∈ l, g a = (f a).map k) : l.mapM g = (l.mapM f).map (List.map k) := by
  induction l with
  | nil => rfl
  | cons a l ih =>
    rw [List.mapM_cons, List.mapM_cons, h a (by simp), ih fun b hb => h b (by simp [hb])]
    cases f a with
    | error => rfl
    | ok b => cases l.mapM f <;> rfl

theorem Renames.findAll_eq (h : Renames σ ρ t t') : findAll t' = (findAll t).map (List.map σ) := by
  rw [Reference.findAll_eq, Reference.findAll_eq, h.runs_eq, List.mapM_map]
  exact mapM_map_congr h.line_eq

/-- Something is put in place of references, the same in both texts. -/
theorem Renames.settle_replaceM {f g : Nat → Result Text} (h : Renames σ ρ t t')
    (hf : ∀ digits ∈ runs t, ∀ n, line digits = .ok n → settle (g (σ n)) = settle (f n)) :
    settle (replaceM g t') = settle (replaceM f t) := by
  unfold replaceM
  rw [h.pieces_eq, List.mapM_map]
  refine settle_bind_congr (settle_mapM_congr fun p hp => ?_) fun _ _ => rfl
  cases p with
  | char c => rfl
  | reference digits =>
    have hm : digits ∈ runs t := List.mem_filterMap.2 ⟨_, hp, rfl⟩
    show settle (line (ρ digits) >>= g) = settle (line digits >>= f)
    rw [h.line_eq digits hm]
    cases hn : line digits with
    | error => rfl
    | ok n => exact hf digits hm n hn

end Reference

/-! ## The same answer -/

variable {σ : Nat → Nat} {ρ : Text → Text} {expr expr' : Text} {e e' : Earlier}

/-- Behind `e'`, the lines that the second expression refers to have left what those of the first
have left behind `e`. -/
def SameSeen (σ : Nat → Nat) (expr : Text) (e e' : Earlier) : Prop :=
  ∀ digits ∈ Reference.runs expr, ∀ n, Reference.line digits = .ok n → e'.seen (σ n) = e.seen n

theorem SameSeen.of_findAll (h : SameSeen σ expr e e') {ns : List Nat}
    (hns : Reference.findAll expr = .ok ns) : ∀ n ∈ ns, e'.seen (σ n) = e.seen n := by
  intro n hn
  obtain ⟨digits, hd, hl⟩ := exists_of_mem_mapM hns hn
  exact h digits hd n hl

theorem refersToCurrency_rename (hr : Reference.Renames σ ρ expr expr')
    (hs : SameSeen σ expr e e') : refersToCurrency (e'.map (·.isCurrency)) expr' =
      refersToCurrency (e.map (·.isCurrency)) expr := by
  unfold refersToCurrency
  rw [hr.findAll_eq]
  cases hns : Reference.findAll expr with
  | error => rfl
  | ok ns =>
    have hn := hs.of_findAll hns
    show Except.ok _ = Except.ok _
    simp only [Earlier.isCurrency_seen, List.any_map, Except.ok.injEq]
    rw [Bool.eq_iff_iff, List.any_eq_true, List.any_eq_true]
    exact exists_congr fun n => and_congr_right fun hm => by rw [Function.comp_apply, hn n hm]

theorem concernsCurrency_rename {ts : List Token} {τ : Text → Text}
    (hr : Reference.Renames σ ρ expr expr') (hs : SameSeen σ expr e e') :
    concernsCurrency e' expr' (ts.map (Token.rename σ τ)) = concernsCurrency e expr ts := by
  have ha : (ts.map (Token.rename σ τ)).any Token.isCurrency = ts.any Token.isCurrency := by
    rw [List.any_map]
    congr 1
    funext token
    cases token <;> rfl
  rw [concernsCurrency, concernsCurrency, ha, refersToCurrency_rename hr hs]

/-- Arithmetic on renamed references of the same worth has the same answer. -/
theorem settle_calculate {τ : Text → Text} (hr : Reference.Renames σ ρ expr expr')
    (hs : SameSeen σ expr e e')
    (hscan : Token.scan expr' = (Token.scan expr).map (List.map (Token.rename σ τ))) :
    settle (calculate e' expr') = settle (calculate e expr) := by
  have hc (ts : List Token) :
      (ts.map (Token.rename σ τ)).any Token.isComparison = ts.any Token.isComparison := by
    rw [List.any_map]
    congr 1
    funext token
    cases token <;> rfl
  unfold calculate
  rw [hscan, map_bind]
  refine settle_bind_congr rfl fun ts hts => ?_
  have hf := Token.references_of_scan hts
  have hrename : Expr.Renames σ e.value e'.value ts := by
    intro n t hm
    have hn : n ∈ ts.filterMap Token.line? := List.mem_filterMap.2 ⟨_, hm, rfl⟩
    rw [Earlier.toOption_value, Earlier.toOption_value, hs.of_findAll hf n hn]
  simp only [concernsCurrency_rename hr hs, hc]
  refine settle_bind_congr rfl fun isCurrency _ => ?_
  exact settle_bind_congr (settle_mapError (Expr.evaluateTokens_rename hrename)) fun _ _ => rfl

/-- Phrases about dates are the same once references are replaced by what the lines left. -/
theorem settle_answer_dates {s : Surroundings} (hr : Reference.Renames σ ρ expr expr')
    (hs : SameSeen σ expr e e') :
    settle (Evaluator.answer s e' expr' .dates) = settle (Evaluator.answer s e expr .dates) := by
  refine settle_bind_congr (hr.settle_replaceM fun digits hd n hn => ?_) fun _ _ => rfl
  rw [Earlier.settle_dateTime, Earlier.settle_dateTime, hs digits hd n hn]

/-- The first answer is the same, as far as `k` tells answers apart, if each evaluator is asked in
both cases or in none and gives the same answer. -/
theorem settle_answerFrom_congr {α : Type} {s : Surroundings} {evs : List Evaluator}
    {last last' : LineError} {k : Answer → α} (hc : ∀ ev ∈ evs, ev.claims expr' = ev.claims expr)
    (ha : ∀ ev ∈ evs, (settle (ev.answer s e' expr')).map (Option.map (Option.map k)) =
      (settle (ev.answer s e expr)).map (Option.map (Option.map k))) :
    (settle (answerFrom s e' expr' last' evs)).map (Option.map k) =
      (settle (answerFrom s e expr last evs)).map (Option.map k) := by
  induction evs generalizing last last' with
  | nil => rfl
  | cons ev evs ih =>
    have ih (last last' : LineError) := @ih last last' (fun ev h => hc ev (by simp [h]))
      fun ev h => ha ev (by simp [h])
    have hev := ha ev (by simp)
    unfold answerFrom
    rw [hc ev (by simp)]
    split
    · match ev.answer s e' expr', ev.answer s e expr, hev with
      | .ok (some a), .ok (some b), hev =>
        have hk : k a = k b := by simpa [settle, Except.map] using hev
        simp only [settle, Except.map, Option.map_some, hk]
      | .ok none, .ok none, _ => exact ih _ _
      | .error (.line _), .error (.line _), _ => exact ih _ _
      | .error (.fault f), .error (.fault g), hev =>
        have hf : f = g := by simpa [settle, Except.map] using hev
        rw [hf]
      | .ok (some _), .ok none, hev | .ok (some _), .error (.line _), hev
      | .ok (some _), .error (.fault _), hev | .ok none, .ok (some _), hev
      | .ok none, .error (.line _), hev | .ok none, .error (.fault _), hev
      | .error (.line _), .ok (some _), hev | .error (.line _), .ok none, hev
      | .error (.line _), .error (.fault _), hev | .error (.fault _), .ok (some _), hev
      | .error (.fault _), .ok none, hev | .error (.fault _), .error (.line _), hev =>
        simp [settle, Except.map] at hev
    · exact ih _ _

theorem settle_answer_arithmetic {s : Surroundings} {τ : Text → Text}
    (hr : Reference.Renames σ ρ expr expr') (hs : SameSeen σ expr e e')
    (hscan : Token.scan expr' = (Token.scan expr).map (List.map (Token.rename σ τ))) :
    settle (Evaluator.answer s e' expr' .arithmetic) =
      settle (Evaluator.answer s e expr .arithmetic) :=
  settle_map_congr (settle_calculate hr hs hscan)

/-- An answer depends on the lines that the expression refers to. -/
theorem settle_evaluate (s : Surroundings) (evs : List Evaluator) (hs : SameSeen id expr e e') :
    settle (evaluate s evs e' expr) = settle (evaluate s evs e expr) := by
  have hr := Reference.Renames.refl expr
  have hscan : Token.scan expr = (Token.scan expr).map (List.map (Token.rename id id)) := by
    rw [Token.rename_id]
    cases Token.scan expr <;> simp [Except.map]
  have hid {α : Type} (x : Except Fault (Option α)) : x.map (Option.map id) = x := by
    rcases x with _ | _ | _ <;> rfl
  rw [← hid (settle (evaluate s evs e' expr)), ← hid (settle (evaluate s evs e expr))]
  refine settle_answerFrom_congr (fun _ _ => rfl) fun ev _ => ?_
  cases ev with
  | subnets | percentages | units => rfl
  | dates => rw [settle_answer_dates hr hs]
  | arithmetic => rw [settle_answer_arithmetic hr hs hscan]

/-- So does an evaluated line. -/
theorem evaluateLine_congr {s : Surroundings} {isActive : Bool} {l : Text}
    (h : ∀ digits ∈ Reference.runs l, ∀ n, Reference.line digits = .ok n → e'.seen n = e.seen n) :
    Document.evaluateLine s isActive e' l = Document.evaluateLine s isActive e l := by
  unfold Document.evaluateLine
  cases hx : Document.expressionOf? l with
  | none => rfl
  | some p =>
    obtain ⟨expr, comment⟩ := p
    have hs : SameSeen id expr e e' := fun digits hd =>
      h digits ((Reference.runs_expressionOf hx).subset hd)
    have he := settle_evaluate s Evaluator.all hs
    dsimp only
    match evaluate s Evaluator.all e' expr, evaluate s Evaluator.all e expr, he with
    | .ok _, .ok _, he | .error (.line _), .error (.line _), he
    | .error (.fault _), .error (.fault _), he =>
      cases he
      rfl

end Worksheet
