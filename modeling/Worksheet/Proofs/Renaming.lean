import Worksheet.Proofs.Precedence

/-!
# Tokens with other references

The value of tokens depends on their references only through what those are worth. When every
reference is exchanged for another of the same worth, the tokens keep their value
(`evaluateTokens_rename`). How a text without a value fails may change, as messages name lines.
-/

namespace Worksheet

/-- Exchanges the line of a reference by `σ` and its text by `τ`. -/
def Token.rename (σ : Nat → Nat) (τ : Text → Text) : Token → Token
  | reference n t => reference (σ n) (τ t)
  | token => token

theorem Token.rename_id : Token.rename id id = id := by
  funext token
  cases token <;> rfl

namespace Expr

open Result

variable {f g : Resolver} {σ : Nat → Nat} {τ : Text → Text}

/-- Under `g`, the renamed references of the tokens are worth what they are worth under `f`. -/
def Renames (σ : Nat → Nat) (f g : Resolver) (ts : List Token) : Prop :=
  ∀ n t, .reference n t ∈ ts → (g (σ n)).toOption = (f n).toOption

theorem Renames.mono {ts us : List Token} (h : Renames σ f g ts) (hs : us <:+ ts) :
    Renames σ f g us := fun n t hm => h n t (hs.subset hm)

/-- A reading with its rest renamed. -/
def renameRest (σ : Nat → Nat) (τ : Text → Text) (p : Value × List Token) : Value × List Token :=
  (p.1, p.2.map (Token.rename σ τ))

/-- Two readings have the same value, and rests that differ by the renaming. -/
def Matches (σ : Nat → Nat) (τ : Text → Text) (x y : Reading) : Prop :=
  y.toOption = x.toOption.map (renameRest σ τ)

theorem Matches.bind {x y : Reading} {k l : Value × List Token → Reading} (h : Matches σ τ x y)
    (hk : ∀ p, x = .ok p → Matches σ τ (k p) (l (renameRest σ τ p))) :
    Matches σ τ (x >>= k) (y >>= l) := by
  match x, y, h with
  | .ok p, .ok q, h =>
    cases Option.some.inj h
    exact hk p rfl
  | .error _, .error _, _ => rfl

theorem expect_rename {s : Symbol} {ts : List Token} :
    (expect s (ts.map (Token.rename σ τ))).toOption =
      (expect s ts).toOption.map (List.map (Token.rename σ τ)) := by
  match ts with
  | [] => rfl
  | .symbol s' :: r =>
    simp only [List.map_cons, Token.rename, expect]
    split <;> rfl
  | .number .. :: _ | .currency .. :: _ | .reference .. :: _ | .word _ :: _ => rfl

/-- What stands behind a symbol that must come next is read as before. -/
theorem Matches.expect {s : Symbol} {ts : List Token} {k l : List Token → Reading}
    (hk : ∀ r, expect s ts = .ok r → Matches σ τ (k r) (l (r.map (Token.rename σ τ)))) :
    Matches σ τ (Expr.expect s ts >>= k) (Expr.expect s (ts.map (Token.rename σ τ)) >>= l) := by
  have h : (Expr.expect s (ts.map (Token.rename σ τ))).toOption =
      (Expr.expect s ts).toOption.map (List.map (Token.rename σ τ)) := expect_rename
  cases hx : Expr.expect s ts with
  | error e =>
    rw [hx] at h
    obtain ⟨e', he⟩ := exists_eq_error h
    rw [he]
    rfl
  | ok r =>
    rw [hx] at h
    rw [eq_ok_of_toOption h]
    exact hk r hx

/-- The loop over operators keeps its value if its right operands do. -/
theorem chain_rename {right right' : Nat → List Token → Reading}
    (hr : ReadsRight (some f) right) {least n : Nat} {left : Value} {ts : List Token}
    (h : ∀ k us, us <:+ ts → Matches σ τ (right k us) (right' k (us.map (Token.rename σ τ)))) :
    Matches σ τ (chain right least n left ts)
      (chain right' least n left (ts.map (Token.rename σ τ))) := by
  induction n generalizing left ts with
  | zero => rfl
  | succ n ih =>
    match ts with
    | [] | .number .. :: _ | .currency .. :: _ | .reference .. :: _ | .word _ :: _ => rfl
    | .symbol s :: us =>
      simp only [List.map_cons, Token.rename, chain]
      rw [precedence?_eq]
      cases hs : Level.ofSymbol? s with
      | none => rfl
      | some k =>
        simp only [Option.map_some, rightBound_eq hs]
        split
        · rfl
        · have hm := h k.rightBound us (List.suffix_cons _ _)
          cases hx : right k.rightBound us with
          | error e =>
            rw [hx] at hm
            obtain ⟨e', he⟩ := exists_eq_error hm
            rw [he]
            rfl
          | ok p =>
            rw [hx] at hm
            obtain ⟨v, r⟩ := p
            obtain ⟨ws, rfl, -, -⟩ := hr s k _ v r hs hx
            rw [eq_ok_of_toOption hm]
            exact ih fun k us hu => h k us
              (hu.trans ((List.suffix_append _ _).trans (List.suffix_cons _ _)))

theorem read_rename (d : Nat) :
    (∀ ts, Renames σ f g ts → Matches σ τ (operand (some f) d ts)
      (operand (some g) d (ts.map (Token.rename σ τ)))) ∧
    ∀ least ts, Renames σ f g ts → Matches σ τ (expression (some f) d least ts)
      (expression (some g) d least (ts.map (Token.rename σ τ))) := by
  induction d with
  | zero => exact ⟨fun _ _ => rfl, fun _ _ _ => rfl⟩
  | succ d ih =>
    obtain ⟨iho, ihe⟩ := ih
    refine ⟨fun ts h => ?_, fun least ts h => ?_⟩
    · match ts with
      | [] | .number .. :: _ | .currency .. :: _ => rfl
      | .reference n t :: us =>
        have hn := h n t (by simp)
        simp only [List.map_cons, Token.rename, operand]
        cases hf : f n with
        | error e =>
          rw [hf] at hn
          obtain ⟨e', he⟩ := exists_eq_error hn
          rw [he]
          rfl
        | ok x =>
          rw [hf] at hn
          rw [eq_ok_of_toOption hn]
          rfl
      | .word name :: us =>
        simp only [List.map_cons, Token.rename, operand]
        refine .expect fun vs hvs => ?_
        obtain rfl := expect_eq_ok.1 hvs
        refine (ihe 0 vs (h.mono ⟨[_, _], rfl⟩)).bind fun p _ => ?_
        refine .expect fun ws _ => ?_
        show Matches σ τ (applyFunction name p.1.number >>= _)
          (applyFunction name p.1.number >>= _)
        cases applyFunction name p.1.number <;> rfl
      | .symbol .opening :: us =>
        simp only [List.map_cons, Token.rename, operand]
        refine (ihe 0 us (h.mono (List.suffix_cons _ _))).bind fun p _ => ?_
        exact .expect fun ws _ => rfl
      | .symbol .minus :: us =>
        simp only [List.map_cons, Token.rename, operand]
        exact (iho us (h.mono (List.suffix_cons _ _))).bind fun p _ => rfl
      | .symbol .plus :: us => exact iho us (h.mono (List.suffix_cons _ _))
      | .symbol .star :: _ | .symbol .slash :: _ | .symbol .caret :: _ | .symbol .closing :: _
      | .symbol .greater :: _ | .symbol .less :: _ | .symbol .greaterEq :: _
      | .symbol .lessEq :: _ | .symbol .equal :: _ | .symbol .notEqual :: _ => rfl
    · have hm := iho ts h
      unfold expression
      cases hx : operand (some f) d ts with
      | error e =>
        rw [hx] at hm
        obtain ⟨e', he⟩ := exists_eq_error hm
        rw [he]
        rfl
      | ok p =>
        obtain ⟨v, r⟩ := p
        obtain ⟨vs, rfl, -⟩ := (read_sound d).1 ts v r hx
        rw [hx] at hm
        rw [eq_ok_of_toOption hm]
        simp only [renameRest, List.length_map]
        exact chain_rename (readsRight d) fun k us hu =>
          ihe k us (h.mono (hu.trans (List.suffix_append _ _)))

/-- Tokens whose references are exchanged for others of the same worth have the same value. -/
theorem evaluateTokens_rename {ts : List Token} (h : Renames σ f g ts) :
    (evaluateTokens (some g) (ts.map (Token.rename σ τ))).toOption =
      (evaluateTokens (some f) ts).toOption := by
  have hm : Matches σ τ (read (some f) ts) (read (some g) (ts.map (Token.rename σ τ))) :=
    (read_rename maxDepth).2 0 ts h
  unfold evaluateTokens
  match read (some f) ts, read (some g) (ts.map (Token.rename σ τ)), hm with
  | .error _, .error _, _ => rfl
  | .ok (v, []), .ok _, hm =>
    cases Option.some.inj hm
    rfl
  | .ok (v, _ :: _), .ok _, hm =>
    cases Option.some.inj hm
    rfl

end Expr

end Worksheet
