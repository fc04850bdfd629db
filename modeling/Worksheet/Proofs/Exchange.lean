import Worksheet.Proofs.Precedence

/-!
# Tokens in place of references

In an expression that is read to its end no two operands stand side by side (`Derives.apart`), so a
reference may give way to any tokens that are read as an operand with its value. The reading goes
as before (`read_exchange`); it needs more depth only where the tokens do, such as a minus sign and
a number.
-/

namespace Worksheet

namespace Token

def isSymbol : Token → Bool
  | symbol _ => true
  | _ => false

/-- One of two tokens is an operator or a parenthesis. -/
def Apart (a b : Token) : Prop := a.isSymbol = true ∨ b.isSymbol = true

/-- The tokens `τ n` in place of a reference to line `n`. -/
def exchange (τ : Nat → List Token) : Token → List Token
  | reference n _ => τ n
  | t => [t]

/-- Whether a reference comes next. -/
def refersNext : List Token → Bool
  | reference .. :: _ => true
  | _ => false

end Token

namespace Expr

open Token (Apart exchange refersNext)
open Result

variable {resolve resolve' : Option Resolver} {τ : Nat → List Token}

/-! ## Operands stand apart -/

/-- Between two operands of an expression stands a symbol. -/
theorem Derives.apart {l : Level} {ts : List Token} {e : Tree} (h : Derives l ts e) :
    ts.IsChain Apart := by
  have hsymbol {t u : List Token} (s : Symbol) (ht : t.IsChain Apart) (hu : u.IsChain Apart) :
      (t ++ .symbol s :: u).IsChain Apart := by
    refine List.isChain_append.2 ⟨ht, ?_, fun a _ b hb => ?_⟩
    · exact List.isChain_cons.2 ⟨fun _ _ => .inl rfl, hu⟩
    · cases hb
      exact .inr rfl
  induction h with
  | number | currency | reference => exact .singleton _
  | parens _ ih =>
    exact hsymbol (t := []) _ .nil (hsymbol _ ih .nil)
  | call name _ ih =>
    exact hsymbol (t := [.word name]) _ (.singleton _) (hsymbol _ ih .nil)
  | negative _ ih | positive _ ih => exact hsymbol (t := []) _ .nil ih
  | lift _ _ ih => exact ih
  | chain _ _ _ _ _ iha ihb => exact hsymbol _ iha ihb
  | power _ _ iha ihb => exact hsymbol _ iha ihb

/-! ## Reading the tokens instead -/

/-- All references among the tokens are to lines of `P`. -/
def RefersTo (P : Nat → Prop) (ts : List Token) : Prop := ∀ n t, .reference n t ∈ ts → P n

theorem RefersTo.suffix {P : Nat → Prop} {ts us : List Token} (h : RefersTo P ts)
    (hs : us <:+ ts) : RefersTo P us := fun n t hm => h n t (hs.subset hm)

theorem RefersTo.flatMap_exchange {ts : List Token} (h : RefersTo (fun _ => False) ts) :
    ts.flatMap (exchange τ) = ts := by
  have hone : ∀ t ∈ ts, exchange τ t = [t] := by
    intro t ht
    cases t with
    | reference n t => exact (h n t ht).elim
    | _ => rfl
  rw [List.flatMap_congr hone, List.flatMap_singleton']

/-- In place of a reference to a line of `P` stand tokens that are read as an operand with its
value, `k` levels below the reference. -/
def StandsIn (resolve resolve' : Option Resolver) (P : Nat → Prop) (k : Nat)
    (τ : Nat → List Token) : Prop :=
  ∀ n x, P n → lookup resolve n = .ok x → ∀ d r,
    operand resolve' (d + 1 + k) (τ n ++ r) = .ok (⟨x, false⟩, r)

variable {P : Nat → Prop} {k n m d least : Nat} {l : Level} {ts us r : List Token}
  {left v : Value}

@[simp]
theorem exchange_symbol (s : Symbol) : exchange τ (.symbol s) = [.symbol s] := rfl

/-- Where the loop over operators stops in front of a symbol or at the end, it begins at one. -/
theorem refersNext_of_chain {right : Nat → List Token → Reading} (hr : refersNext r = false)
    (h : chain right least n left ts = .ok (v, r)) : refersNext ts = false := by
  refine Bool.eq_false_iff.2 fun hts => ?_
  match ts with
  | .reference _ _ :: _ =>
    cases n <;> (simp only [chain] at h; cases h; cases hr)

theorem closed_exchange (h : Closed l ts) (hts : refersNext ts = false) :
    Closed l (ts.flatMap (exchange τ)) := by
  intro s r' hr
  match ts with
  | [] => cases hr
  | .symbol s' :: us =>
    cases hr
    exact h s _ rfl
  | .number .. :: _ | .currency .. :: _ | .word _ :: _ => cases hr

theorem chain_exchange {right right' : Nat → List Token → Reading}
    (hsound : ReadsRight resolve right) (hsound' : ReadsRight resolve' right')
    (hright : ∀ s j us v r, Level.ofSymbol? s = some j → RefersTo P us → refersNext r = false →
      right j.rightBound us = .ok (v, r) →
        right' j.rightBound (us.flatMap (exchange τ)) = .ok (v, r.flatMap (exchange τ)))
    (hl : Level.Bounds least l) (hn : ts.length ≤ n)
    (hm : (ts.flatMap (exchange τ)).length ≤ m) (hP : RefersTo P ts) (hr : refersNext r = false)
    (h : chain right least n left ts = .ok (v, r)) :
    chain right' least m left (ts.flatMap (exchange τ)) = .ok (v, r.flatMap (exchange τ)) := by
  induction n generalizing m ts left with
  | zero =>
    cases List.length_eq_zero_iff.1 (Nat.le_zero.1 hn)
    cases h
    exact chain_closed hl (closed_nil l)
  | succ n ih =>
    by_cases hc : Closed l ts
    · have hts := refersNext_of_chain hr h
      rw [chain_closed hl hc] at h
      cases h
      exact chain_closed hl (closed_exchange hc hts)
    · simp only [Closed, Classical.not_forall] at hc
      obtain ⟨s, us, rfl, j, hs, hj⟩ := hc
      have hj := (hl s j hs).2 (Nat.not_lt.1 hj)
      rw [List.flatMap_cons, exchange_symbol, List.singleton_append] at hm ⊢
      obtain ⟨m, rfl⟩ := Nat.exists_eq_add_of_le' (Nat.le_trans (Nat.succ_pos _) hm)
      rw [chain_operator hs hj] at h ⊢
      split at h
      · cases h
      · next w r' heq =>
        obtain ⟨ws, hws, hw, -⟩ := hsound s j us w r' hs heq
        have heq' := hright s j us w r' hs (hP.suffix (List.suffix_cons _ _))
          (refersNext_of_chain hr h) heq
        obtain ⟨ws', hws', -⟩ := hsound' s j _ w _ hs heq'
        rw [heq']
        refine ih ?_ ?_ (hP.suffix ⟨.symbol s :: ws, by rw [hws]; rfl⟩) h
        · rw [hws, List.length_cons, List.length_append] at hn
          omega
        · rw [hws', List.length_cons, List.length_append] at hm
          omega

/-- **References give way to tokens of their values.** What is read is read as before with the
tokens `τ n` in place of each reference, if no reference follows. -/
theorem read_exchange (hτ : StandsIn resolve resolve' P k τ) (d : Nat) :
    (∀ ts v r, RefersTo P ts → refersNext r = false → operand resolve d ts = .ok (v, r) →
      operand resolve' (d + k) (ts.flatMap (exchange τ)) = .ok (v, r.flatMap (exchange τ))) ∧
    ∀ least l, Level.Bounds least l → ∀ ts v r, RefersTo P ts → refersNext r = false →
      expression resolve d least ts = .ok (v, r) →
        expression resolve' (d + k) least (ts.flatMap (exchange τ)) =
          .ok (v, r.flatMap (exchange τ)) := by
  induction d with
  | zero =>
    exact ⟨fun _ _ _ _ _ h => by simp [operand] at h,
      fun _ _ _ _ _ _ _ _ h => by simp [expression] at h⟩
  | succ d ih =>
    obtain ⟨iho, ihe⟩ := ih
    have inner {ts : List Token} {v : Value} {r : List Token} (hP : RefersTo P ts)
        (h : expression resolve d 0 ts = .ok (v, .symbol .closing :: r)) :
        expression resolve' (d + k) 0 (ts.flatMap (exchange τ)) =
          .ok (v, .symbol .closing :: r.flatMap (exchange τ)) :=
      ihe 0 .comparison Level.bounds_comparison ts v _ hP rfl h
    rw [Nat.add_right_comm d 1 k]
    refine ⟨fun ts v r hP hr h => ?_, fun least l hl ts v r hP hr h => ?_⟩
    · cases ts with
      | nil => cases h
      | cons t us =>
        cases t with
        | number | currency =>
          cases h
          rfl
        | reference n t =>
          obtain ⟨x, hx, rfl, rfl⟩ := reference_eq_ok.1 h
          have := hτ n x (hP n t (by simp)) hx d (r.flatMap (exchange τ))
          rwa [Nat.add_right_comm] at this
        | word name =>
          obtain ⟨vs, w, x, rfl, he, hx, rfl⟩ := call_eq_ok.1 h
          exact call_eq_ok.2 ⟨_, w, x, rfl, inner (hP.suffix ⟨[_, _], rfl⟩) he, hx, rfl⟩
        | symbol s =>
          cases s with
          | opening =>
            exact parens_eq_ok.2 (inner (hP.suffix (List.suffix_cons _ _)) (parens_eq_ok.1 h))
          | minus =>
            obtain ⟨w, ho, rfl⟩ := negative_eq_ok.1 h
            exact negative_eq_ok.2 ⟨w, iho us w r (hP.suffix (List.suffix_cons _ _)) hr ho, rfl⟩
          | plus => exact iho us v r (hP.suffix (List.suffix_cons _ _)) hr h
          | _ => cases h
    · obtain ⟨w, us, ho, hc⟩ := expression_eq_ok.1 h
      obtain ⟨vs, rfl, -⟩ := (read_sound d).1 ts w us ho
      refine expression_eq_ok.2 ⟨w, _, iho _ w us hP (refersNext_of_chain hr hc) ho, ?_⟩
      exact chain_exchange (readsRight d) (readsRight (d + k))
        (fun s j us v r hs => ihe _ _ (Level.bounds_right hs) us v r) hl (Nat.le_refl _)
        (Nat.le_refl _) (hP.suffix (List.suffix_append _ _)) hr hc

end Expr

end Worksheet
