import Mathlib
import Worksheet.Expr.Evaluate

/-!
# The grammar of expressions

Expressions group by five levels. Comparisons, sums and products are chains that group to the left,
a power has its right operand at its own level, and the operands are literals, references,
parentheses, calls, and signs in front of an operand:

* `comparison := sum (compare sum)*`
* `sum := product (('+' | '-') product)*`
* `product := power (('*' | '/') power)*`
* `power := operand ('^' power)?`
* `operand := NUMBER | CURRENCY | REFERENCE | '(' comparison ')' | NAME '(' comparison ')' |
  '-' operand | '+' operand`

`Derives` is this grammar with the trees that it builds, and `Tree.value?` what a tree is worth.

**Theorem (`Derives.unique`).** The grammar is unambiguous: tokens have at most one tree.

The proof compares two derivations that begin the same text of tokens and that no operator of their
level continues (`Closed`). They take the same tokens, so the rest of one is the rest of the other.
-/

namespace Worksheet

namespace Expr

/-! ## Trees -/

/-- An expression as it is grouped. Parentheses are part of the tree. -/
inductive Tree where
  | number (value : Float) (percent : Bool) (text : Text)
  | currency (value : Float) (text : Text)
  | reference (line : Nat) (text : Text)
  | parens (e : Tree)
  | call (name : Text) (e : Tree)
  | negative (e : Tree)
  | positive (e : Tree)
  | binary (s : Symbol) (left right : Tree)

/-- What a reference is worth. Without a resolver there is no answer. -/
def lookup (resolve : Option Resolver) (n : Nat) : Except ParseError Float :=
  match resolve with
  | none => .error (.noResolver n)
  | some resolve => resolve n

namespace Tree

/-- Whether a tree is a bare percentage: a percent literal, with nothing around it but signs and
parentheses. -/
def isPercent : Tree → Bool
  | number _ percent _ => percent
  | parens e | negative e | positive e => e.isPercent
  | currency .. | reference .. | call .. | binary .. => false

/-- The value of a tree, if all its references have one and all its functions exist. A percentage on
the right of `+` or `-` scales the left operand. -/
def value? (resolve : Option Resolver) : Tree → Option Float
  | number v _ _ | currency v _ => some v
  | reference n _ => (lookup resolve n).toOption
  | parens e | positive e => e.value? resolve
  | negative e => (e.value? resolve).map fun x => -x
  | call name e => do
    let x ← e.value? resolve
    let f ← MathFunction.ofName? name
    return f.apply x
  | binary s a b => do
    let x ← a.value? resolve
    let y ← b.value? resolve
    return match s, b.isPercent with
      | .plus, true => x * (1 + y)
      | .minus, true => x * (1 - y)
      | s, _ => s.combine ⟨x, false⟩ ⟨y, false⟩

end Tree

/-! ## Levels -/

inductive Level where
  | comparison | sum | product | power | operand
  deriving DecidableEq, Repr

namespace Level

/-- The level whose expressions an operator of this level joins. -/
def tighter? : Level → Option Level
  | comparison => some sum
  | sum => some product
  | product => some power
  | power => some operand
  | operand => none

/-- How tightly the operators of a level bind. -/
def rank : Level → Nat
  | comparison => 0
  | sum => 1
  | product => 2
  | power => 3
  | operand => 4

/-- The level whose expressions an operator makes. -/
def ofSymbol? : Symbol → Option Level
  | .greater | .less | .greaterEq | .lessEq | .equal | .notEqual => some comparison
  | .plus | .minus => some sum
  | .star | .slash => some product
  | .caret => some power
  | .opening | .closing => none

theorem rank_tighter {l m : Level} (h : l.tighter? = some m) : m.rank = l.rank + 1 := by
  cases l <;> cases h <;> rfl

theorem eq_of_rank_eq {l m : Level} (h : l.rank = m.rank) : l = m := by
  cases l <;> cases m <;> first | rfl | cases h

theorem exists_tighter {l m : Level} (h : l.rank < m.rank) : ∃ k, l.tighter? = some k := by
  cases l with
  | operand => cases m <;> simp [rank] at h
  | _ => exact ⟨_, rfl⟩

end Level

/-! ## Derivations -/

/-- The tokens `ts` are an expression of level `l`, grouped as the tree. -/
inductive Derives : Level → List Token → Tree → Prop
  | number (v : Float) (p : Bool) (t : Text) : Derives .operand [.number v p t] (.number v p t)
  | currency (v : Float) (t : Text) : Derives .operand [.currency v t] (.currency v t)
  | reference (n : Nat) (t : Text) : Derives .operand [.reference n t] (.reference n t)
  | parens {ts : List Token} {e : Tree} : Derives .comparison ts e →
      Derives .operand (.symbol .opening :: (ts ++ [.symbol .closing])) (.parens e)
  | call {ts : List Token} {e : Tree} (name : Text) : Derives .comparison ts e →
      Derives .operand (.word name :: .symbol .opening :: (ts ++ [.symbol .closing])) (.call name e)
  | negative {ts : List Token} {e : Tree} : Derives .operand ts e →
      Derives .operand (.symbol .minus :: ts) (.negative e)
  | positive {ts : List Token} {e : Tree} : Derives .operand ts e →
      Derives .operand (.symbol .plus :: ts) (.positive e)
  | lift {l m : Level} {ts : List Token} {e : Tree} : l.tighter? = some m → Derives m ts e →
      Derives l ts e
  /-- A chain goes on to the right, so it groups to the left. -/
  | chain {l m : Level} {s : Symbol} {ts us : List Token} {a b : Tree} : l ≠ .power →
      l.tighter? = some m → Level.ofSymbol? s = some l → Derives l ts a → Derives m us b →
      Derives l (ts ++ .symbol s :: us) (.binary s a b)
  | power {ts us : List Token} {a b : Tree} : Derives .operand ts a → Derives .power us b →
      Derives .power (ts ++ .symbol .caret :: us) (.binary .caret a b)

theorem Derives.ne_nil {l : Level} {ts : List Token} {e : Tree} (h : Derives l ts e) : ts ≠ [] := by
  induction h with
  | lift _ _ ih => exact ih
  | _ => simp

/-- An expression of a level is one of every looser level. -/
theorem Derives.lower {l m : Level} {ts : List Token} {e : Tree} (h : Derives m ts e)
    (hl : l.rank ≤ m.rank) : Derives l ts e := by
  rcases Nat.eq_or_lt_of_le hl with hl | hl
  · rw [Level.eq_of_rank_eq hl]
    exact h
  · obtain ⟨k, hk⟩ := Level.exists_tighter hl
    have hr := Level.rank_tighter hk
    exact .lift hk (h.lower (by omega))
termination_by m.rank - l.rank

/-! ## What may follow -/

/-- No operator of the level or a tighter one comes next. -/
def Closed (l : Level) (r : List Token) : Prop :=
  ∀ s r', r = .symbol s :: r' → ∀ k, Level.ofSymbol? s = some k → k.rank < l.rank

theorem closed_nil (l : Level) : Closed l [] := by
  intro s r' h
  cases h

theorem closed_operand (r : List Token) : Closed .operand r := by
  intro s r' _ k hk
  cases s <;> cases hk <;> decide

theorem closed_closing (l : Level) (r : List Token) : Closed l (.symbol .closing :: r) := by
  intro s r' h k hk
  cases h
  cases hk

theorem Closed.mono {l m : Level} {r : List Token} (h : Closed l r) (hl : l.rank ≤ m.rank) :
    Closed m r :=
  fun s r' hr k hk => Nat.lt_of_lt_of_le (h s r' hr k hk) hl

theorem closed_operator {l m : Level} {s : Symbol} (h : Level.ofSymbol? s = some l)
    (hl : l.rank < m.rank) (r : List Token) : Closed m (.symbol s :: r) := by
  intro s' r' hr k hk
  cases hr
  rwa [← Option.some.inj (h.symm.trans hk)]

theorem not_closed_operator {l : Level} {s : Symbol} (h : Level.ofSymbol? s = some l)
    (r : List Token) : ¬Closed l (.symbol s :: r) :=
  fun hc => Nat.lt_irrefl _ (hc s r rfl l h)

/-! ## Chains from the left

The derivation of a chain ends with its last operator. `Links` tells the same chain from its first
operand on, which is the order in which two chains are compared.
-/

/-- The tokens of operators of the level `l`, each with its right operand, turn the tree `a` into
`e`. -/
inductive Links (l m : Level) : Tree → List Token → Tree → Prop
  | nil (a : Tree) : Links l m a [] a
  | cons {s : Symbol} {us vs : List Token} {a b e : Tree} : Level.ofSymbol? s = some l →
      Derives m us b → Links l m (.binary s a b) vs e →
      Links l m a (.symbol s :: (us ++ vs)) e

theorem Links.snoc {l m : Level} {s : Symbol} {ts us : List Token} {a b e : Tree}
    (h : Links l m a ts e) (hs : Level.ofSymbol? s = some l) (hb : Derives m us b) :
    Links l m a (ts ++ .symbol s :: us) (.binary s e b) := by
  induction h with
  | nil a => simpa using Links.cons hs hb (Links.nil _)
  | cons hs' hb' _ ih => simpa using Links.cons hs' hb' ih

/-- A chain is a first operand with links. -/
theorem Derives.links {l m : Level} {ts : List Token} {e : Tree} (h : Derives l ts e)
    (hl : l ≠ .power) (hm : l.tighter? = some m) :
    ∃ us vs a, Derives m us a ∧ Links l m a vs e ∧ ts = us ++ vs := by
  induction h with
  | lift hm' h _ =>
    obtain rfl : _ = m := Option.some.inj (hm'.symm.trans hm)
    exact ⟨_, [], _, h, .nil _, by simp⟩
  | chain _ hm' hs _ hb iha _ =>
    obtain rfl : _ = m := Option.some.inj (hm'.symm.trans hm)
    obtain ⟨us, vs, a, ha, hv, rfl⟩ := iha hl hm
    exact ⟨us, _, a, ha, hv.snoc hs hb, by simp⟩
  | power => exact absurd rfl hl
  | _ => simp [Level.tighter?] at hm

/-! ## One tree -/

/-- Two derivations at the front of the same tokens agree, where no operator continues them. -/
def Determined (l : Level) (n : Nat) : Prop :=
  ∀ ts us e e' r r', ts.length ≤ n → us.length ≤ n → Derives l ts e → Derives l us e' →
    ts ++ r = us ++ r' → Closed l r → Closed l r' → e = e' ∧ r = r'

theorem Links.closed {l m : Level} {a e : Tree} {ts r : List Token} (h : Links l m a ts e)
    (hm : l.tighter? = some m) (hr : Closed l r) : Closed m (ts ++ r) := by
  have hlt : l.rank < m.rank := by rw [Level.rank_tighter hm]; omega
  cases h with
  | nil => exact hr.mono (Nat.le_of_lt hlt)
  | cons hs _ _ => exact closed_operator hs hlt _

theorem Links.determined {l m : Level} {n : Nat} (hd : Determined m n)
    (hm : l.tighter? = some m) {a e : Tree} {ts : List Token} (h : Links l m a ts e) :
    ∀ {us : List Token} {e' : Tree} {r r' : List Token}, Links l m a us e' → ts.length ≤ n →
      us.length ≤ n → ts ++ r = us ++ r' → Closed l r → Closed l r' → e = e' ∧ r = r' := by
  induction h with
  | nil a =>
    intro us e' r r' h' _ _ heq hr _
    cases h' with
    | nil => exact ⟨rfl, heq⟩
    | cons hs _ _ =>
      simp only [List.nil_append, List.cons_append] at heq
      subst heq
      exact absurd hr (not_closed_operator hs _)
  | @cons s us vs a b e hs hb hl ih =>
    intro us' e' r r' h' hn hn' heq hr hr'
    cases h' with
    | nil =>
      simp only [List.nil_append, List.cons_append] at heq
      subst heq
      exact absurd hr' (not_closed_operator hs _)
    | @cons s' ws xs _ b' _ hs' hb' hl' =>
      simp only [List.cons_append, List.cons.injEq, Token.symbol.injEq, List.append_assoc] at heq
      obtain ⟨rfl, heq⟩ := heq
      simp only [List.length_cons, List.length_append] at hn hn'
      obtain ⟨rfl, hv⟩ := hd us ws b b' _ _ (by omega) (by omega) hb hb' heq
        (hl.closed hm hr) (hl'.closed hm hr')
      exact ih hl' (by omega) (by omega) hv hr hr'

theorem determined_chain {l m : Level} {n : Nat} (hd : Determined m n) (hl : l ≠ .power)
    (hm : l.tighter? = some m) : Determined l n := by
  intro ts us e e' r r' hn hn' h h' heq hr hr'
  obtain ⟨us₁, vs₁, a, ha, hv, rfl⟩ := h.links hl hm
  obtain ⟨us₂, vs₂, a', ha', hv', rfl⟩ := h'.links hl hm
  simp only [List.length_append, List.append_assoc] at hn hn' heq
  obtain ⟨rfl, hrest⟩ := hd us₁ us₂ a a' _ _ (by omega) (by omega) ha ha' heq
    (hv.closed hm hr) (hv'.closed hm hr')
  exact hv.determined hd hm hv' (by omega) (by omega) hrest hr hr'

/-- An operand, or one with its power. -/
theorem Derives.power_cases {ts : List Token} {e : Tree} (h : Derives .power ts e) :
    Derives .operand ts e ∨ ∃ us vs a b, Derives .operand us a ∧ Derives .power vs b ∧
      ts = us ++ .symbol .caret :: vs ∧ e = .binary .caret a b := by
  cases h with
  | lift hm h =>
    cases hm
    exact .inl h
  | chain hl => exact absurd rfl hl
  | power ha hb => exact .inr ⟨_, _, _, _, ha, hb, rfl, rfl⟩

theorem not_closed_caret (r : List Token) : ¬Closed .power (.symbol .caret :: r) :=
  not_closed_operator rfl r

theorem determined_power {n : Nat} (hd : Determined .operand n)
    (ih : ∀ k < n, Determined .power k) : Determined .power n := by
  intro ts us e e' r r' hn hn' h h' heq hr hr'
  rcases h.power_cases with h | ⟨us₁, vs₁, a, b, ha, hb, rfl, rfl⟩ <;>
    rcases h'.power_cases with h' | ⟨us₂, vs₂, a', b', ha', hb', rfl, rfl⟩
  · exact hd ts us e e' r r' hn hn' h h' heq (closed_operand r) (closed_operand r')
  · simp only [List.length_append, List.append_assoc, List.cons_append] at hn' heq
    obtain ⟨-, rfl⟩ := hd ts us₂ e a' _ _ hn (by omega) h ha' heq (closed_operand _)
      (closed_operand _)
    exact absurd hr (not_closed_caret _)
  · simp only [List.length_append, List.append_assoc, List.cons_append] at hn heq
    obtain ⟨-, rfl⟩ := hd us₁ us a e' _ _ (by omega) hn' ha h' heq (closed_operand _)
      (closed_operand _)
    exact absurd hr' (not_closed_caret _)
  · simp only [List.length_append, List.length_cons, List.append_assoc, List.cons_append] at *
    obtain ⟨rfl, hrest⟩ := hd us₁ us₂ a a' _ _ (by omega) (by omega) ha ha' heq
      (closed_operand _) (closed_operand _)
    obtain ⟨rfl, rfl⟩ := ih (n - 1) (by omega) vs₁ vs₂ b b' r r' (by omega) (by omega) hb hb'
      (List.tail_eq_of_cons_eq hrest) hr hr'
    exact ⟨rfl, rfl⟩

theorem determined_operand {n : Nat} (ih : ∀ k < n, ∀ l, Determined l k) :
    Determined .operand n := by
  intro ts us e e' r r' hn hn' h h' heq _ _
  cases h with
  | lift hm => cases hm
  | chain _ hm => cases hm
  | number | currency | reference =>
    cases h' with
    | lift hm => cases hm
    | chain _ hm => cases hm
    | _ => simp_all
  | @parens ts₁ e₁ h =>
    cases h' with
    | lift hm => cases hm
    | chain _ hm => cases hm
    | @parens ts₂ e₂ h' =>
      simp only [List.length_cons, List.length_append, List.cons_append, List.append_assoc,
        List.cons.injEq, true_and] at hn hn' heq
      obtain ⟨rfl, hrest⟩ := ih (n - 1) (by omega) .comparison ts₁ ts₂ e₁ e₂ _ _ (by omega)
        (by omega) h h' heq (closed_closing _ _) (closed_closing _ _)
      exact ⟨rfl, List.tail_eq_of_cons_eq hrest⟩
    | _ => simp at heq
  | @call ts₁ e₁ name h =>
    cases h' with
    | lift hm => cases hm
    | chain _ hm => cases hm
    | @call ts₂ e₂ name' h' =>
      simp only [List.length_cons, List.length_append, List.cons_append, List.append_assoc,
        List.cons.injEq, Token.word.injEq, true_and] at hn hn' heq
      obtain ⟨rfl, heq⟩ := heq
      obtain ⟨rfl, hrest⟩ := ih (n - 1) (by omega) .comparison ts₁ ts₂ e₁ e₂ _ _ (by omega)
        (by omega) h h' heq (closed_closing _ _) (closed_closing _ _)
      exact ⟨rfl, List.tail_eq_of_cons_eq hrest⟩
    | _ => simp at heq
  | @negative ts₁ e₁ h =>
    cases h' with
    | lift hm => cases hm
    | chain _ hm => cases hm
    | @negative ts₂ e₂ h' =>
      simp only [List.length_cons, List.cons_append, List.cons.injEq, true_and] at hn hn' heq
      obtain ⟨rfl, rfl⟩ := ih (n - 1) (by omega) .operand ts₁ ts₂ e₁ e₂ _ _ (by omega)
        (by omega) h h' heq (closed_operand _) (closed_operand _)
      exact ⟨rfl, rfl⟩
    | _ => simp at heq
  | @positive ts₁ e₁ h =>
    cases h' with
    | lift hm => cases hm
    | chain _ hm => cases hm
    | @positive ts₂ e₂ h' =>
      simp only [List.length_cons, List.cons_append, List.cons.injEq, true_and] at hn hn' heq
      obtain ⟨rfl, rfl⟩ := ih (n - 1) (by omega) .operand ts₁ ts₂ e₁ e₂ _ _ (by omega)
        (by omega) h h' heq (closed_operand _) (closed_operand _)
      exact ⟨rfl, rfl⟩
    | _ => simp at heq

theorem determined (n : Nat) : ∀ l, Determined l n := by
  induction n using Nat.strongRecOn with
  | ind n ih =>
    have h₄ := determined_operand ih
    have h₃ := determined_power h₄ fun k hk => ih k hk .power
    have h₂ : Determined .product n := determined_chain h₃ (by decide) rfl
    have h₁ : Determined .sum n := determined_chain h₂ (by decide) rfl
    have h₀ : Determined .comparison n := determined_chain h₁ (by decide) rfl
    intro l
    cases l
    · exact h₀
    · exact h₁
    · exact h₂
    · exact h₃
    · exact h₄

/-- **The grammar is unambiguous.** -/
theorem Derives.unique {l : Level} {ts : List Token} {e e' : Tree} (h : Derives l ts e)
    (h' : Derives l ts e') : e = e' :=
  (determined ts.length l ts ts e e' [] [] (Nat.le_refl _) (Nat.le_refl _) h h' rfl (closed_nil l)
    (closed_nil l)).1

end Expr

end Worksheet
