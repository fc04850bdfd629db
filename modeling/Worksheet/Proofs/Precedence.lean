import Worksheet.Proofs.Grammar
import Worksheet.Proofs.Result

/-!
# Reading by precedence

Tokens are evaluated as they are read, by the precedence of the operators. Here that reading is
compared with the grammar.

**Theorem (`evaluateTokens_iff_derives`).** Unless its limit of nesting is hit, the reading gives a
value to the expressions of the grammar whose references and functions have one, it is the value of
their tree, and all other tokens fail.

* *Sound* (`read_sound`): what is read is an expression of the grammar, and the value is that of its
  tree. The invariant of the loop over operators is `Fits`: what has been read so far can be the
  left operand of the operator that comes next.
* *Complete* (`Derives.readFrom`): at some depth, an expression is read as a whole, if what follows
  does not continue it.
* *Monotone* (`read_mono`): a reading that does not hit its limit is that of every higher limit, so
  the depth of the second point does not matter.
* *Failing* (`read_error`): twice as many levels as there are tokens are always enough, so every
  failure is that of the tokens or of a reference.
-/

namespace Worksheet

/-- The failures that are about the tokens themselves: they make no expression, or name no
function. -/
def ParseError.IsOwn : ParseError → Prop
  | .expected _ | .endOfExpression | .unexpected _ | .unknownFunction _ => True
  | .noResolver _ | .badReference _ | .unresolved _ | .tooDeep => False

namespace Expr

open Result

variable {resolve : Option Resolver}

/-! ## Steps of a reading -/

theorem expect_eq_ok {s : Symbol} {ts r : List Token} :
    expect s ts = .ok r ↔ ts = .symbol s :: r := by
  unfold expect
  split
  · split
    · next hs => simp [hs]
    · next hs => simp [hs]
  · next hs =>
    simp only [reduceCtorEq, false_iff]
    exact hs s r

/-- A parenthesis closes behind its expression. -/
theorem parens_eq_ok {d : Nat} {ts r : List Token} {v : Value} :
    operand resolve (d + 1) (.symbol .opening :: ts) = .ok (v, r) ↔
      expression resolve d 0 ts = .ok (v, .symbol .closing :: r) := by
  simp only [operand, bind_eq_ok, pure_eq_ok, expect_eq_ok, Prod.exists, Prod.mk.injEq]
  constructor
  · rintro ⟨w, us, he, _, rfl, rfl, rfl⟩
    exact he
  · intro he
    exact ⟨v, _, he, r, rfl, rfl, rfl⟩

theorem call_eq_ok {d : Nat} {name : Text} {ts r : List Token} {v : Value} :
    operand resolve (d + 1) (.word name :: ts) = .ok (v, r) ↔
      ∃ us w x, ts = .symbol .opening :: us ∧
        expression resolve d 0 us = .ok (w, .symbol .closing :: r) ∧
        applyFunction name w.number = .ok x ∧ v = ⟨x, false⟩ := by
  simp only [operand, bind_eq_ok, pure_eq_ok, expect_eq_ok, Prod.exists, Prod.mk.injEq]
  constructor
  · rintro ⟨us, rfl, w, vs, he, _, rfl, x, hx, rfl, rfl⟩
    exact ⟨us, w, x, rfl, he, hx, rfl⟩
  · rintro ⟨us, w, x, rfl, he, hx, rfl⟩
    exact ⟨us, rfl, w, _, he, r, rfl, x, hx, rfl, rfl⟩

theorem negative_eq_ok {d : Nat} {ts r : List Token} {v : Value} :
    operand resolve (d + 1) (.symbol .minus :: ts) = .ok (v, r) ↔
      ∃ w, operand resolve d ts = .ok (w, r) ∧ v = ⟨-w.number, w.percent⟩ := by
  simp only [operand, bind_eq_ok, pure_eq_ok, Prod.exists, Prod.mk.injEq]
  constructor
  · rintro ⟨w, us, ho, rfl, rfl⟩
    exact ⟨w, ho, rfl⟩
  · rintro ⟨w, ho, rfl⟩
    exact ⟨w, r, ho, rfl, rfl⟩

theorem reference_eq_ok {d n : Nat} {t : Text} {ts r : List Token} {v : Value} :
    operand resolve (d + 1) (.reference n t :: ts) = .ok (v, r) ↔
      ∃ x, lookup resolve n = .ok x ∧ v = ⟨x, false⟩ ∧ r = ts := by
  cases resolve with
  | none => simp [operand, lookup]
  | some f =>
    simp only [operand, lookup, bind_eq_ok, pure_eq_ok, Prod.mk.injEq]
    constructor
    · rintro ⟨x, hx, rfl, rfl⟩
      exact ⟨x, hx, rfl, rfl⟩
    · rintro ⟨x, hx, rfl, rfl⟩
      exact ⟨x, hx, rfl, rfl⟩

theorem expression_eq_ok {d least : Nat} {ts r : List Token} {v : Value} :
    expression resolve (d + 1) least ts = .ok (v, r) ↔
      ∃ w us, operand resolve d ts = .ok (w, us) ∧
        chain (expression resolve d) least us.length w us = .ok (v, r) := by
  rw [expression]
  split
  · next heq => simp [heq]
  · next w us heq =>
    rw [heq]
    constructor
    · intro h
      exact ⟨w, us, rfl, h⟩
    · rintro ⟨_, _, ho, h⟩
      cases ho
      exact h

/-! ## Precedence and levels -/

namespace Level

/-- The precedence of the operators of a level. -/
def precedence : Level → Nat
  | comparison => 5
  | sum => 10
  | product => 20
  | power => 30
  | operand => 0

/-- The level of the operand on the right of an operator. -/
def right : Level → Level
  | comparison => sum
  | sum => product
  | product | power => power
  | operand => operand

/-- The level of the operand on the left of an operator. -/
def left : Level → Level
  | power => operand
  | l => l

/-- The operators that bind tighter than `least` are those of the level `l` and tighter ones. -/
def Bounds (least : Nat) (l : Level) : Prop :=
  ∀ s k, ofSymbol? s = some k → (least < k.precedence ↔ l.rank ≤ k.rank)

theorem bounds_comparison : Bounds 0 comparison := by
  intro s k hk
  cases s <;> cases hk <;> decide

/-- The precedence down to which the right operand of an operator is read. -/
def rightBound : Level → Nat
  | power => 29
  | l => l.precedence

/-- What is read on the right of an operator is an expression of the level of its operand. -/
theorem bounds_right {l : Level} {s : Symbol} (hs : ofSymbol? s = some l) :
    Bounds l.rightBound l.right := by
  intro s' k hk
  cases s <;> cases hs <;> cases s' <;> cases hk <;> decide

end Level

theorem precedence?_eq (s : Symbol) : s.precedence? = (Level.ofSymbol? s).map Level.precedence := by
  cases s <;> rfl

theorem rightBound_eq {s : Symbol} {l : Level} (h : Level.ofSymbol? s = some l) :
    (if s = .caret then l.precedence - 1 else l.precedence) = l.rightBound := by
  cases s <;> cases h <;> rfl

/-! ## One turn of the loop over operators -/

section Chain

variable {right : Nat → List Token → Reading} {least n : Nat} {l k : Level} {s : Symbol}
  {left v : Value} {ts r : List Token}

theorem chain_operator (hs : Level.ofSymbol? s = some k) (hk : least < k.precedence) :
    chain right least (n + 1) left (.symbol s :: ts) =
      match right k.rightBound ts with
      | .error e => .error e
      | .ok (v, r) => chain right least n ⟨s.combine left v, false⟩ r := by
  rw [chain]
  simp only [precedence?_eq, hs, Option.map_some, rightBound_eq hs]
  refine (if_neg (Nat.not_le.2 hk)).trans ?_
  rcases right k.rightBound ts with _ | ⟨v, r⟩ <;> rfl

theorem chain_closed (hl : Level.Bounds least l) (h : Closed l ts) :
    chain right least n left ts = .ok (left, ts) := by
  cases n with
  | zero => rw [chain]
  | succ n =>
    unfold chain
    split
    · next s r =>
      rw [precedence?_eq]
      cases hs : Level.ofSymbol? s with
      | none => rfl
      | some k =>
        have hk : ¬least < k.precedence := fun hk =>
          Nat.not_le.2 (h s r rfl k hs) ((hl s k hs).1 hk)
        simp [Nat.not_lt.1 hk]
    · rfl

end Chain

/-! ## What is read is an expression -/

/-- The tokens are an expression of level `l`, and `v` is its value. -/
def Worth (resolve : Option Resolver) (l : Level) (ts : List Token) (v : Value) : Prop :=
  ∃ e, Derives l ts e ∧ e.value? resolve = some v.number ∧ e.isPercent = v.percent

theorem Worth.lower {l m : Level} {ts : List Token} {v : Value} (h : Worth resolve m ts v)
    (hl : l.rank ≤ m.rank) : Worth resolve l ts v := by
  obtain ⟨e, he, hv⟩ := h
  exact ⟨e, he.lower hl, hv⟩

theorem Tree.value?_binary {s : Symbol} {a b : Tree} {v w : Value}
    (hv : a.value? resolve = some v.number) (hw : b.value? resolve = some w.number)
    (hp : b.isPercent = w.percent) :
    (Tree.binary s a b).value? resolve = some (s.combine v w) := by
  obtain ⟨y, p⟩ := w
  simp only [Tree.value?, hv, hw, hp]
  cases p <;> cases s <;> rfl

theorem Tree.value?_operands {s : Symbol} {a b : Tree} {x : Float}
    (h : (Tree.binary s a b).value? resolve = some x) :
    ∃ y, a.value? resolve = some y ∧ ∃ z, b.value? resolve = some z := by
  simp only [Tree.value?, Option.bind_eq_bind, Option.bind_eq_some_iff] at h
  obtain ⟨y, hy, z, hz, -⟩ := h
  exact ⟨y, hy, z, hz⟩

/-- An operator joins an operand of the level on its left with one of the level on its right. -/
theorem Worth.binary {s : Symbol} {k : Level} {ts us : List Token} {v w : Value}
    (hs : Level.ofSymbol? s = some k) (hv : Worth resolve k.left ts v)
    (hw : Worth resolve k.right us w) :
    Worth resolve k (ts ++ .symbol s :: us) ⟨s.combine v w, false⟩ := by
  obtain ⟨a, ha, hva, -⟩ := hv
  obtain ⟨b, hb, hvb, hpb⟩ := hw
  refine ⟨.binary s a b, ?_, Tree.value?_binary hva hvb hpb, rfl⟩
  cases k with
  | power =>
    cases s <;> cases hs
    exact .power ha hb
  | operand => cases s <;> cases hs
  | _ => exact .chain (by decide) rfl hs ha hb

/-- What has been read, `us`, is an expression of level `l`, and it can be the left operand of the
operator that comes next. -/
def Fits (resolve : Option Resolver) (l : Level) (us : List Token) (v : Value)
    (ts : List Token) : Prop :=
  Worth resolve l us v ∧
    ∀ s r k, ts = .symbol s :: r → Level.ofSymbol? s = some k → Worth resolve k.left us v

theorem fits_operand {l : Level} {us ts : List Token} {v : Value}
    (h : Worth resolve .operand us v) : Fits resolve l us v ts := by
  refine ⟨h.lower (by cases l <;> decide), fun s r k _ _ => h.lower ?_⟩
  cases k <;> decide

theorem fits_binary {l k : Level} {s : Symbol} {us ts r : List Token} {v w : Value}
    (hs : Level.ofSymbol? s = some k) (hl : l.rank ≤ k.rank) (hv : Worth resolve k.left us v)
    (hw : Worth resolve k.right ts w) (hr : Closed k.right r) :
    Fits resolve l (us ++ .symbol s :: ts) ⟨s.combine v w, false⟩ r := by
  have h := Worth.binary hs hv hw
  refine ⟨h.lower hl, fun s' r' k' hr' hs' => h.lower ?_⟩
  have hlt := hr s' r' hr' k' hs'
  revert hlt
  cases s <;> cases hs <;> cases s' <;> cases hs' <;> decide

/-- What a reading of right operands has to tell the loop. -/
def ReadsRight (resolve : Option Resolver) (right : Nat → List Token → Reading) : Prop :=
  ∀ s k ts v r, Level.ofSymbol? s = some k → right k.rightBound ts = .ok (v, r) →
    ∃ us, ts = us ++ r ∧ Worth resolve k.right us v ∧ Closed k.right r

theorem Worth.length_pos {l : Level} {ts : List Token} {v : Value} (h : Worth resolve l ts v) :
    0 < ts.length := by
  obtain ⟨e, he, -⟩ := h
  exact List.length_pos_iff.2 he.ne_nil

/-- The loop goes on as long as an operator of its levels comes next. -/
theorem chain_sound {right : Nat → List Token → Reading} {least n : Nat} {l : Level}
    {us ts r : List Token} {left v : Value} (hr : ReadsRight resolve right)
    (hl : Level.Bounds least l) (hn : ts.length ≤ n) (hf : Fits resolve l us left ts)
    (h : chain right least n left ts = .ok (v, r)) :
    ∃ ws, ts = ws ++ r ∧ Worth resolve l (us ++ ws) v ∧ Closed l r := by
  have stop (hc : Closed l ts) :
      ∃ ws, ts = ws ++ r ∧ Worth resolve l (us ++ ws) v ∧ Closed l r := by
    rw [chain_closed hl hc] at h
    cases h
    exact ⟨[], rfl, by simpa using hf.1, hc⟩
  induction n generalizing us ts left with
  | zero =>
    cases List.length_eq_zero_iff.1 (Nat.le_zero.1 hn)
    exact stop (closed_nil l)
  | succ n ih =>
    by_cases hc : Closed l ts
    · exact stop hc
    · simp only [Closed, Classical.not_forall] at hc
      obtain ⟨s, ts', rfl, k, hs, hk⟩ := hc
      have hk := Nat.not_lt.1 hk
      rw [chain_operator hs ((hl s k hs).2 hk)] at h
      split at h
      · cases h
      · next w r' heq =>
        obtain ⟨us', rfl, hw, hcr⟩ := hr s k ts' w r' hs heq
        have hf' := fits_binary hs hk (hf.2 s _ k rfl hs) hw hcr
        have hlen : r'.length ≤ n := by
          simp only [List.length_cons, List.length_append] at hn
          omega
        obtain ⟨ws, rfl, hv, hc⟩ := ih hlen hf' h fun hc => by
          rw [chain_closed hl hc] at h
          cases h
          exact ⟨[], rfl, by simpa using hf'.1, hc⟩
        exact ⟨.symbol s :: (us' ++ ws), by simp, by simpa using hv, hc⟩

theorem Worth.parens {ts : List Token} {v : Value} (h : Worth resolve .comparison ts v) :
    Worth resolve .operand (.symbol .opening :: (ts ++ [.symbol .closing])) v := by
  obtain ⟨e, he, hv, hp⟩ := h
  exact ⟨.parens e, .parens he, hv, hp⟩

theorem Worth.call {ts : List Token} {name : Text} {v : Value} {x : Float}
    (h : Worth resolve .comparison ts v) (hx : applyFunction name v.number = .ok x) :
    Worth resolve .operand (.word name :: .symbol .opening :: (ts ++ [.symbol .closing]))
      ⟨x, false⟩ := by
  obtain ⟨e, he, hv, -⟩ := h
  refine ⟨.call name e, .call name he, ?_, rfl⟩
  unfold applyFunction at hx
  split at hx
  · next f hf =>
    cases hx
    simp [Tree.value?, hv, hf]
  · cases hx

theorem Worth.negative {ts : List Token} {v : Value} (h : Worth resolve .operand ts v) :
    Worth resolve .operand (.symbol .minus :: ts) ⟨-v.number, v.percent⟩ := by
  obtain ⟨e, he, hv, hp⟩ := h
  exact ⟨.negative e, .negative he, by simp [Tree.value?, hv], hp⟩

theorem Worth.positive {ts : List Token} {v : Value} (h : Worth resolve .operand ts v) :
    Worth resolve .operand (.symbol .plus :: ts) v := by
  obtain ⟨e, he, hv, hp⟩ := h
  exact ⟨.positive e, .positive he, hv, hp⟩

theorem Worth.reference {n : Nat} {t : Text} {x : Float} (h : lookup resolve n = .ok x) :
    Worth resolve .operand [.reference n t] ⟨x, false⟩ :=
  ⟨.reference n t, .reference n t, by simp [Tree.value?, h, Except.toOption], rfl⟩

/-- **What is read is an expression, with the value of its tree.** -/
theorem read_sound (d : Nat) :
    (∀ ts v r, operand resolve d ts = .ok (v, r) →
      ∃ us, ts = us ++ r ∧ Worth resolve .operand us v) ∧
    ∀ least l, Level.Bounds least l → ∀ ts v r, expression resolve d least ts = .ok (v, r) →
      ∃ us, ts = us ++ r ∧ Worth resolve l us v ∧ Closed l r := by
  induction d with
  | zero =>
    exact ⟨fun _ _ _ h => by simp [operand] at h, fun _ _ _ _ _ _ h => by simp [expression] at h⟩
  | succ d ih =>
    obtain ⟨iho, ihe⟩ := ih
    have inner : ∀ ts v r, expression resolve d 0 ts = .ok (v, .symbol .closing :: r) →
        ∃ us, ts = us ++ .symbol .closing :: r ∧ Worth resolve .comparison us v := by
      intro ts v r h
      obtain ⟨us, hts, hw, -⟩ := ihe 0 .comparison Level.bounds_comparison ts v _ h
      exact ⟨us, hts, hw⟩
    refine ⟨fun ts v r h => ?_, fun least l hl ts v r h => ?_⟩
    · match ts with
      | [] => simp [operand] at h
      | .number x p t :: us =>
        simp only [operand, Except.ok.injEq, Prod.mk.injEq] at h
        obtain ⟨rfl, rfl⟩ := h
        exact ⟨[.number x p t], rfl, _, .number x p t, rfl, rfl⟩
      | .currency x t :: us =>
        simp only [operand, Except.ok.injEq, Prod.mk.injEq] at h
        obtain ⟨rfl, rfl⟩ := h
        exact ⟨[.currency x t], rfl, _, .currency x t, rfl, rfl⟩
      | .reference n t :: us =>
        obtain ⟨x, hx, rfl, rfl⟩ := reference_eq_ok.1 h
        exact ⟨[.reference n t], rfl, .reference hx⟩
      | .word name :: us =>
        obtain ⟨vs, w, x, rfl, he, hx, rfl⟩ := call_eq_ok.1 h
        obtain ⟨ws, rfl, hw⟩ := inner vs w r he
        exact ⟨_, by simp, hw.call hx⟩
      | .symbol .opening :: us =>
        obtain ⟨ws, rfl, hw⟩ := inner us v r (parens_eq_ok.1 h)
        exact ⟨_, by simp, hw.parens⟩
      | .symbol .minus :: us =>
        obtain ⟨w, ho, rfl⟩ := negative_eq_ok.1 h
        obtain ⟨ws, rfl, hw⟩ := iho us w r ho
        exact ⟨_, rfl, hw.negative⟩
      | .symbol .plus :: us =>
        rw [operand] at h
        obtain ⟨ws, rfl, hw⟩ := iho us v r h
        exact ⟨_, rfl, hw.positive⟩
      | .symbol .star :: _ | .symbol .slash :: _ | .symbol .caret :: _ | .symbol .closing :: _
      | .symbol .greater :: _ | .symbol .less :: _ | .symbol .greaterEq :: _
      | .symbol .lessEq :: _ | .symbol .equal :: _ | .symbol .notEqual :: _ =>
        simp [operand] at h
    · obtain ⟨w, us, ho, hc⟩ := expression_eq_ok.1 h
      obtain ⟨vs, rfl, hw⟩ := iho ts w us ho
      have hr : ReadsRight resolve (expression resolve d) :=
        fun s k ts v r hs => ihe _ _ (Level.bounds_right hs) ts v r
      obtain ⟨ws, rfl, hv, hcl⟩ := chain_sound hr hl (Nat.le_refl _) (fits_operand hw) hc
      exact ⟨_, by simp, hv, hcl⟩

theorem readsRight (d : Nat) : ReadsRight resolve (expression resolve d) :=
  fun _ _ ts v r hs => (read_sound d).2 _ _ (Level.bounds_right hs) ts v r

/-! ## An expression is read -/

/-- The loop needs no more turns than there are tokens. -/
theorem chain_fuel {right : Nat → List Token → Reading} (hr : ReadsRight resolve right)
    {least n : Nat} {left : Value} {ts : List Token} (hn : ts.length ≤ n) :
    chain right least n left ts = chain right least ts.length left ts := by
  induction n using Nat.strongRecOn generalizing left ts with
  | ind n ih =>
    match ts, n with
    | [], 0 => rfl
    | [], n + 1 => simp [chain]
    | .number .. :: _, n + 1 | .currency .. :: _, n + 1 | .reference .. :: _, n + 1
    | .word _ :: _, n + 1 => simp [chain]
    | .symbol s :: us, n + 1 =>
      cases hs : Level.ofSymbol? s with
      | none => simp [chain, precedence?_eq, hs]
      | some k =>
        by_cases hk : least < k.precedence
        · rw [List.length_cons, chain_operator hs hk, chain_operator hs hk]
          split
          · rfl
          · next v r heq =>
            obtain ⟨ws, rfl, hw, -⟩ := hr s k us v r hs heq
            simp only [List.length_cons, List.length_append] at hn
            have hpos := hw.length_pos
            rw [ih n (by omega) (by omega), List.length_append]
            exact (ih (ws.length + r.length) (by omega) (by omega)).symm
        · simp [chain, precedence?_eq, hs, Nat.not_lt.1 hk]

/-- The operators that may come behind an expression of the level `l`, when it is not the right
operand of one, are those of a looser level than this. -/
def Level.stop : Level → Level
  | comparison => sum
  | sum => product
  | product | power => power
  | operand => operand

/-- From some depth on, an expression is read as a whole. -/
def ReadFrom (resolve : Option Resolver) (l : Level) (ts : List Token) (v : Value) (d : Nat) :
    Prop :=
  (l = .operand → ∀ r, operand resolve d (ts ++ r) = .ok (v, r)) ∧
    ∀ least r, (∀ k : Level, l.rank ≤ k.rank → k ≠ .operand → least < k.precedence) →
      Closed l.stop r →
      expression resolve (d + 1) least (ts ++ r) = chain (expression resolve d) least r.length v r

theorem readFrom_of_operand {ts : List Token} {v : Value} {d : Nat}
    (h : ∀ r, operand resolve d (ts ++ r) = .ok (v, r)) :
    ReadFrom resolve .operand ts v d := by
  refine ⟨fun _ => h, fun least r _ _ => ?_⟩
  rw [expression, h r]

theorem ReadFrom.lift {l m : Level} {ts : List Token} {v : Value} {d : Nat}
    (h : ReadFrom resolve m ts v d) (hm : l.tighter? = some m) : ReadFrom resolve l ts v d := by
  have hr := Level.rank_tighter hm
  refine ⟨fun hl => absurd hm (by rw [hl]; simp [Level.tighter?]), fun least r hl hc =>
    h.2 least r ?_ ?_⟩
  · exact fun k hk => hl k (by omega)
  · refine hc.mono ?_
    cases l <;> cases hm <;> decide

/-- An expression of a level that nothing continues is read on the right of an operator. -/
theorem ReadFrom.right {k : Level} {s : Symbol} {ts r : List Token} {v : Value} {d : Nat}
    (h : ReadFrom resolve k.right ts v d) (hs : Level.ofSymbol? s = some k)
    (hc : Closed k.right r) :
    expression resolve (d + 1) k.rightBound (ts ++ r) = .ok (v, r) := by
  have hb := Level.bounds_right hs
  rw [h.2, chain_closed hb hc]
  · intro m hm hne
    revert hm hne
    cases s <;> cases hs <;> cases m <;> decide
  · refine hc.mono ?_
    cases s <;> cases hs <;> decide

theorem ReadFrom.binary {k : Level} {s : Symbol} {ts us : List Token} {v w : Value} {d : Nat}
    (hs : Level.ofSymbol? s = some k) (hv : ReadFrom resolve k.left ts v (d + 1))
    (hw : ReadFrom resolve k.right us w d) :
    ReadFrom resolve k (ts ++ .symbol s :: us) ⟨s.combine v w, false⟩ (d + 1) := by
  have hk : k ≠ .operand := by
    rintro rfl
    cases s <;> cases hs
  refine ⟨fun h => absurd h hk, fun least r hl hc => ?_⟩
  have hlk : least < k.precedence := hl k (Nat.le_refl _) hk
  have hcr : Closed k.right r := by
    refine hc.mono ?_
    cases s <;> cases hs <;> decide
  rw [List.append_assoc, List.cons_append, hv.2 least]
  · rw [List.length_cons, chain_operator hs hlk, hw.right hs hcr]
    exact chain_fuel (readsRight (d + 1)) (by simp)
  · exact fun m hm => hl m (Nat.le_trans (by cases k <;> decide) hm)
  · refine closed_operator hs ?_ _
    cases s <;> cases hs <;> decide

theorem applyFunction_of_ofName? {name : Text} {f : MathFunction}
    (h : MathFunction.ofName? name = some f) (x : Float) :
    applyFunction name x = .ok (f.apply x) := by
  simp [applyFunction, h]

/-- A comparison in front of a closing parenthesis is read up to it. -/
theorem ReadFrom.inner {ts : List Token} {v : Value} {d : Nat}
    (h : ReadFrom resolve .comparison ts v d) (r : List Token) :
    expression resolve (d + 1) 0 (ts ++ .symbol .closing :: r) =
      .ok (v, .symbol .closing :: r) := by
  rw [h.2, chain_closed Level.bounds_comparison (closed_closing _ _)]
  · intro k _ hk
    cases k <;> first | decide | exact absurd rfl hk
  · exact closed_closing _ _

/-- **An expression whose tree has a value is read as a whole.** -/
theorem Derives.readFrom {l : Level} {ts : List Token} {e : Tree} (h : Derives l ts e) {x : Float}
    (hx : e.value? resolve = some x) : ∃ D, ∀ d ≥ D, ReadFrom resolve l ts ⟨x, e.isPercent⟩ d := by
  induction h generalizing x with
  | number v p t =>
    cases hx
    refine ⟨1, fun d hd => readFrom_of_operand fun r => ?_⟩
    obtain ⟨d, rfl⟩ := Nat.exists_eq_add_one.2 hd
    rfl
  | currency v t =>
    cases hx
    refine ⟨1, fun d hd => readFrom_of_operand fun r => ?_⟩
    obtain ⟨d, rfl⟩ := Nat.exists_eq_add_one.2 hd
    rfl
  | reference n t =>
    refine ⟨1, fun d hd => readFrom_of_operand fun r => ?_⟩
    obtain ⟨d, rfl⟩ := Nat.exists_eq_add_one.2 hd
    refine reference_eq_ok.2 ⟨x, ?_, rfl, rfl⟩
    cases hn : lookup resolve n with
    | error e => simp [Tree.value?, hn, Except.toOption] at hx
    | ok y =>
      simp only [Tree.value?, hn, Except.toOption, Option.some.injEq] at hx
      rw [hx]
  | @parens ts e h ih =>
    obtain ⟨D, hD⟩ := ih hx
    refine ⟨D + 2, fun d hd => readFrom_of_operand fun r => ?_⟩
    obtain ⟨d, rfl⟩ := Nat.exists_eq_add_of_le' (Nat.le_of_add_left_le hd)
    simp only [List.cons_append, List.append_assoc]
    refine parens_eq_ok.2 ?_
    exact (hD d (by omega)).inner r
  | @call ts e name h ih =>
    simp only [Tree.value?, Option.bind_eq_bind, Option.bind_eq_some_iff, Option.pure_def,
      Option.some.injEq] at hx
    obtain ⟨y, hy, f, hf, rfl⟩ := hx
    obtain ⟨D, hD⟩ := ih hy
    refine ⟨D + 2, fun d hd => readFrom_of_operand fun r => ?_⟩
    obtain ⟨d, rfl⟩ := Nat.exists_eq_add_of_le' (Nat.le_of_add_left_le hd)
    simp only [List.cons_append, List.append_assoc]
    exact call_eq_ok.2 ⟨_, _, _, rfl, (hD d (by omega)).inner r, applyFunction_of_ofName? hf _, rfl⟩
  | @negative ts e h ih =>
    simp only [Tree.value?, Option.map_eq_some_iff] at hx
    obtain ⟨y, hy, rfl⟩ := hx
    obtain ⟨D, hD⟩ := ih hy
    refine ⟨D + 1, fun d hd => readFrom_of_operand fun r => ?_⟩
    obtain ⟨d, rfl⟩ := Nat.exists_eq_add_one.2 (Nat.lt_of_lt_of_le (Nat.succ_pos D) hd)
    exact negative_eq_ok.2 ⟨_, (hD d (by omega)).1 rfl r, rfl⟩
  | @positive ts e h ih =>
    obtain ⟨D, hD⟩ := ih hx
    refine ⟨D + 1, fun d hd => readFrom_of_operand fun r => ?_⟩
    obtain ⟨d, rfl⟩ := Nat.exists_eq_add_one.2 (Nat.lt_of_lt_of_le (Nat.succ_pos D) hd)
    exact (hD d (by omega)).1 rfl r
  | lift hm _ ih =>
    obtain ⟨D, hD⟩ := ih hx
    exact ⟨D, fun d hd => (hD d hd).lift hm⟩
  | @chain l m s ts us a b hl hm hs _ _ iha ihb =>
    obtain ⟨y, hy, z, hz⟩ := Tree.value?_operands hx
    obtain ⟨A, hA⟩ := iha hy
    obtain ⟨B, hB⟩ := ihb hz
    have hv := Tree.value?_binary (v := ⟨y, a.isPercent⟩) (w := ⟨z, b.isPercent⟩) (s := s) hy hz rfl
    obtain rfl := Option.some.inj (hv.symm.trans hx)
    refine ⟨A + B + 1, fun d hd => ?_⟩
    obtain ⟨d, rfl⟩ := Nat.exists_eq_add_one.2 (Nat.lt_of_lt_of_le (Nat.succ_pos _) hd)
    refine .binary hs ?_ ?_
    · cases l with
      | power => exact absurd rfl hl
      | _ => exact hA (d + 1) (by omega)
    · cases l with
      | power => exact absurd rfl hl
      | _ => cases hm <;> exact hB d (by omega)
  | @power ts us a b _ _ iha ihb =>
    obtain ⟨y, hy, z, hz⟩ := Tree.value?_operands hx
    obtain ⟨A, hA⟩ := iha hy
    obtain ⟨B, hB⟩ := ihb hz
    have hv := Tree.value?_binary (s := .caret) (v := ⟨y, a.isPercent⟩) (w := ⟨z, b.isPercent⟩)
      hy hz rfl
    obtain rfl := Option.some.inj (hv.symm.trans hx)
    refine ⟨A + B + 1, fun d hd => ?_⟩
    obtain ⟨d, rfl⟩ := Nat.exists_eq_add_one.2 (Nat.lt_of_lt_of_le (Nat.succ_pos _) hd)
    exact .binary rfl (hA (d + 1) (by omega)) (hB d (by omega))

/-! ## The limit of nesting -/

/-- Whether a higher limit of nesting would give the tokens another reading. -/
def HitsLimit (resolve : Option Resolver) (ts : List Token) : Prop :=
  ∃ d ≥ maxDepth, expression resolve d 0 ts ≠ read resolve ts

theorem bind_congr {ε α β : Type} {e : ε} {x x' : Except ε α} {f f' : α → Except ε β}
    (h : x >>= f ≠ .error e) (hx : x ≠ .error e → x' = x)
    (hf : ∀ a, f a ≠ .error e → f' a = f a) : x' >>= f' = x >>= f := by
  cases x with
  | error e' =>
    rw [hx (fun he => h (by rw [he]; rfl))]
    rfl
  | ok a =>
    rw [hx (by simp)]
    exact hf a h

theorem chain_mono {right right' : Nat → List Token → Reading}
    (hr : ∀ k ts, right k ts ≠ .error .tooDeep → right' k ts = right k ts) {least n : Nat}
    {left : Value} {ts : List Token} (h : chain right least n left ts ≠ .error .tooDeep) :
    chain right' least n left ts = chain right least n left ts := by
  induction n generalizing left ts with
  | zero => rfl
  | succ n ih =>
    unfold chain at h ⊢
    split
    · next s r =>
      cases hp : s.precedence? with
      | none => rfl
      | some p =>
        simp only [hp] at h ⊢
        split
        · rfl
        · next hle =>
          rw [if_neg hle] at h
          have hne : right (if s = .caret then p - 1 else p) r ≠ .error .tooDeep := by
            intro he
            rw [he] at h
            exact h rfl
          rw [hr _ _ hne]
          split
          · rfl
          · next v r' heq =>
            rw [heq] at h
            exact ih h
    · rfl

/-- A reading that does not hit its limit is that of every higher limit. -/
theorem read_mono (d : Nat) :
    (∀ ts, operand resolve d ts ≠ .error .tooDeep →
      operand resolve (d + 1) ts = operand resolve d ts) ∧
    ∀ least ts, expression resolve d least ts ≠ .error .tooDeep →
      expression resolve (d + 1) least ts = expression resolve d least ts := by
  induction d with
  | zero => exact ⟨fun _ h => absurd rfl h, fun _ _ h => absurd rfl h⟩
  | succ d ih =>
    obtain ⟨iho, ihe⟩ := ih
    refine ⟨fun ts h => ?_, fun least ts h => ?_⟩
    · match ts with
      | [] | .number .. :: _ | .currency .. :: _ | .reference .. :: _ => rfl
      | .word name :: us =>
        simp only [operand] at h ⊢
        refine bind_congr h (fun _ => rfl) fun vs h => ?_
        exact bind_congr h (ihe 0 vs) fun p _ => rfl
      | .symbol .opening :: us =>
        simp only [operand] at h ⊢
        exact bind_congr h (ihe 0 us) fun p _ => rfl
      | .symbol .minus :: us =>
        simp only [operand] at h ⊢
        exact bind_congr h (iho us) fun p _ => rfl
      | .symbol .plus :: us => exact iho us h
      | .symbol .star :: _ | .symbol .slash :: _ | .symbol .caret :: _ | .symbol .closing :: _
      | .symbol .greater :: _ | .symbol .less :: _ | .symbol .greaterEq :: _
      | .symbol .lessEq :: _ | .symbol .equal :: _ | .symbol .notEqual :: _ => rfl
    · unfold expression at h ⊢
      have hne : operand resolve d ts ≠ .error .tooDeep := by
        intro he
        rw [he] at h
        exact h rfl
      rw [iho ts hne]
      split
      · rfl
      · next v r heq =>
        rw [heq] at h
        exact chain_mono ihe h

/-- Where the limit is hit, the tokens are refused as nested too deeply. -/
theorem HitsLimit.read_eq {ts : List Token} (h : HitsLimit resolve ts) :
    read resolve ts = .error .tooDeep := by
  obtain ⟨d, hd, hne⟩ := h
  obtain ⟨k, rfl⟩ := Nat.exists_eq_add_of_le hd
  refine Classical.byContradiction fun hr => hne ?_
  clear hd hne
  induction k with
  | zero => rfl
  | succ k ih => rw [← Nat.add_assoc, (read_mono _).2 0 ts (by rwa [ih]), ih]

theorem not_hitsLimit {ts : List Token} (h : read resolve ts ≠ .error .tooDeep) :
    ¬HitsLimit resolve ts := fun hl => h hl.read_eq

/-! ## What a failure is about -/

/-- A failure is about the tokens themselves, or it is that of one of their references; and where
the depth is not enough for them, they may be nested too deeply. -/
def Accounted (resolve : Option Resolver) (enough : Prop) (ts : List Token) (err : ParseError) :
    Prop :=
  err.IsOwn ∨ (∃ n t, .reference n t ∈ ts ∧ lookup resolve n = .error err) ∨
    (err = .tooDeep ∧ ¬enough)

theorem Accounted.mono {P Q : Prop} {us ts : List Token} {err : ParseError}
    (h : Accounted resolve P us err) (hs : us <:+ ts) (hpq : Q → P) :
    Accounted resolve Q ts err := by
  rcases h with h | ⟨n, t, hm, h⟩ | ⟨h, hp⟩
  · exact .inl h
  · exact .inr (.inl ⟨n, t, hs.subset hm, h⟩)
  · exact .inr (.inr ⟨h, fun hq => hp (hpq hq)⟩)

theorem expect_eq_error {s : Symbol} {ts : List Token} {err : ParseError}
    (h : expect s ts = .error err) : err.IsOwn := by
  unfold expect at h
  split at h
  · split at h
    · cases h
    · cases h; trivial
  · cases h; trivial

theorem applyFunction_eq_error {name : Text} {x : Float} {err : ParseError}
    (h : applyFunction name x = .error err) : err.IsOwn := by
  unfold applyFunction at h
  split at h
  · cases h
  · cases h; trivial

/-- The loop fails where one of its right operands fails. -/
theorem chain_eq_error {right : Nat → List Token → Reading} (hr : ReadsRight resolve right)
    {least n : Nat} {left : Value} {ts : List Token} {err : ParseError}
    (h : chain right least n left ts = .error err) :
    ∃ k us, us <:+ ts ∧ us.length < ts.length ∧ right k us = .error err := by
  induction n generalizing left ts with
  | zero => cases h
  | succ n ih =>
    unfold chain at h
    split at h
    · next s us =>
      rw [precedence?_eq] at h
      cases hs : Level.ofSymbol? s with
      | none => rw [hs] at h; cases h
      | some k =>
        rw [hs] at h
        simp only [Option.map_some, rightBound_eq hs] at h
        split at h
        · cases h
        · split at h
          · next heq =>
            cases h
            exact ⟨_, us, List.suffix_cons _ _, by simp, heq⟩
          · next v r heq =>
            obtain ⟨ws, rfl, -, -⟩ := hr s k us v r hs heq
            obtain ⟨k', vs, hv, hlt, he⟩ := ih h
            refine ⟨k', vs, hv.trans ⟨.symbol s :: ws, rfl⟩, ?_, he⟩
            simp only [List.length_cons, List.length_append]
            omega
    · cases h

theorem read_error (d : Nat) :
    (∀ ts err, operand resolve d ts = .error err →
      Accounted resolve (2 * ts.length < d) ts err) ∧
    ∀ least ts err, expression resolve d least ts = .error err →
      Accounted resolve (2 * ts.length + 1 < d) ts err := by
  induction d with
  | zero =>
    refine ⟨fun ts err h => ?_, fun least ts err h => ?_⟩ <;> cases h <;>
      exact .inr (.inr ⟨rfl, by omega⟩)
  | succ d ih =>
    obtain ⟨iho, ihe⟩ := ih
    refine ⟨fun ts err h => ?_, fun least ts err h => ?_⟩
    · match ts with
      | [] => cases h; exact .inl trivial
      | .number .. :: _ | .currency .. :: _ => cases h
      | .reference n t :: us =>
        refine .inr (.inl ⟨n, t, by simp, ?_⟩)
        cases resolve with
        | none => cases h; rfl
        | some f =>
          simp only [operand, bind_eq_error] at h
          rcases h with h | ⟨x, -, h⟩
          · exact h
          · cases h
      | .word name :: us =>
        simp only [operand, bind_eq_error, expect_eq_ok] at h
        rcases h with h | ⟨vs, rfl, h | ⟨p, hp, h | ⟨ws, -, h | ⟨x, -, h⟩⟩⟩⟩
        · exact .inl (expect_eq_error h)
        · exact (ihe 0 vs err h).mono ⟨[_, _], rfl⟩ (by simp; omega)
        · exact .inl (expect_eq_error h)
        · exact .inl (applyFunction_eq_error h)
        · cases h
      | .symbol .opening :: us =>
        simp only [operand, bind_eq_error] at h
        rcases h with h | ⟨p, -, h | ⟨x, -, h⟩⟩
        · exact (ihe 0 us err h).mono (List.suffix_cons _ _) (by simp; omega)
        · exact .inl (expect_eq_error h)
        · cases h
      | .symbol .minus :: us =>
        simp only [operand, bind_eq_error] at h
        rcases h with h | ⟨p, -, h⟩
        · exact (iho us err h).mono (List.suffix_cons _ _) (by simp; omega)
        · cases h
      | .symbol .plus :: us =>
        exact (iho us err h).mono (List.suffix_cons _ _) (by simp; omega)
      | .symbol .star :: _ | .symbol .slash :: _ | .symbol .caret :: _ | .symbol .closing :: _
      | .symbol .greater :: _ | .symbol .less :: _ | .symbol .greaterEq :: _
      | .symbol .lessEq :: _ | .symbol .equal :: _ | .symbol .notEqual :: _ =>
        cases h; exact .inl trivial
    · unfold expression at h
      split at h
      · next heq =>
        cases h
        exact (iho ts err heq).mono (List.suffix_refl _) (by omega)
      · next v r heq =>
        obtain ⟨vs, rfl, hw⟩ := (read_sound d).1 ts v r heq
        have hpos := hw.length_pos
        obtain ⟨k, us, hs, hlt, he⟩ := chain_eq_error (readsRight d) h
        refine (ihe k us err he).mono (hs.trans (List.suffix_append _ _)) ?_
        simp only [List.length_append]
        omega

/-! ## The value of tokens -/

theorem Tree.exists_value_binary {s : Symbol} {a b : Tree} :
    (∃ x, (Tree.binary s a b).value? resolve = some x) ↔
      (∃ y, a.value? resolve = some y) ∧ ∃ z, b.value? resolve = some z := by
  constructor
  · rintro ⟨x, hx⟩
    obtain ⟨y, hy, z, hz⟩ := Tree.value?_operands hx
    exact ⟨⟨y, hy⟩, z, hz⟩
  · rintro ⟨⟨y, hy⟩, z, hz⟩
    exact ⟨_, Tree.value?_binary (v := ⟨y, a.isPercent⟩) (w := ⟨z, b.isPercent⟩) hy hz rfl⟩

theorem Tree.exists_value_call {name : Text} {e : Tree} :
    (∃ x, (Tree.call name e).value? resolve = some x) ↔
      (∃ y, e.value? resolve = some y) ∧ ∃ f, MathFunction.ofName? name = some f := by
  simp only [Tree.value?, Option.bind_eq_bind, Option.bind_eq_some_iff, Option.pure_def,
    Option.some.injEq]
  constructor
  · rintro ⟨_, y, hy, f, hf, -⟩
    exact ⟨⟨y, hy⟩, f, hf⟩
  · rintro ⟨⟨y, hy⟩, f, hf⟩
    exact ⟨_, y, hy, f, hf, rfl⟩

theorem Tree.value?_negative {e : Tree} :
    (Tree.negative e).value? resolve = (e.value? resolve).map fun x => -x := by
  rw [Tree.value?]

/-- A tree has a value when its references have one and its functions exist. -/
theorem Derives.exists_value_iff {l : Level} {ts : List Token} {e : Tree} (h : Derives l ts e) :
    (∃ x, e.value? resolve = some x) ↔
      (∀ n t, .reference n t ∈ ts → ∃ x, lookup resolve n = .ok x) ∧
        ∀ name, .word name ∈ ts → ∃ f, MathFunction.ofName? name = some f := by
  induction h with
  | number | currency => simp [Tree.value?]
  | reference n t =>
    cases hn : lookup resolve n <;> simp [Tree.value?, hn, Except.toOption]
  | parens _ ih | positive _ ih => simpa [Tree.value?] using ih
  | lift _ _ ih => exact ih
  | negative _ ih =>
    have hneg (o : Option Float) : (∃ x, o.map (fun x => -x) = some x) ↔ ∃ x, o = some x := by
      cases o <;> simp
    rw [Tree.value?_negative, hneg, ih]
    simp
  | call name _ ih =>
    rw [Tree.exists_value_call, ih]
    simp only [List.mem_cons, List.mem_append, List.not_mem_nil, or_false, reduceCtorEq, false_or,
      Token.word.injEq]
    constructor
    · rintro ⟨⟨hr, hw⟩, hf⟩
      exact ⟨hr, fun name' hm => hm.elim (fun h => h ▸ hf) (hw name')⟩
    · rintro ⟨hr, hw⟩
      exact ⟨⟨hr, fun name' hm => hw name' (.inr hm)⟩, hw _ (.inl rfl)⟩
  | chain _ _ _ _ _ iha ihb | power _ _ iha ihb =>
    rw [Tree.exists_value_binary, iha, ihb]
    simp only [List.mem_cons, List.mem_append, reduceCtorEq, false_or]
    constructor
    · rintro ⟨⟨hr, hw⟩, hr', hw'⟩
      exact ⟨fun n t hm => hm.elim (hr n t) (hr' n t), fun f hm => hm.elim (hw f) (hw' f)⟩
    · rintro ⟨hr, hw⟩
      exact ⟨⟨fun n t hm => hr n t (.inl hm), fun f hm => hw f (.inl hm)⟩,
        fun n t hm => hr n t (.inr hm), fun f hm => hw f (.inr hm)⟩

/-- At a depth that is large enough, an expression is read with its value. -/
theorem Derives.read_eq {ts : List Token} {e : Tree} {x : Float} (h : Derives .comparison ts e)
    (hx : e.value? resolve = some x) (hl : ¬HitsLimit resolve ts) :
    read resolve ts = .ok (⟨x, e.isPercent⟩, []) := by
  obtain ⟨D, hD⟩ := h.readFrom hx
  have hr : expression resolve (D + maxDepth + 1) 0 ts = .ok (⟨x, e.isPercent⟩, []) := by
    have := (hD (D + maxDepth) (by omega)).2 0 []
    rw [List.append_nil] at this
    rw [this (fun k _ hk => by cases k <;> first | decide | exact absurd rfl hk) (closed_nil _)]
    exact chain_closed Level.bounds_comparison (closed_nil _)
  rw [← hr]
  exact Classical.byContradiction fun hne => hl ⟨_, by omega, fun he => hne he.symm⟩

theorem evaluateTokens_eq_ok {ts : List Token} {x : Float} :
    evaluateTokens resolve ts = .ok x ↔ ∃ p, read resolve ts = .ok (⟨x, p⟩, []) := by
  unfold evaluateTokens
  split
  · next h => simp [h]
  · next v h =>
    rw [h]
    obtain ⟨y, q⟩ := v
    simp
  · next h => simp [h]

/-- What is read up to the end is an expression. -/
theorem derives_of_read {ts : List Token} {v : Value} (h : read resolve ts = .ok (v, [])) :
    ∃ e, Derives .comparison ts e ∧ e.value? resolve = some v.number ∧ e.isPercent = v.percent := by
  obtain ⟨us, hts, hw, -⟩ := (read_sound maxDepth).2 0 _ Level.bounds_comparison ts v [] h
  rw [List.append_nil] at hts
  exact hts ▸ hw

theorem evaluateTokens_eq_error {ts : List Token} {err : ParseError} (hl : ¬HitsLimit resolve ts)
    (h : evaluateTokens resolve ts = .error err) :
    err.IsOwn ∨ ∃ n t, .reference n t ∈ ts ∧ lookup resolve n = .error err := by
  unfold evaluateTokens at h
  split at h
  · next e he =>
    cases h
    -- The limit is not hit, so the failure is that of a depth that is enough.
    have hd : expression resolve (2 * ts.length + 2 + maxDepth) 0 ts = .error err := by
      rw [← he]
      exact Classical.byContradiction fun hne => hl ⟨_, by omega, hne⟩
    rcases (read_error _).2 0 ts err hd with h | h | ⟨-, hn⟩
    · exact .inl h
    · exact .inr h
    · exact absurd (by omega) hn
  · cases h
  · cases h
    exact .inl trivial

/-- **The reading computes the grammar.** Unless the tokens hit the limit of nesting, they have a
value exactly if they are an expression, their references have values and their functions exist.
The value, and whether it is a percentage, is that of their one tree. All other tokens fail, for a
reason of their own or for that of a reference. -/
theorem evaluateTokens_iff_derives (resolve : Option Resolver) (ts : List Token)
    (hl : ¬HitsLimit resolve ts) :
    ((∃ x, evaluateTokens resolve ts = .ok x) ↔
      (∃ e, Derives .comparison ts e) ∧
        (∀ n t, .reference n t ∈ ts → ∃ x, lookup resolve n = .ok x) ∧
          ∀ name, .word name ∈ ts → ∃ f, MathFunction.ofName? name = some f) ∧
    (∀ e, Derives .comparison ts e →
      (∀ e', Derives .comparison ts e' → e' = e) ∧
        ∀ x, (evaluateTokens resolve ts = .ok x ↔ e.value? resolve = some x) ∧
          ∀ p, read resolve ts = .ok (⟨x, p⟩, []) ↔
            e.value? resolve = some x ∧ e.isPercent = p) ∧
    ∀ err, evaluateTokens resolve ts = .error err →
      err.IsOwn ∨ ∃ n t, .reference n t ∈ ts ∧ lookup resolve n = .error err := by
  have value (e : Tree) (he : Derives .comparison ts e) (x : Float) (p : Bool) :
      read resolve ts = .ok (⟨x, p⟩, []) ↔ e.value? resolve = some x ∧ e.isPercent = p := by
    constructor
    · intro hr
      obtain ⟨e', he', hx, hp⟩ := derives_of_read hr
      exact he'.unique he ▸ ⟨hx, hp⟩
    · rintro ⟨hx, rfl⟩
      exact he.read_eq hx hl
  refine ⟨⟨?_, ?_⟩, fun e he => ⟨fun e' he' => he'.unique he, fun x => ⟨?_, value e he x⟩⟩,
    fun err => evaluateTokens_eq_error hl⟩
  · rintro ⟨x, hx⟩
    obtain ⟨p, hp⟩ := evaluateTokens_eq_ok.1 hx
    obtain ⟨e, he, hv, -⟩ := derives_of_read hp
    exact ⟨⟨e, he⟩, he.exists_value_iff.1 ⟨x, hv⟩⟩
  · rintro ⟨⟨e, he⟩, hr⟩
    obtain ⟨x, hx⟩ := he.exists_value_iff.2 hr
    exact ⟨x, evaluateTokens_eq_ok.2 ⟨_, he.read_eq hx hl⟩⟩
  · rw [evaluateTokens_eq_ok]
    constructor
    · rintro ⟨p, hp⟩
      exact ((value e he x p).1 hp).1
    · intro hx
      exact ⟨_, he.read_eq hx hl⟩

/-- In `2 ^ -3 + 5%` the sign binds tighter than the power, and the percentage scales it. -/
theorem evaluateTokens_iff_derives_power :
    let ts : List Token := [.number 2 false ['2'], .symbol .caret, .symbol .minus,
      .number 3 false ['3'], .symbol .plus, .number 0.05 true ['5', '%']]
    ¬HitsLimit none ts ∧ evaluateTokens none ts = .ok (power 2 (-3) * (1 + 0.05)) := by
  intro ts
  have hl : ¬HitsLimit none ts := not_hitsLimit (fun h => by cases h)
  have he : Derives .comparison ts (.binary .plus (.binary .caret (.number 2 false ['2'])
      (.negative (.number 3 false ['3']))) (.number 0.05 true ['5', '%'])) := by
    have hp := Derives.power (.number 2 false ['2'])
      ((Derives.negative (.number 3 false ['3'])).lower (by decide))
    exact (Derives.chain (l := .sum) (by decide) rfl rfl (hp.lower (by decide))
      ((Derives.number 0.05 true ['5', '%']).lower (by decide))).lower (by decide)
  exact ⟨hl, (((evaluateTokens_iff_derives none ts hl).2.1 _ he).2 _).1.2 rfl⟩

end Expr

end Worksheet
