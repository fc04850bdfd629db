import Worksheet.Proofs.Copying
import Worksheet.Proofs.Values

/-!
# Truth values

**Theorem (`calculate_truth`).** Arithmetic shows `true` for a value of one and `false` for any other
value, both if and only if a comparison stands somewhere in the expression. An expression that is a
comparison as a whole, or a product of comparisons, is worth one where it shows `true` and zero where
it shows `false`.

In every other expression the comparison is part of a sum, a quotient or a call, and `false` is shown
for what it may be worth, say two for the sum of two comparisons that hold.

The form of the text is chosen by the tokens and the value comes from their tree. Both see the same
comparisons (`any_isComparison_of_derives`).
-/

namespace Worksheet

open Result Float.Model

/-! ## The number one -/

/-- A double that equals one as a number is the one. -/
theorem Binary.beq_one_iff {x : Float} : (x == 1) = true ↔ x = 1 := by
  have hone : valueOf? 1 = some 1 := by decide +kernel
  have hunpack : (1 : Float).toModel.unpack = .finite .positive (2 ^ 52) (-52) (by decide) := by rfl
  constructor
  · intro h
    have hbeq : UnpackedFloat.beq x.toModel.unpack (1 : Float).toModel.unpack = true := h
    rw [hunpack] at hbeq
    refine eq_of_value (v := 1) ?_ hone one_ne_zero
    unfold valueOf?
    cases hx : x.toModel.unpack with
    | finite s m e hm =>
      rw [hx] at hbeq
      cases s with
      | negative => cases hbeq
      | positive =>
        have hcompare : (compare e (-52)).then (compare m (2 ^ 52)) = .eq := by
          simpa [UnpackedFloat.beq, UnpackedFloat.compare] using hbeq
        obtain ⟨he, hm⟩ := Ordering.then_eq_eq.1 hcompare
        obtain rfl := compare_eq_iff_eq.1 he
        obtain rfl := compare_eq_iff_eq.1 hm
        norm_num [UnpackedFloat.Sign.apply]
    | zero s => rw [hx] at hbeq; cases s <;> cases hbeq
    | infinity s => rw [hx] at hbeq; cases s <;> cases hbeq
    | notANumber => rw [hx] at hbeq; cases hbeq
  · rintro rfl
    decide +kernel

namespace Amount

theorem formatTruth_eq_true {x : Float} : formatTruth x = "true".toList ↔ x = 1 := by
  rw [formatTruth, ← Binary.beq_one_iff]
  split
  · next h => exact iff_of_true rfl h
  · next h => exact iff_of_false (by decide) h

theorem formatTruth_eq_false {x : Float} : formatTruth x = "false".toList ↔ x ≠ 1 := by
  rw [formatTruth, Ne, ← Binary.beq_one_iff]
  split
  · next h => exact iff_of_false (by decide) (not_not.2 h)
  · next h => exact iff_of_true rfl h

/-- A number is not shown by letters that no number has. -/
theorem format_ne (x : Float) (isCurrency : Bool) {t : Text} (h : t.all isShown = false) :
    format x isCurrency ≠ t := by
  rintro rfl
  rw [(format_shown x isCurrency).2] at h
  cases h

end Amount

/-! ## Comparisons in a tree -/

namespace Expr

variable {resolve : Option Resolver} {x : Float}

namespace Tree

/-- Whether a comparison stands anywhere in an expression. -/
def compares : Tree → Bool
  | number .. | currency .. | reference .. => false
  | parens e | call _ e | negative e | positive e => e.compares
  | binary s a b => s.isComparison || a.compares || b.compares

/-- Whether an expression is a comparison or a product of such expressions, with nothing around them
but parentheses and plus signs. -/
def isTruth : Tree → Bool
  | number .. | currency .. | reference .. | call .. | negative _ => false
  | parens e | positive e => e.isTruth
  | binary s a b => s.isComparison || (s = .star && a.isTruth && b.isTruth)

theorem compares_of_isTruth {e : Tree} (h : e.isTruth = true) : e.compares = true := by
  induction e with
  | number | currency | reference | call | negative => cases h
  | parens e ih | positive e ih => exact ih h
  | binary s a b iha ihb =>
    simp only [isTruth, Bool.or_eq_true, Bool.and_eq_true] at h
    rcases h with hs | ⟨⟨-, ha⟩, -⟩
    · simp [compares, hs]
    · simp [compares, iha ha]

end Tree

theorem combine_of_isComparison {s : Symbol} (h : s.isComparison = true) (v w : Value) :
    ∃ b, s.combine v w = ofTruth b := by
  cases s <;> first | exact ⟨_, rfl⟩ | cases h

theorem ofTruth_mul (b c : Bool) : ofTruth b * ofTruth c = ofTruth (b && c) := by
  cases b <;> cases c <;> decide +kernel

/-- A comparison or a product of comparisons is worth zero or one. -/
theorem Tree.value?_of_isTruth {e : Tree} (h : e.isTruth = true) (hx : e.value? resolve = some x) :
    ∃ b, x = ofTruth b := by
  induction e generalizing x with
  | number | currency | reference | call | negative => cases h
  | parens e ih | positive e ih => exact ih h hx
  | binary s a b iha ihb =>
    obtain ⟨y, hy, z, hz⟩ := value?_operands hx
    have hvalue := value?_binary (s := s) (v := ⟨y, a.isPercent⟩) (w := ⟨z, b.isPercent⟩) hy hz rfl
    obtain rfl := Option.some.inj (hvalue.symm.trans hx)
    simp only [isTruth, Bool.or_eq_true, Bool.and_eq_true, decide_eq_true_eq] at h
    rcases h with hs | ⟨⟨rfl, ha⟩, hb⟩
    · exact combine_of_isComparison hs _ _
    · obtain ⟨p, rfl⟩ := iha ha hy
      obtain ⟨q, rfl⟩ := ihb hb hz
      exact ⟨p && q, ofTruth_mul p q⟩

/-- A comparison is among the tokens if it is in their tree. -/
theorem any_isComparison_of_derives {l : Level} {ts : List Token} {e : Tree} (h : Derives l ts e) :
    ts.any Token.isComparison = e.compares := by
  induction h with
  | number | currency | reference => rfl
  | lift _ _ ih => exact ih
  | chain _ _ _ _ _ iha ihb | power _ _ iha ihb =>
    rw [List.any_append, List.any_cons, iha, ihb, Tree.compares, Bool.or_left_comm, ← Bool.or_assoc]
    rfl
  | _ => simp_all [Token.isComparison, Symbol.isComparison, Tree.compares]

end Expr

/-! ## What arithmetic shows -/

variable {e : Earlier} {expr : Text} {a : Answer}

/-- Arithmetic answers with the value of the one tree of its tokens. It is shown as a truth value or
as a number. -/
theorem exists_tree_of_calculate (h : calculate e expr = .ok a) :
    ∃ ts tree x, Token.scan expr = .ok ts ∧ Expr.Derives .comparison ts tree ∧
      tree.value? (some e.value) = some x ∧ a.value = some x ∧
      a.text = if tree.compares then Amount.formatTruth x else Amount.format x a.isCurrency := by
  obtain ⟨ts, x, hts, hx, hvalue, -⟩ := exists_of_calculate h
  obtain ⟨p, hread⟩ := Expr.evaluateTokens_eq_ok.1 hx
  obtain ⟨tree, htree, hworth, -⟩ := Expr.derives_of_read hread
  refine ⟨ts, tree, x, hts, htree, hworth, hvalue, ?_⟩
  obtain ⟨ts', hts', h⟩ := bind_eq_ok.1 h
  obtain rfl := Except.ok.inj (hts.symm.trans hts')
  obtain ⟨isCurrency, -, h⟩ := bind_eq_ok.1 h
  rw [hx] at h
  cases h
  rw [← Expr.any_isComparison_of_derives htree]

/-- **Truth is shown where a comparison is, and `false` for all that is not one.** If the expression
is a comparison as a whole, or a product of comparisons, its text tells its value. -/
theorem calculate_truth (h : calculate e expr = .ok a) :
    ∃ ts tree x, Token.scan expr = .ok ts ∧ Expr.Derives .comparison ts tree ∧
      tree.value? (some e.value) = some x ∧ a.value = some x ∧
      (a.text = "true".toList ↔ tree.compares = true ∧ x = 1) ∧
      (a.text = "false".toList ↔ tree.compares = true ∧ x ≠ 1) ∧
      (tree.isTruth = true →
        a.text = "true".toList ∧ x = 1 ∨ a.text = "false".toList ∧ x = 0) := by
  obtain ⟨ts, tree, x, hts, htree, hworth, hvalue, htext⟩ := exists_tree_of_calculate h
  have htrue : a.text = "true".toList ↔ tree.compares = true ∧ x = 1 := by
    rw [htext]
    split
    · next hc => exact Amount.formatTruth_eq_true.trans (and_iff_right hc).symm
    · next hc => exact iff_of_false (Amount.format_ne _ _ (by decide)) fun h => hc h.1
  have hfalse : a.text = "false".toList ↔ tree.compares = true ∧ x ≠ 1 := by
    rw [htext]
    split
    · next hc => exact Amount.formatTruth_eq_false.trans (and_iff_right hc).symm
    · next hc => exact iff_of_false (Amount.format_ne _ _ (by decide)) fun h => hc h.1
  refine ⟨ts, tree, x, hts, htree, hworth, hvalue, htrue, hfalse, fun htruth => ?_⟩
  have hcompares := Expr.Tree.compares_of_isTruth htruth
  obtain ⟨b, rfl⟩ := Expr.Tree.value?_of_isTruth htruth hworth
  cases b with
  | true => exact .inl ⟨htrue.2 ⟨hcompares, rfl⟩, rfl⟩
  | false => exact .inr ⟨hfalse.2 ⟨hcompares, by decide +kernel⟩, rfl⟩

/-- The sum of a comparison that holds and one is two, and is shown as `false`. -/
theorem calculate_truth_sum : ∃ a, calculate [] "(3 > 2) + 1".toList = .ok a ∧
    a.text = "false".toList ∧ a.value = some 2 ∧ ∃ ts tree,
      Token.scan "(3 > 2) + 1".toList = .ok ts ∧ Expr.Derives .comparison ts tree ∧
      tree.compares = true ∧ tree.isTruth = false := by
  have hanswer : (calculate [] "(3 > 2) + 1".toList).toOption.map (fun a => (a.text, a.value)) =
      some ("false".toList, some 2) := by decide +kernel
  obtain ⟨a, ha, hpair⟩ := Option.map_eq_some_iff.1 hanswer
  have h := eq_ok_of_toOption ha
  obtain ⟨htext, hvalue⟩ := Prod.mk.inj hpair
  obtain ⟨ts, tree, x, hts, htree, -, hx, -, hfalse, htruth⟩ := calculate_truth h
  obtain rfl : 2 = x := Option.some.inj (hvalue.symm.trans hx)
  refine ⟨a, h, htext, hvalue, ts, tree, hts, htree, (hfalse.1 htext).1, ?_⟩
  refine Bool.eq_false_iff.2 fun ht => ?_
  rcases htruth ht with ⟨-, hone⟩ | ⟨-, hzero⟩
  · exact absurd hone (by decide +kernel)
  · exact absurd hzero (by decide +kernel)

end Worksheet
