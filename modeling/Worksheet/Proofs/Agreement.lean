import Worksheet.Proofs.Filling
import Worksheet.Proofs.Locality
import Worksheet.Proofs.Renumbering

/-!
# What is seen of references

**Theorem (`Token.references_agree`).** All that looks for references in an expression with tokens
sees those among its tokens, in their order.

The scanner takes ASCII digits only, and a search takes the digits of any script. In an expression
with tokens both find the same (`references_of_scan`), as a digit of another script would be no
token (`ascii_of_scan`). The parser, the rule for amounts of dollars, the search for dependent lines
and renumbering take their references from the one or from the other.
-/

namespace Worksheet

open Text Result

variable {expr : Text} {ts : List Token}

/-- The references of an expression with tokens are written in ASCII digits. -/
theorem Token.ascii_of_scan (h : Token.scan expr = .ok ts) :
    ∀ digits ∈ Reference.runs expr, digits.all isAsciiDigit = true := by
  intro digits hd
  rw [← Reference.runs_trim, ← Token.runs_normalize] at hd
  refine List.all_eq_true.2 fun c hc => ?_
  have hdigit := List.all_eq_true.1 (Reference.all_isDigit_of_mem_runs hd) c hc
  exact Token.asciiDigits_of_scanFrom h c (Reference.mem_of_mem_runs hd hc) hdigit

theorem Token.filterMap_line?_rename (σ : Nat → Nat) (τ : Text → Text) (ts : List Token) :
    (ts.map (Token.rename σ τ)).filterMap Token.line? = (ts.filterMap Token.line?).map σ := by
  rw [List.filterMap_map, List.map_filterMap]
  congr 1
  funext token
  cases token <;> rfl

/-- Renumbering an expression renumbers its tokens. -/
theorem Token.scan_renumber {σ : Nat → Nat} {f : Int → Int} {t : Text}
    (h : Token.scan expr = .ok ts) (hf : ∀ n : Nat, f n = σ n)
    (ht : Reference.renumber f expr = .ok t) :
    ∃ us, Token.scan t = .ok us ∧ us.filterMap Token.line? = (ts.filterMap Token.line?).map σ := by
  obtain ⟨rfl, hw⟩ := (Reference.renumber_eq_ok σ hf).1 ht
  have hascii := Token.ascii_of_scan h
  refine ⟨_, ?_, Token.filterMap_line?_rename σ (Token.renameText (Reference.renumbering σ)) ts⟩
  rw [Token.scan_rewrite Reference.keepsRuns_renumbering Reference.keepsAscii_renumbering
    fun digits hd => ⟨hascii digits hd, Reference.natural?_renumbering (hw digits hd)⟩, h]
  rfl

/-- The references that are found in a line begin with those of its expression. -/
theorem Reference.findAll_isPrefix {l comment : Text} {ns ms : List Nat}
    (hx : Document.expressionOf? l = some (expr, comment)) (hn : Reference.findAll expr = .ok ns)
    (hm : Reference.findAll l = .ok ms) : ns <+: ms := by
  obtain ⟨rest, hrest⟩ := Reference.runs_expressionOf hx
  rw [Reference.findAll_eq, ← hrest, List.mapM_append] at hm
  obtain ⟨ms₁, h₁, hm⟩ := bind_eq_ok.1 hm
  obtain ⟨ms₂, -, hm⟩ := bind_eq_ok.1 hm
  rw [Reference.findAll_eq, h₁] at hn
  cases hn
  exact ⟨ms₂, pure_eq_ok.1 hm⟩

/-- **The references of an expression are those among its tokens.** A search finds them in the same
order. So the value depends on what they resolve to, and dollars take part where one of them leads
to dollars. A search of a line of this expression finds them first, and renumbering them makes the
tokens with the new numbers. -/
theorem Token.references_agree (h : Token.scan expr = .ok ts) :
    let ns := ts.filterMap Token.line?
    Reference.findAll expr = .ok ns ∧
      (∀ f g : Resolver, (∀ n ∈ ns, (g n).toOption = (f n).toOption) →
        (Expr.evaluateTokens (some g) ts).toOption = (Expr.evaluateTokens (some f) ts).toOption) ∧
      (∀ e : Earlier, refersToCurrency (e.map (·.isCurrency)) expr =
        .ok (ns.any fun n => (e.seen n).isCurrency)) ∧
      (∀ l comment ms, Document.expressionOf? l = some (expr, comment) →
        Reference.findAll l = .ok ms → ns <+: ms) ∧
      ∀ (σ : Nat → Nat) (f : Int → Int) (t : Text), (∀ n : Nat, f n = σ n) →
        Reference.renumber f expr = .ok t →
          ∃ us, Token.scan t = .ok us ∧ us.filterMap Token.line? = ns.map σ := by
  intro ns
  have hfind : Reference.findAll expr = .ok ns := Token.references_of_scan h
  refine ⟨hfind, ?parser, ?currency, ?search, ?renumbering⟩
  case parser =>
    intro f g hfg
    have hrename : Expr.Renames id f g ts := fun n t hm =>
      hfg n (List.mem_filterMap.2 ⟨_, hm, rfl⟩)
    have heval := Expr.evaluateTokens_rename (τ := id) hrename
    rwa [Token.rename_id, List.map_id] at heval
  case currency =>
    intro e
    rw [refersToCurrency, hfind]
    refine congrArg Except.ok ?_
    simp only [Earlier.isCurrency_seen]
  case search => exact fun l comment ms hx hm => Reference.findAll_isPrefix hx hfind hm
  case renumbering => exact fun σ f t hf ht => Token.scan_renumber h hf ht

/-- An `x` between two references is a multiplication, and one of the lines is referred to twice. -/
theorem Token.references_agree_repeated :
    let expr := "$5 + \\2 x (\\12 - \\2)".toList
    ∃ ts, Token.scan expr = .ok ts ∧ ts.filterMap Token.line? = [2, 12, 2] ∧
      Reference.findAll expr = .ok [2, 12, 2] := by
  intro expr
  obtain ⟨ts, h⟩ := exists_eq_ok (show (Token.scan expr).toOption.isSome = true by decide +kernel)
  have hlines : (Token.scan expr).toOption.map (·.filterMap Token.line?) = some [2, 12, 2] := by
    decide +kernel
  rw [h] at hlines
  have hns : ts.filterMap Token.line? = [2, 12, 2] := Option.some.inj hlines
  refine ⟨ts, h, hns, ?_⟩
  rw [(Token.references_agree h).1, hns]

end Worksheet
