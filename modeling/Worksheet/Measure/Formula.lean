import Worksheet.Measure.Obstacle
import Worksheet.Measure.Token

/-!
# Formulas for products of units

Tokens are read by the precedence of operators: powers bind tighter than signs, signs tighter than
products, products tighter than sums. Powers group to the right, all else to the left, and what
stands next to each other is multiplied. A parenthesis behind an operand is multiplied with it
before any operator to the left is applied.
-/

namespace Worksheet

namespace Measure

inductive Formula where
  | operand (o : Operand)
  | unary (o : Operator) (f : Formula)
  | binary (o : Operator) (left right : Formula)
  deriving Repr

namespace Formula

/-! ## Precedence -/

/-- What stands to the left of the operand that is being read. -/
inductive Context where
  | start
  | parenthesis
  | sign
  | operator (o : Operator)

/-- How tightly an operator binds between two operands. -/
def binding : Operator → Nat
  | .plus | .minus => 1
  | .times | .divide | .wholeDivide => 2
  | .power => 4

/-- How tightly the context holds an operand. -/
def Context.binding : Context → Nat
  | start | parenthesis => 0
  | sign => 3
  | operator o => Formula.binding o

/-- Whether an operator behind an operand belongs to the context and not to the operand. -/
def Context.ends (c : Context) (o : Operator) : Bool :=
  Formula.binding o ≤ c.binding && o != .power

/-! ## Reading -/

/-- How many tokens must be read at least: one if nothing has been read. -/
def due : Option Formula → Nat
  | none => 1
  | some _ => 0

/-- A formula and the tokens behind it. -/
abbrev Progress (left : Option Formula) (ts : List Token) : Type :=
  { r : Formula × List Token // r.2.length + due left ≤ ts.length }

/-- Reads on from `left` in a line, up to the end of what the context allows. Every step reads a
token or, with an operand behind `left`, starts again at the same token with nothing read. -/
def readOn (line : Text) (context : Context) (left : Option Formula) (ts : List Token) :
    Attempt (Progress left ts) :=
  match context, left, ts with
  | .parenthesis, _, [] => refuse .unclosedParenthesis
  | .start, _, .closing column :: _ => refuse (.unopenedParenthesis column line)
  | _, none, [] | _, none, .closing _ :: _ => .error (.fault .missingOperand)
  | _, some f, [] => .ok ⟨(f, []), Nat.le_refl _⟩
  | .parenthesis, some f, .closing _ :: r => .ok ⟨(f, r), Nat.le_succ _⟩
  | _, some f, .closing column :: r => .ok ⟨(f, .closing column :: r), Nat.le_refl _⟩
  | context, none, .opening :: r => do
    let ⟨(f, r'), h⟩ ← readOn line .parenthesis none r
    let ⟨p, hp⟩ ← readOn line context (some f) r'
    return ⟨p, by simp only [due, List.length_cons] at h hp ⊢; omega⟩
  | context, some f, .opening :: r => do
    let ⟨(g, r'), h⟩ ← readOn line .parenthesis none r
    let ⟨p, hp⟩ ← readOn line context (some (binary .times f g)) r'
    return ⟨p, by simp only [due, List.length_cons] at h hp ⊢; omega⟩
  | context, none, .operator o :: r => do
    let ⟨(f, r'), h⟩ ← readOn line .sign none r
    let ⟨p, hp⟩ ← readOn line context (some (unary o f)) r'
    return ⟨p, by simp only [due, List.length_cons] at h hp ⊢; omega⟩
  | context, some f, .operator o :: r =>
    if context.ends o then return ⟨(f, .operator o :: r), Nat.le_refl _⟩
    else do
      let ⟨(g, r'), h⟩ ← readOn line (.operator o) none r
      let ⟨p, hp⟩ ← readOn line context (some (binary o f g)) r'
      return ⟨p, by simp only [due, List.length_cons] at h hp ⊢; omega⟩
  | context, none, .operand o :: r => do
    let ⟨p, hp⟩ ← readOn line context (some (operand o)) r
    return ⟨p, by simp only [due, List.length_cons] at hp ⊢; omega⟩
  | context, some f, .operand o :: r =>
    if context.ends .times then return ⟨(f, .operand o :: r), Nat.le_refl _⟩
    else do
      let ⟨(g, r'), h⟩ ← readOn line (.operator .times) none (.operand o :: r)
      let ⟨p, hp⟩ ← readOn line context (some (binary .times f g)) r'
      return ⟨p, by simp only [due, List.length_cons] at h hp ⊢; omega⟩
termination_by 2 * ts.length + 1 - due left
decreasing_by all_goals simp only [due, List.length_cons] at *; omega

/-- The formula of a whole line. -/
def ofText (line : Text) : Attempt Formula := do
  let ⟨(f, _), _⟩ ← readOn line .start none (← Token.scan line)
  return f

end Formula

end Measure

end Worksheet
