import Worksheet.Expr.Arithmetic

/-!
# Evaluating an expression

Tokens are evaluated as they are read, by the precedence of the operators: comparisons bind least,
then sums, products and powers. All group to the left but powers, which group to the right. A sign
binds to the operand behind it, so `-2 ^ 2` is `(-2) ^ 2`.

Operands nested deeper than `maxDepth` are refused.
-/

namespace Worksheet

/-- The values of earlier lines. -/
abbrev Resolver := Nat → Except ParseError Float

namespace Expr

/-- A value read from the front of a list of tokens, and the tokens behind it. -/
abbrev Reading := Except ParseError (Value × List Token)

/-- How deep operands may be nested. -/
def maxDepth : Nat := 1000

/-- The tokens behind a closing parenthesis or another symbol that must come next. -/
def expect (s : Symbol) : List Token → Except ParseError (List Token)
  | .symbol s' :: r => if s' = s then .ok r else .error (.expected s.text)
  | _ => .error (.expected s.text)

/-- Combines `left` with the operators that bind tighter than `least` and the operands behind them,
at most `n` times. `right` reads an operand whose operators bind tighter than a given precedence. -/
def chain (right : Nat → List Token → Reading) (least : Nat) : Nat → Value → List Token → Reading
  | 0, left, ts => .ok (left, ts)
  | n + 1, left, ts =>
    match ts with
    | .symbol s :: r =>
      match s.precedence? with
      | none => .ok (left, ts)
      | some p =>
        if p ≤ least then .ok (left, ts)
        else match right (if s = .caret then p - 1 else p) r with
          | .error e => .error e
          | .ok (v, r) => chain right least n ⟨s.combine left v, false⟩ r
    | _ => .ok (left, ts)

mutual

/-- Reads an operand: a literal, a reference, a parenthesis, a function call, or a sign and an
operand. -/
def operand (resolve : Option Resolver) : Nat → List Token → Reading
  | 0, _ => .error .tooDeep
  | d + 1, ts =>
    match ts with
    | [] => .error .endOfExpression
    | .number v percent _ :: r => .ok (⟨v, percent⟩, r)
    | .currency v _ :: r => .ok (⟨v, false⟩, r)
    | .reference n _ :: r =>
      match resolve with
      | none => .error (.noResolver n)
      | some resolve => do
        let v ← resolve n
        return (⟨v, false⟩, r)
    | .word name :: r => do
      let r ← expect .opening r
      let (v, r) ← expression resolve d 0 r
      let r ← expect .closing r
      return (⟨← applyFunction name v.number, false⟩, r)
    | .symbol .opening :: r => do
      let (v, r) ← expression resolve d 0 r
      return (v, ← expect .closing r)
    | .symbol .minus :: r => do
      let (v, r) ← operand resolve d r
      return (⟨-v.number, v.percent⟩, r)
    | .symbol .plus :: r => operand resolve d r
    | .symbol s :: _ => .error (.unexpected s.text)

/-- Reads an operand and the operators behind it that bind tighter than `least`. -/
def expression (resolve : Option Resolver) : Nat → Nat → List Token → Reading
  | 0, _, _ => .error .tooDeep
  | d + 1, least, ts =>
    match operand resolve d ts with
    | .error e => .error e
    | .ok (v, r) => chain (expression resolve d) least r.length v r

end

/-- Reads the expression at the front of a list of tokens. -/
def read (resolve : Option Resolver) (ts : List Token) : Reading := expression resolve maxDepth 0 ts

/-- The value of a whole list of tokens. -/
def evaluateTokens (resolve : Option Resolver) (ts : List Token) : Except ParseError Float :=
  match read resolve ts with
  | .error e => .error e
  | .ok (v, []) => .ok v.number
  | .ok (_, t :: _) => .error (.unexpected t.text)

/-- The value of an expression. -/
def evaluate (resolve : Option Resolver) (t : Text) : Result Float :=
  match Token.scan t with
  | .error e => .error e
  | .ok ts => (evaluateTokens resolve ts).mapError .parse

end Expr

end Worksheet
