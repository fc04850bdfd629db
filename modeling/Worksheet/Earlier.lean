import Worksheet.Expr.Evaluate
import Worksheet.Reference

/-!
# Earlier lines

What a line leaves to the lines behind it, and how a reference is resolved against the lines in
front: to a value in arithmetic, to a date and time in phrases about dates.
-/

namespace Worksheet

/-- What a line leaves to those that refer to it. -/
structure Outcome where
  hasResult : Bool := false
  value : Option Float := none
  isCurrency : Bool := false
  dateTime : Option Text := none

/-- The outcomes of the lines in front, first line first. -/
abbrev Earlier := List Outcome

namespace Earlier

/-- The outcome of line `n`, counted from 1. -/
def line? (e : Earlier) (n : Nat) : Option Outcome := if n = 0 then none else e[n - 1]?

/-- The value of line `n`. -/
def value (e : Earlier) (n : Nat) : Except ParseError Float :=
  match e.line? n with
  | none => .error (.badReference n)
  | some o =>
    match o.hasResult, o.value with
    | true, some x => .ok x
    | _, _ => .error (.unresolved n)

/-- The date and time of line `n`. -/
def dateTime (e : Earlier) (n : Nat) : Result Text :=
  match (e.line? n).bind (·.dateTime) with
  | some (c :: t) => .ok (c :: t)
  | _ => .error (.phrase (.notDateTime n))

end Earlier

/-- Whether an expression refers to a line that is flagged as an amount of dollars. -/
def refersToCurrency (flags : List Bool) (expr : Text) : Result Bool := do
  return (← Reference.findAll expr).any fun n => n != 0 && flags.getD (n - 1) false

end Worksheet
