import Worksheet.Failure
import Worksheet.Number.Literal
import Worksheet.Pattern.Search

/-!
# Phrases

A grammar of phrases is a list of rules that are tried in order; the first that recognises the
expression answers it. A rule sees the expression without blanks around it, and the same in lower
case.
-/

namespace Worksheet

/-- What a rule makes of an expression and its lower case: none if it does not recognise it. -/
abbrev PhraseRule := Text → Text → Result (Option Text)

namespace PhraseRule

/-- The answer of the first rule that recognises an expression. -/
def firstAnswer (rules : List PhraseRule) (expr lower : Text) : Result (Option Text) :=
  match rules with
  | [] => .ok none
  | rule :: rules => do
    match ← rule expr lower with
    | some t => return some t
    | none => firstAnswer rules expr lower

def run (rules : List PhraseRule) (expr : Text) : Result (Option Text) :=
  let expr := Text.trim expr
  firstAnswer rules expr (Text.lower expr)

/-- Answers with `f` where one of the patterns occurs in the lower case; of several the first. -/
def onMatch (patterns : List Pattern) (f : Match → Result Text) : PhraseRule := fun _ lower =>
  match patterns.findSome? fun p => p.search lower with
  | some m => (f m).map some
  | none => .ok none

end PhraseRule

/-- The whole number that a matched run of digits writes. -/
def Match.natural (m : Match) (k : Nat) : Result Nat :=
  match Literal.natural? (m.group k) with
  | some n => .ok n
  | none => .error (.fault .badValue)

/-- The number that a matched run of digits and points writes. -/
def Match.number (m : Match) (k : Nat) : Result Float :=
  match Literal.real? (m.group k) with
  | some x => .ok x
  | none => .error (.phrase (.invalidNumber (m.group k)))

end Worksheet
