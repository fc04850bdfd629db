import Worksheet.Amount
import Worksheet.Calendar.Phrase
import Worksheet.Currency
import Worksheet.Earlier
import Worksheet.Measure.Phrase
import Worksheet.Percentage
import Worksheet.Subnet.Phrase

/-!
# Evaluators

An expression is offered to evaluators in a fixed order: subnets, dates, percentages, units, and
plain arithmetic. The first that answers wins. One that fails is passed over; if none answers, the
last failure is that of the expression.
-/

namespace Worksheet

/-- The answer to an expression. A number can be referred to by its value, a date by its text. -/
structure Answer where
  text : Text
  value : Option Float := none
  isCurrency : Bool := false
  dateTime : Option Text := none

/-- An answer leaves its value, and its text if that is a date. -/
def Answer.outcome (a : Answer) : Outcome := ⟨true, a.value, a.isCurrency, a.dateTime⟩

/-- What evaluation takes from the world: the current time, and the rates of currencies. -/
structure Surroundings where
  now : Moment
  rates : Currency.Rates

inductive Evaluator where
  | subnets
  | dates
  | percentages
  | units
  | arithmetic
  deriving DecidableEq, Repr

/-! ## Arithmetic -/

/-- Whether an amount of dollars takes part in an expression. -/
def concernsCurrency (earlier : Earlier) (expr : Text) (ts : List Token) : Result Bool :=
  if ts.any Token.isCurrency then .ok true else refersToCurrency (earlier.map (·.isCurrency)) expr

/-- The answer of arithmetic. A comparison anywhere in the expression makes it a truth value. -/
def calculate (earlier : Earlier) (expr : Text) : Result Answer := do
  let ts ← Token.scan expr
  let isCurrency ← concernsCurrency earlier expr ts
  let x ← (Expr.evaluateTokens (some earlier.value) ts).mapError .parse
  let text := if ts.any Token.isComparison then Amount.formatTruth x else Amount.format x isCurrency
  return { text, value := some x, isCurrency }

namespace Evaluator

/-- The order in which evaluators are tried. -/
def all : List Evaluator := [subnets, dates, percentages, units, arithmetic]

/-- Whether an expression that names a currency or a unit should be converted. -/
def claimsConversion (expr : Text) : Bool :=
  match Conversion.ofText? expr with
  | none => false
  | some c =>
    [c.source, c.target].any fun t => (Currency.code? t).isSome || (Measure.commonName? t).isSome

/-- Whether an evaluator is asked at all. -/
def claims (e : Evaluator) (expr : Text) : Bool :=
  match e with
  | subnets => Subnet.claims expr
  | dates => Calendar.claims expr
  | percentages => Percentage.claims expr
  | units => claimsConversion expr
  | arithmetic => true

/-- The answer of rules for phrases. -/
def answerBy (rules : List PhraseRule) (expr : Text) : Result (Option Answer) := do
  return (← PhraseRule.run rules expr).map fun text => { text }

/-- The answer of one evaluator, none if it does not recognise the expression. -/
def answer (s : Surroundings) (earlier : Earlier) (expr : Text) : Evaluator → Result (Option Answer)
  | subnets => answerBy Subnet.rules expr
  | dates => do
    let expr ← Reference.replaceM earlier.dateTime expr
    let answer ← PhraseRule.run (Calendar.rules s.now) expr
    return answer.map fun text => { text, dateTime := some text }
  | percentages => answerBy Percentage.rules expr
  | units => answerBy [Currency.convert s.rates, Measure.convertPhrase] expr
  | arithmetic => (calculate earlier expr).map some

end Evaluator

/-- The first answer of several evaluators; `last` is the last failure so far. -/
def answerFrom (s : Surroundings) (earlier : Earlier) (expr : Text) (last : LineError) :
    List Evaluator → Result Answer
  | [] => .error (.line last)
  | e :: es =>
    if e.claims expr then
      match e.answer s earlier expr with
      | .ok (some a) => .ok a
      | .ok none => answerFrom s earlier expr last es
      | .error (.line l) => answerFrom s earlier expr l es
      | .error (.fault f) => .error (.fault f)
    else answerFrom s earlier expr last es

/-- The answer to an expression. -/
def evaluate (s : Surroundings) (es : List Evaluator) (earlier : Earlier) (expr : Text) :
    Result Answer :=
  answerFrom s earlier expr (.phrase (.notUnderstood expr)) es

end Worksheet
