import Worksheet.Conversion
import Worksheet.Json.Basic
import Worksheet.Number.Fixed
import Worksheet.Phrase

/-!
# Currencies

An amount is converted at the rate that a rate service tells, or at the ratio of fixed rates where
the service is not asked or has no answer. A service is asked for one rate at a time, and whatever
it replies is taken as it is if it can be read as a number.
-/

namespace Worksheet

open Text (upperAscii)

namespace Currency

/-! ## Names and fixed rates -/

/-- Units of each currency for a dollar. -/
def fixedRates : List (String × Float) := [
  ("usd", 1), ("eur", 0.85), ("gbp", 0.73), ("jpy", 110), ("cad", 1.25), ("aud", 1.35),
  ("chf", 0.92), ("cny", 6.45), ("inr", 74.5), ("krw", 1180), ("mxn", 20.1), ("brl", 5.2),
  ("sek", 8.6), ("nok", 8.4), ("dkk", 6.3), ("pln", 3.9), ("nzd", 1.42), ("sgd", 1.34),
  ("hkd", 7.8), ("zar", 14.2), ("uah", 41)]

/-- The codes of currencies by their names. -/
def names : List (String × String) := [
  ("dollar", "usd"), ("dollars", "usd"), ("usd", "usd"), ("$", "usd"), ("euro", "eur"),
  ("euros", "eur"), ("eur", "eur"), ("pound", "gbp"), ("pounds", "gbp"), ("gbp", "gbp"),
  ("sterling", "gbp"), ("yen", "jpy"), ("jpy", "jpy"), ("canadian dollar", "cad"),
  ("canadian dollars", "cad"), ("cad", "cad"), ("australian dollar", "aud"),
  ("australian dollars", "aud"), ("aud", "aud"), ("franc", "chf"), ("francs", "chf"),
  ("swiss franc", "chf"), ("chf", "chf"), ("yuan", "cny"), ("rmb", "cny"), ("cny", "cny"),
  ("rupee", "inr"), ("rupees", "inr"), ("inr", "inr"), ("won", "krw"), ("krw", "krw"),
  ("peso", "mxn"), ("pesos", "mxn"), ("mxn", "mxn"), ("real", "brl"), ("reais", "brl"),
  ("brl", "brl"), ("krona", "sek"), ("kronor", "sek"), ("sek", "sek"), ("krone", "nok"),
  ("kroner", "nok"), ("nok", "nok"), ("dkk", "dkk"), ("zloty", "pln"), ("pln", "pln"),
  ("nzd", "nzd"), ("sgd", "sgd"), ("hkd", "hkd"), ("rand", "zar"), ("zar", "zar"),
  ("hryvnia", "uah"), ("uah", "uah")]

def code? (name : Text) : Option Text := (names.lookup (String.ofList name)).map String.toList

def fixedRate? (code : Text) : Option Float := fixedRates.lookup (String.ofList code)

/-! ## The rate service -/

/-- A question for the rate of `target` in units of `base`. -/
structure RateRequest where
  url : Text
  base : Text
  target : Text
  timeout : Float

/-- What comes back: nothing, or a status and perhaps a JSON body. -/
inductive RateReply where
  | unreachable
  | answered (status : Nat) (body : Option Json)

/-- The number that a JSON value stands for, none if it stands for none. Lists and objects are not
even tried. -/
def numberOf? : Json → Result (Option Float)
  | .null => .ok none
  | .bool b => .ok (some (if b then 1 else 0))
  | .int n =>
    match Binary.ofInt? n with
    | some x => .ok (some x)
    | none => .error (.fault .tooLarge)
  | .real x => .ok (some x)
  | .string t => .ok (Literal.real? t)
  | .array _ => .error (.fault .mismatch)
  | .object _ => .error (.fault .mismatch)

/-- The rate in a reply: that of the target among the `rates` of a body that came with a status
below 400. -/
def RateReply.rate? (target : Text) : RateReply → Result (Option Float)
  | .answered status (some body) =>
    if 400 ≤ status then .ok none
    else match (body.field? "rates").bind fun rates => rates.field? (String.ofList target) with
      | some rate => numberOf? rate
      | none => .ok none
  | _ => .ok none

/-- Where rates come from. The service, if it is to be asked, has an address and a time limit. -/
structure Rates where
  live : Bool
  url : Text
  timeout : Float
  ask : RateRequest → RateReply

namespace Rates

/-- The fixed rates alone. -/
def fixed : Rates := ⟨false, [], 0, fun _ => .unreachable⟩

/-- What the service is asked to find a rate. -/
def request? (r : Rates) (source target : Text) : Option RateRequest :=
  if r.live && source != target then
    some ⟨r.url, upperAscii source, upperAscii target, r.timeout⟩
  else none

/-- The ratio of the fixed rates. -/
def fixedRatio? (source target : Text) : Option Float := do
  let a ← fixedRate? source
  let b ← fixedRate? target
  return b / a

/-- Units of `target` for one of `source`. -/
def rate? (r : Rates) (source target : Text) : Result (Option Float) := do
  if source == target then return some 1
  else
    let live ← match r.request? source target with
      | none => pure none
      | some q => (r.ask q).rate? q.target
    return live.or (fixedRatio? source target)

end Rates

/-! ## Phrases -/

/-- The codes of the currencies between which a phrase converts. -/
def codes? (c : Conversion) : Option (Text × Text) := do
  let source ← code? c.source
  let target ← code? c.target
  return (source, target)

def convert (rates : Rates) : PhraseRule := fun expr _ => do
  match Conversion.ofText? expr with
  | none => return none
  | some c =>
    match codes? c with
    | none => return none
    | some (source, target) =>
      match ← rates.rate? source target with
      | none => return none
      | some rate =>
        return some (Fixed.ofFloat true 2 (c.amount * rate) ++ ' ' :: upperAscii target)

/-- What the service is asked to answer an expression. -/
def requestFor? (rates : Rates) (expr : Text) : Option RateRequest := do
  let (source, target) ← codes? (← Conversion.ofText? expr)
  rates.request? source target

end Currency

end Worksheet
