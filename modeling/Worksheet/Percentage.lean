import Worksheet.Amount
import Worksheet.Phrase

/-!
# Phrases about percentages

Shares, changes, tips and bills that are split. A decrease is looked for before an increase.
-/

namespace Worksheet

open Text Pattern

namespace Percentage

/-! ## Patterns -/

def isNumeric (c : Char) : Bool := isDigit c || c == '.'

def numeral : Pattern := many1 isNumeric

def number (k : Nat) : Pattern := group k numeral

/-- A percent sign, with blanks before it. -/
def percent : Pattern := blanks? ++ char '%'

def dollar? : Pattern := char? '$'

def percentWord : Pattern := char '%' <|> word "percent" <|> word "percentage"

def shareOf : Pattern :=
  opt (word "what" ++ blanks ++ word "is" ++ blanks) ++ number 1 ++ blanks? ++ char? '%' ++
    blanks ++ word "of" ++ blanks ++ dollar? ++ number 2

def whatPercent : Pattern :=
  number 1 ++ blanks ++ word "is" ++ blanks ++ word "what" ++ blanks ++ percentWord ++ blanks ++
    word "of" ++ blanks ++ number 2

/-- `<verb> V by P%`, and `V <verb>d by P%`. -/
def changeBy (verb : String) : List Pattern := [
  word verb ++ blanks ++ number 1 ++ blanks ++ word "by" ++ blanks ++ number 2 ++ percent,
  number 1 ++ blanks ++ word (verb ++ "d") ++ blanks ++ word "by" ++ blanks ++ number 2 ++ percent]

def percentChange : Pattern :=
  word "percent" ++ opt (word "age") ++ blanks ++ word "change" ++ blanks ++
    opt (word "from" ++ blanks) ++ number 1 ++ blanks ++ word "to" ++ blanks ++ number 2

def tip : Pattern :=
  opt (word "tip" ++ blanks) ++ number 1 ++ percent ++ blanks? ++ opt (word "tip" ++ blanks) ++
    word "on" ++ blanks ++ dollar? ++ number 2

def withTip : Pattern :=
  opt (blanks ++ word "with" ++ blanks ++ number 3 ++ percent ++ blanks? ++ word "tip")

def ways : Pattern := group 2 digits ++ blanks ++ plural "way"

def splitBill : List Pattern := [
  dollar? ++ number 1 ++ blanks ++ word "split" ++ blanks ++ ways ++ withTip,
  word "split" ++ blanks ++ dollar? ++ number 1 ++ blanks ++ ways ++ withTip]

/-! ## Rules -/

open PhraseRule (onMatch)

def twoPlaces (x : Float) : Text := Fixed.plain 2 x

def whatIsShare : PhraseRule := onMatch [shareOf] fun m => do
  let percent ← m.number 1
  let value ← m.number 2
  return Amount.format (value * percent / 100) false

def whatPercentIs : PhraseRule := onMatch [whatPercent] fun m => do
  let part ← m.number 1
  let whole ← m.number 2
  if whole == 0 then .error (.phrase .divisionByZero)
  else return twoPlaces (part / whole * 100) ++ ['%']

def decrease : PhraseRule := onMatch (changeBy "decrease") fun m => do
  let value ← m.number 1
  let percent ← m.number 2
  return Amount.format (value * (1 - percent / 100)) false

def increase : PhraseRule := onMatch (changeBy "increase") fun m => do
  let value ← m.number 1
  let percent ← m.number 2
  return Amount.format (value * (1 + percent / 100)) false

def change : PhraseRule := onMatch [percentChange] fun m => do
  let old ← m.number 1
  let new ← m.number 2
  if old == 0 then .error (.phrase .divisionByZero)
  else
    let change := (new - old) / old * 100
    return (if change > 0 then ['+'] else []) ++ twoPlaces change ++ ['%']

def tipOn : PhraseRule := onMatch [tip] fun m => do
  let percent ← m.number 1
  let amount ← m.number 2
  let tip := amount * percent / 100
  return "Tip: $".toList ++ twoPlaces tip ++ ", Total: $".toList ++ twoPlaces (amount + tip)

def split : PhraseRule := onMatch splitBill fun m => do
  let amount ← m.number 1
  let ways ← m.natural 2
  if ways = 0 then .error (.phrase .zeroWays)
  else
    let percent ← match m.group? 3 with
      | some _ => m.number 3
      | none => pure 0
    let tip := amount * percent / 100
    let total := amount + tip
    match Binary.ofNat? ways with
    | none => .error (.fault .tooLarge)
    | some ways =>
      let each := "Per person: $".toList ++ twoPlaces (total / ways)
      return if percent > 0 then
        "Total: $".toList ++ twoPlaces total ++ " (incl. $".toList ++ twoPlaces tip ++
          " tip), ".toList ++ each
      else each

def rules : List PhraseRule :=
  [whatIsShare, whatPercentIs, decrease, increase, change, tipOn, split]

/-! ## Which expressions are tried -/

def markers : List Pattern := [
  word "what" ++ blanks ++ word "is" ++ blanks ++ numeral ++ blanks? ++ char? '%' ++ blanks ++
    word "of",
  numeral ++ percent ++ blanks ++ word "of" ++ blanks ++ dollar? ++ one isNumeric,
  numeral ++ blanks ++ word "is" ++ blanks ++ word "what" ++ blanks ++ percentWord,
  word "increase" ++ blanks ++ numeral ++ blanks ++ word "by" <|>
    numeral ++ blanks ++ word "increased" ++ blanks ++ word "by",
  word "decrease" ++ blanks ++ numeral ++ blanks ++ word "by" <|>
    numeral ++ blanks ++ word "decreased" ++ blanks ++ word "by",
  word "percent" ++ opt (word "age") ++ blanks ++ word "change",
  word "tip" ++ blanks ++ numeral ++ blanks? ++ char? '%' ++ blanks ++ word "on" <|>
    numeral ++ percent ++ blanks? ++ word "tip" ++ blanks ++ word "on",
  word "split" ++ blanks ++ dollar? ++ numeral <|>
    dollar? ++ numeral ++ blanks ++ word "split" ++ blanks ++ one isDigit]

/-- Whether an expression may be about percentages. -/
def claims (expr : Text) : Bool :=
  let low := lower expr
  markers.any (·.occurs low)

end Percentage

end Worksheet
