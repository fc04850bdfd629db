import Worksheet.Calendar.Reading
import Worksheet.Calendar.Span
import Worksheet.Measure.Convert
import Worksheet.Phrase

/-!
# Phrases about dates and times

The current time, here or elsewhere, times of one zone in another, durations in other units, dates
moved by a duration, the span between two dates, ranges of days, and multiples of a duration. What
no other rule takes may be a date or time by itself.
-/

namespace Worksheet

open Text Pattern

namespace Calendar

/-! ## Patterns -/

/-- Text without a line feed, as short as possible. -/
def phrase (k : Nat) : Pattern := group k (fewest notNewline)

/-- Text without a line feed, as long as possible. -/
def rest (k : Nat) : Pattern := group k (many1 notNewline)

def pluralAnyCase (w : String) : Pattern := anyCase w ++ opt (anyCase "s")

/-- A word for a unit. -/
def unit (k : Nat) : Pattern :=
  group k <| firstOf <|
    ["second", "sec", "minute", "min", "hour", "hr", "day", "week", "month", "year", "yr"].map
    pluralAnyCase

/-- Digits and points. -/
def amount (k : Nat) : Pattern := group k (many1 fun c => isDigit c || c == '.')

def inWord : Pattern := blanks ++ anyCase "in" ++ blanks

def nowIn : Pattern := anyCase "now" ++ opt (word "()") ++ inWord ++ rest 1 ++ atEnd

def timeIn : Pattern :=
  let twoDigits := char ':' ++ times isDigit 2 2
  group 1 (times isDigit 1 2 ++ opt twoDigits ++ opt twoDigits ++ blanks? ++
      opt (anyCase "am" <|> anyCase "pm")) ++
    blanks ++ phrase 2 ++ inWord ++ rest 3 ++ atEnd

def durationIn : Pattern := amount 1 ++ blanks? ++ unit 2 ++ inWord ++ unit 3 ++ atEnd

def moved : Pattern :=
  phrase 1 ++ blanks? ++ group 2 (char '+' <|> char '-') ++ blanks? ++ amount 3 ++ blanks? ++
    unit 4 ++ atEnd

def dash : Pattern := one isBlank ++ char '-' ++ one isBlank

def isAsciiLetter (c : Char) : Bool := c.isAlpha

def momentIn : Pattern :=
  let name := many1 isWord
  phrase 1 ++ blanks ++ group 2 (times isAsciiLetter 2 4) ++ blanks ++ word "in" ++ blanks ++
    group 3 (name ++ opt (blanks ++ name)) ++ atEnd

/-- A sign of multiplication with blanks around it. -/
def timesSign : Pattern :=
  blanks? ++ one (fun c => c == 'x' || c == 'X' || c == '×' || c == '*') ++ blanks?

def numberTimesDuration : Pattern := amount 3 ++ timesSign ++ amount 1 ++ blanks? ++ unit 2 ++ atEnd

def durationTimesNumber : Pattern := amount 1 ++ blanks? ++ unit 2 ++ timesSign ++ amount 3 ++ atEnd

def rangeWords : List Text := [" till ", " until ", " to ", " through ", " - "].map String.toList

/-! ## Durations in other units -/

/-- The unit of measure that a unit of durations is. -/
def measure : TimeUnit → Measure.Unit
  | .second => Measure.Catalog.second
  | .minute => Measure.Catalog.minute
  | .hour => Measure.Catalog.hour
  | .day => Measure.Catalog.day
  | .week => Measure.Catalog.week
  | .month => Measure.Catalog.month
  | .year => Measure.Catalog.year

/-- A number in another unit. No conversion is refused, as all units measure time. -/
def convert (x : Float) (source target : TimeUnit) : Result Float :=
  match Measure.convert x [(measure source, 1)] [(measure target, 1)] with
  | .ok x => .ok x
  | .error (.fault f) => .error (.fault f)
  | .error (.refusal _) => .error (.fault .mismatch)

/-- A number without places if it is whole, else with two. -/
def formatAmount (x : Float) : Text :=
  Fixed.plain (if (Binary.ofFloat? x).any Binary.isWhole then 0 else 2) x

/-! ## Rules

`now` is the moment that the clock shows.
-/

/-- Replaces a failure that stems from a limit of the calendar. -/
def orElseFail (e : PhraseError) : Result α → Result α
  | .error (.fault .tooLarge) => .error (.phrase e)
  | .error (.fault .badValue) => .error (.phrase e)
  | r => r

/-- A rule that goes by the whole expression. -/
def onWhole (p : Pattern) (f : Match → Result (Option Text)) : PhraseRule := fun expr _ =>
  match p.matchStart expr with
  | some m => f m
  | none => .ok none

def nowElsewhere (now : Moment) : PhraseRule := onWhole nowIn fun m => do
  match Zone.ofText? (m.group 1) with
  | none => .error (.phrase (.unknownZone (m.group 1)))
  | some z => return some (← now.toZone z).format

def nowHere (now : Moment) : PhraseRule := fun _ low => do
  if Moment.isNow low then return some now.format
  else if Moment.isDayWord low then return some (← Moment.ofDayWord now low now.zone).formatDate
  else return none

/-- A text read in the zone of one name and told in that of another. -/
def retold (now : Moment) (t source target : Text) : Result (Option Text) :=
  match Zone.ofText? source, Zone.ofText? target with
  | some source, some target => do
    match ← Moment.ofText? now (some source) t with
    | none => return none
    | some m => return some (← orElseFail .dateOutOfRange (m.toZone target)).format
  | _, _ => .ok none

def timeElsewhere (now : Moment) : PhraseRule := onWhole timeIn fun m =>
  retold now (trim (m.group 1)) (trim (m.group 2)) (trim (m.group 3))

def durationInUnit : PhraseRule := onWhole durationIn fun m => do
  let x ← m.number 1
  let x ← convert x (.ofWord (m.group 2)) (.ofWord (m.group 3))
  return some (formatAmount x ++ ' ' :: m.group 3)

def movedDate (now : Moment) : PhraseRule := onWhole moved fun m => do
  match ← Moment.ofText? now none (m.group 1) with
  | none => return none
  | some base =>
    let x ← m.number 3
    let x := if m.group 2 == ['-'] then -x else x
    return some (← orElseFail .dateOutOfRange (base.shift x (.ofWord (m.group 4)))).format

/-- The span told by the first dash between two dates. -/
def spanAt (now : Moment) : List Match → Result (Option Text)
  | [] => .ok none
  | m :: ms => do
    let a ← Moment.ofText? now none m.left
    let b ← Moment.ofText? now none m.right
    match a, b with
    | some a, some b => return some (← Span.between b a).format
    | _, _ => spanAt now ms

def spanBetween (now : Moment) : PhraseRule := fun expr _ => spanAt now (dash.findAll expr)

def momentElsewhere (now : Moment) : PhraseRule := onWhole momentIn fun m =>
  retold now (m.group 1) (m.group 2) (m.group 3)

/-- Days from one moment to another, with one place unless they are whole. -/
def formatDays (micros : Int) : Text :=
  let days := (Duration.mk micros).seconds / 86400
  let days := if micros < 0 then -days else days
  Fixed.plain (if (Binary.ofFloat? days).any Binary.isWhole then 0 else 1) days ++ " days".toList

/-- The days of a range. An end before the start is taken a year later. -/
def daysBetween (start stop : Moment) : Result Text := do
  let stop ← if ← start.notAfter stop then pure stop else
    match stop.addMonths 12 with
    | .error (.fault .badValue) => .error (.phrase .dateOutOfRange)
    | r => r
  return formatDays (← start.between stop)

/-- The first word of a range that has something before it decides. -/
def rangeAt (now : Moment) (low : Text) : List Text → Result (Option Text)
  | [] => .ok none
  | w :: ws =>
    match cutAtPhrase w low with
    | none | some ([], _) => rangeAt now low ws
    | some (a, b) => do
      let start ← Moment.ofPartialText? now a
      let stop ← Moment.ofPartialText? now b
      match start, stop with
      | some start, some stop => return some (← daysBetween start stop)
      | _, _ => return none

def range (now : Moment) : PhraseRule := fun _ low => rangeAt now low rangeWords

def multiple : PhraseRule := fun expr _ =>
  match (numberTimesDuration.matchStart expr).or (durationTimesNumber.matchStart expr) with
  | none => .ok none
  | some m => do
    let u := TimeUnit.ofWord (m.group 2)
    if u = .month || u = .year then return none
    else
      let x ← m.number 1
      let y ← m.number 3
      return some (← orElseFail .durationOutOfRange (Duration.ofUnit (x * y) u)).format

def moment (now : Moment) : PhraseRule := fun expr _ => do
  return (← Moment.ofText? now none expr).map Moment.format

def rules (now : Moment) : List PhraseRule := [
  nowElsewhere now, nowHere now, timeElsewhere now, durationInUnit, movedDate now, spanBetween now,
  momentElsewhere now, range now, multiple, moment now]

/-! ## Which expressions are tried -/

def keywords : List Text :=
  ["now", "today", "yesterday", "tomorrow", "hour", "hr", "minute", "min", "second", "sec", "day",
    "week", "month", "year", "yr", " in ", " till ", " until ", " to ", "am",
    "pm"].map String.toList

def datePatterns : List Pattern :=
  let two := times isDigit 1 2
  let four := times isDigit 4 4
  [four ++ char '-' ++ times isDigit 2 2 ++ char '-' ++ times isDigit 2 2,
    two ++ char '/' ++ two ++ char '/' ++ four,
    two ++ char ':' ++ times isDigit 2 2]

/-- Whether an expression may be about dates. -/
def claims (expr : Text) : Bool :=
  let low := lower expr
  keywords.any (occursIn · low) || datePatterns.any (·.occurs expr) || expr.contains '\\'

end Calendar

end Worksheet
