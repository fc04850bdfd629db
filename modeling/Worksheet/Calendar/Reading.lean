import Worksheet.Calendar.Shift
import Worksheet.Calendar.ZoneNames
import Worksheet.Number.Literal
import Worksheet.Pattern.Search

/-!
# Reading dates and times

A date or a time of day is read by the first of several formats that takes the whole text. A date
stands at midnight unless a time follows it, a time of day belongs to the current date, and both
belong to a zone whose abbreviation may follow.
-/

namespace Worksheet

open Text Pattern

/-- A part of a format. -/
inductive FormatPart where
  | year
  | month
  | shortMonth
  | longMonth
  | day
  | hour
  /-- An hour from 1 to 12. -/
  | clockHour
  | minute
  | second
  /-- `am` or `pm`. -/
  | half
  | blank
  | mark (c : Char)
  deriving DecidableEq, Repr

namespace FormatPart

def months : List String := [
  "january", "february", "march", "april", "may", "june", "july", "august", "september",
  "october", "november", "december"]

def shortMonths : List String := months.map fun m => (m.take 3).toString

def digit : Pattern := one isDigit

/-- An ASCII digit of a range. -/
def digitIn (lo hi : Char) : Pattern := one fun c => lo ≤ c && c ≤ hi

/-- A number of hours, days or months from 1 on, whose tens are written before. -/
def fromOne : Pattern := char '0' ++ digitIn '1' '9' <|> digitIn '1' '9'

/-- A number below 60. -/
def sixty : Pattern := digitIn '0' '5' ++ digit <|> digit

def upToTwelve : Pattern := char '1' ++ digitIn '0' '2' <|> fromOne

/-- The number by which a match remembers a part. -/
def key : FormatPart → Nat
  | year => 1
  | month => 2
  | shortMonth => 3
  | longMonth => 4
  | day => 5
  | hour => 6
  | clockHour => 7
  | minute => 8
  | second => 9
  | half => 10
  | blank => 11
  | mark _ => 12

def body : FormatPart → Pattern
  | year => digit ++ digit ++ digit ++ digit
  | month => upToTwelve
  | shortMonth => firstOf (shortMonths.map anyCase)
  | longMonth => firstOf (months.map anyCase)
  | day =>
    char '3' ++ digitIn '0' '1' <|> digitIn '1' '2' ++ digit <|> fromOne <|>
      char ' ' ++ digitIn '1' '9'
  | hour => char '2' ++ digitIn '0' '3' <|> digitIn '0' '1' ++ digit <|> digit
  | clockHour => upToTwelve
  | minute => sixty
  | second => char '6' ++ digitIn '0' '1' <|> sixty
  | half => anyCase "am" <|> anyCase "pm"
  | blank => blanks
  | mark c => char c

def pattern (p : FormatPart) : Pattern := group p.key p.body

/-- What a match holds for a numeric part. -/
def number? (p : FormatPart) (m : Match) : Option Nat :=
  (m.group? p.key).bind fun t => Literal.natural? (trim t)

/-- The month that a match names, counted from 1. -/
def monthNamed? (p : FormatPart) (names : List String) (m : Match) : Option Nat :=
  (m.group? p.key).bind fun t =>
    (names.findIdx? fun name => name.toList == lower t).map (· + 1)

end FormatPart

/-- A format is what must follow one another. -/
abbrev Format := List FormatPart

namespace Format

/-- What a format found in a text. -/
structure Reading where
  date : Date
  hour : Nat
  minute : Nat
  second : Nat

/-- Microseconds of the day. -/
def Reading.timeOfDay (r : Reading) : Nat :=
  ((r.hour * 60 + r.minute) * 60 + r.second) * Moment.microsPerSecond

open FormatPart

/-- A month must have one of the names of its part. -/
def monthOf? (f : Format) (m : Match) : Option Nat :=
  if f.contains shortMonth then shortMonth.monthNamed? shortMonths m
  else if f.contains longMonth then longMonth.monthNamed? months m
  else some ((month.number? m).getD 1)

/-- The hour on a clock of 24 hours; the twelfth hour opens each half. -/
def hourOf (m : Match) : Nat :=
  match clockHour.number? m with
  | some h => h % 12 + if lower (m.group half.key) == "pm".toList then 12 else 0
  | none => (hour.number? m).getD 0

/-- Reads a whole text. A format without a date leaves 1 January 1900. -/
def read? (f : Format) (t : Text) : Option Reading := do
  let m ← (f.foldr (fun p q => p.pattern ++ q) nothing).matchStart t
  let month ← f.monthOf? m
  let date : Date := ⟨(year.number? m).getD 1900, month, (day.number? m).getD 1⟩
  let seconds := (second.number? m).getD 0
  if m.right.isEmpty && date.isValid && seconds < 60 then
    some ⟨date, hourOf m, (minute.number? m).getD 0, seconds⟩
  else none

def isoDate : Format := [year, mark '-', month, mark '-', day]

def slashDate : Format := [month, mark '/', day, mark '/', year]

def time : Format := [hour, mark ':', minute]

def timeSeconds : Format := time ++ [mark ':', second]

def commaDate (name : FormatPart) : Format := [name, blank, day, mark ',', blank, year]

def nameFirst (name : FormatPart) : Format := [name, blank, day, blank, year]

def dayFirst (name : FormatPart) : Format := [day, blank, name, blank, year]

/-- The formats of dates, perhaps with a time. -/
def dates : List Format := [
  isoDate ++ [blank] ++ timeSeconds, isoDate ++ [blank] ++ time, isoDate,
  slashDate ++ [blank] ++ timeSeconds, slashDate ++ [blank] ++ time, slashDate,
  commaDate shortMonth ++ [blank] ++ time, commaDate shortMonth, nameFirst shortMonth,
  commaDate longMonth, nameFirst longMonth, dayFirst shortMonth, dayFirst longMonth]

def halfTime : Format := [clockHour, mark ':', minute]

/-- The formats of times of day. -/
def times : List Format := [
  halfTime ++ [half], halfTime ++ [blank, half], [clockHour, half], [clockHour, blank, half],
  time, timeSeconds, halfTime ++ [mark ':', second, half],
  halfTime ++ [mark ':', second, blank, half]]

end Format

namespace Moment

/-- What a clock shows in a zone, or in UTC if none is given. -/
def inZone (m : Moment) (z : Option Zone) : Result Moment := m.toZone (z.getD Zone.utc)

def dayWords : List String := ["today", "today()", "tomorrow", "yesterday"]

/-- The start of the day that a word names. -/
def ofDayWord (now : Moment) (word : Text) (zone : Option Zone) : Result Moment := do
  let today := (← now.inZone zone).setTime 0
  let days : Int :=
    if word == "tomorrow".toList then 1 else if word == "yesterday".toList then -1 else 0
  today.add (days * microsPerDay)

def isNow (t : Text) : Bool := t == "now".toList || t == "now()".toList

def isDayWord (t : Text) : Bool := dayWords.any fun w => w.toList == t

/-- Reads a text without a zone. -/
def ofPlainText? (now : Moment) (zone : Option Zone) (t : Text) : Result (Option Moment) := do
  let low := lower t
  if isNow low then return some (← now.inZone zone)
  else if isDayWord low then return some (← ofDayWord now low zone)
  else
    match Format.dates.findSome? fun f => f.read? t with
    | some r => return ofDate? r.date r.timeOfDay zone false
    | none =>
      match Format.times.findSome? fun f => f.read? low with
      | some r => return some ((← now.inZone zone).setTime r.timeOfDay)
      | none => return none

/-- Splits off the abbreviation of a zone behind the last space, if there is one. -/
def splitZone (zone : Option Zone) (t : Text) : Option Zone × Text :=
  match cutAtLast ' ' t with
  | some (head, tail) =>
    if !head.isEmpty && Zone.isAbbreviation tail then (Zone.ofText? tail, head) else (zone, t)
  | none => (zone, t)

/-- Reads a date, a time of day or a word for one. The zone is the one whose abbreviation stands at
the end, else `zone`, else that of the clock. -/
def ofText? (now : Moment) (zone : Option Zone) (t : Text) : Result (Option Moment) :=
  let (zone, t) := splitZone (zone.or now.zone) (trim t)
  ofPlainText? now zone t

/-! ## Dates without a year -/

/-- The month that a name or its first three letters name; September has four too. -/
def monthOfName? (name : Text) : Option Nat :=
  let is (names : List String) := names.findIdx? fun n => n.toList == name
  ((is FormatPart.months).or <| (is FormatPart.shortMonths).or <|
    if name == "sept".toList then some 8 else none).map (· + 1)

def isSmallLetter (c : Char) : Bool := 'a' ≤ c && c ≤ 'z'

/-- A name and a day, in either order. -/
def nameAndDay? (t : Text) : Option (Text × Text) :=
  let name := many1 isSmallLetter
  let nameFirst := group 1 name ++ blanks ++ group 2 digits ++ atEnd
  let dayFirst := group 2 digits ++ blanks ++ group 1 name ++ atEnd
  ((nameFirst.matchStart t).or (dayFirst.matchStart t)).map fun m => (m.group 1, m.group 2)

/-- Reads a day and a month of the current year, or any other date or time. -/
def ofPartialText? (now : Moment) (t : Text) : Result (Option Moment) := do
  let t := lower (trim t)
  match (nameAndDay? t).bind fun (name, day) => (monthOfName? name).map (·, day) with
  | none => ofText? now now.zone t
  | some (month, day) =>
    let date? := (Literal.natural? day).bind fun d =>
      ofDate? ⟨now.date.year, month, d⟩ 0 now.zone false
    match date? with
    | some m => return some m
    | none => .error (.phrase (.invalidDate t))

end Moment

end Worksheet
