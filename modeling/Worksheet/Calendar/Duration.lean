import Worksheet.Failure
import Worksheet.Number.Fixed
import Worksheet.Text.Case

/-!
# Durations

A duration is a whole number of microseconds. An amount of units that is no whole number of
microseconds is rounded to the nearest one, a half to the even one.
-/

namespace Worksheet

inductive TimeUnit where
  | second
  | minute
  | hour
  | day
  | week
  | month
  | year
  deriving DecidableEq, Repr

namespace TimeUnit

/-- The unit that a word names by its first letters, in any case. -/
def ofWord (w : Text) : TimeUnit :=
  let w := Text.lower w
  let begins (p : String) := p.toList.isPrefixOf w
  if begins "sec" then second
  else if begins "min" then minute
  else if begins "h" then hour
  else if begins "d" then day
  else if begins "w" then week
  else if begins "mo" then month
  else year

/-- The mean days of a month, for parts of one. -/
def daysPerMonth : Float := 30.44

/-- The mean days of a year, for parts of one. -/
def daysPerYear : Float := 365.25

end TimeUnit

structure Duration where
  micros : Int
  deriving DecidableEq, Repr

namespace Duration

def microsPerDay : Nat := 86400000000

/-- The longest duration has this many days. -/
def maxDays : Nat := 999999999

/-- A duration of a number of microseconds, if its whole days are not too many. -/
def ofMicros (n : Int) : Result Duration :=
  if (n.fdiv microsPerDay).natAbs ≤ maxDays then .ok ⟨n⟩ else .error (.fault .tooLarge)

/-- The whole number nearest to `n + part`, where `part` lies between -1 and 1; a half goes to the
even one. -/
def addPart (n : Int) (part : Float) : Int :=
  if 0.5 < part || (part == 0.5 && n % 2 == 1) then n + 1
  else if part < -0.5 || (part == -0.5 && n % 2 == 1) then n - 1
  else n

/-- A number of units of `size` microseconds. The whole units count exactly; the part of a unit is
multiplied in doubles. -/
def ofUnits (amount : Float) (size : Nat) : Result Duration :=
  match Binary.ofFloat? amount with
  | none => .error (.fault (if amount.isNaN then .badValue else .tooLarge))
  | some b =>
    let whole := b.truncate
    let part := b.part * Binary.ofNat size
    match Binary.ofFloat? part with
    | none => .error (.fault .tooLarge)
    | some p => ofMicros (addPart (whole * size + p.truncate) p.part)

/-- A number of units; months and years have their mean length. -/
def ofUnit (amount : Float) : TimeUnit → Result Duration
  | .second => ofUnits amount 1000000
  | .minute => ofUnits amount 60000000
  | .hour => ofUnits amount 3600000000
  | .day => ofUnits amount microsPerDay
  | .week => ofUnits amount (7 * microsPerDay)
  | .month => ofUnits (amount * TimeUnit.daysPerMonth) microsPerDay
  | .year => ofUnits (amount * TimeUnit.daysPerYear) microsPerDay

/-! ## As text -/

/-- Seconds, in the double nearest to them. -/
def seconds (d : Duration) : Float := Binary.nearest d.micros.natAbs 1000000

/-- A number of seconds that is not negative in its largest unit: days and hours, hours, minutes or
seconds. -/
def formatSeconds (seconds : Float) : Text :=
  if 86400 ≤ seconds then
    let days := ((Binary.ofFloat? (seconds / 86400)).map Binary.floor).getD 0
    let hours := (seconds - Binary.ofNat (days * 86400)) / 3600
    let days := Text.ofNat days ++ " days".toList
    if 0 < hours then days ++ ' ' :: Fixed.plain 1 hours ++ " hours".toList else days
  else if 3600 ≤ seconds then Fixed.plain 2 (seconds / 3600) ++ " hours".toList
  else if 60 ≤ seconds then Fixed.plain 2 (seconds / 60) ++ " minutes".toList
  else Fixed.plain 2 seconds ++ " seconds".toList

def format (d : Duration) : Text :=
  if d.micros < 0 then '-' :: formatSeconds d.seconds else formatSeconds d.seconds

end Duration

end Worksheet
