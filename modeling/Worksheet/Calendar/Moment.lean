import Worksheet.Calendar.Zone
import Worksheet.Failure

/-!
# Moments

A moment is what a clock on a wall shows, to the microsecond, with the zone of the clock where it is
known. Two moments of one zone are compared by their wall times, those of different zones by their
instants; a moment with a zone and one without cannot be compared.
-/

namespace Worksheet

/-- A wall time in microseconds from the start of the year 1. Of a wall time that occurs twice in
its zone, `fold` tells the second. -/
structure Moment where
  wall : Nat
  zone : Option Zone
  fold : Bool
  wall_lt : wall < Date.maxOrdinal * 86400000000

namespace Moment

open Text (ofNat padLeft)

def microsPerSecond : Nat := 1000000

def microsPerDay : Nat := 86400000000

/-- The moment of a wall time, none outside the years 1 to 9999. -/
def ofWall? (wall : Int) (zone : Option Zone) (fold : Bool) : Option Moment :=
  match wall with
  | .ofNat w => if h : w < Date.maxOrdinal * 86400000000 then some ⟨w, zone, fold, h⟩ else none
  | .negSucc _ => none

/-- The moment of a date and microseconds of the day, none if they do not exist. -/
def ofDate? (d : Date) (timeOfDay : Nat) (zone : Option Zone) (fold : Bool) : Option Moment :=
  if d.isValid && timeOfDay < microsPerDay then
    ofWall? ((d.ordinal - 1) * microsPerDay + timeOfDay : Nat) zone fold
  else none

/-! ## Parts -/

/-- The number of the day. -/
def ordinal (m : Moment) : Nat := m.wall / microsPerDay + 1

def date (m : Moment) : Date := Date.ofOrdinal m.ordinal

/-- Microseconds from the start of the day. -/
def timeOfDay (m : Moment) : Nat := m.wall % microsPerDay

/-- Seconds from 1970 on the wall clock. -/
def wallSeconds (m : Moment) : Int :=
  (m.wall / microsPerSecond : Nat) - (YearRule.epochDays - 1) * 86400

/-! ## Zones -/

/-- The period of the zone that the wall clock shows. -/
def period? (m : Moment) : Option Period :=
  m.zone.map fun z => z.atWall m.date.year m.wallSeconds m.fold

/-- Seconds east of Greenwich. -/
def offset? (m : Moment) : Option Int := m.period?.map (·.offset)

def zoneName (m : Moment) : Text := (m.period?.map (·.name.toList)).getD []

/-- Microseconds from the start of the year 1 in UTC. -/
def instant? (m : Moment) : Option Int := m.offset?.map fun o => m.wall - o * microsPerSecond

/-- The moment `n` microseconds later on the wall clock. -/
def add (m : Moment) (n : Int) : Result Moment :=
  match ofWall? (m.wall + n) m.zone false with
  | some m => .ok m
  | none => .error (.fault .tooLarge)

/-- What a clock of the zone `z` shows at the instant of a moment. A moment without a zone counts as
one in UTC. -/
def toZone (m : Moment) (z : Zone) : Result Moment := do
  if m.zone.any z.same then return m
  let utc ← m.add (-(m.offset?.getD 0) * microsPerSecond)
  let (p, fold) := z.atInstant utc.date.year utc.wallSeconds
  let there ← utc.add (p.offset * microsPerSecond)
  return { there with zone := some z, fold }

/-- How many microseconds `b` lies behind `a`. -/
def between (a b : Moment) : Result Int :=
  let onWall : Int := (b.wall : Int) - a.wall
  match a.zone, b.zone with
  | none, none => .ok onWall
  | some y, some z =>
    if y.same z then .ok onWall else .ok ((b.instant?.getD 0) - (a.instant?.getD 0))
  | _, _ => .error (.fault .mismatch)

/-- Whether `b` is not before `a`. -/
def notAfter (a b : Moment) : Result Bool := do return decide (0 ≤ (← between a b))

/-- The same moment at another time of the day. -/
def setTime (m : Moment) (timeOfDay : Nat) : Moment :=
  (ofWall? ((m.ordinal - 1) * microsPerDay + timeOfDay : Nat) m.zone m.fold).getD m

/-! ## As text -/

def twoDigits (n : Nat) : Text := padLeft '0' 2 (ofNat n)

/-- The date as year, month and day; the year has as few digits as it needs. -/
def formatDate (m : Moment) : Text :=
  let d := m.date
  ofNat d.year ++ '-' :: twoDigits d.month ++ '-' :: twoDigits d.day

/-- The date, the hour and minute, and the name of the zone's period. -/
def format (m : Moment) : Text :=
  let minute := m.timeOfDay / (60 * microsPerSecond)
  m.formatDate ++ ' ' :: twoDigits (minute / 60) ++ ':' :: twoDigits (minute % 60) ++
    ' ' :: m.zoneName

end Moment

end Worksheet
