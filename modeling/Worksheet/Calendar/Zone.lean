import Worksheet.Calendar.Date
import Worksheet.Calendar.Zones.Aliases
import Worksheet.Calendar.Zones.Africa
import Worksheet.Calendar.Zones.AmericaFirst
import Worksheet.Calendar.Zones.AmericaLast
import Worksheet.Calendar.Zones.Asia
import Worksheet.Calendar.Zones.Europe
import Worksheet.Calendar.Zones.FixedOffsets
import Worksheet.Calendar.Zones.Pacific

/-!
# Time zones

A zone tells the period that holds at an instant, and the one that a wall clock shows. A wall time
that occurs twice is told apart by its `fold`: the second occurrence has it set. A wall time that is
skipped is read with the offset before the gap, with the fold set with the one after it.

Instants are seconds from 1970 in UTC, wall times seconds from 1970 on the wall clock.
-/

namespace Worksheet

/-- The changes of a zone in rising order, what holds before the first, and what holds after the
last. -/
structure ZoneData where
  changes : Array (Int × Period)
  before : Period
  tail : ZoneTail

inductive Zone where
  /-- A zone of the zone table under one of its names. -/
  | named (key : String) (data : ZoneData)
  | fixed (p : Period)

namespace YearRule

/-- The ordinal of 1 January 1970. -/
def epochDays : Int := 719163

/-- The wall time of a rule in a year. -/
def inYear (r : YearRule) (year : Nat) : Int :=
  let first := Date.ordinal ⟨year, r.month, 1⟩
  let day := (r.weekday + 7 - Date.weekday first) % 7 + 1 + (r.week - 1) * 7
  let day := if Date.daysInMonth year r.month < day then day - 7 else day
  ((first + day - 1 : Nat) - epochDays) * 86400 + r.second

end YearRule

namespace ZoneTail

/-- Whether `t` lies in the part of the year from `start` to `stop`, which may go round the new
year. -/
def isSummer (start stop t : Int) : Bool :=
  if start < stop then start ≤ t && t < stop else t < stop || start ≤ t

/-- The period that a wall clock shows. -/
def atWall (z : ZoneTail) (year : Nat) (t : Int) (fold : Bool) : Period :=
  match z with
  | steady p => p
  | seasonal standard summer start stop =>
    let gain := summer.offset - standard.offset
    let (start, stop) := (start.inYear year, stop.inYear year)
    let (start, stop) :=
      if fold == decide (0 ≤ gain) then (start, stop - gain) else (start + gain, stop)
    if isSummer start stop t then summer else standard

/-- The period at an instant, and whether its wall time occurs for the second time. -/
def atInstant (z : ZoneTail) (year : Nat) (t : Int) : Period × Bool :=
  match z with
  | steady p => (p, false)
  | seasonal standard summer start stop =>
    let gain := summer.offset - standard.offset
    let (start, stop) := (start.inYear year - standard.offset, stop.inYear year - summer.offset)
    let fold := if 0 < gain then stop ≤ t && t < stop + gain else start ≤ t && t < start - gain
    (if isSummer start stop t then summer else standard, fold)

end ZoneTail

namespace ZoneData

def periodAt (z : ZoneData) (i : Nat) : Period := (z.changes[i]?.map (·.2)).getD z.before

/-- The period before change `i`. -/
def periodBefore (z : ZoneData) (i : Nat) : Period := if i = 0 then z.before else z.periodAt (i - 1)

/-- The wall time of change `i`: in a fold the later reading of the clock counts for the first
occurrence and the earlier one for the second. -/
def wallOfChange (z : ZoneData) (fold : Bool) (i : Nat) : Int :=
  let a := (z.periodBefore i).offset
  let b := (z.periodAt i).offset
  (z.changes[i]?.map (·.1)).getD 0 + if fold then min a b else max a b

/-- How many of the first `n` changes satisfy a test that holds up to some point and not behind
it. -/
def countChanges (test : Nat → Bool) : (n : Nat) → Nat
  | 0 => 0
  | n + 1 => if test n then n + 1 else countChanges test n

/-- The period that a wall clock shows. -/
def atWall (z : ZoneData) (year : Nat) (t : Int) (fold : Bool) : Period :=
  let n := z.changes.size
  if n = 0 || z.wallOfChange fold (n - 1) < t then z.tail.atWall year t fold
  else
    let i := countChanges (fun i => z.wallOfChange fold i ≤ t) n
    z.periodBefore i

/-- The period at an instant, and whether its wall time occurs for the second time. -/
def atInstant (z : ZoneData) (year : Nat) (t : Int) : Period × Bool :=
  let n := z.changes.size
  let instant i := (z.changes[i]?.map (·.1)).getD 0
  if n = 0 then z.tail.atInstant year t
  else if instant (n - 1) < t then
    let (p, fold) := z.tail.atInstant year t
    let loss := (if n = 1 then z.before else z.periodAt (n - 2)).offset - p.offset
    (p, fold || (0 < loss && t < instant (n - 1) + loss))
  else
    let i := countChanges (fun i => instant i ≤ t) n
    if i = 0 then (z.before, false)
    else
      let p := z.periodAt (i - 1)
      let loss := (z.periodBefore (i - 1)).offset - p.offset
      (p, t - instant (i - 1) < loss)

end ZoneData

namespace Zone

def utc : Zone := fixed ⟨"UTC", 0⟩

/-- Whether two zones are one: a zone of the table under one name, or one fixed offset. -/
def same : Zone → Zone → Bool
  | named a _, named b _ => a == b
  | fixed a, fixed b => a == b
  | _, _ => false

def atWall (z : Zone) (year : Nat) (t : Int) (fold : Bool) : Period :=
  match z with
  | named _ d => d.atWall year t fold
  | fixed p => p

def atInstant (z : Zone) (year : Nat) (t : Int) : Period × Bool :=
  match z with
  | named _ d => d.atInstant year t
  | fixed p => (p, false)

/-! ## The table -/

def entries : List (List ZoneEntry) := [
  Zones.americaFirst, Zones.americaLast, Zones.europe, Zones.asia, Zones.pacific, Zones.africa,
  Zones.fixedOffsets]

def entry? (name : String) : Option ZoneEntry :=
  entries.findSome? fun es => es.find? fun e => e.name == name

/-- The zone with a name of the table; case counts. -/
def ofName? (name : String) : Option Zone := do
  let target := (Zones.aliases.lookup name).getD name
  let e ← entry? target
  let changes := ZoneEntry.unpack e.periods ZoneEntry.origin 0 (e.changes.flatMap String.toList)
  return named name ⟨changes.toArray, e.periods.headD default, e.tail⟩

end Zone

end Worksheet
