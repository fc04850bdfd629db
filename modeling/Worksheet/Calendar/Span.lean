import Worksheet.Calendar.Shift

/-!
# The span between two moments

A span is told in calendar years and months, each counted by moving the earlier moment while it does
not pass the later one, and then in weeks, days, hours and minutes.
-/

namespace Worksheet

/-- A number of each unit; what is left is under a minute. -/
structure Span where
  years : Nat
  months : Nat
  weeks : Nat
  days : Nat
  hours : Nat
  minutes : Nat
  deriving DecidableEq, Repr

namespace Span

/-- More steps of a month than the calendar has. -/
def maxSteps : Nat := 12 * Date.maxYear

/-- Moves `start` by `months` as long as it does not pass `stop`, and counts the steps from `n`
on. -/
def advance (months : Int) (stop : Moment) : (steps : Nat) → Nat → Moment → Result (Nat × Moment)
  | 0, n, start => .ok (n, start)
  | steps + 1, n, start => do
    let next ← start.addMonths months
    if ← next.notAfter stop then advance months stop steps (n + 1) next else return (n, start)

/-- The span from `start` to `stop`, which is not before it. -/
def forward (start stop : Moment) : Result Span := do
  let (years, start) ← advance 12 stop maxSteps 0 start
  let (months, start) ← advance 1 stop maxSteps 0 start
  let minutes := (← Moment.between start stop).toNat / (60 * Moment.microsPerSecond)
  return {
    years, months
    weeks := minutes / (7 * 24 * 60)
    days := minutes / (24 * 60) % 7
    hours := minutes / 60 % 24
    minutes := minutes % 60 }

/-- The span between two moments in either order. -/
def between (a b : Moment) : Result Span := do
  if ← a.notAfter b then forward a b else forward b a

/-- A number and the name of what it counts. -/
def counted (n : Nat) (unit : String) : Text :=
  Text.ofNat n ++ ' ' :: unit.toList ++ if n = 1 then [] else ['s']

/-- The units of which there are any, from the largest on. -/
def format (s : Span) : Text :=
  let part (n : Nat) (t : Text) : List Text := if n = 0 then [] else [t]
  let parts :=
    part s.years (counted s.years "year") ++ part s.months (counted s.months "month") ++
    part s.weeks (counted s.weeks "week") ++ part s.days (counted s.days "day") ++
    part s.hours (counted s.hours "hour") ++ part s.minutes (Text.ofNat s.minutes ++ " min".toList)
  if parts.isEmpty then "0 min".toList else Text.join [' '] parts

end Span

end Worksheet
