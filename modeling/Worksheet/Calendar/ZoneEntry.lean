/-!
# Entries of the zone table

A zone has periods of constant offset. Its past is a list of the instants at which the period
changes, its future a rule for every year. `changes` packs the past: each change is the number of
seconds since the one before it, in base 36 with small letters, and the capital letter of the period
that begins. The first counts from `origin`.
-/

namespace Worksheet

/-- A name and the seconds east of Greenwich. -/
structure Period where
  name : String
  offset : Int
  deriving DecidableEq, Repr, Inhabited

/-- A moment of every year: a weekday (Sunday is 0) in its `week`-th occurrence in a month, the
fifth being the last, and seconds from the start of that day. -/
structure YearRule where
  month : Nat
  week : Nat
  weekday : Nat
  second : Int
  deriving DecidableEq, Repr

/-- What holds after the last listed change. -/
inductive ZoneTail where
  | steady (p : Period)
  /-- Summer time between two moments of every year, on the clock that runs until then. -/
  | seasonal (standard summer : Period) (start stop : YearRule)
  deriving DecidableEq, Repr

structure ZoneEntry where
  name : String
  periods : List Period
  changes : List String
  tail : ZoneTail
  deriving Repr

namespace ZoneEntry

/-- The instant, in seconds from 1970, from which the first change counts. -/
def origin : Int := -4000000000

def digit (c : Char) : Nat := if c.isDigit then c.toNat - 48 else c.toNat - 87

/-- Unpacks changes: `t` is the last instant, `n` the digits read since. -/
def unpack (periods : List Period) (t : Int) (n : Nat) : List Char → List (Int × Period)
  | [] => []
  | c :: r =>
    if c.isUpper then (t + n, periods.getD (c.toNat - 65) default) :: unpack periods (t + n) 0 r
    else unpack periods t (36 * n + digit c) r

end ZoneEntry

end Worksheet
