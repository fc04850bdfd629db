import Worksheet.Calendar.Duration
import Worksheet.Calendar.Moment

/-!
# Moving a moment

Whole months and years follow the calendar, and a day behind the end of the month becomes its last
day. All other amounts are durations on the wall clock.
-/

namespace Worksheet

namespace Moment

/-- Whether a year fits into 32 bits. -/
def isRepresentable (year : Int) : Bool := -2147483648 ≤ year && year ≤ 2147483647

/-- The same day and time a number of months later. -/
def addMonths (m : Moment) (months : Int) : Result Moment :=
  let d := m.date
  let index : Int := (d.month - 1 : Nat) + months
  let year := d.year + index.fdiv 12
  let month := (index.fmod 12).toNat + 1
  if !isRepresentable year then .error (.fault .tooLarge)
  else
    let day := min d.day (Date.daysInMonth year.toNat month)
    match ofDate? ⟨year.toNat, month, day⟩ m.timeOfDay m.zone m.fold with
    | some m => .ok m
    | none => .error (.fault .badValue)

/-- The months of a number of units, if they are months or years and come to whole months. -/
def wholeMonths? (amount : Float) : TimeUnit → Option Int
  | .month => whole amount
  | .year => whole (amount * 12)
  | _ => none
where
  whole (x : Float) : Option Int := do
    let b ← Binary.ofFloat? x
    if b.isWhole then some b.truncate else none

/-- A moment moved by a number of units. -/
def shift (m : Moment) (amount : Float) (u : TimeUnit) : Result Moment :=
  match wholeMonths? amount u with
  | some n => m.addMonths n
  | none => do m.add (← Duration.ofUnit amount u).micros

end Moment

end Worksheet
