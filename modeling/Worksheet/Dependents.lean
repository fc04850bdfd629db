import Worksheet.Line
import Worksheet.Reference

/-!
# Lines that depend on a line

A line depends on another when it refers to it, directly or through lines between. The lines found
are saturated in rounds, as many as there are lines: a chain without repeats is no longer than that.
-/

namespace Worksheet

namespace Dependents

/-- The numbers of the lines other than `changed` that refer to one of `targets`. -/
def referring (changed : Int) (refs : List (List Nat)) (targets : List Int) : List Nat :=
  (refs.zipIdx 1).filterMap fun (rs, n) =>
    if (n : Int) != changed && rs.any fun r => targets.contains (r : Int) then some n else none

/-- The lines reached in `rounds` further rounds; stops when a round finds nothing new. -/
def saturate (changed : Int) (refs : List (List Nat)) : (rounds : Nat) → List Nat → List Nat
  | 0, found => found
  | rounds + 1, found =>
    let more := referring changed refs (changed :: found.map Int.ofNat)
    if more.length = found.length then found else saturate changed refs rounds more

/-- The numbers of the lines that depend on line `changed`, in rising order; only those that refer
to it directly unless `transitive`. -/
def find (ls : List Text) (changed : Int) (transitive : Bool) : Result (List Nat) := do
  let refs ← (Line.counted ls).mapM Reference.findAll
  let direct := referring changed refs [changed]
  return if transitive then saturate changed refs refs.length direct else direct

end Dependents

end Worksheet
