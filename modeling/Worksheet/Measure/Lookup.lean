import Worksheet.Measure.Catalog.Customary
import Worksheet.Measure.Catalog.Science
import Worksheet.Measure.Obstacle

/-!
# Finding units by name

A unit is called by its name or another name of the catalog, with a prefix in front of it or not,
and with an `s` behind it or not. Names count in lower case, as they are looked up.
-/

namespace Worksheet

namespace Measure

/-! ## The catalog -/

open Catalog

def catalog : List (List Unit) := [
  base, times, ratios, mechanics, temperatures, levels, electricity, numbers, constants, lengths,
  volumes, weights, engineering, printing, angles, extremes, atomic, electromagnetism]

/-- The unit of the catalog with a name. -/
def listed? (name : String) : Option Unit := catalog.findSome? fun us => us.find? (·.isCalled name)

/-! ## Prefixes and plurals -/

/-- A name without an end. A plural must leave two letters or more of the unit behind its prefix. -/
def dropEnding (ending rest : Text) : Option Text :=
  if ending.isEmpty then some rest
  else if ending.isSuffixOf rest && rest.length != ending.length + 1 then
    some (rest.take (rest.length - ending.length))
  else none

/-- The unit that `spelling` in front and `ending` behind leave of a name. -/
def stripped? (ending spelling name : Text) : Option Unit := do
  if spelling.isPrefixOf name then
    listed? (String.ofList (← dropEnding ending (name.drop spelling.length)))
  else none

/-- A unit under a name with an ending, and the prefix in front of it. -/
def ending? (name ending : Text) : Option (Option UnitPrefix × Unit) :=
  match stripped? ending [] name with
  | some u => some (none, u)
  | none =>
    UnitPrefix.all.findSome? fun p => (p.name :: p.aliases).findSome? fun spelling =>
      (stripped? ending spelling.toList name).map (some p, ·)

/-- The unit that a name names. -/
def lookup (name : Text) : Attempt Unit :=
  match [[], ['s']].findSome? (ending? name) with
  | none => refuse (.undefinedUnit name)
  | some (none, u) => .ok u
  | some (some p, u) => if u.isLinear then .ok (p.apply u) else refuse .prefixedScale

end Measure

end Worksheet
