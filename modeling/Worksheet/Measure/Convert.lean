import Worksheet.Measure.Product

/-!
# Conversion between units

A quantity is converted by the ratio of the sizes of its unit and of the other. A reading on a scale
or a level goes by way of what its unit is made of, and only where it stands alone: a reading and a
difference of readings cannot be converted into each other.
-/

namespace Worksheet

namespace Measure

/-! ## Readings -/

/-- A number as a double; there is no other answer. -/
def asReal : Mixed → Except Fault Float
  | .whole n => Mixed.ofWhole n
  | .real x => .ok x
  | .imaginary => .error .mismatch

/-- The multiple of what a level's unit is made of. -/
def ofLevel (ratio step scale x : Mixed) : Attempt Mixed := do
  let exponent := (← asReal ratio).log * (← asReal (← x.div step))
  let r := exponent.exp
  if r.isInf && exponent.isFinite then throw (.fault .tooLarge)
  else scale.mul (.real r)

/-- The level of a multiple of what the unit is made of; only a positive one has a level. -/
def toLevel (ratio step scale x : Mixed) : Attempt Mixed := do
  match ← x.div scale with
  | .imaginary => refuse .imaginaryLevel
  | y =>
    let y ← asReal y
    if y <= 0 then refuse .noLevel
    else (← step.mul (.real y.log)).div (.real (← asReal ratio).log)

/-- A reading in multiples of what the unit is made of. -/
def Unit.toParts (u : Unit) (x : Mixed) : Attempt Mixed :=
  match u.reading with
  | .offset zero => do (← x.mul u.scale).add zero
  | .level ratio step => ofLevel ratio step u.scale x
  | .linear | .levelDifference => .ok x

/-- The reading of a multiple of what the unit is made of. -/
def Unit.ofParts (u : Unit) (x : Mixed) : Attempt Mixed :=
  match u.reading with
  | .offset zero => do (← x.sub zero).div u.scale
  | .level ratio step => toLevel ratio step u.scale x
  | .linear | .levelDifference => .ok x

/-! ## Conversion -/

/-- The unit of a scale or a level, if that is all there is. -/
def reading? : Powers Unit → Option Unit
  | [(u, _)] => if u.isLinear then none else some u
  | _ => none

/-- The product of which readings are multiples. -/
def onParts (p : Powers Unit) : Powers Unit :=
  match reading? p with
  | some u => u.parts
  | none => p

/-- Whether conversion has no way from one product to the other: one is a reading and the other a
difference of readings. -/
def crosses (p q : Powers Unit) : Bool := (reading? p).isSome && q.any fun (u, _) => u.isDifference

def checkDimensions (source target : Powers Unit) : Attempt PUnit := do
  let d ← dimension source
  let d' ← dimension target
  if d.same d' then return
  else refuse (.dimensions (productText source) (dimensionText d) (productText target)
    (dimensionText d'))

/-- `x` of one product of units in another. -/
def convert (x : Float) (source target : Powers Unit) : Attempt Float := do
  if source.same target then return x
  if (source ++ target).any fun (u, _) => u.reading matches .levelDifference then
    throw (.fault .levelDifference)
  checkDimensions source target
  if crosses source target || crosses target source then
    refuse (.readingAndDifference (productText source) (productText target))
  let x ← match reading? source with
    | some u => u.toParts (.real x)
    | none => .ok (.real x)
  let x ← x.mul (← size (← (onParts source).div (onParts target)))
  let x ← match reading? target with
    | some u => u.ofParts x
    | none => .ok x
  asReal x

end Measure

end Worksheet
