import Worksheet.Number.Significant

/-!
# Units of measure

A base unit measures one dimension, or none. Every other unit is a number times a product of powers
of units, down to base units, so the dimension and the size of a unit are recursions on what it is
made of. Products of powers keep the order in which their factors appear.
-/

namespace Worksheet

namespace Measure

/-- What can be measured by a base unit of its own. -/
inductive Dimension where
  | length
  | mass
  | time
  | current
  | luminosity
  | substance
  | temperature
  | printingUnit
  deriving DecidableEq, Repr

def Dimension.text : Dimension → Text
  | length => "[length]".toList
  | mass => "[mass]".toList
  | time => "[time]".toList
  | current => "[current]".toList
  | luminosity => "[luminosity]".toList
  | substance => "[substance]".toList
  | temperature => "[temperature]".toList
  | printingUnit => "[printing_unit]".toList

/-! ## Products of powers -/

/-- Factors with their exponents; no factor occurs twice. -/
abbrev Powers (α : Type) := List (α × Mixed)

namespace Powers

variable {α : Type} [BEq α]

/-- Adds to the exponent of a factor, which keeps its place even where the exponent becomes zero. -/
def count (p : Powers α) (a : α) (e : Mixed) : Except Fault (Powers α) :=
  match p with
  | [] => .ok [(a, e)]
  | (b, f) :: r =>
    if a == b then return (b, ← f.add e) :: r else return (b, f) :: (← count r a e)

/-- Multiplies every exponent. -/
def pow (p : Powers α) (n : Mixed) : Except Fault (Powers α) :=
  p.mapM fun (a, e) => return (a, ← e.mul n)

/-- Without the factors whose exponent is zero. -/
def nonzero (p : Powers α) : Powers α := p.filter fun (_, e) => e != 0

def mul (p q : Powers α) : Except Fault (Powers α) := do
  return nonzero (← q.foldlM (fun p (a, e) => p.count a e) p)

def div (p q : Powers α) : Except Fault (Powers α) := do mul p (← q.pow (-1))

/-- Whether two products have the same factors, in any order. -/
def same (p q : Powers α) : Bool :=
  p.length == q.length && p.all fun (a, e) => q.any fun (b, f) => a == b && e == f

/-- The factors with positive exponents, and behind slashes those with negative ones. -/
def format (name : α → Text) (p : Powers α) : Text :=
  let power := fun ((a, e) : α × Mixed) =>
    if e.abs == 1 then name a else name a ++ " ** ".toList ++ e.abs.text
  let (above, below) := p.partition fun (_, e) => e.isPositive
  let top :=
    if p.isEmpty then "dimensionless".toList
    else if above.isEmpty then ['1']
    else Text.join " * ".toList (above.map power)
  Text.join " / ".toList (top :: below.map power)

end Powers

/-! ## Units -/

/-- How a reading in a unit relates to what the unit is made of. -/
inductive Reading where
  /-- A reading is a multiple of the unit. -/
  | linear
  /-- The scale has its zero where what the unit is made of reads `zero`. -/
  | offset (zero : Mixed)
  /-- A level: `step` more stands for `ratio` times as much. -/
  | level (ratio step : Mixed)
  /-- A difference of levels, which cannot be converted. -/
  | levelDifference

inductive Unit where
  | base (name : String) (aliases : List String) (dimension : Option Dimension)
  /-- `scale` times a product of units. -/
  | derived (name : String) (aliases : List String) (scale : Mixed)
      (parts : List (Unit × Mixed)) (reading : Reading)

namespace Unit

def name : Unit → String
  | base name _ _ => name
  | derived name _ _ _ _ => name

def aliases : Unit → List String
  | base _ aliases _ => aliases
  | derived _ aliases _ _ _ => aliases

def scale : Unit → Mixed
  | base _ _ _ => 1
  | derived _ _ scale _ _ => scale

def parts : Unit → Powers Unit
  | base _ _ _ => []
  | derived _ _ _ parts _ => parts

def reading : Unit → Reading
  | base _ _ _ => .linear
  | derived _ _ _ _ reading => reading

instance : BEq Unit := ⟨fun u v => u.name == v.name⟩

def isCalled (u : Unit) (name : String) : Bool := u.name == name || u.aliases.contains name

def isLinear (u : Unit) : Bool := u.reading matches .linear

/-- What the name of a unit of differences begins with. -/
def differenceMark : String := "delta_"

def isDifference (u : Unit) : Bool := differenceMark.toList.isPrefixOf u.name.toList

/-- The unit of differences on a scale. -/
def difference (u : Unit) : Unit :=
  let reading := match u.reading with
    | .level _ _ => .levelDifference
    | _ => .linear
  derived (differenceMark ++ u.name) (u.aliases.map (differenceMark ++ ·)) u.scale u.parts reading

/-! ## Down to base units -/

mutual

/-- Counts the dimensions of a power of a unit. -/
def countDimensions (d : Powers Dimension) (e : Mixed) : Unit → Except Fault (Powers Dimension)
  | base _ _ none => .ok d
  | base _ _ (some a) => d.count a e
  | derived _ _ _ parts _ => countDimensionsOf d e parts

/-- Counts the dimensions of a power of a product of units. -/
def countDimensionsOf (d : Powers Dimension) (e : Mixed) :
    List (Unit × Mixed) → Except Fault (Powers Dimension)
  | [] => .ok d
  | (u, f) :: r => do
    let d ← countDimensions d (← e.mul f) u
    countDimensionsOf d e r

end

mutual

/-- Counts the scales of a power of a unit and of all that it is made of. Equal scales are counted
together. -/
def countScales (p : Powers Mixed) (e : Mixed) : Unit → Except Fault (Powers Mixed)
  | base _ _ _ => .ok p
  | derived _ _ scale parts _ => do
    let p ← p.count scale e
    countScalesOf p e parts

/-- Counts the scales of a power of a product of units. -/
def countScalesOf (p : Powers Mixed) (e : Mixed) :
    List (Unit × Mixed) → Except Fault (Powers Mixed)
  | [] => .ok p
  | (u, f) :: r => do
    let p ← countScales p (← e.mul f) u
    countScalesOf p e r

end

end Unit

/-- The dimension of a product of units. -/
def dimension (p : Powers Unit) : Except Fault (Powers Dimension) := do
  return (← Unit.countDimensionsOf [] 1 p).nonzero

/-- The size of a product of units in base units. Scales that cancel are left out; the powers that
remain are multiplied one by one, first those with positive exponents. -/
def size (p : Powers Unit) : Except Fault Mixed := do
  let scales := (← Unit.countScalesOf [] 1 p).nonzero
  let (above, below) := scales.partition fun (_, e) => e.isPositive
  (above ++ below).foldlM (fun x (s, e) => do x.mul (← s.pow e)) 1

def productText (p : Powers Unit) : Text := p.format fun u => u.name.toList

def dimensionText (d : Powers Dimension) : Text := d.format Dimension.text

end Measure

end Worksheet
