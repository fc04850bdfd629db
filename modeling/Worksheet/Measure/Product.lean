import Worksheet.Measure.Formula
import Worksheet.Measure.Lookup
import Worksheet.Number.Literal

/-!
# Products of units as text

Units may be multiplied, divided and raised to powers: `kg*m/s**2`, `m^2`, `m²`, `square feet`,
`miles per hour`. Numbers may occur as long as they come to one.
-/

namespace Worksheet

namespace Measure

open Text

/-- A number times a product of named units. -/
structure Scaled where
  scale : Mixed
  names : Powers Text

/-- The value of a formula. -/
inductive Value where
  | number (x : Mixed)
  | product (s : Scaled)

namespace Value

/-! ## Operations -/

def kind : Value → OperandKind
  | number x => x.kind
  | product _ => .product

/-- An operator that does not go with its operands. -/
def mismatched (o : Operator) (left right : OperandKind) : Attempt Value :=
  refuse (.operands o.symbol left right)

/-- Multiplies two products; units whose exponent becomes zero drop out. -/
def times : Value → Value → Attempt Value
  | number x, number y => return number (← x.mul y)
  | number x, product s | product s, number x => return product ⟨← s.scale.mul x, s.names⟩
  | product s, product t => return product ⟨← s.scale.mul t.scale, ← s.names.mul t.names⟩

/-- A power of a product; a unit to the power zero stays. -/
def raise (s : Scaled) (x : Mixed) : Attempt Scaled := do
  let names ← s.names.pow x
  let scale ← s.scale.pow x
  if x.kind == .imaginary && !names.isEmpty then refuse .imaginaryExponent
  else return ⟨scale, names⟩

def power : Value → Value → Attempt Value
  | number x, number y => return number (← x.pow y)
  | product s, number x => return product (← raise s x)
  | number x, product _ => mismatched .power x.kind .product
  | product s, product _ => mismatched .power s.scale.kind .product

def divide : Value → Value → Attempt Value
  | number x, number y => return number (← x.div y)
  | product s, number x => return product ⟨← s.scale.div x, s.names⟩
  | product s, product t => return product ⟨← s.scale.div t.scale, ← s.names.div t.names⟩
  | number x, product s => do times (number x) (product (← raise s (-1)))

def wholeDivide : Value → Value → Attempt Value
  | number x, number y =>
    if x.kind == .imaginary || y.kind == .imaginary then mismatched .wholeDivide x.kind y.kind
    else return number (← x.floorDiv y)
  | number x, product _ => mismatched .wholeDivide x.kind .product
  | a, b => divide a b

/-- Only numbers can be added and subtracted. -/
def sum (o : Operator) (f : Mixed → Mixed → Except Fault Mixed) : Value → Value → Attempt Value
  | number x, number y => return number (← f x y)
  | a, b => mismatched o a.kind b.kind

def apply : Operator → Value → Value → Attempt Value
  | .power => power
  | .times => times
  | .divide => divide
  | .wholeDivide => wholeDivide
  | .plus => sum .plus Mixed.add
  | .minus => sum .minus Mixed.sub

end Value

/-! ## Evaluation -/

/-- The number that a numeral writes: a whole one if it can be read so. -/
def numeralValue (t : Text) : Attempt Mixed :=
  match Literal.whole? t, Literal.real? t with
  | some n, _ => .ok (.whole n)
  | none, some x => .ok (.real x)
  | none, none => refuse (.badNumeral t)

namespace Formula

def evaluate : Formula → Attempt Value
  | operand (.number t) => return .number (← numeralValue t)
  | operand (.name t) => .ok (.product ⟨1, [(t, 1)]⟩)
  | unary .plus f => evaluate f
  | unary .minus f => do (← evaluate f).times (.number (-1))
  | unary o _ => refuse (.noUnaryOperator o.symbol)
  | binary o f g => do Value.apply o (← evaluate f) (← evaluate g)

end Formula

namespace Scaled

def ofValue : Value → Scaled
  | .number x => ⟨x, []⟩
  | .product s => s

/-- The product that a text writes. -/
def ofText (t : Text) : Attempt Scaled := do
  let f ← Formula.ofText (Spelling.spellBrackets (Spelling.normalize t))
  let s := ofValue (← f.evaluate)
  if t.contains '[' then
    return ⟨s.scale, s.names.map fun (n, e) => (Spelling.unspellBrackets n, e)⟩
  else return s

/-- Whether a product has a number in it other than 1; `nan` counts as one. -/
def isScaled (s : Scaled) : Bool :=
  s.scale != 1 || s.names.any fun (name, _) => lower name == "nan".toList

end Scaled

/-- Multiplies with a power of a unit. A unit that was not there cannot come with the power zero. -/
def mulPower (p : Powers Unit) (u : Unit) (e : Mixed) : Attempt (Powers Unit) := do
  if p.all (fun (v, _) => u != v) && e == 0 then throw (.fault .zeroPower)
  else return (← p.count u e).nonzero

/-- The product of units that a text names. Inside a product the units of a scale stand for
differences. -/
def ofText (t : Text) : Attempt (Powers Unit) := do
  let s ← Scaled.ofText (Spelling.nameUnitSigns t)
  if s.isScaled then refuse .scaled
  else
    let alone := s.names.length == 1 && s.names.all fun (_, e) => e == 1
    s.names.foldlM (fun p (name, e) => do
      if name == "dimensionless".toList then return p
      else
        let u ← lookup name
        mulPower p (if u.isLinear || alone then u else u.difference) e) []

end Measure

end Worksheet
