import Worksheet.Failure

/-!
# Obstacles

A conversion may be refused, for a cause that its line tells, or end in a fault.
-/

namespace Worksheet

namespace Measure

/-- Why a conversion gives no answer. -/
inductive Obstacle where
  | refusal (e : ConversionError)
  | fault (f : Fault)
  deriving DecidableEq, Repr

/-- What a conversion or a part of it gives. -/
abbrev Attempt := Except Obstacle

def refuse (e : ConversionError) : Attempt α := .error (.refusal e)

instance : MonadLift (Except Fault) Attempt := ⟨Except.mapError .fault⟩

end Measure

end Worksheet
