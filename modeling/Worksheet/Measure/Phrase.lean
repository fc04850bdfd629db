import Worksheet.Amount
import Worksheet.Conversion
import Worksheet.Measure.Convert
import Worksheet.Phrase

/-!
# Phrases about units

A quantity is converted where one of the two units has a common name; the other may be any product
of units. The result has at most four places and the label of its unit.
-/

namespace Worksheet

namespace Measure

/-- Units by their common names. -/
def commonNames : List (String × String) := [
  ("meter", "meter"), ("meters", "meter"), ("m", "meter"), ("kilometer", "kilometer"),
  ("kilometers", "kilometer"), ("km", "kilometer"), ("centimeter", "centimeter"),
  ("centimeters", "centimeter"), ("cm", "centimeter"), ("mile", "mile"), ("miles", "mile"),
  ("mi", "mile"), ("yard", "yard"), ("yards", "yard"), ("yd", "yard"), ("foot", "foot"),
  ("feet", "foot"), ("ft", "foot"), ("inch", "inch"), ("inches", "inch"), ("pound", "pound"),
  ("pounds", "pound"), ("lb", "pound"), ("lbs", "pound"), ("kilogram", "kilogram"),
  ("kilograms", "kilogram"), ("kg", "kilogram"), ("gram", "gram"), ("grams", "gram"), ("g", "gram"),
  ("ounce", "ounce"), ("ounces", "ounce"), ("oz", "ounce"), ("liter", "liter"), ("liters", "liter"),
  ("litre", "liter"), ("litres", "liter"), ("l", "liter"), ("milliliter", "milliliter"),
  ("milliliters", "milliliter"), ("ml", "milliliter"), ("gallon", "gallon"), ("gallons", "gallon"),
  ("gal", "gallon"), ("quart", "quart"), ("quarts", "quart"), ("qt", "quart"), ("cup", "cup"),
  ("cups", "cup"), ("celsius", "degC"), ("c", "degC"), ("°c", "degC"), ("fahrenheit", "degF"),
  ("f", "degF"), ("°f", "degF"), ("kelvin", "kelvin"), ("k", "kelvin"), ("byte", "byte"),
  ("bytes", "byte"), ("kb", "kilobyte"), ("mb", "megabyte"), ("gb", "gigabyte"), ("tb", "terabyte")]

/-- What is written behind a quantity in a unit. -/
def labels : List (String × String) := [
  ("meter", "m"), ("kilometer", "km"), ("centimeter", "cm"), ("mile", "mi"), ("yard", "yd"),
  ("foot", "ft"), ("inch", "in"), ("pound", "lb"), ("kilogram", "kg"), ("gram", "g"),
  ("ounce", "oz"), ("liter", "L"), ("milliliter", "mL"), ("gallon", "gal"), ("quart", "qt"),
  ("cup", "cups"), ("degC", "°C"), ("degF", "°F"), ("kelvin", "K"), ("byte", "B"),
  ("kilobyte", "KB"), ("megabyte", "MB"), ("gigabyte", "GB"), ("terabyte", "TB")]

def commonName? (t : Text) : Option Text := (commonNames.lookup (String.ofList t)).map String.toList

/-- A quantity in the units that two texts name. -/
def convertNamed (x : Float) (source target : Text) : Attempt Float := do
  convert x (← ofText source) (← ofText target)

def convertPhrase : PhraseRule := fun expr _ =>
  match Conversion.ofText? expr with
  | none => .ok none
  | some c =>
    if (commonName? c.source).isNone && (commonName? c.target).isNone then .ok none
    else
      let target := (commonName? c.target).getD c.target
      match convertNamed c.amount ((commonName? c.source).getD c.source) target with
      | .error (.refusal e) => .error (.phrase (.conversion c.source c.target e))
      | .error (.fault f) => .error (.fault f)
      | .ok x =>
        let label := ((labels.lookup (String.ofList target)).map String.toList).getD c.target
        .ok (some (Amount.format (Fixed.round 4 x) false ++ ' ' :: label))

end Measure

end Worksheet
