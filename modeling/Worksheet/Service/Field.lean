import Worksheet.Json.Basic
import Worksheet.Number.Literal

/-!
# Fields of requests and settings

What comes from outside is read leniently: whole numbers and truth values may be given as text, a
whole number as a real one. Each way to be wrong has a name, and all fields that are wrong are
reported.
-/

namespace Worksheet

namespace Service

open Text

/-- Why a field cannot be read. -/
inductive FieldFault where
  | missing
  | notText
  | notWhole
  | wholeText
  | wholeSize
  | fraction
  | notFinite
  | notTruth
  | truthText
  | realText
  | notObject
  | json
  deriving DecidableEq, Repr

def FieldFault.name : FieldFault → Text
  | missing => "missing".toList
  | notText => "string_type".toList
  | notWhole => "int_type".toList
  | wholeText => "int_parsing".toList
  | wholeSize => "int_parsing_size".toList
  | fraction => "int_from_float".toList
  | notFinite => "finite_number".toList
  | notTruth => "bool_type".toList
  | truthText => "bool_parsing".toList
  | realText => "float_parsing".toList
  | notObject => "model_attributes_type".toList
  | json => "json_invalid".toList

/-! ## Whole numbers as text -/

/-- Removes the underscores of a text, if each stands alone inside it. -/
def stripUnderscores? (t : Text) : Option Text :=
  if t.head? == some '_' || t.getLast? == some '_' || !t.contains '_' ||
      occursIn ['_', '_'] t then none
  else some (t.filter (· != '_'))

/-- Removes zeros in front; where no other digit follows the last character of the run stays. -/
def stripZeros? (t : Text) : Option Text :=
  match t with
  | '0' :: r =>
    let isFiller := fun c => c == '0' || c == '_'
    let last := ('0' :: r.takeWhile isFiller).getLast?.toList
    match r.dropWhile isFiller with
    | [] => some last
    | c :: r' =>
      if '1' ≤ c && c ≤ '9' then some (c :: r')
      else if c = '.' then some (last ++ c :: r') else none
  | c :: _ => if ('1' ≤ c && c ≤ '9') || c = '-' then some t else none
  | [] => none

/-- Removes a point behind which there are only zeros. -/
def stripPlaces (t : Text) : Text :=
  match cutAt '.' t with
  | some (whole, places) => if places.all (· == '0') then whole else t
  | none => t

/-- A text without a plus sign, zeros in front, zero places and underscores, if there is one of
them. -/
def tidy? (t : Text) : Option Text := do
  let unsigned ← match t with
    | '+' :: '-' :: _ => none
    | '+' :: r => some r
    | _ => some t
  let short := stripPlaces (← stripZeros? unsigned)
  match stripUnderscores? short with
  | some r => some r
  | none => if short.length = t.length then none else some short

/-- The whole number that a text writes in the plainest way: digits without zeros in front, and
perhaps a minus sign. -/
def plainWhole? (t : Text) : Option Int :=
  let (negative, ds) := match t with
    | '-' :: r => (true, r)
    | _ => (false, t)
  if ds.isEmpty || !ds.all isAsciiDigit || (ds.head? == some '0' && 1 < ds.length) then none
  else
    let n : Int := Literal.digitsValue ds
    some (if negative then -n else n)

/-- A whole number given as text. -/
def wholeOfText (t : Text) : Except FieldFault Int :=
  let t := trimBy Literal.isPadding t
  if Literal.maxDigits < t.length && t.all isAsciiDigit then .error .wholeSize
  else match (plainWhole? t).or ((tidy? t).bind plainWhole?) with
    | some n => .ok n
    | none => .error .wholeText

/-! ## Other values as text -/

def truths : List (String × Bool) := [
  ("0", false), ("off", false), ("f", false), ("false", false), ("n", false), ("no", false),
  ("1", true), ("on", true), ("t", true), ("true", true), ("y", true), ("yes", true)]

/-- A truth value given as text, in any case. -/
def truthOfText (t : Text) : Except FieldFault Bool :=
  match truths.lookup (String.ofList (t.map Char.toLower)) with
  | some b => .ok b
  | none => .error .truthText

/-- A number with a sign or without. -/
def signedReal? (t : Text) : Option Float :=
  let (negative, r) := Literal.splitSign t
  (Literal.magnitude? r).map fun x => if negative then -x else x

/-- A real number given as text. -/
def realOfText (t : Text) : Except FieldFault Float :=
  match (signedReal? (trimBy Literal.isPadding t)).or ((stripUnderscores? t).bind signedReal?) with
  | some x => .ok x
  | none => .error .realText

/-! ## JSON values -/

/-- Whole numbers given as reals stay below `2 ^ 63`. -/
def wholeBound : Nat := 9223372036854775808

/-- The whole number that a double is; its size is limited to 64 bits. -/
def wholeOfReal (x : Float) : Except FieldFault Int :=
  match Binary.ofFloat? x with
  | none => .error .notFinite
  | some b =>
    if !b.isWhole then .error .fraction
    else if wholeBound ≤ b.floor then .error .wholeSize
    else .ok b.truncate

def text : Json → Except FieldFault Text
  | .string t => .ok t
  | _ => .error .notText

def whole : Json → Except FieldFault Int
  | .int n => .ok n
  | .bool b => .ok (if b then 1 else 0)
  | .string t => wholeOfText t
  | .real x => wholeOfReal x
  | _ => .error .notWhole

/-- The truth value of a number. -/
def truthOfWhole (n : Int) : Except FieldFault Bool :=
  if n = 0 then .ok false else if n = 1 then .ok true else .error .truthText

def truth : Json → Except FieldFault Bool
  | .bool b => .ok b
  | .string t => truthOfText t
  | .int n => if n.natAbs < wholeBound then truthOfWhole n else .error .notTruth
  | .real x =>
    match wholeOfReal x with
    | .ok n => truthOfWhole n
    | .error _ => .error .notTruth
  | _ => .error .notTruth

/-! ## Reports -/

/-- A field that cannot be read. -/
structure FieldError where
  field : Text
  fault : FieldFault

/-- A value, or all that is wrong with its parts. -/
abbrev Checked (α : Type) := Except (List FieldError) α

/-- Reads a field of an object; without a default it must be there. -/
def field {α : Type} (j : Json) (name : String) (read : Json → Except FieldFault α)
    (default? : Option α) : Checked α :=
  match j.field? name, default? with
  | some v, _ => (read v).mapError fun f => [⟨name.toList, f⟩]
  | none, some a => .ok a
  | none, none => .error [⟨name.toList, .missing⟩]

/-- Both values, or the errors of both. -/
def Checked.and {α β : Type} (a : Checked α) (b : Checked β) : Checked (α × β) :=
  match a, b with
  | .ok a, .ok b => .ok (a, b)
  | .error e, .error f => .error (e ++ f)
  | .error e, .ok _ => .error e
  | .ok _, .error f => .error f

end Service

end Worksheet
