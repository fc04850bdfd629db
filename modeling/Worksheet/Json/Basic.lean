import Worksheet.Number.Shortest
import Worksheet.Text.Quoted

/-!
# JSON values

Whole numbers are kept apart from numbers with a point or a power of ten. An object keeps its fields
in the order in which their names first appear; a name that appears again replaces the value.
-/

namespace Worksheet

inductive Json where
  | null
  | bool (b : Bool)
  | int (n : Int)
  | real (x : Float)
  | string (t : Text)
  | array (xs : List Json)
  | object (fields : List (Text × Json))

namespace Json

/-- Puts a field into an object's fields. -/
def insert (name : Text) (value : Json) : List (Text × Json) → List (Text × Json)
  | [] => [(name, value)]
  | (n, v) :: r => if n = name then (n, value) :: r else (n, v) :: insert name value r

/-- The value of a field, none also where there are no fields. -/
def field? (j : Json) (name : String) : Option Json :=
  match j with
  | object fields => fields.lookup name.toList
  | _ => none

/-! ## As text -/

mutual

/-- A value inside another: texts are in quotes. -/
def inner : Json → Text
  | null => "None".toList
  | bool true => "True".toList
  | bool false => "False".toList
  | int n => Text.ofInt n
  | real x => shortestText x
  | string t => Text.quoted t
  | array xs => '[' :: Text.join ", ".toList (inners xs) ++ [']']
  | object fields => '\x7b' :: Text.join ", ".toList (innerFields fields) ++ ['\x7d']

def inners : List Json → List Text
  | [] => []
  | x :: xs => inner x :: inners xs

def innerFields : List (Text × Json) → List Text
  | [] => []
  | (name, x) :: r => (Text.quoted name ++ ": ".toList ++ inner x) :: innerFields r

end

/-- A value as a message shows it: a text alone stands without quotes. -/
def display : Json → Text
  | string t => t
  | j => j.inner

end Json

end Worksheet
