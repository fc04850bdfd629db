import Worksheet.Session
import Worksheet.Service.Field

/-!
# Requests

What the service does: it evaluates a document, renumbers the references of an edited one, finds the
lines that depend on a line, strips a result, tells whether a line has one, and resolves references.
A request is an object with the fields that it needs; other fields are ignored.
-/

namespace Worksheet

namespace Service

inductive Request where
  | evaluate (text : Text) (activeLine : Int)
  | adjust (old new : Text)
  | dependents (text : Text) (line : Int) (transitive : Bool)
  | strip (line : Text)
  | hasResult (line : Text)
  | resolve (text : Text)

namespace Request

/-! ## Reading -/

def evaluate? (j : Json) : Checked Request :=
  ((field j "text" Service.text none).and (field j "active_line" whole (some 0))).map
    fun (t, n) => evaluate t n

def adjust? (j : Json) : Checked Request :=
  ((field j "old_text" Service.text none).and (field j "new_text" Service.text none)).map
    fun (a, b) => adjust a b

def dependents? (j : Json) : Checked Request :=
  ((field j "text" Service.text none).and <|
    (field j "changed_line" whole none).and (field j "transitive" truth (some false))).map
    fun (t, n, b) => dependents t n b

def strip? (j : Json) : Checked Request := (field j "line" Service.text none).map strip

def hasResult? (j : Json) : Checked Request := (field j "line" Service.text none).map hasResult

def resolve? (j : Json) : Checked Request := (field j "text" Service.text none).map resolve

/-! ## Answering -/

def object (fields : List (String × Json)) : Json :=
  .object (fields.map fun (n, j) => (n.toList, j))

/-- A line before and after evaluation. -/
def record (n : Nat) (input output : Text) : Json :=
  object [("line_num", .int n), ("input", .string input), ("output", .string output)]

/-- The counted lines of a text with what evaluation makes of them. -/
def records (s : Surroundings) (t : Text) (activeLine : Int) :
    Result (List (Nat × Text × Text)) := do
  let ls := Line.logical t
  let es ← Document.evaluate s activeLine ls
  return (ls.zip es).zipIdx 1 |>.map fun ((l, e), n) => (n, l, e.output)

/-- The answer to a request. -/
def answer (s : Surroundings) : Request → Result Json
  | evaluate t n => do
    let rs ← records s t n
    let text := Text.unlines (rs.map fun (_, _, output) => output)
    let results := rs.map fun (n, i, o) => record n i o
    return object [("results", .array results), ("text", .string text)]
  | adjust old new => do return object [("text", .string (← Reference.adjust old new))]
  | dependents t n transitive => do
    let ns ← Dependents.find (Text.lines t) n transitive
    return object [("lines", .array (ns.map fun k => .int (k : Nat)))]
  | strip l => .ok (object [("line", .string (Line.stripResult l))])
  | hasResult l => .ok (object [("has_result", .bool (Line.hasResult l))])
  | resolve t => do return object [("text", .string (← Document.resolveReferences s t))]

end Request

end Service

end Worksheet
