import Worksheet.Dependents
import Worksheet.Document
import Worksheet.Reference.Renumber

/-!
# Editing sessions

An editor holds one text. Edits of its lines renumber the references; evaluating, and stripping the
results, replace the text. A step that fails leaves the text as it was. Positions count all lines
from 1; one before the first line counts from the end, and one that is out of range stands for the
nearest end.
-/

namespace Worksheet

namespace Session

open Text

inductive Step where
  | insert (position : Int) (ls : List Text)
  | delete (position count : Int)
  | replace (position : Int) (ls : List Text)
  | evaluate (active : Int)
  | strip
  | resolve
  | dependents (line : Int) (transitive : Bool)

/-- What a step answers. Only the first of these is the new text. -/
inductive Reply where
  | text (t : Text)
  | copied (t : Text)
  | lines (ns : List Nat)

/-- A place between lines: a negative one counts from the end. -/
def place (count : Nat) (i : Int) : Nat := min (if i < 0 then i + count else i).toNat count

/-- Puts lines in place of those from one place up to another. -/
def splice (ls new : List Text) (start stop : Int) : List Text :=
  ls.take (place ls.length start) ++ new ++ ls.drop (place ls.length stop)

/-- The text with lines spliced in and its references renumbered. -/
def edit (t : Text) (new : List Text) (start stop : Int) : Result Reply := do
  return .text (← Reference.adjust t (unlines (splice (lines t) new start stop)))

def step (s : Surroundings) (t : Text) : Step → Result Reply
  | .insert position ls => edit t ls (position - 1) (position - 1)
  | .delete position count => edit t [] (position - 1) (position - 1 + count)
  | .replace position ls => edit t ls (position - 1) position
  | .evaluate active => do return .text (Document.render (← Document.evaluate s active (lines t)))
  | .strip => .ok (.text (unlines ((lines t).map Line.stripResult)))
  | .resolve => do return .copied (← Document.resolveReferences s t)
  | .dependents line transitive => do return .lines (← Dependents.find (lines t) line transitive)

/-- The answers to the steps of a session. -/
def run (s : Surroundings) (t : Text) : List Step → List (Result Reply)
  | [] => []
  | a :: steps =>
    let r := step s t a
    let t := match r with
      | .ok (.text t) => t
      | _ => t
    r :: run s t steps

end Session

end Worksheet
