import Worksheet.Line
import Worksheet.Reference

/-!
# Renumbering after an edit

When lines are inserted or deleted in one block, the references behind the block move with their
lines. The block is taken to begin at the first line that differs. A reference to a deleted line
keeps its number.
-/

namespace Worksheet

open Text

namespace Reference

/-- The number of lines that two lists share at their front, and one more. -/
def firstDifference : List Text → List Text → Nat
  | a :: as, b :: bs => if a = b then firstDifference as bs + 1 else 1
  | _, _ => 1

/-- A whole number as it is written behind a backslash, at most as long as one that is read. -/
def writeLine (n : Int) : Result Text :=
  if Literal.maxDigits < (ofNat n.natAbs).length then .error (.fault .badValue)
  else .ok ('\\' :: ofInt n)

/-- Renumbers every reference. -/
def renumber (f : Int → Int) (t : Text) : Result Text := replaceM (fun n => writeLine (f n)) t

/-- Moves the references to line `start` and behind by `delta`. -/
def shiftForInsert (start delta : Int) (t : Text) : Result Text :=
  if delta = 0 then .ok t else renumber (fun n => if start ≤ n then n + delta else n) t

/-- Moves the references behind the deleted block `[start, start + delta)` back by `delta`. -/
def shiftForDelete (start delta : Int) (t : Text) : Result Text :=
  if delta = 0 then .ok t else renumber (fun n => if start + delta ≤ n then n - delta else n) t

/-- The new text of a document with its references renumbered, where the number of counted lines has
changed. -/
def adjust (old new : Text) : Result Text :=
  let a := Line.logical old
  let b := Line.logical new
  let start : Int := firstDifference a b
  if a.length = b.length then .ok new
  else if a.length < b.length then shiftForInsert start (b.length - a.length : Int) new
  else shiftForDelete start (a.length - b.length : Int) new

end Reference

end Worksheet
