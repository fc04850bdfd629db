import Worksheet.Failure
import Worksheet.Number.Literal

/-!
# References

A reference is a backslash and the longest run of decimal digits behind it; it names a line by its
number. `Reference.pieces` cuts a text into references and other characters, and `flatten_pieces`
says that nothing is lost. All that looks for references or replaces them is a map over the pieces.
-/

namespace Worksheet

open Text

/-- A character outside all references, or a reference as written, without its backslash. -/
inductive Piece where
  | char (c : Char)
  | reference (digits : Text)
  deriving DecidableEq, Repr

namespace Piece

def text : Piece → Text
  | char c => [c]
  | reference digits => '\\' :: digits

def digits? : Piece → Option Text
  | char _ => none
  | reference digits => some digits

end Piece

namespace Reference

/-- The references of a text and the characters around them. -/
def pieces (t : Text) : List Piece :=
  match t with
  | [] => []
  | c :: r =>
    if c = '\\' && r.head?.any isDigit then
      .reference (r.takeWhile isDigit) :: pieces (r.dropWhile isDigit)
    else .char c :: pieces r
termination_by t.length
decreasing_by
  · have := (List.dropWhile_suffix isDigit (l := r)).length_le
    simp; omega
  · simp

theorem flatten_pieces (t : Text) : (pieces t).flatMap Piece.text = t := by
  fun_induction pieces t with
  | case1 => rfl
  | case2 c r h ih =>
    simp only [Bool.and_eq_true, decide_eq_true_eq] at h
    simp [Piece.text, ih, h.1]
  | case3 c r h ih => simp [Piece.text, ih]

/-- The line that a run of digits names. A run of too many digits names none. -/
def line (digits : Text) : Result Nat :=
  match Literal.natural? digits with
  | some n => .ok n
  | none => .error (.fault .badValue)

/-- The lines that a text refers to, in order of appearance. -/
def findAll (t : Text) : Result (List Nat) := ((pieces t).filterMap Piece.digits?).mapM line

/-- Replaces every reference by what `f` makes of the line's number. -/
def replaceM (f : Nat → Result Text) (t : Text) : Result Text := do
  let ps ← (pieces t).mapM fun
    | .char c => .ok [c]
    | .reference digits => do f (← line digits)
  return ps.flatten

/-- Replaces the references whose line has a text; the others stay as written. -/
def substitute (value : Nat → Option Text) (t : Text) : Result Text := do
  let ps ← (pieces t).mapM fun p => do
    match p.digits? with
    | none => return p.text
    | some digits => return (value (← line digits)).getD p.text
  return ps.flatten

end Reference

end Worksheet
