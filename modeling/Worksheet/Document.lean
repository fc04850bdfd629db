import Worksheet.Evaluator
import Worksheet.Line
import Worksheet.Spacing

/-!
# Documents

A document is evaluated line by line, each line seeing the outcomes of those in front. A line that
cannot be computed shows `ERR` and leaves nothing. Blank lines, comments, and lines without an
equals sign or without an expression stay as they are.
-/

namespace Worksheet

/-- A line with its result, and what it leaves to the lines behind it. -/
structure EvaluatedLine where
  output : Text
  outcome : Outcome := {}

/-- What an outcome puts in place of a reference. -/
def Outcome.display? (o : Outcome) : Option Text :=
  match o.value with
  | some x => some (Amount.format x o.isCurrency)
  | none => o.dateTime.bind fun t => if t.isEmpty then none else some t

namespace Document

open Text

/-- What stands for the result of a line that has none. -/
def errorText : Text := "ERR".toList

/-- The expression of a line and its comment, if the line is to be evaluated. -/
def expressionOf? (l : Text) : Option (Text × Text) :=
  match trim l with
  | [] => none
  | '#' :: _ => none
  | _ =>
    let (body, comment) := Line.splitComment l
    (Line.cutResult body).bind fun (a, _) =>
      let expr := trim a
      if expr.isEmpty then none else some (expr, comment)

/-- Evaluates a line. The line that is being edited keeps its spacing. -/
def evaluateLine (s : Surroundings) (isActive : Bool) (earlier : Earlier) (l : Text) :
    Result EvaluatedLine :=
  match expressionOf? l with
  | none => .ok ⟨l, {}⟩
  | some (expr, comment) =>
    let shown := if isActive then expr else Spacing.format expr
    match evaluate s Evaluator.all earlier expr with
    | .ok a => .ok ⟨Line.render shown a.text comment, a.outcome⟩
    | .error (.line _) => .ok ⟨Line.render shown errorText comment, {}⟩
    | .error (.fault f) => .error (.fault f)

/-- Evaluates lines behind `earlier`, the first of which is line `n`. -/
def evaluateFrom (s : Surroundings) (active : Int) (n : Nat) (earlier : Earlier) :
    List Text → Result (List EvaluatedLine)
  | [] => .ok []
  | l :: ls => do
    let e ← evaluateLine s (active == n) earlier l
    let es ← evaluateFrom s active (n + 1) (earlier ++ [e.outcome]) ls
    return e :: es

/-- Evaluates the counted lines of a document; `active` is the line that is being edited, 0 for
none. -/
def evaluate (s : Surroundings) (active : Int) (ls : List Text) : Result (List EvaluatedLine) :=
  evaluateFrom s active 1 [] (Line.counted ls)

/-- The text of evaluated lines. -/
def render (es : List EvaluatedLine) : Text := unlines (es.map (·.output))

/-! ## Values for references -/

/-- The lines that can stand in for a reference, with their texts, by number. -/
def values (s : Surroundings) (ls : List Text) : Result (List (Nat × Text)) := do
  let es ← evaluate s 0 ls
  return (es.zipIdx 1).filterMap fun (e, n) => e.outcome.display?.map (n, ·)

/-- A text with every reference replaced that has a value. Output lines stay as they are. -/
def resolveReferences (s : Surroundings) (t : Text) : Result Text := do
  let ls := lines t
  let vs ← values s ls
  let ls ← ls.mapM fun l =>
    if Line.isOutput l then .ok l else Reference.substitute (fun n => vs.lookup n) l
  return unlines ls

end Document

end Worksheet
