import Worksheet.Text.Class

/-!
# Lines of a document

A line may hold an expression, an equals sign, a result and a comment that begins with `#`. A result
of several lines stands below its line, each of them behind `> `; such output lines are made anew by
every evaluation and have no number. Every other line counts, from one.
-/

namespace Worksheet

open Text

namespace Line

/-! ## Output lines -/

/-- What an output line begins with. -/
def outputMark : Text := ['>', ' ']

def isOutput (l : Text) : Bool := outputMark.isPrefixOf (trimLeft l)

/-- The lines that count. -/
def counted (ls : List Text) : List Text := ls.filter fun l => !isOutput l

/-- The lines of a text that count. -/
def logical (t : Text) : List Text := counted (lines t)

/-! ## The equals sign -/

/-- What stands before and after the first equals sign that is no part of `>=`, `<=`, `==` or
`!=`. -/
def cutResult : Text → Option (Text × Text)
  | [] => none
  | [c] => if c = '=' then some ([], []) else none
  | c :: d :: r =>
    if (c = '<' || c = '>' || c = '=' || c = '!') && d = '=' then
      (cutResult r).map fun (a, b) => (c :: d :: a, b)
    else if c = '=' then some ([], d :: r)
    else (cutResult (d :: r)).map fun (a, b) => (c :: a, b)

theorem cutResult_append {t a b : Text} (h : cutResult t = some (a, b)) : t = a ++ '=' :: b := by
  fun_induction cutResult t generalizing a b with
  | case1 => simp at h
  | case2 => simp at h; simp [h]
  | case3 => simp at h
  | case4 c d r hc ih =>
    simp only [Option.map_eq_some_iff] at h
    obtain ⟨⟨a', b'⟩, h, he⟩ := h
    cases he
    simp [ih h]
  | case5 d r hc => simp at h; simp [h]
  | case6 c d r hc he ih =>
    simp only [Option.map_eq_some_iff] at h
    obtain ⟨⟨a', b'⟩, h, he⟩ := h
    cases he
    simp [ih h]

/-- The position of the equals sign. -/
def resultPosition? (l : Text) : Option Nat := (cutResult l).map fun (a, _) => a.length

/-! ## Comments -/

/-- A line without its comment, and the comment without blanks at its end. -/
def splitComment (l : Text) : Text × Text :=
  match cutAt '#' l with
  | none => (l, [])
  | some (a, b) => (a, trimRight ('#' :: b))

/-! ## Results -/

/-- A line without its result, but with its equals sign and its comment. -/
def stripResult (l : Text) : Text :=
  match cutResult l with
  | none => l
  | some (a, b) =>
    match cutAt '#' b with
    | none => a ++ ['=']
    | some (_, comment) => a ++ '=' :: ' ' :: '#' :: comment

/-- Whether something other than a comment stands behind the equals sign. -/
def hasResult (l : Text) : Bool :=
  match cutResult l with
  | none => false
  | some (_, b) =>
    match trim b with
    | [] => false
    | c :: _ => c != '#'

/-- An expression with its result and its comment. A result of several lines goes below. -/
def render (expr result comment : Text) : Text :=
  let tail := if comment.isEmpty then [] else ' ' :: comment
  if result.contains '\n' then
    expr ++ " =".toList ++ tail ++ (lines result).flatMap fun l => '\n' :: outputMark ++ l
  else expr ++ " = ".toList ++ result ++ tail

end Line

end Worksheet
