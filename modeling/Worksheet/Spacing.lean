import Worksheet.Pattern.Search

/-!
# Spacing of an expression

An expression is shown with single blanks around its operators. Addresses, dates and clock times
hold dashes, slashes and colons of their own; they are set aside behind private characters while the
blanks are set, and put back at the end.
-/

namespace Worksheet

open Text Pattern

namespace Spacing

/-! ## Literals that stay as they are -/

def digit (least most : Nat) : Pattern := times isDigit least most

/-- Four groups of digits, perhaps with a length behind a slash. -/
def address : Pattern :=
  let dotted := char '.' ++ digit 1 3
  digit 1 3 ++ dotted ++ dotted ++ dotted ++ opt (char '/' ++ digit 1 2)

def isoDate : Pattern := digit 4 4 ++ char '-' ++ digit 1 2 ++ char '-' ++ digit 1 2

def slashDate : Pattern := digit 1 2 ++ char '/' ++ digit 1 2 ++ char '/' ++ digit 2 4

def clockTime : Pattern := digit 1 2 ++ char ':' ++ digit 2 2 ++ opt (char ':' ++ digit 2 2)

def protectedLiteral : Pattern := firstOf [address, isoDate, slashDate, clockTime]

/-- The first of the characters that stand in for literals. -/
def placeholderBase : Nat := 0xE000

def placeholder (i : Nat) : Char := Char.ofNat (placeholderBase + i)

/-- The text with placeholders, numbered from `i`, in place of its protected literals, and the
literals. -/
def setAside : (i : Nat) → List Pattern.Piece → Text × List Text
  | _, [] => ([], [])
  | i, .plain c :: ps =>
    let (t, literals) := setAside i ps
    (c :: t, literals)
  | i, .found m :: ps =>
    let (t, literals) := setAside (i + 1) ps
    (placeholder i :: t, m.text :: literals)

/-- Puts the literals, numbered from `i`, back one after the other. -/
def putBack : (i : Nat) → List Text → Text → Text
  | _, [], t => t
  | i, literal :: literals, t =>
    putBack (i + 1) literals (t.flatMap fun c => if c == placeholder i then literal else [c])

/-! ## Rules -/

def notBlank (c : Char) : Bool := !isBlank c

/-- The end of an operand. -/
def isOperandEnd (c : Char) : Bool := isDigit c || c == ')' || c == '%'

/-- Where an operator is given blanks: the character before it, the operator, and what follows. -/
structure Rule where
  before : Char → Bool
  sign : Char
  after : Pattern

namespace Rule

def pattern (r : Rule) : Pattern :=
  behind r.before ++ blanks? ++ char r.sign ++ blanks? ++ ahead r.after

def apply (r : Rule) (t : Text) : Text := r.pattern.replaceAll (fun _ => [' ', r.sign, ' ']) t

end Rule

/-- The rules in the order in which they are applied. A slash is a division only in front of three
digits. -/
def rules : List Rule := [
  ⟨notBlank, '×', one notBlank⟩,
  ⟨notBlank, '÷', one notBlank⟩,
  ⟨isOperandEnd, 'x', one isDigit⟩,
  ⟨isDigit, '*', one isDigit⟩,
  ⟨isDigit, '^', one isDigit⟩,
  ⟨isOperandEnd, '+', one notBlank⟩,
  ⟨isOperandEnd, '-', one notBlank⟩,
  ⟨isDigit, '/', run isDigit 3 none true⟩]

/-- Every run of blanks as one space, none at the ends. -/
def squeeze (t : Text) : Text := blanks.replaceAll (fun _ => [' ']) (trim t)

/-- An expression as it is shown. -/
def format (expr : Text) : Text :=
  let (t, literals) := setAside 0 (protectedLiteral.pieces (squeeze expr))
  putBack 0 literals (rules.foldl (fun t r => r.apply t) t)

end Spacing

end Worksheet
