import Worksheet.Pattern.Search

/-!
# Spellings of a product of units

Products of units are written in many ways: `miles per hour`, `square feet`, `kg m²`, `2m`, `50 %`.
Before a text is cut into tokens, its words, blanks and raised digits are replaced by the operators
for which they stand.
-/

namespace Worksheet

namespace Measure

namespace Spelling

open Text Pattern

/-! ## Words -/

def startsPlainName (c : Char) : Bool := c.isAlpha || c == '_'

/-- A word of ASCII letters, digits and underscores that does not begin with a digit. -/
def name (k : Nat) : Pattern :=
  group k (one startsPlainName ++ many fun c => startsPlainName c || isAsciiDigit c)

/-- A name, with what its power is called in front of it or behind it. -/
structure PowerWord where
  pattern : Pattern
  exponent : Char

def powerWords : List PowerWord := [
  ⟨name 1 ++ word " squared", '2'⟩,
  ⟨name 1 ++ word " cubed", '3'⟩,
  ⟨word "cubic " ++ name 1, '3'⟩,
  ⟨word "square " ++ name 1, '2'⟩,
  ⟨word "sq " ++ name 1, '2'⟩]

def PowerWord.apply (w : PowerWord) (t : Text) : Text :=
  w.pattern.replaceAll (fun m => m.group 1 ++ ['*', '*', w.exponent]) t

/-! ## Blanks -/

/-- After a name, a number or an operator one space is enough. -/
def squeeze : Text → Text :=
  let p := group 1 (one fun c => isWord c || ".-+*\\^".toList.contains c) ++ blanks
  p.replaceAll fun m => m.group 1 ++ [' ']

/-- A number in front of letters is multiplied with them, unless it goes on as a power of ten. -/
def splitNumbers : Text → Text :=
  let digits := many isAsciiDigit
  let letters :=
    one (fun c => c == 'e' || c == '|' || c == 'E') ++ one Char.isAlpha <|>
      one (fun c => c.isAlpha && c != 'e' && c != 'E')
  let p := atWordEdge ++ group 1 (many1 isAsciiDigit ++ opt (char '.') ++ digits) ++ ahead letters
  p.replaceAll fun m => m.group 1 ++ ['*']

/-- Neighbours with blanks between them are multiplied. -/
def multiplyNeighbours : Text → Text :=
  let p := group 1 (one fun c => isWord c || c == '.' || c == ')') ++ blanks ++
    ahead (one fun c => isWord c || c == '(')
  p.replaceAll fun m => m.group 1 ++ ['*']

/-! ## Signs -/

/-- The plain character that a raised or rare one stands for. -/
def plain (c : Char) : Char :=
  (("⁰¹²³⁴⁵⁶⁷⁸⁹⁻·×".toList.zip "0123456789-**".toList).lookup c).getD c

def isRaisedDigit (c : Char) : Bool := "⁰¹²³⁴⁵⁶⁷⁸⁹".toList.contains c

/-- A raised number. -/
def raised : Pattern :=
  opt (char '⁻') ++ many1 isRaisedDigit ++ opt (char '.' ++ many isRaisedDigit)

/-- Every occurrence of a phrase replaced. -/
def replace (phrase new : Text) : Text → Text :=
  (word (String.ofList phrase)).replaceAll fun _ => new

/-- Writes raised numbers as powers: for each from left to right, wherever its text occurs. -/
def lower (t : Text) : Text :=
  (raised.findAll t).foldl (fun t m => replace m.text ('*' :: '*' :: m.text.map plain) t) t

/-- Signs that stand for a unit. -/
def unitSigns : List (Char × String) := [('%', " percent "), ('‰', " permille ")]

def nameUnitSigns (t : Text) : Text :=
  trim <| t.flatMap fun c => match unitSigns.lookup c with
    | some w => w.toList
    | none => [c]

/-! ## Brackets -/

/-- A text in square brackets is a name. Inside a name a bracket is spelled as a word. -/
def bracketWords : List (Text × Text) :=
  [(['['], "__obra__".toList), ([']'], "__cbra__".toList)]

def spellBrackets (t : Text) : Text :=
  if t.contains '[' then bracketWords.foldl (fun t (b, w) => replace b w t) t else t

/-- A name with its brackets. -/
def unspellBrackets (name : Text) : Text :=
  bracketWords.foldl (fun t (b, w) => replace w b t) name

/-- A text in which words and signs that stand for operators are replaced by these. -/
def normalize (t : Text) : Text :=
  let t := replace " per ".toList ['/'] (t.filter (· != ','))
  let t := squeeze (replace ['°'] "degree".toList t)
  let t := powerWords.foldl (fun t w => w.apply t) t
  let t := multiplyNeighbours (splitNumbers t)
  replace ['^'] ['*', '*'] ((lower t).map plain)

end Spelling

end Measure

end Worksheet
