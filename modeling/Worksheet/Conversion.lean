import Worksheet.Number.Literal
import Worksheet.Pattern.Search

/-!
# Conversion phrases

An amount, perhaps of dollars, what it counts, one of the words `to`, `in` and `as`, and what it
should be converted to.
-/

namespace Worksheet

open Text Pattern

/-- A quantity to be converted; both names are in lower case. -/
structure Conversion where
  amount : Float
  source : Text
  target : Text

namespace Conversion

def pattern : Pattern :=
  opt (group 1 (char '$')) ++ group 2 (many1 fun c => isDigit c || c == '.' || c == ',') ++
    blanks? ++ group 3 (run notNewline 0 none false) ++ blanks ++
    (anyCase "to" <|> anyCase "in" <|> anyCase "as") ++ blanks ++
    group 4 (fewest notNewline) ++ atEnd

/-- Reads a phrase. The dollar sign counts where nothing else says what is converted. -/
def ofText? (t : Text) : Option Conversion := do
  let m ← pattern.matchStart (trim t)
  let named := lower (trim (m.group 3))
  let source := if named.isEmpty then m.group 1 else named
  if source.isEmpty then none
  else
    let amount ← Literal.real? ((m.group 2).filter (· != ','))
    some ⟨amount, source, lower (trim (m.group 4))⟩

end Conversion

end Worksheet
