import Worksheet.Text.Class
import Worksheet.Text.Unprintable

/-!
# Quoted texts in messages

A message shows a text between single quotes, or between double quotes when the text holds a single
quote and no double one. Line feeds, returns and tabs have short escapes, other unprintable
characters show their number in two, four or eight hexadecimal digits.
-/

namespace Worksheet.Text

def isUnprintable (c : Char) : Bool := inRanges unprintableRanges c.toNat

/-- A number in at least `width` hexadecimal digits. -/
def hex (width n : Nat) : Text := padLeft '0' width (Nat.toDigits 16 n)

/-- One character between the quotes `quote`. -/
def escapeChar (quote c : Char) : Text :=
  if c = quote || c = '\\' then ['\\', c]
  else if c = '\n' then ['\\', 'n']
  else if c = '\r' then ['\\', 'r']
  else if c = '\t' then ['\\', 't']
  else if isUnprintable c then
    let n := c.toNat
    if n < 0x100 then '\\' :: 'x' :: hex 2 n
    else if n < 0x10000 then '\\' :: 'u' :: hex 4 n
    else '\\' :: 'U' :: hex 8 n
  else [c]

/-- The quote that needs no escape, and the single one where neither or both do. -/
def quoteFor (t : Text) : Char := if t.contains '\'' && !t.contains '"' then '"' else '\''

def quoted (t : Text) : Text :=
  let q := quoteFor t
  q :: t.flatMap (escapeChar q) ++ [q]

end Worksheet.Text
