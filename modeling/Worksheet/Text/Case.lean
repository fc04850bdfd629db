import Worksheet.Text.Cases
import Worksheet.Text.Class

/-!
# Case

Lower case as Unicode defines it for whole texts: one character becomes one, with two exceptions. A
capital I with a dot becomes an i and a combining dot, and a capital sigma takes its final form at
the end of a word.
-/

namespace Worksheet.Text

def isCaseIgnorable (c : Char) : Bool := inRanges caseIgnorableRanges c.toNat

def isCased (c : Char) : Bool := inRanges casedRanges c.toNat

/-- The lower case of a character that stands alone. -/
def lowerChar (c : Char) : Char :=
  let n := c.toNat
  if n < 128 then c.toLower
  else match lowerRuns.find? fun (lo, hi, step, _) => lo ≤ n && n ≤ hi && (n - lo) % step == 0 with
    | some (_, _, _, shift) => Char.ofNat (n + shift).toNat
    | none => c

/-- A sigma is final when a character with case stands before it and none after it. -/
def finalSigma (before after : Text) : Bool :=
  (before.dropWhile isCaseIgnorable).head?.any isCased &&
    !(after.dropWhile isCaseIgnorable).head?.any isCased

/-- Lower case of `t` behind the reversed text `before`. -/
def lowerFrom (before : Text) : Text → Text
  | [] => []
  | c :: r =>
    if c.toNat < 128 then c.toLower :: lowerFrom (c :: before) r
    else if c = 'İ' then 'i' :: '\u0307' :: lowerFrom (c :: before) r
    else if c = 'Σ' then (if finalSigma before r then 'ς' else 'σ') :: lowerFrom (c :: before) r
    else lowerChar c :: lowerFrom (c :: before) r

def lower (t : Text) : Text := lowerFrom [] t

/-- Upper case of the ASCII letters. -/
def upperAscii (t : Text) : Text := t.map Char.toUpper

/-- Whether `c` is the small letter `letter` in a search that ignores case: besides the two cases of
a letter, the long s counts as s, the Kelvin sign as k, and the dotted and dotless i as i. -/
def sameLetter (letter c : Char) : Bool :=
  c == letter || c.toLower == letter ||
    (letter == 's' && c == 'ſ') || (letter == 'k' && c == '\u212A') ||
    (letter == 'i' && (c == 'İ' || c == 'ı'))

end Worksheet.Text
