import Worksheet.Text.Alphabetic
import Worksheet.Text.Numeric
import Worksheet.Text.Basic

/-!
# Character classes

Blanks, letters, decimal digits and word characters of Unicode, each an extension of its ASCII
class. The scanner of expressions knows ASCII digits only; references and phrases take the digits of
any script.
-/

namespace Worksheet.Text

/-- Whether a code point lies in one of the closed ranges. -/
def inRanges (ranges : Array (Nat × Nat)) (n : Nat) : Bool :=
  ranges.any fun (lo, hi) => lo ≤ n && n ≤ hi

/-- Whitespace: the controls 9 to 13 and 28 to 31, the space, and Unicode's separators. -/
def isBlank (c : Char) : Bool :=
  let n := c.toNat
  n == 32 || (9 ≤ n && n ≤ 13) || (28 ≤ n && n ≤ 31) || n == 0x85 || n == 0xA0 || n == 0x1680 ||
    (0x2000 ≤ n && n ≤ 0x200A) || n == 0x2028 || n == 0x2029 || n == 0x202F || n == 0x205F ||
    n == 0x3000

/-- A digit from `0` to `9`. -/
def isAsciiDigit (c : Char) : Bool := '0' ≤ c && c ≤ '9'

/-- The value of a decimal digit of any script. -/
def digitValue? (c : Char) : Option Nat :=
  let n := c.toNat
  if n < 128 then
    if isAsciiDigit c then some (n - 48) else none
  else (decimalZeros.find? fun z => z ≤ n && n ≤ z + 9).map (n - ·)

/-- A decimal digit of any script. -/
def isDigit (c : Char) : Bool := (digitValue? c).isSome

def isLetter (c : Char) : Bool :=
  let n := c.toNat
  if n < 128 then c.isAlpha else inRanges alphabeticRanges n

/-- A letter, a digit, a numeral or an underscore. -/
def isWord (c : Char) : Bool :=
  isLetter c || isDigit c || c == '_' || inRanges numeralRanges c.toNat

/-- Letters that may not begin a name: marks and forms that stand for a letter behind a blank. -/
def unstartingLetters : Array (Nat × Nat) := #[
  (0x37A, 0x37A), (0xE33, 0xE33), (0xEB3, 0xEB3), (0x2E2F, 0x2E2F), (0xFC5E, 0xFC63),
  (0xFDFA, 0xFDFB), (0xFE70, 0xFE70), (0xFE72, 0xFE72), (0xFE74, 0xFE74), (0xFE76, 0xFE76),
  (0xFE78, 0xFE78), (0xFE7A, 0xFE7A), (0xFE7C, 0xFE7C), (0xFE7E, 0xFE7E), (0xFF9E, 0xFF9F)]

/-- Numerals that are written with letters, such as Roman ones. -/
def letterNumerals : Array (Nat × Nat) := #[
  (0x16EE, 0x16F0), (0x2160, 0x2182), (0x2185, 0x2188), (0x3007, 0x3007), (0x3021, 0x3029),
  (0x3038, 0x303A), (0xA6E6, 0xA6EF), (0x10140, 0x10174), (0x10341, 0x10341), (0x1034A, 0x1034A),
  (0x103D1, 0x103D5), (0x12400, 0x1246E)]

/-- A word character that may begin a name: a letter, a numeral of letters or an underscore. -/
def isNameStart (c : Char) : Bool :=
  let n := c.toNat
  c == '_' || inRanges letterNumerals n || (isLetter c && !inRanges unstartingLetters n)

/-- Takes blanks off both ends. -/
abbrev trim (t : Text) : Text := trimBy isBlank t

abbrev trimLeft (t : Text) : Text := t.dropWhile isBlank

abbrev trimRight (t : Text) : Text := trimRightBy isBlank t

theorem isDigit_of_isAsciiDigit {c : Char} (h : isAsciiDigit c = true) : isDigit c = true := by
  have hn : c.toNat < 128 := by
    simp only [isAsciiDigit, Bool.and_eq_true, decide_eq_true_eq] at h
    have : c.toNat ≤ '9'.toNat := h.2
    exact Nat.lt_of_le_of_lt this (by decide)
  simp [isDigit, digitValue?, hn, h]

end Worksheet.Text
