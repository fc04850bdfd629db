import Worksheet.Text.Case

/-!
# Patterns

The phrases that a line may hold are described by patterns: characters of a class, runs of such
characters that prefer to be long or short, sequence, choice, groups, and tests that consume
nothing. A pattern has no other loop than a run of one class, so matching is a recursion on the
pattern.
-/

namespace Worksheet

inductive Pattern where
  /-- Matches the empty text. -/
  | nothing
  /-- Matches one character of a class. -/
  | one (s : Char → Bool)
  /-- Matches `least` to `most` characters of a class, trying the longest first if `long`, else the
  shortest. -/
  | run (s : Char → Bool) (least : Nat) (most : Option Nat) (long : Bool)
  | seq (p q : Pattern)
  /-- Tries `p`, and `q` where `p` leads to no match. -/
  | either (p q : Pattern)
  /-- Remembers what `p` matched under the number `k`. -/
  | group (k : Nat) (p : Pattern)
  /-- Stands at the start of the text. -/
  | atStart
  /-- Stands at the end of the text, or in front of a line feed that ends it. -/
  | atEnd
  /-- Stands between a word character and another or none. -/
  | atWordEdge
  /-- Stands behind a character of a class. -/
  | behind (s : Char → Bool)
  /-- Stands in front of a match of `p`. -/
  | ahead (p : Pattern)

namespace Pattern

instance : Append Pattern := ⟨seq⟩

instance : OrElse Pattern := ⟨fun p q => either p (q ())⟩

/-! ## Runs -/

def many (s : Char → Bool) : Pattern := run s 0 none true

def many1 (s : Char → Bool) : Pattern := run s 1 none true

/-- One or more, as few as possible. -/
def fewest (s : Char → Bool) : Pattern := run s 1 none false

def times (s : Char → Bool) (least most : Nat) : Pattern := run s least (some most) true

def opt (p : Pattern) : Pattern := either p nothing

/-! ## Classes -/

def blanks : Pattern := many1 Text.isBlank

def blanks? : Pattern := many Text.isBlank

def digits : Pattern := many1 Text.isDigit

def char (c : Char) : Pattern := one (· == c)

def char? (c : Char) : Pattern := opt (char c)

/-- Any character but a line feed. -/
def notNewline (c : Char) : Bool := c != '\n'

/-! ## Words -/

/-- The text `w` itself. -/
def word (w : String) : Pattern := w.toList.foldr (fun c p => seq (char c) p) nothing

/-- The text `w`, which is in lower case, in any case. -/
def anyCase (w : String) : Pattern :=
  w.toList.foldr (fun c p => seq (one (Text.sameLetter c)) p) nothing

/-- The first of several patterns that leads to a match. -/
def firstOf : List Pattern → Pattern
  | [] => one fun _ => false
  | [p] => p
  | p :: ps => either p (firstOf ps)

def words (ws : List String) : Pattern := firstOf (ws.map word)

/-- A word that may end in an s. -/
def plural (w : String) : Pattern := word w ++ char? 's'

end Pattern

end Worksheet
