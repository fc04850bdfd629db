import Worksheet.Json.Basic
import Worksheet.Number.Literal

/-!
# Reading JSON

A text holds one value with blanks around it. Infinities and undefined numbers may be written by
name. What is wrong with a text is told by the position at which reading stopped: that of the
character that cannot stand there, and for a string that does not end, that of its opening quote.
Values nested deeper than `maxDepth` are refused.
-/

namespace Worksheet

namespace Json

inductive ReadError where
  /-- No value can be read at this position. -/
  | malformed (position : Nat)
  /-- A whole number has too many digits. -/
  | hugeNumber
  /-- Arrays and objects are nested too deeply. -/
  | tooDeep
  deriving DecidableEq, Repr

/-- Reading stops at a position, which is told by the number of characters from there on. -/
def stopAt {α : Type} (rest : Text) : Except ReadError (α × Text) := .error (.malformed rest.length)

def isGap (c : Char) : Bool := c == ' ' || c == '\t' || c == '\n' || c == '\r'

abbrev skip (t : Text) : Text := t.dropWhile isGap

/-! ## Strings -/

def hexDigit? (c : Char) : Option Nat :=
  if '0' ≤ c && c ≤ '9' then some (c.toNat - 48)
  else if 'a' ≤ c && c ≤ 'f' then some (c.toNat - 87)
  else if 'A' ≤ c && c ≤ 'F' then some (c.toNat - 55)
  else none

/-- The number that four hexadecimal digits at the front write; another character must follow. -/
def fourDigits? (t : Text) : Option (Nat × Text) := do
  let ds ← (t.take 4).mapM hexDigit?
  if t.length < 5 then none
  else some (ds.foldl (fun n d => 16 * n + d) 0, t.drop 4)

def isHighSurrogate (n : Nat) : Bool := 0xD800 ≤ n && n ≤ 0xDBFF

def isLowSurrogate (n : Nat) : Bool := 0xDC00 ≤ n && n ≤ 0xDFFF

/-- The character with a code; a lone surrogate is replaced. -/
def charOfCode (n : Nat) : Char :=
  if isHighSurrogate n || isLowSurrogate n then '\uFFFD' else Char.ofNat n

/-- Reads the character whose code stands behind `\u`. A high and a low surrogate make one
character. -/
def codedChar (t : Text) : Except ReadError (Char × Text) :=
  match fourDigits? t with
  | none => stopAt ('u' :: t)
  | some (n, r) =>
    match r with
    | '\\' :: 'u' :: r' =>
      if isHighSurrogate n && 6 < r.length then
        match fourDigits? r' with
        | none => stopAt ('u' :: r')
        | some (k, r'') =>
          if isLowSurrogate k then
            .ok (Char.ofNat (0x10000 + (n - 0xD800) * 1024 + (k - 0xDC00)), r'')
          else .ok (charOfCode n, r)
      else .ok (charOfCode n, r)
    | _ => .ok (charOfCode n, r)

def escape? : Char → Option Char
  | '"' => some '"'
  | '\\' => some '\\'
  | '/' => some '/'
  | 'b' => some '\x08'
  | 'f' => some '\x0c'
  | 'n' => some '\n'
  | 'r' => some '\r'
  | 't' => some '\t'
  | _ => none

/-- Reads the characters up to the closing quote, at most `n` of them. `start` is the text from the
opening quote on. -/
def stringFrom (start : Text) : (n : Nat) → Text → Text → Except ReadError (Text × Text)
  | 0, _, _ => stopAt start
  | n + 1, done, t =>
    match t with
    | [] => stopAt start
    | '"' :: r => .ok (done.reverse, r)
    | ['\\'] => stopAt start
    | '\\' :: 'u' :: r => do
      let (c, r) ← codedChar r
      stringFrom start n (c :: done) r
    | '\\' :: c :: r =>
      match escape? c with
      | some c => stringFrom start n (c :: done) r
      | none => stopAt t
    | c :: r => if c.toNat < 32 then stopAt t else stringFrom start n (c :: done) r

/-- Reads a string behind its opening quote, at most `n` characters. -/
def stringBehind (n : Nat) (t : Text) : Except ReadError (Text × Text) :=
  stringFrom ('"' :: t) n [] t

/-! ## Numbers -/

/-- The digits behind a point, if there are any, and what follows. -/
def placesOf (t : Text) : Text × Text :=
  match t with
  | '.' :: r => if r.head?.any Text.isAsciiDigit then r.span Text.isAsciiDigit else ([], t)
  | _ => ([], t)

/-- The power of ten at the front, if there is one, and what follows. -/
def exponentOf (t : Text) : Option Int × Text :=
  match t with
  | e :: r =>
    if e = 'e' || e = 'E' then
      let (negative, r) := Literal.splitSign r
      let (ds, r) := r.span Text.isAsciiDigit
      if ds.isEmpty then (none, t)
      else
        let n : Int := Literal.digitsValue ds
        (some (if negative then -n else n), r)
    else (none, t)
  | [] => (none, [])

/-- Reads a number. Its whole part has no zeros in front. -/
def number (t : Text) : Except ReadError (Json × Text) :=
  let negative := t.head? == some '-'
  let digitsAt := if negative then t.drop 1 else t
  match digitsAt with
  | [] => stopAt t
  | c :: r =>
    if !Text.isAsciiDigit c then stopAt t
    else
      let (whole, r) :=
        if c = '0' then (['0'], r)
        else (c :: r.takeWhile Text.isAsciiDigit, r.dropWhile Text.isAsciiDigit)
      let (places, r) := placesOf r
      let (exponent, r) := exponentOf r
      if places.isEmpty && exponent.isNone then
        match Literal.natural? whole with
        | none => .error .hugeNumber
        | some n => .ok (.int (if negative then -(n : Int) else n), r)
      else
        let d : Decimal := ⟨Literal.digitsValue (whole ++ places), exponent.getD 0 - places.length⟩
        .ok (.real (if negative then -d.toFloat else d.toFloat), r)

/-! ## Values -/

/-- Reads the items of an array up to its end, at most `n` of them. -/
def items (value : Text → Except ReadError (Json × Text)) :
    (n : Nat) → List Json → Text → Except ReadError (List Json × Text)
  | 0, _, t => stopAt t
  | n + 1, done, t => do
    let (x, r) ← value t
    match skip r with
    | ']' :: r => return ((x :: done).reverse, r)
    | ',' :: r => items value n (x :: done) (skip r)
    | r => stopAt r

/-- Reads the fields of an object up to its end, at most `n` of them. -/
def fields (value : Text → Except ReadError (Json × Text)) :
    (n : Nat) → List (Text × Json) → Text → Except ReadError (List (Text × Json) × Text)
  | 0, _, t => stopAt t
  | n + 1, done, t =>
    match t with
    | '"' :: r => do
      let (name, r) ← stringBehind n r
      match skip r with
      | ':' :: r =>
        let (x, r) ← value (skip r)
        let done := insert name x done
        match skip r with
        | '\x7d' :: r => return (done, r)
        | ',' :: r => fields value n done (skip r)
        | r => stopAt r
      | r => stopAt r
    | t => stopAt t

/-- Words that stand for a value. -/
def constants : List (Text × Json) := [
  ("null".toList, null), ("true".toList, bool true), ("false".toList, bool false),
  ("NaN".toList, real notANumber), ("Infinity".toList, real infinity),
  ("-Infinity".toList, real (-infinity))]

/-- Reads a value that is not nested: a string of at most `n` characters, a word or a number. -/
def plain (n : Nat) (t : Text) : Except ReadError (Json × Text) :=
  match t with
  | '"' :: r => do
    let (s, r) ← stringBehind n r
    return (.string s, r)
  | t =>
    match constants.find? fun (w, _) => w.isPrefixOf t with
    | some (w, j) => .ok (j, t.drop w.length)
    | none => number t

/-- Whether an array or an object begins with this character. -/
def isOpening (c : Char) : Bool := c == '[' || c == '\x7b'

/-- Reads a value that is nested at most `depth` deep, of a text of at most `n` characters. -/
def value (n : Nat) : (depth : Nat) → Text → Except ReadError (Json × Text)
  | 0, t => if t.head?.any isOpening then .error .tooDeep else plain n t
  | d + 1, t =>
    match t with
    | '[' :: r =>
      match skip r with
      | ']' :: r => .ok (.array [], r)
      | r => do
        let (xs, r) ← items (value n d) n [] r
        return (.array xs, r)
    | '\x7b' :: r =>
      match skip r with
      | '\x7d' :: r => .ok (.object [], r)
      | r => do
        let (fs, r) ← fields (value n d) n [] r
        return (.object fs, r)
    | t => plain n t

/-- How deep arrays and objects may be nested. -/
def maxDepth : Nat := 1000

/-- Reads a value with blanks around it, behind which the text ends. -/
def alone (t : Text) : Except ReadError (Json × Text) := do
  let (j, r) ← value t.length maxDepth (skip t)
  match skip r with
  | [] => return (j, [])
  | r => stopAt r

/-- The value that a whole text writes. -/
def read (t : Text) : Except ReadError Json :=
  match alone t with
  | .ok (j, _) => .ok j
  | .error (.malformed left) => .error (.malformed (t.length - left))
  | .error .hugeNumber => .error .hugeNumber
  | .error .tooDeep => .error .tooDeep

end Json

end Worksheet
