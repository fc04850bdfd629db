import Worksheet.Failure
import Worksheet.Measure.Spelling

/-!
# Tokens of a product of units

A product of units is cut into numbers, names, operators and parentheses. Quoted texts, comments,
signs that are no operators and words that begin with no letter hold no token. Brackets of all kinds
must be as many on the left as on the right.
-/

namespace Worksheet

namespace Measure

open Text

inductive Operator where
  | power
  | times
  | divide
  /-- Division without a remainder. -/
  | wholeDivide
  | plus
  | minus
  deriving DecidableEq, Repr

namespace Operator

def symbol : Operator → Text
  | power => "**".toList
  | times => "*".toList
  | divide => "/".toList
  | wholeDivide => "//".toList
  | plus => "+".toList
  | minus => "-".toList

def all : List Operator := [power, times, divide, wholeDivide, plus, minus]

end Operator

inductive Operand where
  | number (numeral : Text)
  | name (name : Text)
  deriving DecidableEq, Repr

inductive Token where
  | operand (o : Operand)
  | operator (o : Operator)
  | opening
  /-- A closing parenthesis and its column. -/
  | closing (column : Nat)
  deriving DecidableEq, Repr

namespace Token

/-! ## Numerals -/

/-- Digits at the start of a text; single underscores may stand in front of them. -/
def digitsBehind (isDigit : Char → Bool) : Text → Text
  | '_' :: c :: r => if isDigit c then '_' :: c :: digitsBehind isDigit r else []
  | c :: r => if isDigit c then c :: digitsBehind isDigit r else []
  | [] => []

/-- Digits at the start of a text, with single underscores between them. -/
def digits (isDigit : Char → Bool) (t : Text) : Text :=
  if t.head?.any isDigit then digitsBehind isDigit t else []

def decimals : Text → Text := digits isAsciiDigit

/-- A power of ten at the start of a text. -/
def exponent : Text → Text
  | 'e' :: r =>
    let sign := r.take (if r.head?.any fun c => c == '+' || c == '-' then 1 else 0)
    match decimals (r.drop sign.length) with
    | [] => []
    | ds => 'e' :: sign ++ ds
  | _ => []

/-- A number with a point or a power of ten at the start of a text. -/
def broken? (t : Text) : Option Text :=
  let whole := decimals t
  match t.drop whole.length with
  | '.' :: r =>
    let places := decimals r
    if whole.isEmpty && places.isEmpty then none
    else some (whole ++ '.' :: places ++ exponent (r.drop places.length))
  | r => if whole.isEmpty || (exponent r).isEmpty then none else some (whole ++ exponent r)

/-- A letter behind a zero, with the digits of the base that it stands for. -/
def bases : List (Char × (Char → Bool)) := [
  ('x', fun c => isAsciiDigit c || ('a' ≤ c && c ≤ 'f')),
  ('b', fun c => c == '0' || c == '1'),
  ('o', fun c => '0' ≤ c && c ≤ '7')]

/-- A number in another base at the start of a text. -/
def based? : Text → Option Text
  | '0' :: b :: r =>
    match (bases.lookup b).map fun isDigit => digitsBehind isDigit r with
    | some (d :: ds) => some ('0' :: b :: d :: ds)
    | _ => none
  | _ => none

/-- A number at the start of a text. Only zeros may follow a zero. -/
def numeral? (t : Text) : Option Text :=
  let whole := decimals t
  let longest := (broken? t).getD whole
  if longest.isEmpty then none
  else if (t.drop longest.length).head? == some 'j' then some (longest ++ ['j'])
  else if (broken? t).isSome then some longest
  else (based? t).or <| some <|
    if t.head? == some '0' then digits (· == '0') t else whole

/-! ## Quoted texts -/

/-- What follows a closing quote. A backslash takes away the meaning of the next character. -/
def afterQuote (quote : Text) : Text → Option Text
  | '\\' :: _ :: r => afterQuote quote r
  | c :: r => if quote.isPrefixOf (c :: r) then some ((c :: r).drop quote.length)
    else afterQuote quote r
  | [] => none

/-- The letters that may stand in front of a quoted text. -/
def quotePrefixes : List Text := ["", "b", "r", "u", "f", "br", "rb", "fr", "rf"].map String.toList

/-- The length of a quoted text between single or tripled quotes at the start of a text. -/
def quotedLength? (tripled : Bool) (t : Text) : Option (Except Fault Nat) :=
  quotePrefixes.findSome? fun p => ['"', '\''].findSome? fun q =>
    let quote := List.replicate (if tripled then 3 else 1) q
    if (p ++ quote).isPrefixOf t then
      match afterQuote quote (t.drop (p.length + quote.length)) with
      | some r => some (.ok (t.length - r.length))
      | none => if tripled then some (.error .unbalanced) else none
    else none

/-! ## Signs -/

/-- The signs that are told apart, a longer one in front of those that begin it. -/
def signs : List Text :=
  ["**=", "//=", "...", "**", "//", "*=", "/=", "+=", "-=", "->", "*", "/", "+", "-", "(", ")", "[",
    "]", "\x7b", "\x7d"].map String.toList

/-- What a sign at a column adds to the tokens. -/
def ofSign (column : Nat) (sign : Text) : List Token :=
  if sign == ['('] then [opening]
  else if sign == [')'] then [closing column]
  else (Operator.all.filter fun o => o.symbol == sign).map operator

/-- How many brackets more a sign opens than it closes. -/
def depth (sign : Text) : Int :=
  if ["(", "[", "\x7b"].any fun s => s.toList == sign then 1
  else if [")", "]", "\x7d"].any fun s => s.toList == sign then -1
  else 0

/-! ## Scanning -/

/-- What stands at the start of a text. -/
structure Lexeme where
  length : Nat
  tokens : List Token
  depth : Int

/-- What a text at a column begins with. -/
def lexeme (column : Nat) (t : Text) : Except Fault Lexeme :=
  let skipped (n : Nat) : Lexeme := ⟨n, [], 0⟩
  if t.head? == some '#' then .ok (skipped (t.takeWhile (· != '\r')).length)
  else if let some r := quotedLength? true t then r.map skipped
  else if let some n := numeral? t then .ok ⟨n.length, [operand (.number n)], 0⟩
  else if let some s := signs.find? (·.isPrefixOf t) then
    .ok ⟨s.length, ofSign column s, depth s⟩
  else if let some r := quotedLength? false t then r.map skipped
  else
    let w := t.takeWhile isWord
    .ok ⟨w.length, if w.head?.any isNameStart then [operand (.name w)] else [], 0⟩

/-- The tokens of a text from a column on, of which `skip` characters belong to the last lexeme, and
how many brackets more it opens than it closes. A character that begins no lexeme is passed over. -/
def scanFrom : (skip column : Nat) → Text → Except Fault (List Token × Int)
  | _, _, [] => .ok ([], 0)
  | skip + 1, column, _ :: r => scanFrom skip (column + 1) r
  | 0, column, c :: r => do
    let l ← lexeme column (c :: r)
    let (ts, d) ← scanFrom (l.length - 1) (column + 1) r
    return (l.tokens ++ ts, l.depth + d)

/-- Whether nothing of a line counts: it begins with a comment or a carriage return. -/
def isVoid (t : Text) : Bool :=
  let begins := (t.dropWhile fun c => c == ' ' || c == '\t' || c == '\x0c').head?
  begins == some '#' || begins == some '\r'

def scan (t : Text) : Except Fault (List Token) :=
  if isVoid t then .ok []
  else do
    let (ts, d) ← scanFrom 0 0 t
    if d = 0 then return ts else throw .unbalanced

end Token

end Measure

end Worksheet
