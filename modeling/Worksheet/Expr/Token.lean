import Worksheet.Failure
import Worksheet.Number.Literal

/-!
# Tokens of an expression

`Token.scan` cuts an expression into tokens. Typographic operators and an `x` between two factors
are read as ASCII operators first. Numbers take ASCII digits only, with commas anywhere and at most
one point; a number in front of `%` is a hundredth of what is written. An equals sign that stands
alone is skipped.

The scan ends because every token takes at least one character (`length_next_le`).
-/

namespace Worksheet

open Text

/-- Operators and parentheses. -/
inductive Symbol where
  | plus | minus | star | slash | caret | opening | closing
  | greater | less | greaterEq | lessEq | equal | notEqual
  deriving DecidableEq, Repr

namespace Symbol

def text : Symbol → Text
  | plus => ['+']
  | minus => ['-']
  | star => ['*']
  | slash => ['/']
  | caret => ['^']
  | opening => ['(']
  | closing => [')']
  | greater => ['>']
  | less => ['<']
  | greaterEq => ['>', '=']
  | lessEq => ['<', '=']
  | equal => ['=', '=']
  | notEqual => ['!', '=']

def isComparison : Symbol → Bool
  | greater | less | greaterEq | lessEq | equal | notEqual => true
  | _ => false

/-- The symbols of one character that need no look ahead. -/
def ofChar? : Char → Option Symbol
  | '+' => plus
  | '-' => minus
  | '*' => star
  | '/' => slash
  | '^' => caret
  | '(' => opening
  | ')' => closing
  | _ => none

end Symbol

inductive Token where
  /-- A number as written; a percentage has a hundredth of the written number as its value. -/
  | number (value : Float) (percent : Bool) (text : Text)
  /-- An amount of dollars. -/
  | currency (value : Float) (text : Text)
  /-- The value of an earlier line. -/
  | reference (line : Nat) (text : Text)
  /-- A name in lower case. -/
  | word (name : Text)
  | symbol (s : Symbol)

namespace Token

def text : Token → Text
  | number _ _ t => t
  | currency _ t => t
  | reference _ t => t
  | word t => t
  | symbol s => s.text

def isComparison : Token → Bool
  | symbol s => s.isComparison
  | _ => false

def isCurrency : Token → Bool
  | currency .. => true
  | _ => false

/-! ## Operators of pasted text -/

/-- Typographic signs become the ASCII operators that they stand for. -/
def plainSign : Char → Char
  | '×' => '*'
  | '÷' => '/'
  | '−' => '-'
  | '–' => '-'
  | '—' => '-'
  | c => c

/-- Whether a factor can end with this character. -/
def endsFactor (c : Char) : Bool := isAsciiDigit c || c == ')' || c == '%' || c == '$' || c == '.'

/-- Whether a factor can begin with this character. -/
def beginsFactor (c : Char) : Bool :=
  isAsciiDigit c || c == '(' || c == '$' || c == '.' || c == '\\' || isLetter c

/-- Reads an `x` between two factors as a multiplication, behind the reversed text `before`. -/
def multiplySigns (before : Text) : Text → Text
  | [] => []
  | c :: r =>
    let nearest := fun t => List.find? (fun c => !isBlank c) t
    let d :=
      if (c == 'x' || c == 'X') && (nearest before).any endsFactor &&
          (nearest r).any beginsFactor then '*'
      else c
    d :: multiplySigns (c :: before) r

/-- An expression in ASCII operators. -/
def normalize (t : Text) : Text := multiplySigns [] (t.map plainSign)

/-! ## One token -/

/-- The longest run of digits, commas and at most one point, and what follows it. -/
def numeral : (point : Bool) → Text → Text × Text
  | _, [] => ([], [])
  | point, c :: r =>
    if isAsciiDigit c || c == ',' then
      let (n, rest) := numeral point r
      (c :: n, rest)
    else if c == '.' && !point then
      let (n, rest) := numeral true r
      (c :: n, rest)
    else ([], c :: r)

theorem numeral_append (point : Bool) (t : Text) :
    (numeral point t).1 ++ (numeral point t).2 = t := by
  induction t generalizing point with
  | nil => rfl
  | cons c r ih =>
    rw [numeral]
    split
    · simp [ih point]
    · split
      · simp [ih true]
      · rfl

/-- The value of a numeral, which ignores commas. -/
def numeralValue (n : Text) : Result Float :=
  match Literal.decimal? (n.filter (· != ',')) with
  | some d => .ok d.toFloat
  | none => .error (.lex (.invalidNumber n))

def continuesWord (c : Char) : Bool := isLetter c || isAsciiDigit c || c == '_'

/-- The token that begins with `c`, none for a character that is skipped, and what follows it. -/
def next (c : Char) (r : Text) : Result (Option Token × Text) :=
  if isBlank c then .ok (none, r)
  else if isAsciiDigit c || c == '.' then
    let n := c :: (numeral (c == '.') r).1
    let rest := (numeral (c == '.') r).2
    (numeralValue n).map fun v =>
      match rest with
      | '%' :: rest => (some (number (v / 100) true (n ++ ['%'])), rest)
      | _ => (some (number v false n), rest)
  else if c == '$' then
    if r.head?.any fun d => isAsciiDigit d || d == '.' then
      (numeralValue (numeral false r).1).map fun v =>
        (some (currency v (c :: (numeral false r).1)), (numeral false r).2)
    else .error (.lex .bareDollar)
  else if c == '\\' then
    let digits := r.takeWhile isAsciiDigit
    if digits.isEmpty then .error (.lex .bareBackslash)
    else match Literal.natural? digits with
      | some n => .ok (some (reference n (c :: digits)), r.dropWhile isAsciiDigit)
      | none => .error (.fault .badValue)
  else match Symbol.ofChar? c with
    | some s => .ok (some (symbol s), r)
    | none =>
      if c == '<' || c == '>' then
        match r with
        | '=' :: r => .ok (some (symbol (if c == '>' then .greaterEq else .lessEq)), r)
        | r => .ok (some (symbol (if c == '>' then .greater else .less)), r)
      else if c == '=' then
        match r with
        | '=' :: r => .ok (some (symbol .equal), r)
        | r => .ok (none, r)
      else if c == '!' then
        match r with
        | '=' :: r => .ok (some (symbol .notEqual), r)
        | _ => .error (.lex .bareBang)
      else if isLetter c then
        .ok (some (word (lower (c :: r.takeWhile continuesWord))), r.dropWhile continuesWord)
      else .error (.lex (.unexpected c))

theorem length_numeral_le (point : Bool) (t : Text) : (numeral point t).2.length ≤ t.length := by
  have h := congrArg List.length (numeral_append point t)
  rw [List.length_append] at h
  omega

theorem length_next_le {c : Char} {r : Text} {p : Option Token × Text} (h : next c r = .ok p) :
    p.2.length ≤ r.length := by
  have hd (q : Char → Bool) : (r.dropWhile q).length ≤ r.length :=
    (List.dropWhile_suffix q).length_le
  unfold next at h
  split at h
  · cases h; simp
  split at h
  · have hn := length_numeral_le (c == '.') r
    dsimp only at h
    cases hv : numeralValue (c :: (numeral (c == '.') r).1) with
    | error e => rw [hv] at h; cases h
    | ok v =>
      rw [hv] at h
      simp only [Except.map, Except.ok.injEq] at h
      subst h
      split
      · next hr => rw [hr] at hn; simp at hn ⊢; omega
      · exact hn
  split at h
  · split at h
    · have hn := length_numeral_le false r
      cases hv : numeralValue (numeral false r).1 with
      | error e => rw [hv] at h; cases h
      | ok v =>
        rw [hv] at h
        simp only [Except.map, Except.ok.injEq] at h
        subst h
        exact hn
    · cases h
  split at h
  · dsimp only at h
    split at h
    · cases h
    · split at h
      · cases h; exact hd _
      · cases h
  split at h
  · cases h; simp
  split at h
  · split at h <;> (cases h; simp)
  split at h
  · split at h <;> (cases h; simp)
  split at h
  · split at h
    · cases h; simp
    · cases h
  split at h
  · cases h; exact hd _
  · cases h

/-! ## All tokens -/

/-- The tokens of a normalized text. -/
def scanFrom (t : Text) : Result (List Token) :=
  match t with
  | [] => .ok []
  | c :: r =>
    match _h : next c r with
    | .error e => .error e
    | .ok (token, rest) => (scanFrom rest).map fun ts => token.toList ++ ts
termination_by t.length
decreasing_by
  have := length_next_le _h
  simp at this ⊢
  omega

/-- The tokens of an expression. -/
def scan (t : Text) : Result (List Token) := scanFrom (normalize (trim t))

end Token

end Worksheet
