import Worksheet.Text.Quoted

/-!
# Failures

A line that cannot be computed has a cause: its text holds no tokens (`LexError`), its tokens no
expression (`ParseError`), or a phrase was recognised and has no answer (`PhraseError`). Each cause
has one message. A `Fault` is a failure that no line accounts for, such as a date past the year 9999
in the middle of a count; it ends the whole computation.
-/

namespace Worksheet

/-- Why a text has no tokens. -/
inductive LexError where
  | invalidNumber (literal : Text)
  | bareDollar
  | bareBackslash
  | bareBang
  | unexpected (c : Char)
  deriving DecidableEq, Repr

/-- Why tokens have no value. -/
inductive ParseError where
  | noResolver (line : Nat)
  | badReference (line : Nat)
  | unresolved (line : Nat)
  | expected (symbol : Text)
  | endOfExpression
  | unexpected (token : Text)
  | unknownFunction (name : Text)
  | tooDeep
  deriving DecidableEq, Repr

/-- What an operator of a formula meets: a number of one of three kinds, or a product of units. -/
inductive OperandKind where
  | whole
  | real
  | imaginary
  | product
  deriving DecidableEq, Repr

/-- Why a quantity cannot be converted. -/
inductive ConversionError where
  | undefinedUnit (name : Text)
  | dimensions (source sourceDimension target targetDimension : Text)
  /-- A reading and a difference of readings. -/
  | readingAndDifference (source target : Text)
  | scaled
  | prefixedScale
  | badNumeral (numeral : Text)
  | operands (symbol : Text) (left right : OperandKind)
  | imaginaryExponent
  | noUnaryOperator (symbol : Text)
  /-- A parenthesis that closes nothing, and its column in a line. -/
  | unopenedParenthesis (column : Nat) (line : Text)
  | unclosedParenthesis
  /-- A level of nothing or less. -/
  | noLevel
  | imaginaryLevel
  deriving DecidableEq, Repr

/-- Why a recognised phrase has no answer. -/
inductive PhraseError where
  | invalidNumber (text : Text)
  | divisionByZero
  | zeroWays
  | invalidBlock (text : Text)
  | invalidAddress (text : Text)
  | invalidPrefix (length : Int)
  | brokenMask (text : Text)
  | noNextSubnet (network : Text)
  | noSubnets
  | tooManySubnets (length : Nat) (count : Int)
  | tooManyHosts (hosts : Int) (length : Nat)
  | notDateTime (line : Nat)
  | unknownZone (name : Text)
  | dateOutOfRange
  | durationOutOfRange
  | invalidDate (text : Text)
  | conversion (source target : Text) (cause : ConversionError)
  | notUnderstood (expr : Text)
  deriving DecidableEq, Repr

/-- Why a line has no result. -/
inductive LineError where
  | lex (e : LexError)
  | parse (e : ParseError)
  | phrase (e : PhraseError)
  deriving DecidableEq, Repr

/-- A failure that is not the line's. -/
inductive Fault where
  /-- A value of the right kind that the operation does not take. -/
  | badValue
  /-- A result too large for its type. -/
  | tooLarge
  /-- Values of kinds that do not go together. -/
  | mismatch
  /-- A division by zero inside a formula for units. -/
  | divisionByZero
  /-- A formula for units in which an operand is missing. -/
  | missingOperand
  /-- A formula for units with a bracket too many or too few. -/
  | unbalanced
  /-- A unit to the power zero. -/
  | zeroPower
  /-- A difference of levels, which has no unit. -/
  | levelDifference
  /-- A text that is nested too deeply. -/
  | tooDeep
  deriving DecidableEq, Repr

inductive Failure where
  | line (e : LineError)
  | fault (f : Fault)
  deriving DecidableEq, Repr

/-- What an evaluation gives. -/
abbrev Result := Except Failure

namespace Failure

abbrev lex (e : LexError) : Failure := .line (.lex e)
abbrev parse (e : ParseError) : Failure := .line (.parse e)
abbrev phrase (e : PhraseError) : Failure := .line (.phrase e)

end Failure

/-! ## Messages -/

open Text (ofNat ofInt quoted)

def LexError.message : LexError → Text
  | invalidNumber literal => "invalid number ".toList ++ quoted literal
  | bareDollar => "'$' must be followed by an amount".toList
  | bareBackslash => "'\\' must be followed by a line number".toList
  | bareBang => "unexpected '!'".toList
  | unexpected c => "unexpected character ".toList ++ quoted [c]

def ParseError.message : ParseError → Text
  | noResolver n => "no resolver for reference \\".toList ++ ofNat n
  | badReference n => "bad reference \\".toList ++ ofNat n
  | unresolved n => "unresolved reference \\".toList ++ ofNat n
  | expected s => "expected ".toList ++ quoted s
  | endOfExpression => "unexpected end of expression".toList
  | unexpected t => "unexpected token ".toList ++ quoted t
  | unknownFunction name => "unknown function ".toList ++ quoted name
  | tooDeep => "expression nested too deeply".toList

def OperandKind.name : OperandKind → Text
  | whole => "int".toList
  | real => "float".toList
  | imaginary => "complex".toList
  | product => "ParserHelper".toList

/-- An operator as messages show it. -/
def ConversionError.operatorText (symbol : Text) : Text :=
  if symbol == "**".toList then "** or pow()".toList else symbol

/-- Where messages send the reader for scales whose zero is not absolute. -/
def ConversionError.scaleGuide : Text :=
  Text.join ['/'] <| ["https:", "", "pint.readthedocs.io", "en", "stable", "user",
    "nonmult.html"].map String.toList

def ConversionError.message : ConversionError → Text
  | undefinedUnit name => '\'' :: name ++ "' is not defined in the unit registry".toList
  | dimensions s ds t dt =>
    "Cannot convert from '".toList ++ s ++ "' (".toList ++ ds ++ ") to '".toList ++ t ++
      "' (".toList ++ dt ++ ")".toList
  | readingAndDifference s t =>
    "Cannot convert from '".toList ++ s ++ "' to '".toList ++ t ++ "'".toList
  | scaled => "Unit expression cannot have a scaling factor.".toList
  | prefixedScale =>
    "Ambiguous operation with offset unit ".toList ++
      "(Prefixing a unit requires multiplying the unit.). See ".toList ++ scaleGuide ++
      " for guidance.".toList
  | badNumeral t => "could not convert string to float: ".toList ++ quoted t
  | operands symbol left right =>
    "unsupported operand type(s) for ".toList ++ operatorText symbol ++ ": '".toList ++ left.name ++
      "' and '".toList ++ right.name ++ "'".toList
  | imaginaryExponent =>
    "float() argument must be a string or a real number, not 'complex'".toList
  | noUnaryOperator symbol => "missing unary operator '".toList ++ symbol ++ "'".toList
  | unopenedParenthesis column line =>
    "unopened parentheses in tokens: TokenInfo(type=54 (OP), string=')', start=(1, ".toList ++
      ofNat column ++ "), end=(1, ".toList ++ ofNat (column + 1) ++ "), line=".toList ++
      quoted line ++ ")".toList
  | unclosedParenthesis => "unclosed parentheses in tokens".toList
  | noLevel => "math domain error".toList
  | imaginaryLevel => "must be real number, not complex".toList

def PhraseError.message : PhraseError → Text
  | invalidNumber t => "invalid number: ".toList ++ t
  | divisionByZero => "division by zero".toList
  | zeroWays => "cannot split zero ways".toList
  | invalidBlock t => "invalid CIDR: ".toList ++ t
  | invalidAddress t => "invalid IP: ".toList ++ t
  | invalidPrefix n => "invalid prefix: /".toList ++ ofInt n
  | brokenMask t => "non-contiguous mask: ".toList ++ t
  | noNextSubnet t => "no subnet after ".toList ++ t
  | noSubnets => "subnet count must be at least 1".toList
  | tooManySubnets p n =>
    "cannot split /".toList ++ ofNat p ++ " into ".toList ++ ofInt n ++ " subnets".toList
  | tooManyHosts h p =>
    "cannot fit ".toList ++ ofInt h ++ " hosts in /".toList ++ ofNat p ++ " network".toList
  | notDateTime n => '\\' :: ofNat n ++ " is not a date/time line".toList
  | unknownZone name => "unknown timezone or city: ".toList ++ name
  | dateOutOfRange => "date out of range".toList
  | durationOutOfRange => "duration out of range".toList
  | invalidDate t => "invalid date: ".toList ++ t
  | conversion s t e =>
    "cannot convert ".toList ++ s ++ " to ".toList ++ t ++ ": ".toList ++ e.message
  | notUnderstood e => "no evaluator understood ".toList ++ quoted e

def LineError.message : LineError → Text
  | lex e => e.message
  | parse e => e.message
  | phrase e => e.message

end Worksheet
