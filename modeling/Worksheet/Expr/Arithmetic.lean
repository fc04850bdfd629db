import Worksheet.Expr.Token

/-!
# Arithmetic on doubles

The operations of an expression. Division and comparison are those of the doubles. A power that
overflows, or has a pole at zero, is positive infinity. A function outside its domain gives no
number. A percentage on the right of `+` or `-` scales the left operand.
-/

namespace Worksheet

/-- A number, and whether it is still a bare percentage. -/
structure Value where
  number : Float
  percent : Bool := false

def divide (a b : Float) : Float := a / b

/-- A finite power that leaves the doubles is positive infinity, whatever the sign of the base. All
other powers are those of `pow`. -/
def powerBy (pow : Float → Float → Float) (base exponent : Float) : Float :=
  let r := pow base exponent
  if r.isInf && base.isFinite && exponent.isFinite then infinity else r

/-- The power by the one of the machine. -/
def power : Float → Float → Float := powerBy Float.pow

/-- The functions of one argument, angles in radians. -/
inductive MathFunction where
  | abs | acos | asin | atan | cos | ln | log | sin | sqrt | tan
  deriving DecidableEq, Repr

namespace MathFunction

def name : MathFunction → String
  | abs => "abs"
  | acos => "acos"
  | asin => "asin"
  | atan => "atan"
  | cos => "cos"
  | ln => "ln"
  | log => "log"
  | sin => "sin"
  | sqrt => "sqrt"
  | tan => "tan"

/-- All functions in the order of their names. -/
def all : List MathFunction := [abs, acos, asin, atan, cos, ln, log, sin, sqrt, tan]

def ofName? (name : Text) : Option MathFunction := all.find? fun f => f.name.toList == name

/-- The value of a function; logarithms have none at zero and below. -/
def apply (f : MathFunction) (x : Float) : Float :=
  match f with
  | abs => x.abs
  | acos => x.acos
  | asin => x.asin
  | atan => x.atan
  | cos => x.cos
  | ln => if x <= 0 then notANumber else x.log
  | log => if x <= 0 then notANumber else x.log10
  | sin => x.sin
  | sqrt => x.sqrt
  | tan => x.tan

end MathFunction

/-- The value of the function called `name`. -/
def applyFunction (name : Text) (x : Float) : Except ParseError Float :=
  match MathFunction.ofName? name with
  | some f => .ok (f.apply x)
  | none => .error (.unknownFunction name)

/-- The double that stands for a truth value. -/
def ofTruth (b : Bool) : Float := if b then 1 else 0

namespace Symbol

/-- How tightly an operator binds: comparison, sum, product, power. None for parentheses. -/
def precedence? : Symbol → Option Nat
  | greater | less | greaterEq | lessEq | equal | notEqual => some 5
  | plus | minus => some 10
  | star | slash => some 20
  | caret => some 30
  | opening | closing => none

/-- The value of an operator between two operands. -/
def combine (s : Symbol) (left right : Value) : Float :=
  let a := left.number
  let b := right.number
  match s with
  | plus => if right.percent then a * (1 + b) else a + b
  | minus => if right.percent then a * (1 - b) else a - b
  | star => a * b
  | slash => divide a b
  | caret => power a b
  | greater => ofTruth (a > b)
  | less => ofTruth (a < b)
  | greaterEq => ofTruth (a >= b)
  | lessEq => ofTruth (a <= b)
  | equal => ofTruth (a == b)
  | notEqual => ofTruth (a != b)
  | opening | closing => a

end Symbol

end Worksheet
