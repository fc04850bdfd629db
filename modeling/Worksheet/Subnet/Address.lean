import Worksheet.Failure
import Worksheet.Number.Literal

/-!
# Addresses

An address is a whole number below `2 ^ 32`, written as four octets. An octet has one to three ASCII
digits and no leading zero.
-/

namespace Worksheet

open Text

structure Address where
  val : Nat
  isLt : val < 4294967296
  deriving DecidableEq, Repr

namespace Address

/-- The address with the given number, reduced to 32 bits. -/
def ofNat (n : Nat) : Address := ⟨n % 4294967296, Nat.mod_lt n (by decide)⟩

/-- Octet `i`, counted from the left. -/
def octet (a : Address) (i : Nat) : Nat := a.val >>> (8 * (3 - i)) % 256

def text (a : Address) : Text := join ['.'] ([0, 1, 2, 3].map fun i => Text.ofNat (a.octet i))

def octet? (t : Text) : Option Nat :=
  if t.isEmpty || 3 < t.length || !t.all isAsciiDigit ||
      (t.head? == some '0' && t.length != 1) then none
  else
    let n := Literal.digitsValue t
    if n ≤ 255 then some n else none

/-- The address that a text writes. -/
def read? (t : Text) : Option Address := do
  let octets ← (split '.' t).mapM octet?
  if octets.length = 4 then some (ofNat (octets.foldl (fun n o => n * 256 + o) 0)) else none

/-- The address that a text writes, or what is wrong with it. -/
def read (t : Text) : Result Address :=
  match read? t with
  | some a => .ok a
  | none => .error (.phrase (.invalidAddress t))

end Address

/-- The number of addresses that share `length` leading bits. -/
def blockSize (length : Nat) : Nat := Nat.pow 2 (32 - length)

/-- The mask of `length` leading ones. -/
def netmask (length : Nat) : Address := .ofNat (4294967296 - blockSize length)

/-- The mask of the bits behind `length`. -/
def hostmask (length : Nat) : Address := .ofNat (blockSize length - 1)

/-- The number of leading ones of a mask that has no other ones. -/
def maskLength? (a : Address) : Option Nat :=
  (List.range 33).find? fun length => a = netmask length

end Worksheet
