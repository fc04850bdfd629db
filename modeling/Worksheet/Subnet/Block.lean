import Worksheet.Subnet.Address

/-!
# Blocks of addresses

A block holds the addresses that share their leading bits with its base. `Block.read` takes an
address, and behind a slash the number of leading bits or a mask that shows them; the bits behind
those are dropped.
-/

namespace Worksheet

open Text

/-- The addresses from `base` that share `length` leading bits. -/
structure Block where
  base : Nat
  length : Nat
  length_le : length ≤ 32
  aligned : base % blockSize length = 0
  base_lt : base < 4294967296
  deriving Repr

namespace Block

def size (b : Block) : Nat := blockSize b.length

/-- The block of a given length from a base. -/
def at? (base length : Nat) : Option Block :=
  if h : length ≤ 32 ∧ base % blockSize length = 0 ∧ base < 4294967296 then
    some ⟨base, length, h.1, h.2.1, h.2.2⟩
  else none

/-- The block of a given length that holds an address. -/
def containing (a : Address) (length : Nat) (h : length ≤ 32) : Block where
  base := a.val / blockSize length * blockSize length
  length := length
  length_le := h
  aligned := Nat.mul_mod_left ..
  base_lt := Nat.lt_of_le_of_lt (Nat.div_mul_le_self ..) a.isLt

/-- Whether an address lies in a block. -/
def contains (b : Block) (a : Address) : Bool := b.base ≤ a.val && a.val < b.base + b.size

/-! ## Facts about a block -/

def network (b : Block) : Address := ⟨b.base, b.base_lt⟩

/-- The last address. -/
def broadcast (b : Block) : Address := .ofNat (b.base + b.size - 1)

/-- The first address that a host may have; in blocks of one or two addresses no address is kept
back. -/
def firstHost (b : Block) : Address := if 31 ≤ b.length then b.network else .ofNat (b.base + 1)

def lastHost (b : Block) : Address :=
  if 31 ≤ b.length then b.broadcast else .ofNat (b.base + b.size - 2)

/-- How many hosts a block of a given length takes. -/
def hostsOfLength (length : Nat) : Nat :=
  if 31 ≤ length then blockSize length else blockSize length - 2

def hostCount (b : Block) : Nat := hostsOfLength b.length

def text (b : Block) : Text := b.network.text ++ '/' :: ofNat b.length

/-- The facts about a block, one a line. -/
def describe (b : Block) : Text := unlines [
  "Network: ".toList ++ b.text,
  "Mask: ".toList ++ (netmask b.length).text,
  "Hosts: ".toList ++ ofNat b.hostCount,
  "Range: ".toList ++ b.firstHost.text ++ " - ".toList ++ b.lastHost.text,
  "Broadcast: ".toList ++ b.broadcast.text]

/-! ## Reading -/

/-- A number of leading bits, or a mask of ones in front or behind. -/
def length? (t : Text) : Option Nat :=
  if !t.isEmpty && t.all isAsciiDigit then (Literal.natural? t).filter (· ≤ 32)
  else do
    let a ← Address.read? t
    match maskLength? a with
    | some n => some n
    | none => maskLength? (.ofNat (4294967295 - a.val))

/-- The block that a text writes. -/
def read? (t : Text) : Option Block := do
  let (address, length) ← match split '/' t with
    | [a] => some (a, 32)
    | [a, l] => (length? l).map fun n => (a, n)
    | _ => none
  let a ← Address.read? address
  if h : length ≤ 32 then some (containing a length h) else none

/-- The block that a text writes, or what is wrong with it. -/
def read (t : Text) : Result Block :=
  match read? t with
  | some b => .ok b
  | none => .error (.phrase (.invalidBlock t))

/-! ## The next block -/

/-- The block of the same length behind this one. -/
def next (b : Block) : Result Block :=
  match at? (b.base + b.size) b.length with
  | some b => .ok b
  | none => .error (.phrase (.noNextSubnet b.text))

end Block

/-! ## Lengths given as numbers -/

/-- A number of leading bits. -/
def checkLength (length : Int) : Result Nat :=
  if 0 ≤ length ∧ length ≤ 32 then .ok length.toNat else .error (.phrase (.invalidPrefix length))

/-- The number of leading ones of a mask. -/
def lengthOfMask (t : Text) : Result Nat := do
  let a ← Address.read t
  match maskLength? a with
  | some n => return n
  | none => .error (.phrase (.brokenMask t))

end Worksheet
