import Worksheet.Subnet.Block

/-!
# Splitting a block

A block is split into blocks of one length, from its base upwards: either into a wanted number of
them, with the fewest further bits that number so many, or into the smallest ones that each take a
wanted number of hosts.
-/

namespace Worksheet

open Text

/-- The fewest bits that number `n` things. -/
def bitsFor (n : Nat) : Nat := if n ≤ 1 then 0 else (n - 1).log2 + 1

/-- `n` things have their numbers in `bitsFor n` bits. -/
theorem le_two_pow_bitsFor (n : Nat) : n ≤ Nat.pow 2 (bitsFor n) := by
  rw [Nat.pow_eq]
  unfold bitsFor
  split
  · omega
  · have := @Nat.lt_log2_self (n - 1)
    omega

namespace Block

/-- The first `count` blocks of a given length from the base of a block. -/
def parts (b : Block) (length count : Nat) : List Block :=
  (List.range count).filterMap fun i => at? (b.base + i * blockSize length) length

/-- A count cut to a limit; below zero nothing is left. -/
def limited (count : Nat) (limit : Option Int) : Nat :=
  match limit with
  | none => count
  | some l => (min (count : Int) l).toNat

/-- Splits into a wanted number of blocks, of which `limit` are listed. -/
def splitCount (b : Block) (count : Int) (limit : Option Int) : Result (List Block) :=
  if count < 1 then .error (.phrase .noSubnets)
  else
    let length := b.length + bitsFor count.toNat
    if 32 < length then .error (.phrase (.tooManySubnets b.length count))
    else .ok (b.parts length (limited count.toNat limit))

/-- The number of leading bits of the smallest block, of four addresses or more, for a number of
hosts. -/
def lengthForHosts (b : Block) (hosts : Int) : Result Nat :=
  if hosts + 2 ≤ 0 then .error (.fault .badValue)
  else
    let bits := max 2 (bitsFor (hosts + 2).toNat)
    if bits ≤ 32 ∧ b.length ≤ 32 - bits then .ok (32 - bits)
    else .error (.phrase (.tooManyHosts hosts b.length))

/-- How many blocks a split by hosts gives. -/
def hostSplitCount (b : Block) (hosts : Int) : Result Nat :=
  (b.lengthForHosts hosts).map fun length => Nat.pow 2 (length - b.length)

/-- Splits into the smallest blocks that take a number of hosts each, of which `limit` are
listed. -/
def splitHosts (b : Block) (hosts : Int) (limit : Option Int) : Result (List Block) :=
  (b.lengthForHosts hosts).map fun length =>
    b.parts length (limited (Nat.pow 2 (length - b.length)) limit)

end Block

/-- A numbered list of blocks. A list shorter than `total` ends with the number of those left
out. -/
def listBlocks (bs : List Block) (total : Option Int) : Text :=
  if bs.isEmpty then "no subnets".toList
  else
    let entries := (bs.zipIdx 1).map fun (b, i) =>
      ofNat i ++ ": ".toList ++ b.text ++ " (".toList ++ ofNat b.hostCount ++ " hosts)".toList
    let rest := match total with
      | some n =>
        if (bs.length : Int) < n then
          ["... ".toList ++ ofInt (n - bs.length) ++ " more".toList]
        else []
      | none => []
    unlines (entries ++ rest)

end Worksheet
