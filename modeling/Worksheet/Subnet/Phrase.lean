import Worksheet.Phrase
import Worksheet.Subnet.Split

/-!
# Phrases about subnets

Splits, host counts, masks, facts about a block, membership and the next block. The rule for a
wildcard mask stands before the one for a mask, which would take its phrases too.
-/

namespace Worksheet

open Text Pattern

namespace Subnet

/-- The longest list of blocks that an answer shows. -/
def maxListed : Int := 1024

/-! ## Patterns -/

def address : Pattern :=
  let octet := times isDigit 1 3
  octet ++ char '.' ++ octet ++ char '.' ++ octet ++ char '.' ++ octet

def block : Pattern := address ++ char '/' ++ times isDigit 1 2

def splitVerb : Pattern :=
  words ["split", "divide"] ++ blanks ++ group 1 block ++ blanks ++ words ["to", "into"] ++ blanks

def splitCountPatterns : List Pattern := [
  splitVerb ++ group 2 digits ++ blanks ++ plural "subnet",
  atStart ++ group 1 block ++ blanks? ++ char '/' ++ blanks? ++ group 2 digits ++ blanks ++
    plural "subnet" ++ atEnd]

def splitHostsPatterns : List Pattern := [
  splitVerb ++ plural "subnet" ++ blanks ++ words ["with", "of"] ++ blanks ++ group 2 digits ++
    blanks ++ plural "host",
  atStart ++ group 1 block ++ blanks? ++ char '/' ++ blanks? ++ group 2 digits ++ blanks ++
    plural "host" ++ atEnd]

def howMany : Pattern := opt (word "how" ++ blanks ++ word "many" ++ blanks)

def hostsOfBlock : Pattern :=
  howMany ++ plural "host" ++ blanks ++ opt (words ["in", "for", "count"]) ++ blanks? ++
    group 1 block

def hostsOfPrefix : Pattern :=
  howMany ++ plural "host" ++ blanks ++ opt (words ["in", "for"]) ++ blanks? ++ char '/' ++
    group 1 (times isDigit 1 2) ++ atWordEdge

/-- A word and the blanks behind it, both of which may be missing. -/
def optWord (w : String) : Pattern := opt (word w ++ blanks)

def info : Pattern := optWord "subnet" ++ word "info" ++ blanks ++ optWord "for" ++ group 1 block

def prefixLength : Pattern := char? '/' ++ group 1 (times isDigit 1 2) ++ atWordEdge

def wildcard : Pattern :=
  word "wildcard" ++ blanks ++ optWord "mask" ++ optWord "for" ++ prefixLength

def mask : Pattern :=
  optWord "subnet" ++ opt (word "net") ++ word "mask" ++ blanks ++ optWord "for" ++ prefixLength

def prefixOfMask : Pattern := words ["prefix", "cidr"] ++ blanks ++ optWord "for" ++ group 1 address

def membership : Pattern :=
  word "is" ++ blanks ++ group 1 address ++ blanks ++ word "in" ++ blanks ++ group 2 block

def nextBlock : Pattern :=
  word "next" ++ blanks ++ word "subnet" ++ blanks ++ optWord "after" ++ group 1 block

def factOf (w : String) : Pattern :=
  word w ++ blanks ++ opt (words ["for", "of", "address"]) ++ blanks? ++ group 1 block

def bareBlock : Pattern := atStart ++ group 1 block ++ atEnd

/-! ## Rules -/

open PhraseRule (onMatch)

def hostsText (n : Nat) : Text := ofNat n ++ " hosts".toList

def splitByCount : PhraseRule := onMatch splitCountPatterns fun m => do
  let count ← m.natural 2
  let bs ← (← Block.read (m.group 1)).splitCount count maxListed
  return listBlocks bs (count : Int)

def splitByHosts : PhraseRule := onMatch splitHostsPatterns fun m => do
  let hosts ← m.natural 2
  let b ← Block.read (m.group 1)
  return listBlocks (← b.splitHosts hosts maxListed) ((← b.hostSplitCount hosts : Nat) : Int)

def hostCount : PhraseRule := onMatch [hostsOfBlock] fun m => do
  return hostsText (← Block.read (m.group 1)).hostCount

def hostCountOfPrefix : PhraseRule := onMatch [hostsOfPrefix] fun m => do
  return hostsText (Block.hostsOfLength (← checkLength (← m.natural 1)))

def blockInfo : PhraseRule := onMatch [info] fun m => do
  return (← Block.read (m.group 1)).describe

def wildcardMask : PhraseRule := onMatch [wildcard] fun m => do
  return (hostmask (← checkLength (← m.natural 1))).text

def maskOfPrefix : PhraseRule := onMatch [mask] fun m => do
  return (netmask (← checkLength (← m.natural 1))).text

def prefixFromMask : PhraseRule := onMatch [prefixOfMask] fun m => do
  return '/' :: ofNat (← lengthOfMask (m.group 1))

def inRange : PhraseRule := onMatch [membership] fun m => do
  let a ← Address.read (m.group 1)
  let b ← Block.read (m.group 2)
  return if b.contains a then "yes".toList else "no".toList

def next : PhraseRule := onMatch [nextBlock] fun m => do
  return (← (← Block.read (m.group 1)).next).text

def broadcastAddress : PhraseRule := onMatch [factOf "broadcast"] fun m => do
  return (← Block.read (m.group 1)).broadcast.text

def networkAddress : PhraseRule := onMatch [factOf "network"] fun m => do
  return (← Block.read (m.group 1)).text

def bare : PhraseRule := fun expr _ =>
  match bareBlock.matchStart expr with
  | some m => do return some (← Block.read (m.group 1)).describe
  | none => .ok none

def rules : List PhraseRule := [
  splitByCount, splitByHosts, hostCount, hostCountOfPrefix, blockInfo, wildcardMask, maskOfPrefix,
  prefixFromMask, inRange, next, broadcastAddress, networkAddress, bare]

/-! ## Which expressions are tried -/

def keywords : List String := ["subnet", "cidr", "netmask", "wildcard", "broadcast", "split"]

/-- Whether a word occurs in a text. -/
def mentions (w : String) (t : Text) : Bool := occursIn w.toList t

/-- Whether an expression may be about subnets. -/
def claims (expr : Text) : Bool :=
  let low := lower expr
  block.occurs expr || keywords.any (mentions · low) ||
    (mentions "hosts" low && (address.occurs expr || (char '/' ++ digits).occurs expr)) ||
    (mentions "mask" low && low.contains '/') ||
    ((mentions "prefix for" low || mentions "cidr for" low) && address.occurs expr)

end Subnet

end Worksheet
