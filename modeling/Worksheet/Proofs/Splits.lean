import Worksheet.Proofs.Tilings
import Worksheet.Subnet.Phrase

/-!
# Splitting a block

**Theorems (`Block.splitCount_tiles`, `Block.splitHosts_tiles`).** A block is split into as many
blocks as wanted, of the shortest length of which so many fit into it; and it is split into the
smallest blocks that take as many hosts as wanted, which tile it. Either is refused exactly if no
length will do.

Both ask for the fewest bits that number so many things, and `n` things are numbered in `k` bits if
and only if `n ≤ 2 ^ k` (`bitsFor_le_iff`). The rest is about tilings.
-/

namespace Worksheet

open Text Result
open Reference (notMem_ofNat)

theorem bitsFor_le_iff {n k : Nat} : bitsFor n ≤ k ↔ n ≤ 2 ^ k := by
  have hpos : 0 < 2 ^ k := Nat.two_pow_pos k
  unfold bitsFor
  by_cases hn : n ≤ 1
  · rw [if_pos hn]
    omega
  · rw [if_neg hn, Nat.succ_le_iff, Nat.log2_lt (by omega)]
    omega

/-! ## Lists of blocks -/

/-- The line of a block in a numbered list. -/
def numberedLine (s : Block) (i : Nat) : Text :=
  ofNat i ++ ": ".toList ++ s.text ++ " (".toList ++ ofNat s.hostCount ++ " hosts)".toList

/-- The line behind a list from which blocks are left out. -/
def restLine (n : Nat) : Text := "... ".toList ++ ofNat n ++ " more".toList

theorem newline_notMem_numberedLine (s : Block) (i : Nat) : '\n' ∉ numberedLine s i := by
  have hdigits (n : Nat) : '\n' ∉ ofNat n := notMem_ofNat rfl n
  have haddress : '\n' ∉ s.network.text := Address.notMem_text rfl (by decide) s.network
  simp [numberedLine, Block.text, hdigits, haddress]

/-- A list has a line for each block, and one more if it is short of its number. -/
theorem lines_listBlocks {bs : List Block} (hne : bs ≠ []) (total : Nat) :
    lines (listBlocks bs (some (total : Int))) =
      (bs.zipIdx 1).map (fun (s, i) => numberedLine s i) ++
        if bs.length < total then [restLine (total - bs.length)] else [] := by
  have hrest : (if (bs.length : Int) < total then
      ["... ".toList ++ ofInt (total - bs.length) ++ " more".toList] else []) =
      if bs.length < total then [restLine (total - bs.length)] else [] := by
    by_cases h : bs.length < total
    · have hsub : ((total : Int) - bs.length) = ((total - bs.length : Nat) : Int) := by omega
      rw [if_pos h, if_pos (by omega), hsub]
      rfl
    · rw [if_neg h, if_neg (by omega)]
  rw [listBlocks, if_neg (by simpa using hne)]
  dsimp only
  rw [hrest]
  refine Reference.split_join ?_ fun p hp => ?_
  · simpa using fun h => absurd h hne
  · rcases List.mem_append.1 hp with hp | hp
    · obtain ⟨⟨s, i⟩, -, rfl⟩ := List.mem_map.1 hp
      exact newline_notMem_numberedLine s i
    · split at hp
      · rw [List.mem_singleton.1 hp]
        have hdigits : '\n' ∉ ofNat (total - bs.length) := notMem_ofNat rfl _
        simp [restLine, hdigits]
      · cases hp

/-- A rule whose pattern matches answers with what it makes of the match. -/
theorem PhraseRule.onMatch_of_match {ps : List Pattern} {f : Match → Result Text} {m : Match}
    {expr low : Text} (h : (ps.findSome? fun p => p.search low) = some m) :
    onMatch ps f expr low = (f m).map some := by
  rw [onMatch, h]

namespace Block

variable {count hosts length : Nat}

/-! ## Splitting into a number of blocks -/

/-- Blocks of some length, as many as wanted, fit into a block. -/
def Fits (b : Block) (count length : Nat) : Prop :=
  b.length ≤ length ∧ length ≤ 32 ∧ count ≤ 2 ^ (length - b.length)

instance (b : Block) : Decidable (b.Fits count length) :=
  inferInstanceAs (Decidable (_ ∧ _ ∧ _))

theorem fits_iff {b : Block} :
    b.Fits count length ↔ b.length + bitsFor count ≤ length ∧ length ≤ 32 := by
  have hbits := bitsFor_le_iff (n := count) (k := length - b.length)
  unfold Fits
  rw [← hbits]
  omega

/-- The shortest length of which enough blocks fit in, if there is one. -/
theorem isLeast_fits {b : Block} (h : b.length + bitsFor count ≤ 32) :
    IsLeast {n | b.Fits count n} (b.length + bitsFor count) :=
  ⟨fits_iff.2 ⟨Nat.le_refl _, h⟩, fun _ hn => (fits_iff.1 hn).1⟩

theorem exists_isLeast_fits {b : Block} (h : ∃ n, b.Fits count n) :
    ∃ length, IsLeast {n | b.Fits count n} length := by
  obtain ⟨n, hn⟩ := h
  have hle := fits_iff.1 hn
  exact ⟨_, isLeast_fits (Nat.le_trans hle.1 hle.2)⟩

theorem splitCount_eq (b : Block) (hcount : 1 ≤ count) (limit : Option Int) :
    b.splitCount count limit =
      if 32 < b.length + bitsFor count then .error (.phrase (.tooManySubnets b.length count))
      else .ok (b.parts (b.length + bitsFor count) (limited count limit)) := by
  rw [splitCount, if_neg (by omega)]
  rfl

theorem splitCount_error_iff (b : Block) (hcount : 1 ≤ count) (limit : Option Int) :
    (∃ e, b.splitCount count limit = .error (.phrase e)) ↔ ∀ length, ¬b.Fits count length := by
  rw [splitCount_eq b hcount]
  by_cases h : 32 < b.length + bitsFor count
  · have hnone : ∀ length, ¬b.Fits count length := by
      intro length hfits
      have := fits_iff.1 hfits
      omega
    simp [h, hnone]
  · have hfits := (isLeast_fits (Nat.not_lt.1 h)).1
    simp only [h, if_false, reduceCtorEq, exists_false, false_iff]
    exact fun hnone => hnone _ hfits

variable {b : Block}

theorem splitCount_of_isLeast (hcount : 1 ≤ count) (h : IsLeast {n | b.Fits count n} length)
    (limit : Option Int) :
    b.splitCount count limit = .ok (b.parts length (limited count limit)) := by
  have hle := fits_iff.1 h.1
  have hbits := Nat.le_trans hle.1 hle.2
  obtain rfl := h.unique (isLeast_fits hbits)
  rw [splitCount_eq b hcount, if_neg (Nat.not_lt.2 hbits)]

/-- A limit leaves the first of the blocks. -/
theorem splitCount_limit (hcount : 1 ≤ count) (h : IsLeast {n | b.Fits count n} length)
    (limit : Nat) : b.splitCount count (some (limit : Int)) =
      .ok ((b.parts length count).take (min count limit)) := by
  obtain ⟨hle, h32, hroom⟩ := h.1
  have hlimited : limited count (some (limit : Int)) = min count limit := by
    show (min (count : Int) limit).toNat = _
    omega
  rw [splitCount_of_isLeast hcount h, hlimited, parts_min b hle h32 hroom]

/-- The answer to a phrase lists the first 1024 blocks. -/
theorem lines_splitByCount (hcount : 1 ≤ count) (h : IsLeast {n | b.Fits count n} length)
    {expr low : Text} {m : Match}
    (hm : (Subnet.splitCountPatterns.findSome? fun p => p.search low) = some m)
    (hread : read (m.group 1) = .ok b) (hnumber : m.natural 2 = .ok count) :
    ∃ t, Subnet.splitByCount expr low = .ok (some t) ∧
      lines t = (((b.parts length count).take (min count 1024)).zipIdx 1).map
          (fun (s, i) => numberedLine s i) ++
        if 1024 < count then [restLine (count - 1024)] else [] := by
  obtain ⟨hle, h32, hroom⟩ := h.1
  have hlen := (tiles_parts b hle h32 hroom).2
  have hlimit := splitCount_limit hcount h 1024
  -- What the list holds does not matter here, only how long it is.
  generalize hbs : (b.parts length count).take (min count 1024) = bs at hlimit
  have hlength : bs.length = min count 1024 := by
    rw [← hbs, List.length_take, hlen]
    omega
  have hanswer :
      Subnet.splitByCount expr low = .ok (some (listBlocks bs (some (count : Int)))) := by
    rw [Subnet.splitByCount, PhraseRule.onMatch_of_match hm, hnumber, ok_bind, hread, ok_bind]
    change Except.map some (b.splitCount count (some ((1024 : Nat) : Int)) >>= _) = _
    rw [hlimit]
    rfl
  have hne : bs ≠ [] := by
    rw [← List.length_pos_iff, hlength]
    omega
  refine ⟨_, hanswer, (lines_listBlocks hne count).trans ?_⟩
  rw [hlength]
  by_cases hmany : 1024 < count
  · rw [Nat.min_eq_right (Nat.le_of_lt hmany)]
  · rw [Nat.min_eq_left (Nat.not_lt.1 hmany), if_neg (Nat.lt_irrefl count), if_neg hmany]

theorem le_hostsOfLength_iff (h : length ≤ 30) :
    hosts ≤ hostsOfLength length ↔ bitsFor (hosts + 2) ≤ 32 - length := by
  have hfour := four_le_blockSize h
  rw [bitsFor_le_iff, hostsOfLength, if_neg (by omega)]
  change _ ↔ hosts + 2 ≤ blockSize length
  omega

theorem lengthForHosts_eq (b : Block) (hosts : Nat) :
    b.lengthForHosts hosts =
      if max 2 (bitsFor (hosts + 2)) ≤ 32 - b.length then
        .ok (32 - max 2 (bitsFor (hosts + 2)))
      else .error (.phrase (.tooManyHosts hosts b.length)) := by
  have hle := b.length_le
  have hbits : ((hosts : Int) + 2).toNat = hosts + 2 := by omega
  rw [lengthForHosts, if_neg (by omega), hbits]
  exact if_congr (by omega) rfl rfl

theorem hostBits_le_iff (b : Block) (hosts : Nat) :
    max 2 (bitsFor (hosts + 2)) ≤ 32 - b.length ↔
      b.length ≤ 30 ∧ (hosts : Int) ≤ 2 ^ (32 - b.length) - 2 := by
  have hcast : ((2 ^ (32 - b.length) : Nat) : Int) = 2 ^ (32 - b.length) := by norm_cast
  rw [Nat.max_le, bitsFor_le_iff, ← hcast]
  omega

/-- The length is the greatest of which a block takes the hosts. -/
theorem lengthForHosts_spec (b : Block) (hlength : b.length ≤ 30)
    (hhosts : (hosts : Int) ≤ 2 ^ (32 - b.length) - 2) :
    ∃ length, b.lengthForHosts hosts = .ok length ∧ b.length ≤ length ∧ length ≤ 30 ∧
      hosts ≤ hostsOfLength length ∧ ∀ n, length < n → n ≤ 30 → hostsOfLength n < hosts := by
  have hle := (hostBits_le_iff b hosts).2 ⟨hlength, hhosts⟩
  refine ⟨32 - max 2 (bitsFor (hosts + 2)), ?_, by omega, by omega, ?_, fun n hn h30 => ?_⟩
  · rw [lengthForHosts_eq, if_pos hle]
  · rw [le_hostsOfLength_iff (by omega)]
    omega
  · rw [← Nat.not_le, le_hostsOfLength_iff h30]
    omega

theorem splitHosts_error_iff (b : Block) (hosts : Nat) (limit : Option Int) :
    (∃ e, b.splitHosts hosts limit = .error (.phrase e)) ↔
      30 < b.length ∨ (2 : Int) ^ (32 - b.length) - 2 < hosts := by
  have hiff := hostBits_le_iff b hosts
  rw [splitHosts, lengthForHosts_eq]
  by_cases h : max 2 (bitsFor (hosts + 2)) ≤ 32 - b.length
  · have hnot : ¬(30 < b.length ∨ (2 : Int) ^ (32 - b.length) - 2 < hosts) := by
      have := hiff.1 h
      omega
    rw [if_pos h]
    exact ⟨nofun, fun hor => absurd hor hnot⟩
  · have hor : 30 < b.length ∨ (2 : Int) ^ (32 - b.length) - 2 < hosts := by
      by_contra hnot
      exact h (hiff.2 (by omega))
    rw [if_neg h]
    exact ⟨fun _ => hor, fun _ => ⟨_, rfl⟩⟩

theorem not_contains_both {s t : Block} (h : s.broadcast.val < t.network.val) (x : Address) :
    ¬(s.contains x = true ∧ t.contains x = true) := by
  rw [contains_iff, contains_iff]
  omega

/-- **Splitting by hosts.** It is refused exactly if the block has fewer than four addresses or more
hosts are wanted than it takes. Else the blocks are of one length, the greatest of which a block
takes the hosts; they tile the block, so each of its addresses, and no other, is in one of them and
in no two; and their number is told by itself. -/
theorem splitHosts_tiles (b : Block) (hosts : Nat) :
    ((∃ e, b.splitHosts hosts none = .error (.phrase e)) ↔
      30 < b.length ∨ (2 : Int) ^ (32 - b.length) - 2 < hosts) ∧
    (b.length ≤ 30 → (hosts : Int) ≤ 2 ^ (32 - b.length) - 2 → ∃ length bs,
      b.splitHosts hosts none = .ok bs ∧ length ≤ 30 ∧
      (∀ s ∈ bs, s.length = length ∧ hosts ≤ s.hostCount) ∧
      (∀ n, length < n → n ≤ 30 → hostsOfLength n < hosts) ∧
      Tiles length b.network.val bs (b.broadcast.val + 1) ∧
      (∀ x, b.contains x = true ↔ ∃ s ∈ bs, s.contains x = true) ∧
      (bs.Pairwise fun s t => ∀ x, ¬(s.contains x = true ∧ t.contains x = true)) ∧
      b.hostSplitCount hosts = .ok bs.length) := by
  refine ⟨splitHosts_error_iff b hosts none, fun hlength hhosts => ?_⟩
  obtain ⟨length, heq, hle, h30, htakes, hlongest⟩ := lengthForHosts_spec b hlength hhosts
  have h32 : length ≤ 32 := by omega
  have htiles := tiles_parts_all b hle h32
  have hsplit : b.splitHosts hosts none = .ok (b.parts length (2 ^ (length - b.length))) := by
    rw [splitHosts, heq]
    rfl
  have hcount : b.hostSplitCount hosts =
      .ok (b.parts length (2 ^ (length - b.length))).length := by
    rw [hostSplitCount, heq, (tiles_parts b hle h32 (Nat.le_refl _)).2]
    rfl
  refine ⟨length, _, hsplit, h30, fun s hs => ?each, hlongest, htiles, fun x => ?cover, ?disjoint,
    hcount⟩
  case each =>
    have hs := htiles.length_eq s hs
    exact ⟨hs, by rwa [hostCount, hs]⟩
  case cover =>
    rw [htiles.exists_contains_iff, contains_iff, Nat.lt_succ_iff]
  case disjoint => exact htiles.pairwise.imp fun h => not_contains_both h

/-- Seven hosts and the two addresses kept back take sixteen addresses. -/
theorem splitHosts_tiles_seven : ∃ b length bs, read "192.168.0.0/27".toList = .ok b ∧
    b.splitHosts 7 none = .ok bs ∧ bs.length = 2 ∧
    Tiles length b.network.val bs (b.broadcast.val + 1) ∧ b.hostSplitCount 7 = .ok bs.length := by
  have hread := read_text (Address.ofNat 3232235520) (show 27 ≤ 32 by decide)
  obtain ⟨length, bs, hsplit, -, -, -, htiles, -, -, hcount⟩ :=
    (splitHosts_tiles (containing (Address.ofNat 3232235520) 27 (by decide)) 7).2 (by decide)
      (by decide)
  have htwo : (containing (Address.ofNat 3232235520) 27 (by decide)).hostSplitCount 7 = .ok 2 := by
    decide +kernel
  have hlen : bs.length = 2 := Except.ok.inj (hcount.symm.trans htwo)
  exact ⟨_, length, bs, hread, hsplit, hlen, htiles, hcount⟩

end Block

end Worksheet
