import Worksheet.Proofs.Blocks
import Worksheet.Subnet.Split

/-!
# Blocks one behind the other

Blocks of one length tile a range of addresses if the first begins where the range does, each of the
others begins behind the last address of the one in front of it, and the range ends behind the last
(`Tiles`). So they are in order and have no address in common (`pairwise`), the addresses in them
are those of the range (`exists_contains_iff`), and where a tiling begins and how many blocks it has
says which they are (`Tiles.unique`).

**Theorem (`tiles_parts`).** The parts of a block are such blocks, as many as wanted, from the base
of the block on, as long as it has room for them.
-/

namespace Worksheet

open Text Result

namespace Block

/-- The blocks, all of one length, follow each other from an address up to another one. -/
inductive Tiles (length : Nat) : Nat → List Block → Nat → Prop
  | nil (start : Nat) : Tiles length start [] start
  | cons {b : Block} {bs : List Block} {start stop : Nat} (hstart : b.network.val = start)
      (hlength : b.length = length) (rest : Tiles length (b.broadcast.val + 1) bs stop) :
      Tiles length start (b :: bs) stop

variable {length start stop count : Nat} {b s : Block} {bs cs : List Block} {x : Address}

theorem val_broadcast_succ (b : Block) : b.broadcast.val + 1 = b.network.val + b.size := by
  have hpos := b.size_pos
  rw [val_broadcast, val_network]
  omega

theorem network_le_broadcast (b : Block) : b.network.val ≤ b.broadcast.val := by
  have hsucc := b.val_broadcast_succ
  have hpos := b.size_pos
  omega

namespace Tiles

theorem length_eq (h : Tiles length start bs stop) : ∀ s ∈ bs, s.length = length := by
  induction h with
  | nil => nofun
  | cons _ hlength _ ih => exact List.forall_mem_cons.2 ⟨hlength, ih⟩

theorem stop_eq (h : Tiles length start bs stop) :
    stop = start + bs.length * blockSize length := by
  induction h with
  | nil start => simp
  | @cons b bs start stop hstart hlength _ ih =>
    have hsize : b.size = blockSize length := by rw [size, hlength]
    rw [ih, val_broadcast_succ, hstart, hsize, List.length_cons, Nat.succ_mul]
    omega

/-- The blocks lie in the range. -/
theorem bounds (h : Tiles length start bs stop) :
    ∀ s ∈ bs, start ≤ s.network.val ∧ s.broadcast.val < stop := by
  induction h with
  | nil => nofun
  | @cons b bs start stop hstart _ rest ih =>
    have hle := b.network_le_broadcast
    have hstop := rest.stop_eq
    refine List.forall_mem_cons.2 ⟨⟨Nat.le_of_eq hstart.symm, by omega⟩, fun s hs => ?_⟩
    have hs := ih s hs
    omega

/-- The blocks are in order, and no two have an address in common. -/
theorem pairwise (h : Tiles length start bs stop) :
    bs.Pairwise fun s t => s.broadcast.val < t.network.val := by
  induction h with
  | nil => exact .nil
  | cons _ _ rest ih => exact .cons (fun t ht => (rest.bounds t ht).1) ih

/-- The addresses in the blocks are those of the range. -/
theorem exists_contains_iff (h : Tiles length start bs stop) :
    (∃ s ∈ bs, s.contains x = true) ↔ start ≤ x.val ∧ x.val < stop := by
  induction h with
  | nil start =>
    simp only [List.not_mem_nil, false_and, exists_false, false_iff]
    omega
  | @cons b bs start stop hstart _ rest ih =>
    have hle := b.network_le_broadcast
    have hstop := rest.stop_eq
    rw [List.exists_mem_cons_iff, ih, contains_iff]
    omega

theorem unique (h : Tiles length start bs stop) {stop' : Nat} (h' : Tiles length start cs stop')
    (hcount : bs.length = cs.length) : bs = cs := by
  induction h generalizing cs with
  | nil => exact (List.length_eq_zero_iff.1 hcount.symm).symm
  | cons hstart hlength rest ih =>
    cases h' with
    | nil => cases hcount
    | cons hstart' hlength' rest' =>
      obtain rfl := eq_of_base_length (hstart.trans hstart'.symm) (hlength.trans hlength'.symm)
      rw [ih rest' (Nat.succ.inj hcount)]

/-- The first blocks of a tiling tile a range of their own. -/
theorem take (h : Tiles length start bs stop) (n : Nat) :
    ∃ stop', Tiles length start (bs.take n) stop' := by
  induction h generalizing n with
  | nil start => exact ⟨start, by simpa using .nil start⟩
  | cons hstart hlength _ ih =>
    cases n with
    | zero => exact ⟨_, .nil _⟩
    | succ n =>
      obtain ⟨stop', hrest⟩ := ih n
      exact ⟨stop', .cons hstart hlength hrest⟩

/-- Each block begins behind the one in front of it. -/
theorem network_succ (h : Tiles length start bs stop) {i : Nat} {t : Block}
    (hs : bs[i]? = some s) (ht : bs[i + 1]? = some t) :
    t.network.val = s.broadcast.val + 1 := by
  induction h generalizing i with
  | nil => cases hs
  | cons _ _ rest ih =>
    cases i with
    | zero =>
      cases hs
      cases rest with
      | nil => cases ht
      | cons hstart =>
        cases ht
        exact hstart
    | succ i => exact ih hs ht

end Tiles

/-! ## The parts of a block -/

/-- The block from an aligned base. -/
theorem at?_eq_some {base : Nat} (hlength : length ≤ 32) (haligned : base % blockSize length = 0)
    (hbase : base < 4294967296) : at? base length = some ⟨base, length, hlength, haligned, hbase⟩ :=
  dif_pos ⟨hlength, haligned, hbase⟩

/-- A row of blocks is the first of them and the row behind it. -/
theorem filterMap_range_succ (hfirst : at? start length = some b) (count : Nat) :
    ((List.range (count + 1)).filterMap fun i => at? (start + i * blockSize length) length) =
      b :: (List.range count).filterMap
        fun i => at? (start + blockSize length + i * blockSize length) length := by
  have hshift : (fun i => at? (start + (i + 1) * blockSize length) length) =
      fun i => at? (start + blockSize length + i * blockSize length) length := by
    funext i
    congr 1
    rw [Nat.succ_mul]
    omega
  rw [List.range_succ_eq_map, List.filterMap_cons, Nat.zero_mul, Nat.add_zero, hfirst,
    List.filterMap_map]
  exact congrArg (b :: List.filterMap · _) hshift

/-- Blocks of one length, each taken at its number times their size, follow each other. -/
theorem tiles_filterMap (hlength : length ≤ 32) (haligned : start % blockSize length = 0)
    (hroom : start + count * blockSize length ≤ 4294967296) :
    let bs := (List.range count).filterMap fun i => at? (start + i * blockSize length) length
    Tiles length start bs (start + count * blockSize length) ∧ bs.length = count := by
  -- The start is generalised, as the row behind the first block begins where that one ends.
  induction count generalizing start with
  | zero =>
    have hstop : start + 0 * blockSize length = start := by simp
    rw [hstop]
    exact ⟨.nil start, rfl⟩
  | succ count ih =>
    have hpos := blockSize_pos length
    have hstop : start + (count + 1) * blockSize length =
        start + blockSize length + count * blockSize length := by
      rw [Nat.succ_mul]
      omega
    rw [hstop] at hroom ⊢
    obtain ⟨htiles, hcount⟩ := ih (by rw [Nat.add_mod_right, haligned]) hroom
    let b : Block := ⟨start, length, hlength, haligned, by omega⟩
    rw [filterMap_range_succ (show at? start length = some b from at?_eq_some _ _ _)]
    refine ⟨.cons rfl rfl ?_, congrArg Nat.succ hcount⟩
    rw [val_broadcast_succ]
    exact htiles

/-- The parts of a block tile it from its base on. -/
theorem tiles_parts (b : Block) (hle : b.length ≤ length) (hlength : length ≤ 32)
    (hcount : count ≤ 2 ^ (length - b.length)) :
    Tiles length b.network.val (b.parts length count) (b.base + count * blockSize length) ∧
      (b.parts length count).length = count := by
  have hsize := blockSize_eq_mul hle hlength
  have hroom : count * blockSize length ≤ b.size := by
    rw [size, hsize]
    exact Nat.mul_le_mul_right _ hcount
  have haligned : b.base % blockSize length = 0 := by
    have hdvd : blockSize length ∣ blockSize b.length := ⟨_, hsize.trans (Nat.mul_comm _ _)⟩
    exact Nat.mod_eq_zero_of_dvd (Nat.dvd_trans hdvd (Nat.dvd_of_mod_eq_zero b.aligned))
  have hend : b.base + count * blockSize length ≤ 4294967296 := by
    have := b.base_add_size_le
    omega
  exact tiles_filterMap hlength haligned hend

/-- All parts of one length tile the whole block. -/
theorem tiles_parts_all (b : Block) (hle : b.length ≤ length) (hlength : length ≤ 32) :
    Tiles length b.network.val (b.parts length (2 ^ (length - b.length)))
      (b.broadcast.val + 1) := by
  have hall := (tiles_parts b hle hlength (Nat.le_refl _)).1
  rwa [← blockSize_eq_mul hle hlength, ← val_network, ← size, ← val_broadcast_succ] at hall

/-- Fewer parts are the first of more parts. -/
theorem parts_min (b : Block) (hle : b.length ≤ length) (hlength : length ≤ 32)
    (hcount : count ≤ 2 ^ (length - b.length)) (n : Nat) :
    b.parts length (min count n) = (b.parts length count).take (min count n) := by
  obtain ⟨hmany, hlen⟩ := tiles_parts b hle hlength hcount
  obtain ⟨hfew, hlen'⟩ := tiles_parts b hle hlength (Nat.le_trans (Nat.min_le_left count n) hcount)
  obtain ⟨stop, htake⟩ := hmany.take (min count n)
  -- Both lists tile from the base of the block on, so it is enough to count their blocks.
  refine hfew.unique htake ?_
  rw [hlen', List.length_take, hlen]
  omega

/-- The parts of a block lie in it. -/
theorem parts_bounds (b : Block) (hle : b.length ≤ length) (hlength : length ≤ 32)
    (hcount : count ≤ 2 ^ (length - b.length)) :
    ∀ s ∈ b.parts length count,
      b.network.val ≤ s.network.val ∧ s.broadcast.val ≤ b.broadcast.val := by
  have hfirst := parts_min b hle hlength (Nat.le_refl _) count
  rw [Nat.min_eq_right hcount] at hfirst
  intro s hs
  rw [hfirst] at hs
  have hbounds := (tiles_parts_all b hle hlength).bounds s (List.mem_of_mem_take hs)
  omega

end Block

end Worksheet
