import Worksheet.Proofs.Addresses
import Worksheet.Proofs.Result

/-!
# Facts about a block

**Theorem (`Block.facts_agree`).** All that is told of a block of addresses fits together: its first
and last addresses, the addresses for hosts and their number, its masks, its text, and what lies in
it.

A block begins at a multiple of its size (`Block.aligned`), and sizes divide the number of
addresses, so no block runs past the last address (`base_add_size_le`). An address lies in a block
if and only if it is rounded down to the base of the block (`network_containing`).
-/

namespace Worksheet

open Text Result
open Reference (notMem_ofNat)

namespace Block

variable {b c : Block} {x : Address}

theorem eq_of_base_length (hbase : b.base = c.base) (hlength : b.length = c.length) : b = c := by
  cases b
  cases c
  cases hbase
  cases hlength
  rfl

theorem size_pos (b : Block) : 0 < b.size := blockSize_pos b.length

/-! ## The addresses of a block -/

/-- Behind what is left of an aligned block there is room for the whole block. -/
theorem add_le_of_aligned {base size total : Nat} (hbase : base % size = 0) (htotal : size ∣ total)
    (h : base < total) : base + size ≤ total := by
  obtain ⟨k, rfl⟩ := Nat.dvd_of_mod_eq_zero hbase
  obtain ⟨n, rfl⟩ := htotal
  have hk : k + 1 ≤ n := Nat.lt_of_mul_lt_mul_left h
  calc size * k + size = size * (k + 1) := (Nat.mul_succ size k).symm
    _ ≤ size * n := Nat.mul_le_mul_left size hk

theorem base_add_size_le (b : Block) : b.base + b.size ≤ 4294967296 :=
  add_le_of_aligned b.aligned (blockSize_dvd b.length) b.base_lt

theorem val_network (b : Block) : b.network.val = b.base := rfl

theorem val_broadcast (b : Block) : b.broadcast.val = b.base + b.size - 1 := by
  have hle := b.base_add_size_le
  have hpos := b.size_pos
  exact Address.val_ofNat (by omega)

theorem contains_iff : b.contains x = true ↔ b.network.val ≤ x.val ∧ x.val ≤ b.broadcast.val := by
  have hpos := b.size_pos
  rw [contains, Bool.and_eq_true, decide_eq_true_eq, decide_eq_true_eq, val_network, val_broadcast]
  omega

/-- A number is rounded down to the multiple of a size below which it lies by less than the size. -/
theorem div_mul_eq_iff {n base size : Nat} (hsize : 0 < size) (hbase : base % size = 0) :
    n / size * size = base ↔ base ≤ n ∧ n < base + size := by
  obtain ⟨k, rfl⟩ := Nat.dvd_of_mod_eq_zero hbase
  rw [Nat.mul_comm size k, Nat.mul_left_inj (Nat.ne_of_gt hsize), Nat.div_eq_iff hsize]
  omega

/-- An address lies in a block if it is rounded down to the base of the block. -/
theorem network_containing (x : Address) :
    (containing x b.length b.length_le).network = b.network ↔ b.contains x = true := by
  have hround := div_mul_eq_iff (n := x.val) b.size_pos b.aligned
  rw [contains, Bool.and_eq_true, decide_eq_true_eq, decide_eq_true_eq, ← hround]
  exact ⟨fun h => congrArg Address.val h, fun h => Address.eq_of_val_eq h⟩

/-- A block is the one that holds its first address. -/
theorem containing_network (b : Block) : containing b.network b.length b.length_le = b := by
  have hself : b.contains b.network = true := by
    have hpos := b.size_pos
    rw [contains_iff, val_network, val_broadcast]
    omega
  exact eq_of_base_length (congrArg Address.val (network_containing _ |>.2 hself)) rfl

/-! ## Hosts -/

/-- The hosts of a block lie in it, and they are counted. -/
theorem hosts_spec (b : Block) :
    b.network.val ≤ b.firstHost.val ∧ b.firstHost.val ≤ b.lastHost.val ∧
      b.lastHost.val ≤ b.broadcast.val ∧
      (b.hostCount : Int) = b.lastHost.val - b.firstHost.val + 1 := by
  have hle := b.base_add_size_le
  have hpos := b.size_pos
  have hlast := b.val_broadcast
  have hcount : b.hostCount = if 31 ≤ b.length then b.size else b.size - 2 := rfl
  rw [hcount, firstHost, lastHost, val_network]
  by_cases h : 31 ≤ b.length
  · simp only [h, if_true, val_network, hlast]
    omega
  · have hfour : 4 ≤ b.size := four_le_blockSize (by omega)
    have hfirst : (Address.ofNat (b.base + 1)).val = b.base + 1 := Address.val_ofNat (by omega)
    have hhost : (Address.ofNat (b.base + b.size - 2)).val = b.base + b.size - 2 :=
      Address.val_ofNat (by omega)
    simp only [h, if_false, hlast, hfirst, hhost]
    omega

/-! ## Texts of blocks -/

theorem length?_ofNat {n : Nat} (h : n ≤ 32) : length? (ofNat n) = some n := by
  have hdigits : (ofNat n).length ≤ Literal.maxDigits :=
    Nat.le_trans (Reference.length_ofNat_le (k := 2) (by decide) (by omega)) (by decide)
  have hne : (ofNat n).isEmpty = false := by simp [ofNat, Nat.toDigits_ne_nil]
  rw [length?, hne, Reference.ofNat_ascii, Reference.natural?_ofNat hdigits]
  simp [h]

/-- An address with a length behind it is the block of this length that holds it. -/
theorem read_text (a : Address) {length : Nat} (h : length ≤ 32) :
    read (a.text ++ '/' :: ofNat length) = .ok (containing a length h) := by
  have hsplit : split '/' (a.text ++ '/' :: ofNat length) = [a.text, ofNat length] := by
    rw [Reference.split_append_cons (Address.notMem_text rfl (by decide) a),
      Reference.split_of_notMem (notMem_ofNat rfl length)]
  have hread : read? (a.text ++ '/' :: ofNat length) = some (containing a length h) := by
    rw [read?, hsplit]
    simp [length?_ofNat h, Address.read?_text, h]
  rw [read, hread]

theorem read_text_self (b : Block) : read b.text = .ok b := by
  rw [text, read_text b.network b.length_le, containing_network]

/-- The length of a block is read off its mask. -/
theorem lengthOfMask_netmask {length : Nat} (h : length ≤ 32) :
    lengthOfMask (netmask length).text = .ok length := by
  rw [lengthOfMask, Address.read_text, ok_bind, maskLength?_netmask h]
  rfl

/-- **The facts about a block agree.** An address with a length behind it is read as a block. Its
hosts lie between its first and its last address and are as many as is told; its mask and the mask
of the other bits are complements, and the first address is what the mask leaves of the one that was
written; block and length are read back from the text of the block and from the mask. An address
lies in the block if and only if it lies between the first and the last, and if and only if the
block of the same length that holds it begins at the same address. -/
theorem facts_agree (a : Address) {length : Nat} (h : length ≤ 32) :
    let t := a.text ++ '/' :: ofNat length
    ∃ b, read t = .ok b ∧
      (b.network.val ≤ b.firstHost.val ∧ b.firstHost.val ≤ b.lastHost.val ∧
        b.lastHost.val ≤ b.broadcast.val) ∧
      (b.hostCount : Int) = b.lastHost.val - b.firstHost.val + 1 ∧
      b.network.val = a.val &&& (netmask b.length).val ∧
      BitVec.ofNat 32 (netmask b.length).val = ~~~BitVec.ofNat 32 (hostmask length).val ∧
      read b.text = .ok b ∧
      lengthOfMask (netmask b.length).text = .ok length ∧
      ∀ x : Address,
        (do let y ← Address.read x.text; return (← read t).contains y : Result Bool) =
          .ok (decide (b.network.val ≤ x.val ∧ x.val ≤ b.broadcast.val)) ∧
        ∃ c, read (x.text ++ '/' :: ofNat length) = .ok c ∧
          (c.network.text = b.network.text ↔
            b.network.val ≤ x.val ∧ x.val ≤ b.broadcast.val) := by
  intro t
  have hread := read_text a h
  obtain ⟨hfirst, hhosts, hlast, hcount⟩ := hosts_spec (containing a length h)
  refine ⟨containing a length h, hread, ⟨hfirst, hhosts, hlast⟩, hcount,
    (and_netmask a length).symm, netmask_complement length, read_text_self _,
    lengthOfMask_netmask h, fun x => ⟨?_, ?_⟩⟩
  · rw [Address.read_text, ok_bind, hread, ok_bind]
    have hiff := contains_iff (b := containing a length h) (x := x)
    exact congrArg Except.ok (Bool.eq_iff_iff.2 (hiff.trans decide_eq_true_iff.symm))
  · refine ⟨containing x length h, read_text x h, ?_⟩
    rw [Address.text_inj, ← contains_iff]
    exact network_containing (b := containing a length h) x

/-- A block of two addresses, neither of which is kept back. -/
theorem facts_agree_pair :
    31 ≤ 32 ∧ ∃ b, read "10.0.0.7/31".toList = .ok b ∧ b.text = "10.0.0.6/31".toList ∧
      b.broadcast.text = "10.0.0.7".toList ∧ (b.hostCount : Int) = 2 ∧
      b.lastHost.val - b.firstHost.val + 1 = (2 : Int) ∧ read b.text = .ok b ∧
      lengthOfMask (netmask b.length).text = .ok 31 := by
  obtain ⟨b, hread, -, hcount, -, -, hself, hmask, -⟩ :=
    facts_agree (Address.ofNat 167772167) (show 31 ≤ 32 by decide)
  have hb : b = containing (Address.ofNat 167772167) 31 (by decide) :=
    Except.ok.inj (hread.symm.trans (read_text _ _))
  subst hb
  exact ⟨by decide, _, hread, by decide +kernel, by decide +kernel, by decide +kernel, hcount.symm,
    hself, hmask⟩

end Block

end Worksheet
