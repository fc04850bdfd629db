import Worksheet.Proofs.Renumbering
import Worksheet.Subnet.Block

/-!
# Addresses and masks

An address is read back from its text (`Address.read_text`), so different addresses have different
texts. The mask of `length` leading ones counts `blockSize length` less than there are addresses, so
it is the complement of the mask of the other bits (`netmask_complement`), it tells the length
(`maskLength?_netmask`), and to take the bits behind it off an address is to round the address down
to a multiple of the size (`and_netmask`).
-/

namespace Worksheet

open Text
open Reference (notMem_ofNat mem_join)

namespace Address

theorem eq_of_val_eq {a b : Address} (h : a.val = b.val) : a = b := by
  cases a
  cases b
  cases h
  rfl

theorem val_ofNat {n : Nat} (h : n < 4294967296) : (ofNat n).val = n := Nat.mod_eq_of_lt h

/-! ## Texts of addresses -/

theorem octet_lt (a : Address) (i : Nat) : a.octet i < 256 := Nat.mod_lt _ (by decide)

/-- An address is made of its octets. -/
theorem foldl_octet (a : Address) :
    ([0, 1, 2, 3].map a.octet).foldl (fun n o => n * 256 + o) 0 = a.val := by
  have hlt := a.isLt
  simp only [List.map_cons, List.map_nil, List.foldl_cons, List.foldl_nil, octet,
    Nat.shiftRight_eq_div_pow]
  omega

theorem octet?_ofNat : ∀ n < 256, octet? (Text.ofNat n) = some n := by decide +kernel

theorem read?_text (a : Address) : read? a.text = some a := by
  have hsplit : split '.' a.text = [0, 1, 2, 3].map fun i => Text.ofNat (a.octet i) := by
    refine Reference.split_join (by simp) fun p hp => ?_
    obtain ⟨i, -, rfl⟩ := List.mem_map.1 hp
    exact notMem_ofNat rfl _
  have hoctets : (split '.' a.text).mapM octet? = some ([0, 1, 2, 3].map a.octet) := by
    rw [hsplit]
    simp [List.mapM_cons, octet?_ofNat _ (octet_lt a _)]
  rw [read?, hoctets, Option.bind_eq_bind, Option.bind_some, if_pos (by simp), foldl_octet]
  exact congrArg some (eq_of_val_eq (val_ofNat a.isLt))

theorem read_text (a : Address) : read a.text = .ok a := by rw [read, read?_text]

theorem notMem_text {c : Char} (hc : isAsciiDigit c = false) (hpoint : c ≠ '.') (a : Address) :
    c ∉ a.text := by
  intro h
  rcases mem_join h with h | ⟨p, hp, h⟩
  · exact hpoint (List.mem_singleton.1 h)
  · obtain ⟨i, -, rfl⟩ := List.mem_map.1 hp
    exact notMem_ofNat hc _ h

theorem text_inj {a b : Address} : a.text = b.text ↔ a = b := by
  refine ⟨fun h => Option.some.inj ?_, fun h => h ▸ rfl⟩
  rw [← read?_text a, h, read?_text]

end Address

/-! ## Sizes of blocks -/

theorem blockSize_pos (length : Nat) : 0 < blockSize length := Nat.two_pow_pos _

theorem blockSize_dvd (length : Nat) : blockSize length ∣ 4294967296 :=
  Nat.pow_dvd_pow 2 (Nat.sub_le 32 length)

theorem blockSize_le (length : Nat) : blockSize length ≤ 4294967296 :=
  Nat.le_of_dvd (by decide) (blockSize_dvd length)

/-- Longer blocks are parts of shorter ones. -/
theorem blockSize_eq_mul {short long : Nat} (h : short ≤ long) (hlong : long ≤ 32) :
    blockSize short = 2 ^ (long - short) * blockSize long := by
  show 2 ^ (32 - short) = 2 ^ (long - short) * 2 ^ (32 - long)
  rw [← Nat.pow_add]
  congr 1
  omega

theorem four_le_blockSize {length : Nat} (h : length ≤ 30) : 4 ≤ blockSize length := by
  show 2 ^ 2 ≤ 2 ^ (32 - length)
  exact Nat.pow_le_pow_right (by decide) (by omega)

/-! ## Masks -/

theorem val_netmask (length : Nat) : (netmask length).val = 4294967296 - blockSize length :=
  Address.val_ofNat (Nat.sub_lt (by decide) (blockSize_pos length))

theorem val_hostmask (length : Nat) : (hostmask length).val = blockSize length - 1 :=
  Address.val_ofNat (Nat.lt_of_lt_of_le (Nat.sub_lt (blockSize_pos length) Nat.one_pos)
    (blockSize_le length))

/-- Each bit is in one of the two masks. -/
theorem netmask_complement (length : Nat) :
    BitVec.ofNat 32 (netmask length).val = ~~~BitVec.ofNat 32 (hostmask length).val := by
  have hpos := blockSize_pos length
  have hle := blockSize_le length
  apply BitVec.eq_of_toNat_eq
  rw [BitVec.toNat_not, BitVec.toNat_ofNat, BitVec.toNat_ofNat, val_netmask, val_hostmask]
  omega

theorem netmask_inj {m n : Nat} (hm : m ≤ 32) (hn : n ≤ 32) : netmask m = netmask n ↔ m = n := by
  refine ⟨fun h => ?_, fun h => h ▸ rfl⟩
  have hval := congrArg Address.val h
  have hm' := blockSize_le m
  have hn' := blockSize_le n
  rw [val_netmask, val_netmask] at hval
  have hsize : 2 ^ (32 - m) = 2 ^ (32 - n) := by
    show blockSize m = blockSize n
    omega
  have := Nat.pow_right_injective (le_refl 2) hsize
  omega

/-- The length of a mask is read off it. -/
theorem maskLength?_netmask {length : Nat} (h : length ≤ 32) :
    maskLength? (netmask length) = some length := by
  rw [maskLength?, List.find?_range_eq_some]
  refine ⟨by simp, List.mem_range.2 (Nat.lt_succ_of_le h), fun n hn => ?_⟩
  have hne : netmask length ≠ netmask n := fun he => by
    have := (netmask_inj h (by omega)).1 he
    omega
  simp [hne]

/-- A mask takes the bits behind its ones off an address. -/
theorem and_netmask (a : Address) (length : Nat) :
    a.val &&& (netmask length).val = a.val / blockSize length * blockSize length := by
  have hmask : (netmask length).val = (2 ^ (min 32 length) - 1) * 2 ^ (32 - length) := by
    rw [val_netmask, Nat.sub_mul, ← Nat.pow_add, Nat.one_mul]
    congr 1
    rw [show min 32 length + (32 - length) = 32 by omega]
  rw [hmask]
  -- Bit by bit: behind the ones both sides have zeros, and above 32 bits the address has none.
  apply Nat.eq_of_testBit_eq
  intro i
  show _ = (a.val / 2 ^ (32 - length) * 2 ^ (32 - length)).testBit i
  rw [Nat.testBit_and, Nat.testBit_mul_two_pow, Nat.testBit_mul_two_pow, Nat.testBit_div_two_pow,
    Nat.testBit_two_pow_sub_one]
  by_cases hlow : 32 - length ≤ i
  · rw [Nat.sub_add_cancel hlow]
    by_cases hhigh : i < 32
    · simp [hlow]
      omega
    · have hlt : a.val < 2 ^ i := calc
        a.val < 2 ^ 32 := a.isLt
        _ ≤ 2 ^ i := Nat.pow_le_pow_right (by decide) (Nat.not_lt.1 hhigh)
      simp [Nat.testBit_lt_two_pow hlt]
  · simp [hlow]

end Worksheet
