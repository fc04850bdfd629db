import Worksheet.Proofs.Splits

/-!
# The block behind a block

**Theorem (`Block.next_walks`).** From a block one goes to the block of the same length that begins
behind its last address, unless that is the last address of all. Along the parts of a split one goes
from each part to the one behind it.

Two computations meet here: a part begins at its number times the size of a part, and the next block
begins where the block ends. Both follow from how the parts tile (`Tiles.network_succ`), whatever
the split was made for.
-/

namespace Worksheet

open Text Result

namespace Block

variable {b c : Block} {bs : List Block}

/-! ## The next block -/

theorem at?_base (c : Block) : at? c.base c.length = some c :=
  at?_eq_some c.length_le c.aligned c.base_lt

/-- The next block is the one of the same length that begins behind the last address. -/
theorem next_eq_ok (hlength : c.length = b.length)
    (hnetwork : c.network.val = b.broadcast.val + 1) : b.next = .ok c := by
  have hbase : c.base = b.base + b.size := hnetwork.trans b.val_broadcast_succ
  rw [next, ← hbase, ← hlength, at?_base]

/-- There is a next block if there is a next address. -/
theorem exists_next (h : b.broadcast.val + 1 < 4294967296) :
    ∃ c, b.next = .ok c ∧ c.length = b.length ∧ c.network.val = b.broadcast.val + 1 := by
  have hsucc : b.broadcast.val + 1 = b.base + b.size := b.val_broadcast_succ
  have haligned : (b.base + b.size) % blockSize b.length = 0 := by
    rw [size, Nat.add_mod_right, b.aligned]
  let c : Block := ⟨b.base + b.size, b.length, b.length_le, haligned, by omega⟩
  exact ⟨c, next_eq_ok rfl hsucc.symm, rfl, hsucc.symm⟩

theorem next_error_iff : (∃ e, b.next = .error (.phrase e)) ↔ b.broadcast.val = 4294967295 := by
  have hlt := b.broadcast.isLt
  by_cases h : b.broadcast.val + 1 < 4294967296
  · obtain ⟨c, hnext, -⟩ := exists_next h
    rw [hnext]
    constructor
    · nofun
    · omega
  · have hend : ¬b.base + b.size < 4294967296 := by
      have hsucc : b.broadcast.val + 1 = b.base + b.size := b.val_broadcast_succ
      omega
    have hnone : at? (b.base + b.size) b.length = none := dif_neg fun h => hend h.2.2
    refine ⟨fun _ => by omega, fun _ => ⟨.noNextSubnet b.text, ?_⟩⟩
    rw [next, hnone]

theorem broadcast_text_iff :
    b.broadcast.text = "255.255.255.255".toList ↔ b.broadcast.val = 4294967295 := by
  have hlast : (Address.ofNat 4294967295).text = "255.255.255.255".toList := by decide +kernel
  rw [← hlast, Address.text_inj]
  exact ⟨fun h => congrArg Address.val h, fun h => Address.eq_of_val_eq h⟩

/-! ## Along a split -/

theorem limited_le (count : Nat) (limit : Option Int) : limited count limit ≤ count := by
  cases limit with
  | none => exact Nat.le_refl count
  | some l =>
    show (min (count : Int) l).toNat ≤ count
    omega

theorem tiles_of_splitCount {count : Int} {limit : Option Int}
    (h : b.splitCount count limit = .ok bs) :
    ∃ length stop, Tiles length b.network.val bs stop := by
  by_cases hcount : count < 1
  · rw [splitCount, if_pos hcount] at h
    cases h
  · obtain ⟨n, rfl⟩ := Int.eq_ofNat_of_zero_le (show 0 ≤ count by omega)
    rw [splitCount_eq b (by omega)] at h
    by_cases hlong : 32 < b.length + bitsFor n
    · rw [if_pos hlong] at h
      cases h
    · rw [if_neg hlong] at h
      cases h
      have hroom : limited n limit ≤ 2 ^ (b.length + bitsFor n - b.length) := by
        rw [Nat.add_sub_cancel_left]
        exact Nat.le_trans (limited_le n limit) (le_two_pow_bitsFor n)
      exact ⟨_, _, (tiles_parts b (Nat.le_add_right _ _) (Nat.not_lt.1 hlong) hroom).1⟩

theorem length_le_of_lengthForHosts {hosts : Int} {length : Nat}
    (h : b.lengthForHosts hosts = .ok length) : b.length ≤ length ∧ length ≤ 32 := by
  rw [lengthForHosts] at h
  by_cases hnone : hosts + 2 ≤ 0
  · rw [if_pos hnone] at h
    cases h
  · rw [if_neg hnone] at h
    dsimp only at h
    split at h
    · next hroom =>
      cases h
      omega
    · cases h

theorem tiles_of_splitHosts {hosts : Int} {limit : Option Int}
    (h : b.splitHosts hosts limit = .ok bs) :
    ∃ length stop, Tiles length b.network.val bs stop := by
  obtain ⟨length, hlength, rfl⟩ := map_eq_ok.1 h
  obtain ⟨hle, h32⟩ := length_le_of_lengthForHosts hlength
  exact ⟨length, _, (tiles_parts b hle h32 (limited_le _ limit)).1⟩

/-- In a tiling the next block is the next one. -/
theorem Tiles.next {length start stop : Nat} (h : Tiles length start bs stop) {i : Nat}
    (hb : bs[i]? = some b) (hc : bs[i + 1]? = some c) : b.next = .ok c := by
  have hlength : c.length = b.length := by
    rw [h.length_eq c (List.mem_of_getElem? hc), h.length_eq b (List.mem_of_getElem? hb)]
  exact next_eq_ok hlength (h.network_succ hb hc)

/-- **The block behind a block.** There is none exactly if the block ends with the last address;
else it has the same length, begins behind the last address of the block, and is read back from its
text. Of the parts of any split the next block is the next part, text by text. -/
theorem next_walks (b : Block) :
    ((∃ e, b.next = .error (.phrase e)) ↔ b.broadcast.text = "255.255.255.255".toList) ∧
    (b.broadcast.text ≠ "255.255.255.255".toList → ∃ c, b.next = .ok c ∧ c.length = b.length ∧
      c.network.val = b.broadcast.val + 1 ∧ read c.text = .ok c) ∧
    ∀ bs, ((∃ count limit, b.splitCount count limit = .ok bs) ∨
        ∃ hosts limit, b.splitHosts hosts limit = .ok bs) →
      ∀ i s t, bs[i]? = some s → bs[i + 1]? = some t →
        (do return (← (← read s.text).next).text : Result Text) = .ok t.text := by
  refine ⟨next_error_iff.trans broadcast_text_iff.symm, fun hlast => ?next,
    fun bs hsplit i s t hs ht => ?walk⟩
  case next =>
    have hlt := b.broadcast.isLt
    have hlast := broadcast_text_iff.not.1 hlast
    obtain ⟨c, hnext, hlength, hnetwork⟩ := exists_next (b := b) (by omega)
    exact ⟨c, hnext, hlength, hnetwork, read_text_self c⟩
  case walk =>
    have htiles : ∃ length stop, Tiles length b.network.val bs stop := by
      rcases hsplit with ⟨count, limit, h⟩ | ⟨hosts, limit, h⟩
      · exact tiles_of_splitCount h
      · exact tiles_of_splitHosts h
    obtain ⟨length, stop, htiles⟩ := htiles
    rw [read_text_self, ok_bind, htiles.next hs ht]
    rfl

/-- From the first half of a block to the second, over the end of an octet. -/
theorem next_walks_half : ∃ b bs, read "10.0.254.0/23".toList = .ok b ∧
    b.broadcast.text ≠ "255.255.255.255".toList ∧ b.splitCount 2 none = .ok bs ∧
    bs.map text = ["10.0.254.0/24".toList, "10.0.255.0/24".toList] ∧
    (do return (← (← read "10.0.254.0/24".toList).next).text) = .ok "10.0.255.0/24".toList ∧
    ∃ c, b.next = .ok c ∧ c.network.val = b.broadcast.val + 1 := by
  have hread := read_text (Address.ofNat 167837184) (show 23 ≤ 32 by decide)
  have hlast : (containing (Address.ofNat 167837184) 23 (by decide)).broadcast.text ≠
      "255.255.255.255".toList := by decide +kernel
  obtain ⟨-, hnext, hwalk⟩ := next_walks (containing (Address.ofNat 167837184) 23 (by decide))
  obtain ⟨c, hc, -, hnetwork, -⟩ := hnext hlast
  obtain ⟨bs, hsplit⟩ := exists_eq_ok
    (show ((containing (Address.ofNat 167837184) 23 (by decide)).splitCount 2 none).toOption.isSome
      = true by decide +kernel)
  have htexts : ((containing (Address.ofNat 167837184) 23 (by decide)).splitCount 2 none).map
      (fun bs => bs.map text) = .ok ["10.0.254.0/24".toList, "10.0.255.0/24".toList] := by
    decide +kernel
  rw [hsplit] at htexts
  have htexts := Except.ok.inj htexts
  have hlen : bs.length = 2 := by simpa using congrArg List.length htexts
  obtain ⟨first, second, rfl⟩ := List.length_eq_two.1 hlen
  obtain ⟨hfirst, hrest⟩ := List.cons.inj htexts
  have hsecond := (List.cons.inj hrest).1
  have hstep := hwalk [first, second] (.inl ⟨2, none, hsplit⟩) 0 first second rfl rfl
  rw [hfirst, hsecond] at hstep
  exact ⟨_, _, hread, hlast, hsplit, htexts, hstep, c, hc, hnetwork⟩

end Block

end Worksheet
