import Worksheet.Proofs.Addresses
import Worksheet.Proofs.FirstMatches
import Worksheet.Subnet.Phrase

/-!
# Dotted numbers in a phrase

Four numbers with points between them are what the pattern of an address takes if none has more than
three digits (`Dotted.Fits`), and only then is there a block in the phrase (`Dotted.of_block_part`).
Behind the slash the pattern takes two digits at most, however many there are.

**Theorem (`Block.exists_of_read`).** What is read off such a text is the block of the address and of
the number behind the slash.
-/

namespace Worksheet

open Text Pattern

namespace Pattern

theorem setsApart_isDigit : SetsApart isDigit '0' isDigit := .inl (by decide)

theorem setsApart_isBlank : SetsApart isDigit '0' isBlank := .inr fun _ => not_isBlank_of_isDigit

theorem respects_blanks : blanks.Respects isDigit '0' := setsApart_isBlank

end Pattern

namespace Subnet

/-! ## Dotted numbers -/

/-- Four numbers with points between them. -/
@[ext] structure Dotted where
  first : Text.Run isDigit
  second : Text.Run isDigit
  third : Text.Run isDigit
  fourth : Text.Run isDigit

namespace Dotted

variable {a b : Dotted} {l n p q r u v w : Text}

def text (a : Dotted) : Text :=
  a.first.text ++ ['.'] ++ a.second.text ++ ['.'] ++ a.third.text ++ ['.'] ++ a.fourth.text

/-- No number is longer than an octet may be. -/
def Fits (a : Dotted) : Prop :=
  a.first.text.length ≤ 3 ∧ a.second.text.length ≤ 3 ∧ a.third.text.length ≤ 3 ∧
    a.fourth.text.length ≤ 3

instance (a : Dotted) : Decidable a.Fits := inferInstanceAs (Decidable (_ ∧ _))

theorem mem_text {c : Char} (h : c ∈ a.text) : isDigit c = true ∨ c = '.' := by
  have hrun (r : Text.Run isDigit) (hc : c ∈ r.text) : isDigit c = true :=
    List.all_eq_true.1 r.all c hc
  simp only [text, List.mem_append, List.mem_singleton] at h
  rcases h with (((((h | h) | h) | h) | h) | h) | h
  · exact .inl (hrun _ h)
  · exact .inr h
  · exact .inl (hrun _ h)
  · exact .inr h
  · exact .inl (hrun _ h)
  · exact .inr h
  · exact .inl (hrun _ h)

theorem notMem_text {c : Char} (hc : isDigit c = false) (hpoint : c ≠ '.') (a : Dotted) :
    c ∉ a.text := fun h => by
  rcases mem_text h with h | h
  · rw [hc] at h
    cases h
  · exact hpoint h

theorem keep_text (a : Dotted) : keep isDigit a.text = "...".toList := by
  simp only [text, List.filter_append, keep_of_all a.first.all, keep_of_all a.second.all,
    keep_of_all a.third.all, keep_of_all a.fourth.all]
  decide +kernel

/-- A text ends in one way in dotted numbers. -/
theorem append_text_inj (h : u ++ a.text = v ++ b.text) (hu : u.getLast?.any isDigit = false)
    (hv : v.getLast?.any isDigit = false) : u = v ∧ a = b := by
  have hpoint (x : Text) : (x ++ ['.']).getLast?.any isDigit = false :=
    getLast?_append_any (by simp) (by decide)
  have hlast {x y : Text} {r s : Text.Run isDigit} (h : x ++ r.text = y ++ s.text)
      (hx : x.getLast?.any isDigit = false) (hy : y.getLast?.any isDigit = false) :
      x = y ∧ r = s :=
    (append_inj_of_getLast? h r.all s.all hx hy).imp_right Text.Run.ext
  simp only [text, ← List.append_assoc] at h
  obtain ⟨h, h₄⟩ := hlast h (hpoint _) (hpoint _)
  obtain ⟨h, h₃⟩ := hlast (List.append_cancel_right h) (hpoint _) (hpoint _)
  obtain ⟨h, h₂⟩ := hlast (List.append_cancel_right h) (hpoint _) (hpoint _)
  obtain ⟨h, h₁⟩ := hlast (List.append_cancel_right h) hu hv
  exact ⟨h, Dotted.ext h₁ h₂ h₃ h₄⟩

/-! ## What the patterns take -/

theorem takesFirst_octet (r : Text.Run isDigit) (hlen : r.text.length ≤ 3)
    (hw : w.head?.any isDigit = false) : (times isDigit 1 3).TakesFirst r.text w :=
  .run r.all (List.length_pos_iff.2 r.ne) (by simpa using hlen) (.inl hw)

theorem takesFirst_address (ha : a.Fits) (hw : w.head?.any isDigit = false) :
    address.TakesFirst a.text w := by
  have hpoint {v : Text} : (['.'] ++ v).head?.any isDigit = false :=
    show isDigit '.' = false by decide
  obtain ⟨h₁, h₂, h₃, h₄⟩ := ha
  exact .seq (.seq (.seq (.seq (.seq (.seq
    (takesFirst_octet _ h₁ hpoint) (.char '.'))
    (takesFirst_octet _ h₂ hpoint)) (.char '.'))
    (takesFirst_octet _ h₃ hpoint)) (.char '.'))
    (takesFirst_octet _ h₄ hw)

/-- Of the digits behind the slash, a block has the first two. -/
theorem takesFirst_block (ha : a.Fits) (n : Text.Run isDigit) (hw : w.head?.any isDigit = false) :
    block.TakesFirst (a.text ++ ['/'] ++ n.text.take 2) (n.text.drop 2 ++ w) := by
  have hdigits : (n.text.take 2).all isDigit = true :=
    List.all_eq_true.2 fun c hc => List.all_eq_true.1 n.all c (List.mem_of_mem_take hc)
  have hlen : (n.text.take 2).length = min 2 n.text.length := List.length_take
  have hpos := List.length_pos_iff.2 n.ne
  have hstop : (n.text.drop 2 ++ w).head?.any isDigit = false ∨
      some 2 = some (n.text.take 2).length := by
    rcases Nat.lt_or_ge n.text.length 2 with h | h
    · exact .inl (by rwa [List.drop_eq_nil_of_le (by omega), List.nil_append])
    · exact .inr (congrArg some (by omega))
  have hrun : (times isDigit 1 2).TakesFirst (n.text.take 2) (n.text.drop 2 ++ w) :=
    .run hdigits (by omega) (by simp) hstop
  have hslash {v : Text} : (['/'] ++ v).head?.any isDigit = false :=
    show isDigit '/' = false by decide
  exact .seq (.seq (takesFirst_address ha hslash) (.char '/')) hrun

theorem exists_of_spells_address (h : address.Spells w) : ∃ b : Dotted, b.Fits ∧ w = b.text := by
  obtain ⟨_, w₄, ⟨_, _, ⟨_, w₃, ⟨_, _, ⟨_, w₂, ⟨w₁, _, ⟨d₁, l₁, m₁⟩, ⟨c₁, hc₁, rfl⟩, rfl⟩,
    ⟨d₂, l₂, m₂⟩, rfl⟩, ⟨c₂, hc₂, rfl⟩, rfl⟩, ⟨d₃, l₃, m₃⟩, rfl⟩, ⟨c₃, hc₃, rfl⟩, rfl⟩,
    ⟨d₄, l₄, m₄⟩, rfl⟩ := h
  rw [beq_iff_eq.1 hc₁, beq_iff_eq.1 hc₂, beq_iff_eq.1 hc₃]
  exact ⟨⟨⟨w₁, List.length_pos_iff.1 l₁, d₁⟩, ⟨w₂, List.length_pos_iff.1 l₂, d₂⟩,
    ⟨w₃, List.length_pos_iff.1 l₃, d₃⟩, ⟨w₄, List.length_pos_iff.1 l₄, d₄⟩⟩,
    ⟨m₁ 3 rfl, m₂ 3 rfl, m₃ 3 rfl, m₄ 3 rfl⟩, rfl⟩

theorem exists_of_spells_block (h : block.Spells w) :
    ∃ (b : Dotted) (l : Text), b.Fits ∧ l.all isDigit = true ∧ l.length ≤ 2 ∧
      w = b.text ++ ['/'] ++ l := by
  obtain ⟨_, l, ⟨_, _, ha, ⟨c, hc, rfl⟩, rfl⟩, ⟨hdigits, -, hl⟩, rfl⟩ := h
  obtain ⟨b, hb, rfl⟩ := exists_of_spells_address ha
  rw [beq_iff_eq.1 hc]
  exact ⟨b, l, hb, hdigits, hl 2 rfl, rfl⟩

/-- Where a block is a part of a phrase with one slash, and stands behind no digit, its address is
that of the phrase. -/
theorem of_block_part (hw : block.Spells w)
    (h : u ++ (w ++ r) = v ++ (a.text ++ ['/'] ++ (n ++ q)))
    (hu : u.getLast?.any isDigit = false) (hv : v.getLast?.any isDigit = false)
    (hslash : '/' ∉ v) (hn : '/' ∉ n ++ q) :
    u = v ∧ a.Fits ∧ ∃ l : Text, l.all isDigit = true ∧ l.length ≤ 2 ∧ l ++ r = n ++ q := by
  obtain ⟨b, l, hb, hdigits, hl, rfl⟩ := exists_of_spells_block hw
  have hleft : '/' ∉ v ++ a.text := by
    rw [List.mem_append, not_or]
    exact ⟨hslash, notMem_text (by decide) (by decide) a⟩
  have hcut : (v ++ a.text) ++ '/' :: (n ++ q) = (u ++ b.text) ++ '/' :: (l ++ r) := by
    simpa using h.symm
  obtain ⟨hfront, -, hback⟩ := (List.append_cons_inj_of_notMem hleft hn).1 hcut
  obtain ⟨rfl, rfl⟩ := append_text_inj hfront hv hu
  exact ⟨rfl, hb, l, hdigits, hl, hback.symm⟩

end Dotted

end Subnet

/-! ## What is read -/

namespace Block

variable {a : Text} {b : Block}

/-- An address has four numbers. -/
theorem read?_of_notMem {t : Text} (h : '.' ∉ t) : Address.read? t = none := by
  rw [Address.read?, Reference.split_of_notMem h, List.mapM_cons, List.mapM_nil]
  cases Address.octet? t <;> rfl

/-- A block is read off an address and a number of leading bits. -/
theorem exists_of_read {l : Text} (ha : '/' ∉ a) (hdigits : l.all isDigit = true)
    (h : Block.read (a ++ ['/'] ++ l) = .ok b) : ∃ address,
      ∃ hlength : Literal.digitsValue l ≤ 32, Address.read? a = some address ∧
        b = containing address (Literal.digitsValue l) hlength := by
  have hnot {c : Char} (hc : isDigit c = false) : c ∉ l := fun hm => by
    rw [List.all_eq_true.1 hdigits c hm] at hc
    cases hc
  have hsplit : split '/' (a ++ ['/'] ++ l) = [a, l] := by
    rw [List.append_assoc, List.singleton_append, Reference.split_append_cons ha,
      Reference.split_of_notMem (hnot (by decide))]
  unfold Block.read at h
  split at h
  · next b' hb =>
    cases h
    rw [read?, hsplit] at hb
    obtain ⟨⟨_, length⟩, hlength, hb⟩ := Option.bind_eq_some_iff.1 hb
    obtain ⟨_, hlength, hpair⟩ := Option.map_eq_some_iff.1 hlength
    cases hpair
    obtain ⟨address, haddress, hb⟩ := Option.bind_eq_some_iff.1 hb
    have hvalue : length = Literal.digitsValue l := by
      unfold length? at hlength
      split at hlength
      · next hascii =>
        rw [Bool.and_eq_true] at hascii
        obtain ⟨hnatural, -⟩ := Option.filter_eq_some_iff.1 hlength
        unfold Literal.natural? at hnatural
        split at hnatural
        · cases hnatural
        · rw [Literal.asciiDigits_of_digits hascii.2] at hnatural
          exact (Option.some.inj hnatural).symm
      · simp [read?_of_notMem (hnot (by decide))] at hlength
    subst hvalue
    split at hb
    · next hle =>
      cases hb
      exact ⟨address, hle, haddress, rfl⟩
    · cases hb
  · cases h

end Block

end Worksheet
