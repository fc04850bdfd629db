import Worksheet.Proofs.Formats
import Worksheet.Proofs.Literals
import Worksheet.Proofs.Shown
import Worksheet.Proofs.ShownTokens
import Worksheet.Proofs.SmallLetters
import Worksheet.Proofs.Unmarked

/-!
# Answers about subnets that the first look overlooks

An evaluator is asked only if a first look claims the expression for it. That look has keywords and
patterns of its own, so it can miss what the rules would answer. Of subnets it misses three phrases
(`overlooks`); all else that the rules answer is claimed (`claims_or_overlooks`).

It is enough to know what the patterns of the rules need: most need a block, and a block in the
lower case of an expression is one of the expression.
-/

namespace Worksheet

open Text Result

/-! ## Parts of a text -/

theorem Text.trim_part (t : Text) : trim t <:+: t := by
  obtain ⟨u, v, -, -, hleft, ht⟩ := exists_trim t
  exact ⟨u, v, by rw [List.append_assoc, ← hleft, ← ht]⟩

theorem Text.cutAtPhrase_append {w t a b : Text} (h : cutAtPhrase w t = some (a, b)) :
    t = a ++ (w ++ b) := by
  induction t generalizing a with
  | nil =>
    rw [cutAtPhrase] at h
    split at h
    · next hw =>
      cases h
      rw [List.isEmpty_iff.1 hw]
      rfl
    · cases h
  | cons c r ih =>
    rw [cutAtPhrase] at h
    split at h
    · next hw =>
      cases h
      exact (List.prefix_iff_eq_append.1 (List.isPrefixOf_iff_prefix.1 hw)).symm
    · obtain ⟨⟨a', b'⟩, hcut, h⟩ := Option.map_eq_some_iff.1 h
      cases h
      rw [ih hcut]
      rfl

theorem Text.cutAtLast_part {c : Char} {t a b : Text} (h : cutAtLast c t = some (a, b)) :
    a <:+: t := by
  obtain ⟨⟨x, y⟩, hcut, h⟩ := Option.map_eq_some_iff.1 h
  cases h
  refine ⟨[], c :: x.reverse, ?_⟩
  rw [← List.reverse_reverse t, Reference.cutAt_append hcut]
  simp

namespace Pattern

variable {p : Pattern} {t : Text} {m : Match}

theorem steady_times {n m : Nat} : (times isDigit n m).Within fun c => isSteady c = true :=
  fun _ hc => isSteady_iff.2 (.inl hc)

theorem steady_char {c : Char} (h : isSteady c = true) :
    (char c).Within fun c => isSteady c = true := fun d hd => by rwa [beq_iff_eq.1 hd]

/-- What stands on both sides of a match are parts of the text. -/
theorem sides_of_mem_findAll (h : m ∈ p.findAll t) : m.left <:+: t ∧ m.right <:+: t := by
  refine pieces_induction (p := p) (motive := fun b t ps => ∀ m, Piece.found m ∈ ps →
    m.left <:+: b.reverse ++ t ∧ m.right <:+: b.reverse ++ t) (fun _ => nofun)
    (fun b c r ps ih m hm => ?_) (fun b r ps m hne hm hs ih m' hm' => ?_) t m (mem_findAll.1 h)
  · rcases List.mem_cons.1 hm with he | hm
    · cases he
    · simpa using ih m hm
  · rcases List.mem_cons.1 hm' with he | hm'
    · cases he
      have hleft : m.left = b.reverse := by rw [Match.left, start_matchAt hm]
      rw [hleft, show m.right = r from hs, ← List.append_assoc]
      exact ⟨⟨[], m.text ++ r, by simp⟩, (List.suffix_append _ r).isInfix⟩
    · simpa using ih m' hm'

end Pattern

namespace PhraseRule

variable {ps : List Pattern} {f : Match → Result Text} {expr low a : Text}

/-- What a rule answers holds one of its patterns. -/
theorem exists_of_onMatch (h : onMatch ps f expr low = .ok (some a)) :
    ∃ p ∈ ps, p.occurs low = true := by
  unfold onMatch at h
  split at h
  · next m hm =>
    obtain ⟨p, hp, hm⟩ := List.exists_of_findSome?_eq_some hm
    exact ⟨p, hp, Option.isSome_iff_exists.2 ⟨m, hm⟩⟩
  · cases h

end PhraseRule

/-! ## Subnets -/

namespace Subnet

open Pattern

variable {expr a : Text} {p : Pattern}

/-- Phrases that the rules know and the first look does not: the hosts of a prefix without the word
`hosts`, a mask without a slash, and the prefix of a mask without `prefix for`. -/
def overlooks (expr : Text) : Bool :=
  let low := lower (trim expr)
  (hostsOfPrefix.occurs low && !mentions "hosts" low) || (mask.occurs low && !low.contains '/') ||
    (prefixOfMask.occurs low && !mentions "prefix for" low)

theorem steady_address : address.Within fun c => isSteady c = true := by
  have hpoint := steady_char (c := '.') rfl
  exact ⟨⟨⟨⟨⟨⟨steady_times, hpoint⟩, steady_times⟩, hpoint⟩, steady_times⟩, hpoint⟩,
    steady_times⟩

theorem steady_block : block.Within fun c => isSteady c = true :=
  ⟨⟨steady_address, steady_char rfl⟩, steady_times⟩

/-- Digits and marks of the lower case occur in the expression. -/
theorem occurs_of_spells (hp : p.testless = true) (hs : p.Within fun c => isSteady c = true)
    {w : Text} (hw : p.Spells w) (h : w <:+: lower (trim expr)) : p.occurs expr = true := by
  have hall : w.all isSteady = true := List.all_eq_true.2 (hw.within hs)
  exact (occurs_iff hp).2 ⟨w, hw, (infix_of_infix_lower hall h).trans (trim_part expr)⟩

theorem mentions_of_part {w : String} (hw : Sigmaless w.toList)
    (h : w.toList <:+: lower (trim expr)) : mentions w (lower expr) = true :=
  occursIn_iff.2 (infix_lower_mono hw (trim_part expr) h)

theorem claims_of_block (hp : p.Needs block) (h : p.occurs (lower (trim expr)) = true) :
    claims expr = true := by
  obtain ⟨u, hu, hlow⟩ := hp.exists_of_occurs h
  have := occurs_of_spells rfl steady_block hu hlow
  simp [claims, this]

theorem claims_of_keyword {w : String} (hw : w ∈ keywords) (hs : Sigmaless w.toList)
    (h : w.toList <:+: lower (trim expr)) : claims expr = true := by
  have : keywords.any (mentions · (lower expr)) = true :=
    List.any_eq_true.2 ⟨w, hw, mentions_of_part hs h⟩
  simp [claims, this]

theorem claims_or_overlooks_hosts (h : hostsOfPrefix.occurs (lower (trim expr)) = true) :
    claims expr = true ∨ overlooks expr = true := by
  cases hm : mentions "hosts" (lower (trim expr)) with
  | false => simp [overlooks, h, hm]
  | true =>
    obtain ⟨w, hw, hlow⟩ := exists_spells_of_occurs h
    obtain ⟨u, e, ⟨v, d, ⟨x, s, -, hs, rfl⟩, hd, rfl⟩, -, rfl⟩ := hw
    have hslash : (char '/' ++ digits).Spells (s ++ d) := ⟨s, d, hs, ⟨hd.1, hd.2.1, nofun⟩, rfl⟩
    have hpart : s ++ d <:+: lower (trim expr) := .trans ⟨x, e, by simp⟩ hlow
    have hoccurs := occurs_of_spells (p := char '/' ++ digits) rfl
      ⟨steady_char rfl, fun _ hc => isSteady_iff.2 (.inl hc)⟩ hslash hpart
    have hmention := mentions_of_part (w := "hosts") (by decide) (occursIn_iff.1 hm)
    simp [claims, hoccurs, hmention]

theorem claims_or_overlooks_mask (h : mask.occurs (lower (trim expr)) = true) :
    claims expr = true ∨ overlooks expr = true := by
  by_cases hslash : '/' ∈ lower (trim expr)
  · have hneeds : mask.Needs (word "mask") := .left (.left (.left (.right .self)))
    obtain ⟨u, hu, hlow⟩ := hneeds.exists_of_occurs h
    rw [spells_word.1 hu] at hlow
    have hmention := mentions_of_part (w := "mask") (by decide) hlow
    have hmem : '/' ∈ lower expr := by
      rw [← List.singleton_infix_iff] at hslash ⊢
      exact infix_lower_mono (by decide) (trim_part expr) hslash
    simp [claims, hmention, hmem]
  · simp [overlooks, h, hslash]

theorem claims_or_overlooks_prefixOf (h : prefixOfMask.occurs (lower (trim expr)) = true) :
    claims expr = true ∨ overlooks expr = true := by
  cases hm : mentions "prefix for" (lower (trim expr)) with
  | false => simp [overlooks, h, hm]
  | true =>
    have hneeds : prefixOfMask.Needs address := .right (.group 1 .self)
    obtain ⟨u, hu, hlow⟩ := hneeds.exists_of_occurs h
    have hoccurs := occurs_of_spells rfl steady_address hu hlow
    have hmention := mentions_of_part (w := "prefix for") (by decide) (occursIn_iff.1 hm)
    simp [claims, hoccurs, hmention]

theorem needs_splitVerb : splitVerb.Needs block := .left (.left (.left (.right (.group 1 .self))))

/-- The patterns that need a block. -/
theorem needs_block : ∀ p ∈ splitCountPatterns ++ splitHostsPatterns ++ [hostsOfBlock, info,
    membership, nextBlock, factOf "broadcast", factOf "network"], p.Needs block := by
  intro p hp
  simp only [splitCountPatterns, splitHostsPatterns, List.mem_append, List.mem_cons,
    List.not_mem_nil, or_false] at hp
  rcases hp with ((rfl | rfl) | rfl | rfl) | rfl | rfl | rfl | rfl | rfl | rfl
  all_goals
    repeat first
      | exact .left needs_splitVerb
      | exact .right (.group _ .self)
      | refine .left ?_

/-- What a rule about subnets answers is claimed or overlooked. -/
theorem claims_or_overlooks (h : PhraseRule.run rules expr = .ok (some a)) :
    claims expr = true ∨ overlooks expr = true := by
  obtain ⟨rule, hrule, h⟩ := PhraseRule.exists_of_run h
  have hblock {ps : List Pattern} {f : Match → Result Text} (hps : ∀ p ∈ ps, p.Needs block)
      (h : PhraseRule.onMatch ps f (trim expr) (lower (trim expr)) = .ok (some a)) :
      claims expr = true ∨ overlooks expr = true := by
    obtain ⟨p, hp, hocc⟩ := PhraseRule.exists_of_onMatch h
    exact .inl (claims_of_block (hps p hp) hocc)
  have hone {p : Pattern} {f : Match → Result Text}
      (h : PhraseRule.onMatch [p] f (trim expr) (lower (trim expr)) = .ok (some a)) :
      p.occurs (lower (trim expr)) = true := by
    obtain ⟨q, hq, hocc⟩ := PhraseRule.exists_of_onMatch h
    rwa [List.mem_singleton.1 hq] at hocc
  simp only [rules, List.mem_cons, List.not_mem_nil, or_false] at hrule
  rcases hrule with rfl | rfl | rfl | rfl | rfl | rfl | rfl | rfl | rfl | rfl | rfl | rfl | rfl
  · exact hblock (fun p hp => needs_block p (by simp [hp])) h
  · exact hblock (fun p hp => needs_block p (by simp [hp])) h
  · exact .inl (claims_of_block (needs_block _ (by simp)) (hone h))
  · exact claims_or_overlooks_hosts (hone h)
  · exact .inl (claims_of_block (needs_block _ (by simp)) (hone h))
  · have hneeds : wildcard.Needs (word "wildcard") := .left (.left (.left (.left .self)))
    obtain ⟨u, hu, hlow⟩ := hneeds.exists_of_occurs (hone h)
    rw [spells_word.1 hu] at hlow
    exact .inl (claims_of_keyword (by decide) (by decide) hlow)
  · exact claims_or_overlooks_mask (hone h)
  · exact claims_or_overlooks_prefixOf (hone h)
  · exact .inl (claims_of_block (needs_block _ (by simp)) (hone h))
  · exact .inl (claims_of_block (needs_block _ (by simp)) (hone h))
  · exact .inl (claims_of_block (needs_block _ (by simp)) (hone h))
  · exact .inl (claims_of_block (needs_block _ (by simp)) (hone h))
  · unfold bare at h
    split at h
    · next m hm =>
      have hneeds : bareBlock.Needs block := .left (.right (.group 1 .self))
      obtain ⟨u, hu, hpart⟩ := hneeds.exists_of_matchStart hm
      have hocc : block.occurs expr = true :=
        (occurs_iff rfl).2 ⟨u, hu, hpart.trans (trim_part expr)⟩
      exact .inl (by simp [claims, hocc])
    · cases h

end Subnet

end Worksheet
