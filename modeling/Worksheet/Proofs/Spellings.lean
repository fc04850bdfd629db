import Mathlib
import Worksheet.Pattern.Search

/-!
# What a pattern spells

Every match takes a text that its pattern spells. The converse holds of a pattern without tests:
wherever a text that it spells stands, the search finds a match (`occurs_iff`). So a part of what a
pattern spells can be found by a pattern of its own (`Needs`).
-/

namespace Worksheet

open Text

/-- A phrase occurs where it is a part. -/
theorem Text.occursIn_iff {w t : Text} : occursIn w t = true ↔ w <:+: t := by
  unfold occursIn
  induction t with
  | nil => cases w <;> simp [cutAtPhrase]
  | cons c r ih =>
    rw [cutAtPhrase, List.infix_cons_iff]
    split
    · next hp => exact iff_of_true rfl (.inl (List.isPrefixOf_iff_prefix.1 hp))
    · next hp => rw [Option.isSome_map, ih, or_iff_right (mt List.isPrefixOf_iff_prefix.2 hp)]

namespace Pattern

variable {p q : Pattern} {s : Char → Bool} {most : Option Nat} {n : Nat}
  {k : Cursor → Groups → Outcome} {m : Match} {b r t u w : Text}

/-! ## What is spelled is found -/

/-- Whether a pattern looks at nothing but what it takes, and its runs prefer to be long. -/
def testless : Pattern → Bool
  | nothing | one _ => true
  | run _ _ _ long => long
  | seq p q | either p q => p.testless && q.testless
  | group _ p => p.testless
  | atStart | atEnd | atWordEdge | behind _ | ahead _ => false

/-- A run goes as far as its class and its bound allow. -/
theorem climb_append_of_all (hu : u.all s = true) (hm : ∀ w ∈ most, n + u.length ≤ w) :
    Cursor.climb s most n b (u ++ r) = Cursor.climb s most (n + u.length) (u.reverse ++ b) r := by
  induction u generalizing n b with
  | nil => rfl
  | cons x u ih =>
    rw [List.all_cons, Bool.and_eq_true] at hu
    rw [List.length_cons] at hm
    have hne : (most != some n) = true := bne_iff_ne.2 fun he => by
      have := hm n he
      omega
    rw [List.cons_append, Cursor.climb, if_pos (by rw [hu.1, hne]; rfl),
      ih hu.2 fun w hw => by have := hm w hw; omega]
    simp only [List.length_cons, List.reverse_cons, List.append_assoc, List.singleton_append,
      Nat.add_assoc, Nat.add_comm 1]

/-- Going back over a run tries its end first, and then goes back from one character before. -/
theorem descend_take_succ {k : Cursor → Outcome} {i : ℕ} (hi : i < t.length) :
    descend k (n + 1) ⟨(t.take (i + 1)).reverse ++ b, t.drop (i + 1)⟩ =
      (k ⟨(t.take (i + 1)).reverse ++ b, t.drop (i + 1)⟩).or
        (descend k n ⟨(t.take i).reverse ++ b, t.drop i⟩) := by
  have hlast : (t.take (i + 1)).reverse ++ b = t[i] :: ((t.take i).reverse ++ b) := by
    rw [List.take_succ_eq_append_getElem hi, List.reverse_append]
    rfl
  rw [List.drop_eq_getElem_cons hi, hlast, descend]
  cases k _ <;> rfl

/-- Going back over a run comes by every place that it may end at. -/
theorem descend_isSome {k : Cursor → Outcome} {i j : Nat} (hi : i ≤ t.length) (hj : j ≤ i)
    (hn : i ≤ j + n) (hk : (k ⟨(t.take j).reverse ++ b, t.drop j⟩).isSome = true) :
    (descend k n ⟨(t.take i).reverse ++ b, t.drop i⟩).isSome = true := by
  induction n generalizing i with
  | zero =>
    obtain rfl : j = i := by omega
    exact hk
  | succ n ih =>
    rcases Nat.eq_or_lt_of_le hj with rfl | hlt
    · obtain ⟨o, ho⟩ := Option.isSome_iff_exists.1 hk
      rw [descend, ho]
      rfl
    · obtain ⟨i, rfl⟩ : ∃ i', i = i' + 1 := ⟨i - 1, by omega⟩
      rw [descend_take_succ (by omega), Option.isSome_or, ih (by omega) (by omega) (by omega),
        Bool.or_true]

/-- In front of a text that a pattern without tests spells, it matches if what must follow does. -/
theorem exec_isSome (hp : p.testless = true) (hw : p.Spells w)
    (hk : ∀ g, (k ⟨w.reverse ++ b, r⟩ g).isSome = true) (g : Groups) :
    (p.exec ⟨b, w ++ r⟩ g k).isSome = true := by
  induction p generalizing w b r k g with
  | nothing =>
    obtain rfl : w = [] := hw
    exact hk g
  | one s =>
    obtain ⟨x, hs, rfl⟩ := hw
    simpa [exec, hs] using hk g
  | run s least most long =>
    obtain rfl : long = true := hp
    obtain ⟨hs, hl, hm⟩ := hw
    obtain ⟨i, hi, he, -, -⟩ := @climb_eq s most w.length (w.reverse ++ b) r
    have hclimb : Cursor.climb s most 0 b (w ++ r) = (w.length + i,
        ⟨((w ++ r).take (w.length + i)).reverse ++ b, (w ++ r).drop (w.length + i)⟩) := by
      rw [climb_append_of_all hs (by simpa using hm), Nat.zero_add, he]
      simp [List.take_append, List.drop_append]
    rw [exec, hclimb]
    dsimp only
    rw [if_pos (by omega)]
    refine descend_isSome (j := w.length) (by simp; omega) (by omega) (by omega) ?_
    simpa using hk g
  | seq p q ihp ihq =>
    obtain ⟨u, v, hu, hv, rfl⟩ := hw
    rw [testless, Bool.and_eq_true] at hp
    rw [exec, List.append_assoc]
    refine ihp hp.1 hu (fun g => ihq hp.2 hv (fun g => ?_) g) g
    rw [← List.append_assoc, ← List.reverse_append]
    exact hk g
  | either p q ihp ihq =>
    rw [testless, Bool.and_eq_true] at hp
    rw [exec]
    split
    · rfl
    · next hnone =>
      rcases hw with hw | hw
      · have := ihp hp.1 hw hk g
        rw [hnone] at this
        cases this
      · exact ihq hp.2 hw hk g
  | group i p ih =>
    rw [exec]
    refine ih hp hw (fun g => ?_) g
    exact hk _
  | atStart | atEnd | atWordEdge | behind s | ahead p => cases hp

/-- **Theorem (`occurs_iff`).** A pattern without tests occurs in a text if and only if it spells a
part of it. -/
theorem occurs_iff (hp : p.testless = true) : p.occurs t = true ↔ ∃ w, p.Spells w ∧ w <:+: t := by
  refine ⟨exists_spells_of_occurs, ?_⟩
  rintro ⟨w, hw, z, r, rfl⟩
  rw [occurs, search_eq_searchFrom, searchFrom_isSome]
  refine ⟨z, w ++ r, List.append_assoc z w r, ?_⟩
  rw [matchAt, Option.isSome_map]
  exact exec_isSome hp hw (fun _ => rfl) []

/-! ## Parts of what is spelled -/

/-- Every match of the first pattern takes one of the second on its way. -/
inductive Needs : Pattern → Pattern → Prop
  | self {p : Pattern} : Needs p p
  | left {p p' q : Pattern} : Needs p q → Needs (p ++ p') q
  | right {p p' q : Pattern} : Needs p' q → Needs (p ++ p') q
  | group {p q : Pattern} (i : Nat) : Needs p q → Needs (group i p) q

theorem Needs.exists_spells (h : p.Needs q) (hw : p.Spells w) : ∃ u, q.Spells u ∧ u <:+: w := by
  induction h generalizing w with
  | self => exact ⟨w, hw, List.infix_refl w⟩
  | left _ ih =>
    obtain ⟨u, v, hu, -, rfl⟩ := hw
    obtain ⟨x, hx, hxu⟩ := ih hu
    exact ⟨x, hx, hxu.trans (List.prefix_append u v).isInfix⟩
  | right _ ih =>
    obtain ⟨u, v, -, hv, rfl⟩ := hw
    obtain ⟨x, hx, hxv⟩ := ih hv
    exact ⟨x, hx, hxv.trans (List.suffix_append u v).isInfix⟩
  | group i _ ih => exact ih hw

theorem Needs.exists_of_occurs (h : p.Needs q) (ht : p.occurs t = true) :
    ∃ u, q.Spells u ∧ u <:+: t := by
  obtain ⟨w, hw, hwt⟩ := exists_spells_of_occurs ht
  obtain ⟨u, hu, huw⟩ := h.exists_spells hw
  exact ⟨u, hu, huw.trans hwt⟩

theorem Needs.exists_of_matchStart (h : p.Needs q) (hm : p.matchStart t = some m) :
    ∃ u, q.Spells u ∧ u <:+: t := by
  obtain ⟨w, hw, ht⟩ := spells_of_matchStart hm
  obtain ⟨u, hu, huw⟩ := h.exists_spells hw
  exact ⟨u, hu, huw.trans ⟨[], m.right, ht.symm⟩⟩

/-- A word spells itself alone. -/
theorem spells_word {l : String} : (word l).Spells w ↔ w = l.toList := by
  rw [word]
  generalize l.toList = l
  induction l generalizing w with
  | nil => exact Iff.rfl
  | cons c l ih =>
    constructor
    · rintro ⟨u, v, ⟨x, hx, rfl⟩, hv, rfl⟩
      rw [beq_iff_eq.1 hx, ih.1 hv]
      rfl
    · rintro rfl
      exact ⟨[c], l, ⟨c, beq_self_eq_true c, rfl⟩, ih.2 rfl, rfl⟩

/-- The characters of a word in any case, one after the other. -/
theorem forall₂_of_spells_anyCase {l : String} (h : (anyCase l).Spells w) :
    List.Forall₂ (fun d c => sameLetter d c = true) l.toList w := by
  rw [anyCase] at h
  generalize l.toList = l at h ⊢
  induction l generalizing w with
  | nil =>
    obtain rfl : w = [] := h
    exact .nil
  | cons d l ih =>
    obtain ⟨u, v, ⟨x, hx, rfl⟩, hv, rfl⟩ := h
    exact .cons hx (ih hv)

/-- The first of several patterns spells what one of them does. -/
theorem exists_of_spells_firstOf {ps : List Pattern} (h : (firstOf ps).Spells w) :
    ∃ p ∈ ps, p.Spells w := by
  fun_induction firstOf ps with
  | case1 =>
    obtain ⟨x, hx, -⟩ := h
    cases hx
  | case2 p => exact ⟨p, List.mem_singleton_self p, h⟩
  | case3 p ps _ ih =>
    rcases h with h | h
    · exact ⟨p, List.mem_cons_self, h⟩
    · obtain ⟨q, hq, hw⟩ := ih h
      exact ⟨q, List.mem_cons_of_mem _ hq, hw⟩

end Pattern

end Worksheet
