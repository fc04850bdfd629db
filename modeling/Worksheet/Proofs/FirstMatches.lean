import Worksheet.Proofs.Outlines
import Worksheet.Proofs.Phrases
import Worksheet.Proofs.Shown
import Worksheet.Proofs.SmallLetters

/-!
# The first match of a phrase

If each part of a pattern takes its own piece of a text first, the pattern matches the text, and the
groups remember their pieces (`Takes.exists_search`). A match may as well begin behind a character
that the pattern does not take, if there is none before it (`Takes.exists_search_behind`). Rules
whose patterns are not found are passed over (`PhraseRule.firstAnswer_skip`), and the first other
one answers. Two texts in which every pattern finds the same are answered the same
(`PhraseRule.firstAnswer_congr`).
-/

namespace Worksheet

open Text

/-- A text of characters of a class, of which there are any. -/
@[ext] structure Text.Run (s : Char → Bool) where
  text : Text
  ne : text ≠ []
  all : text.all s = true

namespace Pattern

variable {p q : Pattern} {s : Char → Bool} {least : Nat} {most : Option Nat} {c : Char}
  {u v w z : Text} {l l' : List (Nat × Text)}

/-- A pattern of a list is the one in a place, or one of the others. -/
theorem eq_or_mem_eraseIdx {ps : List Pattern} {n : Nat} (hn : ps[n]? = some p) (hq : q ∈ ps) :
    q = p ∨ q ∈ ps.eraseIdx n := by
  obtain ⟨i, hi, rfl⟩ := List.mem_iff_getElem.1 hq
  obtain ⟨hlt, rfl⟩ := List.getElem?_eq_some_iff.1 hn
  by_cases h : i = n
  · subst h
    exact .inl rfl
  · exact .inr (List.mem_eraseIdx_iff_getElem.2 ⟨i, hi, h, rfl⟩)

/-! ## Pieces that are taken first -/

theorem descend_of_eq_some {k : Cursor → Outcome} {n : Nat} {a : Cursor} {o : Cursor × Groups}
    (h : k a = some o) : descend k n a = some o := by
  cases n with
  | zero => exact h
  | succ n => rw [descend, h]

@[simp] theorem nullable_append : (p ++ q).nullable = (p.nullable && q.nullable) := rfl

@[simp] theorem starts_append : (p ++ q).starts c = (p.starts c || (p.nullable && q.starts c)) := rfl

/-- In front of `w` there is no match, whatever must follow. -/
def Fails (p : Pattern) (w : Text) : Prop :=
  ∀ x g (k : Cursor → Groups → Outcome), p.exec ⟨x, w⟩ g k = none

namespace Fails

theorem of_head (hn : p.nullable = false) (hw : w.head?.any p.starts = false) : p.Fails w := by
  intro x g k
  refine Option.eq_none_iff_forall_ne_some.2 fun r hr => ?_
  rcases starts_of_exec hr with ⟨hnull, -⟩ | ⟨d, r', hd, hstart⟩
  · rw [hn] at hnull
    cases hnull
  · rw [show w = d :: r' from hd] at hw
    simp [hstart] at hw

/-- A pattern that cannot begin with what is left out fails in front of it. -/
theorem of_respects {d : Char → Bool} {probe : Char} (hp : p.Respects d probe)
    (hn : p.nullable = false) (hs : p.starts probe = false) (hw : w.head?.all d = true) :
    p.Fails w := by
  refine of_head hn ?_
  cases w with
  | nil => rfl
  | cons c w => exact starts_of_respects hp hs hw

/-- A pattern fails in front of a text that is cut by a character that it does not take, if its
outline does not occur in that of the text up to there. -/
theorem of_cut {d : Char → Bool} {probe : Char} (hp : p.Respects d probe) (hc : p.avoids c = true)
    (hu : p.absent probe (keep d u) = true) : p.Fails (u ++ c :: v) := by
  intro x g k
  refine Option.eq_none_iff_forall_ne_some.2 fun o ho => ?_
  obtain ⟨t, stop, g', hleads, -⟩ := exec_eq_some ho
  have hafter : u ++ c :: v = t ++ stop.after := hleads.after
  have hpart : t <+: u := prefix_of_prefix_cut ⟨_, hafter.symm⟩ (notMem_of_spells hc hleads.spells)
  exact not_spells_of_outline hp hu hleads.spells hpart.isInfix

theorem word {l : String} (h : l.toList.isPrefixOf w = false) : (Pattern.word l).Fails w := by
  intro x g k
  rw [Pattern.word, exec_letters, h]
  rfl

theorem seq (h : p.Fails w) : (p ++ q).Fails w := fun x g _ => h x g _

end Fails

namespace TakesFirst

/-- A run takes what it can, as far as its class or its bound goes. -/
theorem run (hu : u.all s = true) (hl : least ≤ u.length) (hm : ∀ n ∈ most, u.length ≤ n)
    (hw : w.head?.any s = false ∨ most = some u.length) :
    (Pattern.run s least most true).TakesFirst u w := by
  intro x g k o ho
  have hstop : Cursor.climb s most u.length (u.reverse ++ x) w =
      (u.length, ⟨u.reverse ++ x, w⟩) := by
    cases w with
    | nil => rfl
    | cons c w =>
      rw [Cursor.climb, if_neg]
      rcases hw with hw | rfl
      · simp [show s c = false from hw]
      · simp
  have hclimb : Cursor.climb s most 0 x (u ++ w) = (u.length, ⟨u.reverse ++ x, w⟩) := by
    rw [climb_append_of_all hu (by simpa using hm), Nat.zero_add, hstop]
  rw [exec, hclimb]
  dsimp only
  rw [if_pos hl]
  exact descend_of_eq_some ho

theorem many1 (hu : u.all s = true) (hne : u ≠ []) (hw : w.head?.any s = false) :
    (Pattern.many1 s).TakesFirst u w :=
  run hu (List.length_pos_iff.2 hne) nofun (.inl hw)

theorem ofRun (r : Text.Run s) (hw : w.head?.any s = false) :
    (Pattern.many1 s).TakesFirst r.text w := many1 r.all r.ne hw

theorem opt (h : p.TakesFirst u w) : (Pattern.opt p).TakesFirst u w := left h

/-- No blank where there need not be any. -/
theorem noBlanks (hw : w.head?.any isBlank = false) : blanks?.TakesFirst [] w :=
  run rfl (Nat.zero_le _) nofun (.inl hw)

theorem char (c : Char) : (Pattern.char c).TakesFirst [c] w := one (beq_self_eq_true c)

theorem word (l : String) : (Pattern.word l).TakesFirst l.toList w := by
  intro x g k o ho
  rw [Pattern.word, exec_letters, if_pos (by simp), List.drop_left]
  exact ho

/-- What does not match is left out. -/
theorem skip (h : p.Fails w) : (Pattern.opt p).TakesFirst [] w := by
  intro x g k o ho
  show exec (either p nothing) _ _ _ = _
  rw [exec, List.nil_append, h x g k]
  exact ho

end TakesFirst

/-! ## Pieces that are remembered -/

/-- In front of `w`, the pattern takes `u` first, and `l` is what its groups remember of it, the
latest first. -/
def Takes (p : Pattern) (u w : Text) (l : List (Nat × Text)) : Prop :=
  ∀ x g, ∃ g', seen (fun _ t => t) g' = l ++ seen (fun _ t => t) g ∧
    ∀ (k : Cursor → Groups → Outcome) o,
      k ⟨u.reverse ++ x, w⟩ g' = some o → p.exec ⟨x, u ++ w⟩ g k = some o

theorem TakesFirst.takes (h : p.TakesFirst u w) : p.Takes u w [] := fun x g =>
  ⟨g, rfl, fun k o ho => h x g k o ho⟩

namespace Takes

theorem seq (hp : p.Takes u (v ++ w) l) (hq : q.Takes v w l') :
    (p ++ q).Takes (u ++ v) w (l' ++ l) := by
  intro x g
  obtain ⟨g₁, hg₁, hp⟩ := hp x g
  obtain ⟨g₂, hg₂, hq⟩ := hq (u.reverse ++ x) g₁
  refine ⟨g₂, by rw [hg₂, hg₁, List.append_assoc], fun k o ho => ?_⟩
  rw [List.append_assoc]
  refine hp _ o (hq k o ?_)
  rwa [List.reverse_append, List.append_assoc] at ho

/-- A piece that no group remembers any of, and then the others. -/
theorem after (hp : p.TakesFirst u (v ++ w)) (hq : q.Takes v w l) : (p ++ q).Takes (u ++ v) w l := by
  have h := seq hp.takes hq
  rwa [List.append_nil] at h

/-- A piece that no group remembers any of, behind the others. -/
theorem before (hp : p.Takes u (v ++ w) l) (hq : q.TakesFirst v w) : (p ++ q).Takes (u ++ v) w l :=
  seq hp hq.takes

theorem group (i : Nat) (hp : p.TakesFirst u w) : (Pattern.group i p).Takes u w [(i, u)] := by
  intro x g
  refine ⟨(i, ⟨x, u ++ w⟩, ⟨u.reverse ++ x, w⟩) :: g, ?_, fun k o ho => hp x g _ o ho⟩
  have hpiece : Cursor.upTo ⟨x, u ++ w⟩ ⟨u.reverse ++ x, w⟩ = u := Cursor.upTo_eq rfl
  rw [seen, List.map_cons]
  dsimp only
  rw [hpiece]
  rfl

theorem opt (hp : p.Takes u w l) : (Pattern.opt p).Takes u w l := by
  intro x g
  obtain ⟨g', hg', hp⟩ := hp x g
  refine ⟨g', hg', fun k o ho => ?_⟩
  show exec (either p nothing) _ _ _ = _
  rw [exec, hp k o ho]

/-! ## Matches -/

theorem exists_matchAt (h : p.Takes u w l) (x : Text) :
    ∃ m, p.matchAt ⟨x, u ++ w⟩ = some m ∧ ∀ i, m.group? i = l.lookup i := by
  obtain ⟨g, hg, hp⟩ := h x []
  refine ⟨⟨⟨x, u ++ w⟩, ⟨u.reverse ++ x, w⟩, g⟩, ?_, fun i => ?_⟩
  · rw [matchAt, hp _ _ rfl]
    rfl
  · rw [Format.group?_eq, hg]
    exact congrArg _ (List.append_nil l)

theorem exists_searchFrom (h : p.Takes u w l) (x : Text) :
    ∃ m, p.searchFrom x (u ++ w) = some m ∧ ∀ i, m.group? i = l.lookup i := by
  obtain ⟨m, hm, hl⟩ := h.exists_matchAt x
  refine ⟨m, ?_, hl⟩
  generalize u ++ w = t at hm ⊢
  cases t with
  | nil => exact hm
  | cons c t => rw [searchFrom, hm]

/-- **A phrase is found.** -/
theorem exists_search (h : p.Takes u w l) :
    ∃ m, p.search (u ++ w) = some m ∧ ∀ i, m.group? i = l.lookup i := by
  rw [search_eq_searchFrom]
  exact h.exists_searchFrom []

/-- **A phrase is found behind a character that it does not take**, if no part of the text in front
of that character is such a phrase. -/
theorem exists_search_behind (h : p.Takes u w l) (hc : p.avoids c = true)
    (hz : ∀ t, p.Spells t → ¬t <:+: z) :
    ∃ m, p.search (z ++ c :: (u ++ w)) = some m ∧ ∀ i, m.group? i = l.lookup i := by
  have hnone (y s : Text) (hs : z ++ [c] = y ++ s) (hne : s ≠ []) :
      p.matchAt ⟨y.reverse ++ [], s ++ (u ++ w)⟩ = none := by
    refine Option.eq_none_iff_forall_ne_some.2 fun m hm => ?_
    have hleads := leads_of_matchAt hm
    have hafter : s ++ (u ++ w) = m.text ++ m.right := hleads.after
    obtain ⟨s, d, rfl⟩ := List.eq_nil_or_concat s |>.resolve_left hne
    rw [List.concat_eq_append] at hs hafter hleads
    rw [← List.append_assoc] at hs
    obtain ⟨rfl, hd⟩ := List.append_inj' hs rfl
    cases hd
    -- The match ends in front of the character.
    rw [List.append_assoc] at hafter
    have hpart : m.text <+: s :=
      prefix_of_prefix_cut ⟨m.right, hafter.symm⟩ (notMem_of_spells hc hleads.spells)
    exact hz _ hleads.spells (hpart.isInfix.trans (List.suffix_append y s).isInfix)
  rw [search_eq_searchFrom, ← List.singleton_append, ← List.append_assoc, searchFrom_append hnone]
  exact h.exists_searchFrom _

end Takes

end Pattern

/-! ## Rules -/

/-- Two matches whose groups remember the same. -/
def Match.Agrees (m m' : Match) : Prop := ∀ i, m.group? i = m'.group? i

namespace Match.Agrees

variable {m m' : Match}

theorem group (h : m.Agrees m') : m.group = m'.group := funext fun i => by
  rw [Match.group, h]
  rfl

theorem number (h : m.Agrees m') : m.number = m'.number := by
  unfold Match.number
  rw [h.group]

theorem natural (h : m.Agrees m') : m.natural = m'.natural := by
  unfold Match.natural
  rw [h.group]

end Match.Agrees

namespace PhraseRule

variable {r : PhraseRule} {rs rest : List PhraseRule} {pss : List (List Pattern)}
  {ps : List Pattern} {p : Pattern} {f : Match → Result Text} {m : Match} {x : Result Text}
  {expr expr' low low' t : Text}

/-- The rule answers where one of the patterns is found. -/
def Heeds (r : PhraseRule) (ps : List Pattern) : Prop := ∃ f, r = onMatch ps f

/-- Rules none of whose patterns is found are passed over. -/
theorem firstAnswer_skip (h : List.Forall₂ Heeds rs pss)
    (hnone : ∀ ps ∈ pss, ∀ p ∈ ps, p.search low = none) :
    firstAnswer (rs ++ rest) expr low = firstAnswer rest expr low := by
  induction h with
  | nil => rfl
  | @cons r ps rs pss hr _ ih =>
    obtain ⟨f, rfl⟩ := hr
    obtain ⟨hps, hpss⟩ := List.forall_mem_cons.1 hnone
    have hsilent : onMatch ps f expr low = .ok none := by
      rw [onMatch, List.findSome?_eq_none_iff.2 hps]
    rw [List.cons_append, firstAnswer, hsilent]
    exact ih hpss

theorem firstAnswer_eq_none (h : List.Forall₂ Heeds rs pss)
    (hnone : ∀ ps ∈ pss, ∀ p ∈ ps, p.search low = none) : firstAnswer rs expr low = .ok none := by
  rw [← List.append_nil rs]
  exact firstAnswer_skip h hnone

/-- The rule in place `n` answers, if no pattern of the rules in front of it is found. -/
theorem firstAnswer_at {n : Nat} (h : List.Forall₂ Heeds (rs.take n) pss)
    (hnone : ∀ ps ∈ pss, ∀ p ∈ ps, p.search low = none) (hr : rs[n]? = some r)
    (hx : r expr low = x.map some) : firstAnswer rs expr low = x.map some := by
  obtain ⟨hlt, rfl⟩ := List.getElem?_eq_some_iff.1 hr
  rw [← List.take_append_drop n rs, firstAnswer_skip h hnone, List.drop_eq_getElem_cons hlt,
    firstAnswer, hx]
  cases x <;> rfl

/-- The rule answers where one of the patterns is found, and only what the groups remember
matters. -/
def Listens (r : PhraseRule) (ps : List Pattern) : Prop :=
  ∃ f, r = onMatch ps f ∧ ∀ m m' : Match, m.Agrees m' → f m = f m'

theorem Listens.heeds (h : Listens r ps) : Heeds r ps := by
  obtain ⟨f, hf, -⟩ := h
  exact ⟨f, hf⟩

/-- Where every pattern finds the same in two texts, the rules answer the same. -/
theorem firstAnswer_congr (h : List.Forall₂ Listens rs pss) (hsame : ∀ ps ∈ pss, ∀ p ∈ ps,
      Option.Rel Match.Agrees (p.search low) (p.search low')) :
    firstAnswer rs expr low = firstAnswer rs expr' low' := by
  have hfind {ps : List Pattern} (hps : ∀ p ∈ ps,
      Option.Rel Match.Agrees (p.search low) (p.search low')) :
      Option.Rel Match.Agrees (ps.findSome? fun p => p.search low)
        (ps.findSome? fun p => p.search low') := by
    induction ps with
    | nil => exact .none
    | cons p ps ih =>
      obtain ⟨hp, hps⟩ := List.forall_mem_cons.1 hps
      rw [List.findSome?_cons, List.findSome?_cons]
      generalize p.search low = o, p.search low' = o' at hp
      cases hp with
      | some hm => exact .some hm
      | none => exact ih hps
  induction h with
  | nil => rfl
  | @cons r ps rs pss hr _ ih =>
    obtain ⟨f, rfl, hf⟩ := hr
    obtain ⟨hps, hpss⟩ := List.forall_mem_cons.1 hsame
    have hone : onMatch ps f expr low = onMatch ps f expr' low' := by
      have hps := hfind hps
      unfold onMatch
      generalize (ps.findSome? fun p => p.search low) = o,
        (ps.findSome? fun p => p.search low') = o' at hps
      cases hps with
      | some hm => exact congrArg (Except.map some) (hf _ _ hm)
      | none => rfl
    rw [firstAnswer, firstAnswer, hone, ih hpss]

theorem onMatch_of_search (h : p.search low = some m) :
    onMatch (p :: ps) f expr low = (f m).map some := by
  rw [onMatch, List.findSome?_cons, h]

/-- Characters of a known text are found to be small by trying. -/
theorem isSmall_of_all {t : Text} (h : (t.all fun c => lowerChar c == c && c != 'İ') = true) :
    ∀ c ∈ t, IsSmall c := by
  intro c hc
  simpa [IsSmall] using List.all_eq_true.1 h c hc

/-- An expression without capitals and without blanks at its ends is seen as it is. -/
theorem run_eq_firstAnswer (ht : Tight t) (hsmall : ∀ c ∈ t, IsSmall c) :
    run rs t = firstAnswer rs t t := by
  rw [run, ht.trim_eq, lower, lowerFrom_eq_self hsmall]

end PhraseRule

end Worksheet
