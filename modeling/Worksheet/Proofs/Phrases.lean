import Worksheet.Proofs.Lowering
import Worksheet.Proofs.Result
import Worksheet.Proofs.Searching

/-!
# Phrases with other references

Subnets and percentages are recognised by patterns alone, and their answers can only be shown. So
when the references of an expression are exchanged, it is enough that the same rule takes it and
that it fails or not as before (`shape_subnets`, `shape_percentages`).
-/

namespace Worksheet

open Text Result Pattern

/-! ## Occurrences -/

namespace Pattern

section Words

variable {α : Type} {b a : Text} {g : Groups} {k : Cursor → Groups → Outcome}

theorem exec_letters (l : Text) :
    (l.foldr (fun c p => seq (char c) p) nothing).exec ⟨b, a⟩ g k =
      if l.isPrefixOf a then k ⟨l.reverse ++ b, a.drop l.length⟩ g else none := by
  induction l generalizing b a with
  | nil => cases a <;> rfl
  | cons c l ih =>
    rw [List.foldr_cons, exec, char, exec]
    cases a with
    | nil => rfl
    | cons d a =>
      by_cases hd : d = c
      · simp [hd, ih]
      · simp [hd, Ne.symm hd]

theorem matchAt_word (w : String) :
    ((word w).matchAt ⟨b, a⟩).isSome = w.toList.isPrefixOf a := by
  rw [matchAt, Option.isSome_map, word, exec_letters]
  split
  · next h => exact h.symm
  · next h => exact (Bool.eq_false_iff.2 h).symm

/-- A phrase occurs where its pattern matches. -/
theorem occursIn_eq (w : String) (hw : w.toList ≠ []) (t : Text) :
    occursIn w.toList t = (word w).occurs t := by
  have hfrom (b : Text) : (cutAtPhrase w.toList t).isSome = ((word w).searchFrom b t).isSome := by
    induction t generalizing b with
    | nil =>
      have hempty : w.toList.isEmpty = false := by simpa using hw
      rw [cutAtPhrase, searchFrom, matchAt_word, hempty]
      cases h : w.toList with
      | nil => exact absurd h hw
      | cons => rfl
    | cons c t ih =>
      have hm := matchAt_word (b := b) (a := c :: t) w
      rw [cutAtPhrase, searchFrom]
      split
      · next hp =>
        rw [hp] at hm
        obtain ⟨m, hm⟩ := Option.isSome_iff_exists.1 hm
        rw [hm]
        rfl
      · next hp =>
        have hnone : (word w).matchAt ⟨b, c :: t⟩ = none :=
          Option.not_isSome_iff_eq_none.1 (by rw [hm]; exact hp)
        rw [Option.isSome_map, hnone]
        exact ih (c :: b)
  rw [occursIn, occurs, search_eq_searchFrom]
  exact hfrom []

end Words

/-! ## Octets -/

section Octets

variable {q : Pattern}

/-- Digits in front of something that begins with no digit: where they begin does not matter, only
that there is one. -/
theorem occurs_digits {most : Option Nat} (hmost : (most != some 0) = true)
    (hn : q.nullable = false) (hq : ∀ c, isDigit c = true → q.starts c = false) (t : Text) :
    (run isDigit 1 most true ++ q).occurs t = true ↔ ∃ z d r, t = z ++ d :: r ∧
      isDigit d = true ∧ (q.exec ⟨d :: z.reverse, r⟩ [] fun c g => some (c, g)).isSome = true := by
  rw [occurs, search_eq_searchFrom, searchFrom_isSome]
  constructor
  · rintro ⟨z, s, rfl, h⟩
    rw [matchAt, Option.isSome_map] at h
    obtain ⟨o, ho⟩ := Option.isSome_iff_exists.1 h
    change (seq _ q).exec _ _ _ = _ at ho
    rw [exec, exec] at ho
    obtain ⟨m, hl, hm, hs, -⟩ := @climb_eq isDigit most 0 (z.reverse ++ []) s
    simp only [hm, Nat.zero_add] at ho
    split at ho
    · -- The last of the digits that were taken is the one.
      obtain ⟨j, h₁, h₂, h₃⟩ := descend_eq_some hl (Nat.sub_le m 1) ho
      obtain ⟨j, rfl⟩ : ∃ i, j = i + 1 := ⟨j - 1, by omega⟩
      have hj : j < s.length := by omega
      refine ⟨z ++ s.take j, s[j], s.drop (j + 1), ?_, ?_, ?_⟩
      · rw [← List.drop_eq_getElem_cons hj, List.append_assoc, List.take_append_drop]
      · exact List.all_eq_true.1 hs _ (List.mem_take_iff_getElem.2 ⟨j, by omega, rfl⟩)
      · rw [List.take_succ_eq_append_getElem hj, List.reverse_append, List.append_nil] at h₃
        rw [List.reverse_append]
        exact Option.isSome_iff_exists.2 ⟨o, h₃⟩
    · cases ho
  · rintro ⟨z, d, r, rfl, hd, h⟩
    refine ⟨z, d :: r, rfl, ?_⟩
    -- What follows cannot begin with a digit, so the run ends at once.
    have hr : r.head?.any isDigit = false := by
      refine Bool.eq_false_iff.2 fun hr => ?_
      cases r with
      | nil => cases hr
      | cons e r =>
        rw [exec_eq_none hn (hq e (by simpa using hr))] at h
        cases h
    have hclimb (y : Text) : Cursor.climb isDigit most 0 y (d :: r) = (1, ⟨d :: y, r⟩) := by
      rw [Cursor.climb, if_pos (by rw [hd, hmost]; rfl)]
      cases r with
      | nil => rfl
      | cons e r =>
        rw [List.head?_cons, Option.any_some] at hr
        rw [Cursor.climb, if_neg (by simp [hr])]
    rw [matchAt, Option.isSome_map]
    show ((seq _ q).exec _ _ _).isSome = true
    rw [exec, exec, hclimb, List.append_nil]
    exact h

theorem searchFrom_congr {p p' : Pattern} (h : ∀ c g k, p.exec c g k = p'.exec c g k)
    (b t : Text) : p.searchFrom b t = p'.searchFrom b t := by
  have hm (c : Cursor) : p.matchAt c = p'.matchAt c := by rw [matchAt, matchAt, h]
  induction t generalizing b with
  | nil => exact hm _
  | cons c t ih => rw [searchFrom, searchFrom, hm, ih]

/-- Of the digits that a pattern begins with, there may as well be more. -/
theorem occurs_octet {p : Pattern}
    (hp : ∀ c g k, p.exec c g k = (times isDigit 1 3 ++ q).exec c g k) (hn : q.nullable = false)
    (hq : ∀ c, isDigit c = true → q.starts c = false) (t : Text) :
    p.occurs t = (digits ++ q).occurs t := by
  have h : p.occurs t = (times isDigit 1 3 ++ q).occurs t := by
    rw [occurs, occurs, search_eq_searchFrom, search_eq_searchFrom, searchFrom_congr hp]
  rw [h, Bool.eq_iff_iff, digits, many1, times]
  rw [occurs_digits (by decide) hn hq, occurs_digits (by decide) hn hq]

end Octets

end Pattern

/-! ## Rules -/

section Rules

variable {α : Type}

/-- What is left of an answer that can only be shown: whether there is one, and how it failed. -/
def shape (r : Result (Option α)) : Except Fault (Option (Option Unit)) :=
  (settle r).map (Option.map (Option.map fun _ => ()))

theorem shape_ok (t : Text) : shape (Except.map some (.ok t : Result Text)) = .ok (some (some ())) :=
  rfl

theorem shape_firstAnswer {rules : List PhraseRule} {e e' low low' : Text}
    (h : ∀ rule ∈ rules, shape (rule e' low') = shape (rule e low)) :
    shape (PhraseRule.firstAnswer rules e' low') = shape (PhraseRule.firstAnswer rules e low) := by
  induction rules with
  | nil => rfl
  | cons rule rules ih =>
    have ih := ih fun rule hr => h rule (List.mem_cons_of_mem _ hr)
    have h := h rule List.mem_cons_self
    unfold PhraseRule.firstAnswer
    match rule e' low', rule e low, h with
    | .ok (some _), .ok (some _), _ => rfl
    | .ok none, .ok none, _ => exact ih
    | .error (.line _), .error (.line _), _ => rfl
    | .error (.fault _), .error (.fault _), h =>
      cases h
      rfl

theorem any_congr_mem {l : List α} {f g : α → Bool} (h : ∀ a ∈ l, f a = g a) :
    l.any f = l.any g := by
  rw [Bool.eq_iff_iff, List.any_eq_true, List.any_eq_true]
  exact exists_congr fun a => and_congr_right fun ha => by rw [h a ha]

variable {ρ : Text → Text} {view : Nat → Text → α} {loose : Nat → Bool} {t : Text}

/-- A rule that goes by blind patterns, and answers alike where the same is found. -/
theorem shape_onMatch {patterns : List Pattern} {f : Match → Result Text} (hρ : Reference.KeepsRuns ρ)
    (hρa : Reference.KeepsAscii ρ) (hp : ∀ p ∈ patterns, p.blind loose = true)
    (hview : Indifferent view loose)
    (hf : ∀ m m', seen view m'.groups = seen view m.groups →
      shape ((f m').map some) = shape ((f m).map some))
    (ht : ∀ digits ∈ Reference.runs t, digits.all isAsciiDigit = true) (e e' : Text) :
    shape (PhraseRule.onMatch patterns f e' (Reference.rewrite ρ t)) =
      shape (PhraseRule.onMatch patterns f e t) := by
  have hfound : found view (patterns.findSome? (·.search (Reference.rewrite ρ t))) =
      found view (patterns.findSome? (·.search t)) := by
    induction patterns with
    | nil => rfl
    | cons p ps ih =>
      have ih := ih fun p hm => hp p (List.mem_cons_of_mem _ hm)
      have h := search_rewrite hρ hρa (hp p List.mem_cons_self) hview ht
      rw [List.findSome?_cons, List.findSome?_cons]
      match p.search (Reference.rewrite ρ t), p.search t, h with
      | some _, some _, h => exact h
      | none, none, _ => exact ih
  unfold PhraseRule.onMatch
  generalize patterns.findSome? (fun p => p.search (Reference.rewrite ρ t)) = o' at hfound ⊢
  generalize patterns.findSome? (fun p => p.search t) = o at hfound ⊢
  match o', o, hfound with
  | some m', some m, h => exact hf m m' (Option.some.inj h)
  | none, none, _ => rfl

/-- Groups as they are. -/
def whole (_ : Nat) (t : Text) : Text := t

theorem group?_eq (m : Match) : m.group? = fun i => List.lookup i (seen whole m.groups) := by
  funext i
  rw [Match.group?]
  generalize m.groups = g
  induction g with
  | nil => rfl
  | cons e g ih =>
    obtain ⟨j, a, b⟩ := e
    show _ = List.lookup i ((j, a.upTo b) :: seen whole g)
    rw [List.lookup_cons, List.lookup_cons]
    cases i == j
    · exact ih
    · rfl

/-- A rule that goes by blind patterns and the groups that they remember. -/
theorem shape_onMatch_whole {patterns : List Pattern} {f : Match → Result Text}
    (hρ : Reference.KeepsRuns ρ) (hρa : Reference.KeepsAscii ρ)
    (hp : ∀ p ∈ patterns, p.blind (fun _ => false) = true)
    (hf : ∀ m m' : Match, m'.group? = m.group? → f m' = f m)
    (ht : ∀ digits ∈ Reference.runs t, digits.all isAsciiDigit = true) (e e' : Text) :
    shape (PhraseRule.onMatch patterns f e' (Reference.rewrite ρ t)) =
      shape (PhraseRule.onMatch patterns f e t) :=
  shape_onMatch hρ hρa hp (show Indifferent whole fun _ => false from fun _ h => nomatch h)
    (fun m m' h => by rw [hf m m' (by rw [group?_eq, group?_eq, h])]) ht e e'

/-- The rules of a grammar see the rewritten text in lower case. -/
theorem shape_run {rules : List PhraseRule} (hρ : Reference.KeepsRuns ρ)
    (hρa : Reference.KeepsAscii ρ)
    (ht : ∀ digits ∈ Reference.runs t, digits.all isAsciiDigit = true)
    (h : ∀ t, (∀ digits ∈ Reference.runs t, digits.all isAsciiDigit = true) → ∀ rule ∈ rules,
      shape (rule (Reference.rewrite ρ t) (Reference.rewrite ρ (lower t))) =
        shape (rule t (lower t))) :
    shape (PhraseRule.run rules (Reference.rewrite ρ t)) = shape (PhraseRule.run rules t) := by
  have htrim : ∀ digits ∈ Reference.runs (trim t), digits.all isAsciiDigit = true := by
    rwa [Reference.runs_trim]
  show shape (PhraseRule.firstAnswer rules (trim _) (lower (trim _))) = _
  rw [Reference.trim_rewrite hρ, Reference.lower_rewrite hρ hρa htrim]
  exact shape_firstAnswer (h (trim t) htrim)

end Rules

/-! ## Subnets -/

namespace Subnet

/-- What follows the first number of an address. -/
def dotted (q : Pattern) : Pattern :=
  let octet := times isDigit 1 3
  char '.' ++ (octet ++ (char '.' ++ (octet ++ (char '.' ++ (octet ++ q)))))

theorem starts_dotted (q : Pattern) (c : Char) (hc : isDigit c = true) :
    (dotted q).starts c = false := by
  have h : (c == '.') = false := by
    refine Bool.eq_false_iff.2 fun h => ?_
    rw [beq_iff_eq.1 h] at hc
    exact absurd hc (by decide +kernel)
  show ((c == '.') || (false && _)) = false
  rw [h]
  rfl

theorem address_occurs (t : Text) : address.occurs t = (digits ++ dotted nothing).occurs t :=
  occurs_octet (p := address) (fun _ _ _ => rfl) rfl (starts_dotted nothing) t

theorem block_occurs (t : Text) : block.occurs t =
    (digits ++ dotted (char '/' ++ times isDigit 1 2)).occurs t :=
  occurs_octet (p := block) (fun _ _ _ => rfl) rfl (starts_dotted _) t

variable {ρ : Text → Text} {t : Text}

theorem claims_rewrite (hρ : Reference.KeepsRuns ρ) (hρa : Reference.KeepsAscii ρ)
    (ht : ∀ digits ∈ Reference.runs t, digits.all isAsciiDigit = true) :
    claims (Reference.rewrite ρ t) = claims t := by
  have hlow : ∀ digits ∈ Reference.runs (lower t), digits.all isAsciiDigit = true := by
    rwa [Reference.runs_lower ht]
  have hword : ∀ w ∈ keywords ++ ["hosts", "mask", "prefix for", "cidr for"],
      w.toList ≠ [] ∧ (word w).blind (fun _ => true) = true := by
    decide +kernel
  have hmentions {w : String} (hw : w ∈ keywords ++ ["hosts", "mask", "prefix for", "cidr for"]) :
      mentions w (lower (Reference.rewrite ρ t)) = mentions w (lower t) := by
    obtain ⟨hne, hblind⟩ := hword w hw
    rw [mentions, mentions, occursIn_eq w hne, occursIn_eq w hne, Reference.lower_rewrite hρ hρa ht,
      occurs_rewrite hρ hρa hblind hlow]
  have hkeywords : keywords.any (mentions · (lower (Reference.rewrite ρ t))) =
      keywords.any (mentions · (lower t)) :=
    any_congr_mem fun w hw => hmentions (List.mem_append_left _ hw)
  have haddress : address.occurs (Reference.rewrite ρ t) = address.occurs t := by
    rw [address_occurs, address_occurs, occurs_rewrite hρ hρa (by decide +kernel) ht]
  have hblock : block.occurs (Reference.rewrite ρ t) = block.occurs t := by
    rw [block_occurs, block_occurs, occurs_rewrite hρ hρa (by decide +kernel) ht]
  have hslash : (char '/' ++ digits).occurs (Reference.rewrite ρ t) =
      (char '/' ++ digits).occurs t := occurs_rewrite hρ hρa (by decide +kernel) ht
  have hcontains : (lower (Reference.rewrite ρ t)).contains '/' = (lower t).contains '/' := by
    rw [Reference.lower_rewrite hρ hρa ht, Bool.eq_iff_iff, List.contains_iff_mem,
      List.contains_iff_mem]
    exact Reference.mem_rewrite hρ (by decide +kernel) (by decide)
  unfold claims
  simp only [hkeywords, haddress, hblock, hslash, hcontains, hmentions (by decide : "hosts" ∈ _),
    hmentions (by decide : "mask" ∈ _), hmentions (by decide : "prefix for" ∈ _),
    hmentions (by decide : "cidr for" ∈ _)]

/-- Subnets are answered alike. -/
theorem shape_rules (hρ : Reference.KeepsRuns ρ) (hρa : Reference.KeepsAscii ρ)
    (ht : ∀ digits ∈ Reference.runs t, digits.all isAsciiDigit = true) :
    shape (PhraseRule.run rules (Reference.rewrite ρ t)) = shape (PhraseRule.run rules t) := by
  refine shape_run hρ hρa ht fun t ht rule hr => ?_
  have hlow : ∀ digits ∈ Reference.runs (lower t), digits.all isAsciiDigit = true := by
    rwa [Reference.runs_lower ht]
  have hrules : rules = [splitByCount, splitByHosts, hostCount, hostCountOfPrefix, blockInfo,
    wildcardMask, maskOfPrefix, prefixFromMask, inRange, next, broadcastAddress, networkAddress] ++
      [bare] := rfl
  rw [hrules, List.mem_append, List.mem_singleton] at hr
  rcases hr with hr | rfl
  · simp only [List.mem_cons, List.not_mem_nil, or_false] at hr
    rcases hr with rfl | rfl | rfl | rfl | rfl | rfl | rfl | rfl | rfl | rfl | rfl | rfl
    all_goals
      refine shape_onMatch_whole hρ hρa (by decide +kernel) (fun m m' h => ?_) hlow _ _
      simp only [Match.natural, Match.group, h]
  · obtain ⟨u, w, hu, htu, hru, hw⟩ := exists_stops ρ t
    have hfound : found whole (bareBlock.matchStart (Reference.rewrite ρ t)) =
        found whole (bareBlock.matchStart t) := by
      rw [matchStart_eq_matchAt, matchStart_eq_matchAt, hru]
      conv => rhs; rw [htu]
      exact (matchAt_alike (by decide +kernel) hw ⟨rfl, rfl⟩ hu).symm
    unfold bare
    match bareBlock.matchStart (Reference.rewrite ρ t), bareBlock.matchStart t, hfound with
    | some m', some m, h =>
      have hs : seen whole m'.groups = seen whole m.groups := Option.some.inj h
      have hg : m'.group? = m.group? := by
        rw [group?_eq, group?_eq, hs]
      simp only [Match.group, hg]
    | none, none, _ => rfl

end Subnet

/-! ## Numbers that begin with a reference -/

namespace Literal

theorem asciiDigits_of_digits {u : Text} (hu : u.all isAsciiDigit = true) : asciiDigits u = u := by
  refine (List.map_congr_left fun c hc => ?_).trans (List.map_id u)
  have ha := List.all_eq_true.1 hu c hc
  have hn := toNat_of_isAsciiDigit ha
  have hv : digitValue? c = some (c.toNat - 48) := by
    simp only [digitValue?, show c.toNat < 128 by omega, if_true, ha]
  rw [hv]
  show Char.ofNat (48 + (c.toNat - 48)) = c
  rw [show 48 + (c.toNat - 48) = c.toNat by omega, Char.ofNat_toNat]

theorem dropUnderscores_digits {u z : Text} (hne : u ≠ []) (hu : u.all isAsciiDigit = true)
    (digit : Bool) :
    dropUnderscores digit (u ++ z) = (dropUnderscores true z).map (u ++ ·) := by
  induction u generalizing digit with
  | nil => exact absurd rfl hne
  | cons c u ih =>
    rw [List.all_cons, Bool.and_eq_true] at hu
    have hc : c ≠ '_' := by
      rintro rfl
      exact absurd hu.1 (by decide)
    have hstep {r : Text} : dropUnderscores digit (c :: r) =
        (dropUnderscores true r).map (c :: ·) := by
      rw [dropUnderscores, if_neg hc, hu.1]
      exact fun _ _ h _ => hc h
    rw [List.cons_append, hstep]
    cases u with
    | nil => rfl
    | cons d u =>
      rw [ih (by simp) hu.2, Option.map_map]
      rfl

theorem trimBy_digits {u z : Text} (hne : u ≠ []) (hu : u.all isAsciiDigit = true) :
    trimBy isPadding (u ++ z) = u ++ trimRightBy isPadding z := by
  have hpad {c : Char} (hc : isAsciiDigit c = true) : isPadding c = false := by
    rw [isPadding, not_isBlank_of_isDigit (isDigit_of_isAsciiDigit hc), Bool.false_and]
  obtain ⟨c, s, hs⟩ := List.exists_cons_of_ne_nil hne
  obtain ⟨d, s', hs'⟩ := List.exists_cons_of_ne_nil (by simpa using hne : u.reverse ≠ [])
  have hc : isPadding c = false := hpad (List.all_eq_true.1 hu c (by rw [hs]; simp))
  have hd : isPadding d = false :=
    hpad (List.all_eq_true.1 hu d (List.mem_reverse.1 (by rw [hs']; simp)))
  have hleft : (u ++ z).dropWhile isPadding = u ++ z := by
    rw [hs, List.cons_append, List.dropWhile_cons_of_neg (by simp [hc])]
  rw [trimBy_eq, hleft, trimRightBy, trimRightBy, List.reverse_append,
    dropWhile_append_of_head (by rw [hs', List.head?_cons, Option.any_some, hd]),
    List.reverse_append, List.reverse_reverse]

theorem splitPoint_digits {u z : Text} (hu : u.all isAsciiDigit = true) :
    splitPoint (u ++ z) = (u ++ (splitPoint z).1, (splitPoint z).2) := by
  rw [List.all_eq_true] at hu
  unfold splitPoint
  rw [List.takeWhile_append_of_pos hu, List.dropWhile_append_of_pos hu]
  match z.dropWhile isAsciiDigit with
  | [] => rfl
  | c :: r => by_cases hc : c = '.' <;> simp [hc]

theorem magnitude?_digits {u z : Text} (hne : u ≠ []) (hu : u.all isAsciiDigit = true) :
    (magnitude? (u ++ z)).isSome = (exponent? (splitPoint z).2.2).isSome := by
  obtain ⟨c, s, hs⟩ := List.exists_cons_of_ne_nil hne
  have hc : isAsciiDigit c = true := List.all_eq_true.1 hu c (by rw [hs]; simp)
  have hname {n : Char} {w : Text} (hn : isAsciiDigit n = false) :
      ((u ++ z).map Char.toLower == n :: w) = false := by
    have h : c.toLower ≠ n := by
      have hlt : c.toNat < 128 := Nat.lt_of_le_of_lt (toNat_of_isAsciiDigit hc).2 (by decide)
      rw [toLower_plain.2.2 hc]
      rintro rfl
      rw [hc] at hn
      cases hn
    rw [hs]
    simp [h]
  have hinf : ((u ++ z).map Char.toLower == "inf".toList) = false := hname rfl
  have hinfinity : ((u ++ z).map Char.toLower == "infinity".toList) = false := hname rfl
  have hnan : ((u ++ z).map Char.toLower == "nan".toList) = false := hname rfl
  have hempty : (u ++ (splitPoint z).1).isEmpty = false := by
    rw [hs]
    rfl
  unfold magnitude? decimal?
  simp only [hinf, hinfinity, hnan, splitPoint_digits hu, hempty, Bool.or_self, Bool.false_and,
    Bool.false_eq_true, if_false, Option.isSome_map]

/-- Whether a number is well formed does not depend on the digits that it begins with. -/
theorem real?_digits {u u' : Text} (h : Numerals u u') (z : Text) :
    (real? (u ++ z)).isSome = (real? (u' ++ z)).isSome := by
  have hsign {u z : Text} (hne : u ≠ []) (hu : u.all isAsciiDigit = true) :
      splitSign (u ++ z) = (false, u ++ z) := by
    obtain ⟨c, s, hs⟩ := List.exists_cons_of_ne_nil hne
    have hc : isAsciiDigit c = true := List.all_eq_true.1 hu c (by rw [hs]; simp)
    rw [hs, List.cons_append]
    unfold splitSign
    split
    · next he =>
      cases he
      exact absurd hc (by decide)
    · next he =>
      cases he
      exact absurd hc (by decide)
    · rfl
  have hread {u : Text} (hne : u ≠ []) (hu : u.all isAsciiDigit = true) : (real? (u ++ z)).isSome =
      ((dropUnderscores true (asciiDigits (trimRightBy isPadding z))).bind fun w =>
        exponent? (splitPoint w).2.2).isSome := by
    have happend {y : Text} : asciiDigits (u ++ y) = u ++ asciiDigits y := by
      rw [asciiDigits, List.map_append]
      exact congrArg (· ++ _) (asciiDigits_of_digits hu)
    unfold real?
    rw [trimBy_digits hne hu, happend, dropUnderscores_digits hne hu]
    cases dropUnderscores true (asciiDigits (trimRightBy isPadding z)) with
    | none => rfl
    | some w =>
      have hm := magnitude?_digits (z := w) hne hu
      show ((magnitude? (splitSign (u ++ w)).2).bind _).isSome = (exponent? (splitPoint w).2.2).isSome
      rw [hsign hne hu, ← hm]
      cases magnitude? (u ++ w) <;> rfl
  rw [hread h.ne h.digits, hread h.ne' h.digits']

end Literal

/-! ## Percentages -/

namespace Percentage

/-- Groups as they are, but of the first, which may begin with a reference, only whether it is a
number. -/
def numeric (i : Nat) (t : Text) : Text ⊕ Bool :=
  if i = 1 then .inr (Literal.real? t).isSome else .inl t

theorem indifferent_numeric : Indifferent numeric (· == 1) := by
  intro i hi u u' z h
  rw [numeric, numeric, if_pos (beq_iff_eq.1 hi), if_pos (beq_iff_eq.1 hi),
    Literal.real?_digits h z]

theorem group?_numeric {m m' : Match} (h : seen numeric m'.groups = seen numeric m.groups)
    (i : Nat) : (m'.group? i).map (numeric i) = (m.group? i).map (numeric i) := by
  have hseen (m : Match) :
      (m.group? i).map (numeric i) = List.lookup i (seen numeric m.groups) := by
    rw [Match.group?]
    generalize m.groups = g
    induction g with
    | nil => rfl
    | cons e g ih =>
      obtain ⟨j, a, b⟩ := e
      show _ = List.lookup i ((j, numeric j (a.upTo b)) :: seen numeric g)
      rw [List.lookup_cons, List.lookup_cons]
      cases hj : i == j
      · exact ih
      · rw [← beq_iff_eq.1 hj]
        rfl
  rw [hseen, hseen, h]

/-- What rules take from a match: whether its first group is a number, and its other groups. -/
structure SameNumbers (m m' : Match) : Prop where
  first : (Literal.real? (m'.group 1)).isSome = (Literal.real? (m.group 1)).isSome
  others : ∀ i, i ≠ 1 → m'.group? i = m.group? i

theorem SameNumbers.of_seen {m m' : Match} (h : seen numeric m'.groups = seen numeric m.groups) :
    SameNumbers m m' := by
  refine ⟨?_, fun i hi => ?_⟩
  · have h := group?_numeric h 1
    rw [Match.group, Match.group]
    cases hm' : m'.group? 1 <;> cases hm : m.group? 1 <;> simp [hm', hm, numeric] at h ⊢
    exact h
  · have h := group?_numeric h i
    cases hm' : m'.group? i <;> cases hm : m.group? i <;> simp [hm', hm, numeric, hi] at h ⊢
    exact h

/-- A rule that reads a number from the first group, and goes on to an answer or a failure that the
number has no part in. -/
theorem shape_first {m m' : Match} {f g : Float → Result Text} (h : SameNumbers m m')
    (hfg : ∀ x y, shape ((f x).map some) = shape ((g y).map some)) :
    shape ((m'.number 1 >>= f).map some) = shape ((m.number 1 >>= g).map some) := by
  have h := h.first
  unfold Match.number
  match Literal.real? (m'.group 1), Literal.real? (m.group 1), h with
  | some x, some y, _ => exact hfg x y
  | none, none, _ => rfl

theorem SameNumbers.number {m m' : Match} (h : SameNumbers m m') {i : Nat} (hi : i ≠ 1) :
    m'.number i = m.number i := by
  rw [Match.number, Match.number, Match.group, Match.group, h.others i hi]

theorem SameNumbers.natural {m m' : Match} (h : SameNumbers m m') {i : Nat} (hi : i ≠ 1) :
    m'.natural i = m.natural i := by
  rw [Match.natural, Match.natural, Match.group, Match.group, h.others i hi]

/-- Two answers that only the first number tells apart. -/
theorem shape_bind {α : Type} {x : Result α} {f g : α → Result Text}
    (h : ∀ a, x = .ok a → shape ((f a).map some) = shape ((g a).map some)) :
    shape ((x >>= f).map some) = shape ((x >>= g).map some) := by
  cases hx : x with
  | error => rfl
  | ok a => exact h a hx

section Rules

variable {ρ : Text → Text} {t : Text}

theorem shape_onMatch_numeric {patterns : List Pattern} {f : Match → Result Text}
    (hρ : Reference.KeepsRuns ρ) (hρa : Reference.KeepsAscii ρ)
    (hp : ∀ p ∈ patterns, p.blind (· == 1) = true)
    (hf : ∀ m m' : Match, SameNumbers m m' → shape ((f m').map some) = shape ((f m).map some))
    (ht : ∀ digits ∈ Reference.runs t, digits.all isAsciiDigit = true) (e e' : Text) :
    shape (PhraseRule.onMatch patterns f e' (Reference.rewrite ρ t)) =
      shape (PhraseRule.onMatch patterns f e t) :=
  shape_onMatch hρ hρa hp indifferent_numeric (fun m m' h => hf m m' (.of_seen h)) ht e e'

/-- Percentages are answered alike. -/
theorem shape_rules (hρ : Reference.KeepsRuns ρ) (hρa : Reference.KeepsAscii ρ)
    (ht : ∀ digits ∈ Reference.runs t, digits.all isAsciiDigit = true) :
    shape (PhraseRule.run rules (Reference.rewrite ρ t)) = shape (PhraseRule.run rules t) := by
  refine shape_run hρ hρa ht fun t ht rule hr => ?_
  have hlow : ∀ digits ∈ Reference.runs (lower t), digits.all isAsciiDigit = true := by
    rwa [Reference.runs_lower ht]
  -- Most rules read both numbers before they fail or answer.
  have hboth {patterns : List Pattern} {f : Float → Float → Result Text}
      (hp : ∀ p ∈ patterns, p.blind (· == 1) = true)
      (hf : ∀ x x' y, shape ((f x' y).map some) = shape ((f x y).map some)) (e e' : Text) :
      shape (PhraseRule.onMatch patterns (fun m => do f (← m.number 1) (← m.number 2)) e'
        (Reference.rewrite ρ (lower t))) =
      shape (PhraseRule.onMatch patterns (fun m => do f (← m.number 1) (← m.number 2)) e
        (lower t)) := by
    refine shape_onMatch_numeric hρ hρa hp (fun m m' h => shape_first h fun x y => ?_) hlow e e'
    rw [h.number (by decide)]
    exact shape_bind fun z _ => hf y x z
  simp only [rules, List.mem_cons, List.not_mem_nil, or_false] at hr
  rcases hr with rfl | rfl | rfl | rfl | rfl | rfl | rfl
  · exact hboth (by decide +kernel) (fun _ _ _ => (shape_ok _).trans (shape_ok _).symm) _ _
  · refine hboth (by decide +kernel) (fun _ _ y => ?_) _ _
    split
    · rfl
    · exact (shape_ok _).trans (shape_ok _).symm
  · exact hboth (by decide +kernel) (fun _ _ _ => (shape_ok _).trans (shape_ok _).symm) _ _
  · exact hboth (by decide +kernel) (fun _ _ _ => (shape_ok _).trans (shape_ok _).symm) _ _
  · refine shape_onMatch_whole hρ hρa (by decide +kernel) (fun m m' h => ?_) hlow _ _
    simp only [Match.number, Match.group, h]
  · exact hboth (by decide +kernel) (fun _ _ _ => (shape_ok _).trans (shape_ok _).symm) _ _
  · refine shape_onMatch_numeric hρ hρa (by decide +kernel)
      (fun m m' h => shape_first h fun x y => ?_) hlow _ _
    rw [h.natural (by decide), h.others 3 (by decide), h.number (i := 3) (by decide)]
    refine shape_bind fun ways _ => ?_
    split
    · rfl
    · cases m.group? 3 with
      | none =>
        refine shape_bind fun percent _ => ?_
        cases Binary.ofNat? ways with
        | none => rfl
        | some => exact (shape_ok _).trans (shape_ok _).symm
      | some =>
        refine shape_bind fun percent _ => ?_
        cases Binary.ofNat? ways with
        | none => rfl
        | some => exact (shape_ok _).trans (shape_ok _).symm

theorem claims_rewrite (hρ : Reference.KeepsRuns ρ) (hρa : Reference.KeepsAscii ρ)
    (ht : ∀ digits ∈ Reference.runs t, digits.all isAsciiDigit = true) :
    claims (Reference.rewrite ρ t) = claims t := by
  have hlow : ∀ digits ∈ Reference.runs (lower t), digits.all isAsciiDigit = true := by
    rwa [Reference.runs_lower ht]
  have hblind : ∀ p ∈ markers, p.blind (fun _ => true) = true := by
    decide +kernel
  unfold claims
  rw [Reference.lower_rewrite hρ hρa ht]
  exact any_congr_mem fun p hp => occurs_rewrite hρ hρa (hblind p hp) hlow

end Rules

end Percentage

end Worksheet
