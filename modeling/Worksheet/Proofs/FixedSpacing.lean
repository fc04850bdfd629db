import Worksheet.Proofs.FoundAgain

/-!
# Setting blanks again

**Theorem (`format_format_iff`).** What is shown of an expression is shown as it is, exactly if it
has no two blanks next to each other. What is shown of it the second time is shown as it is in any
case, and the first time already if no two signs `×` and no two signs `÷` stand next to each other.

A rule puts two blanks between two of its signs if it takes both and there was no gap. Once all
gaps have one blank at most, setting them again with the same rule changes nothing
(`Rule.space_space`), nor does any other rule change what this one looks at (`Rule.space_of_fixed`).
The rules have different signs, so what one of them makes two blanks wide stays so (`Paired`).
-/

namespace Worksheet

open Text Pattern

namespace Spacing

variable {L L' : Layout} {s : Spot} {before : Option Char} {owed owed' : Bool} {r r' : Rule}
  {rs : List Rule} {signs : List Char}

/-! ## Gaps of one blank -/

/-- No gap is wider than one blank. -/
def Single (L : Layout) : Prop := ∀ s ∈ L, s.gap = [] ∨ s.gap = [' ']

theorem single_tighten (L : Layout) : Single (tighten L) := by
  intro s hs
  obtain ⟨s, -, rfl⟩ := List.mem_map.1 hs
  show (if s.gap.isEmpty then [] else [' ']) = [] ∨ (if s.gap.isEmpty then [] else [' ']) = [' ']
  split
  · exact .inl rfl
  · exact .inr rfl

theorem tighten_eq_self_iff : tighten L = L ↔ Single L := by
  refine ⟨fun h => h ▸ single_tighten L, fun h => ?_⟩
  refine (List.map_congr_left fun s hs => ?_).trans (List.map_id L)
  refine Spot.ext ?_ rfl
  show (if s.gap.isEmpty then [] else [' ']) = s.gap
  rcases h s hs with hgap | hgap <;> rw [hgap] <;> rfl

theorem Spot.spaced_spaced (s : Spot) (owed taken : Bool) :
    (s.spaced owed taken).spaced owed taken = s.spaced owed taken := by
  refine Spot.ext ?_ (by simp)
  simp only [Spot.gap_spaced]
  split <;> rfl

/-! ## One rule after another -/

namespace Rule

theorem takes_eq_true (h : r.takes before owed s L = true) :
    s.char = r.sign ∧ r.wants before s.char L = true ∧ (owed = true → s.gap = []) := by
  rw [takes, Bool.and_eq_true] at h
  obtain ⟨hwants, hgap⟩ := h
  have hsign := hwants
  simp only [wants, Bool.and_eq_true, beq_iff_eq] at hsign
  refine ⟨hsign.1.2, hwants, ?_⟩
  rintro rfl
  simpa using hgap

/-- Behind a sign that the rule took, a blank is owed. -/
def Owes (r : Rule) (before : Option Char) (owed : Bool) : Prop :=
  owed = true → before = some r.sign

theorem Owes.start (r : Rule) : r.Owes none false := nofun

theorem Owes.next (r : Rule) (before : Option Char) (owed : Bool) (s : Spot) (L : Layout) :
    r.Owes (some s.char) (r.takes before owed s L) := fun h => congrArg some (takes_eq_true h).1

theorem Owes.not_digit (h : r.Owes before owed) (hr : r.Tidy) (ho : owed = true) :
    before.any isDigit = false := by
  rw [h ho]
  exact hr.number

/-- A rule that puts no two blanks next to each other changes nothing the second time. -/
theorem space_space (hr : r.Tidy) (hsingle : Single (r.space before owed L)) :
    r.space before owed (r.space before owed L) = r.space before owed L := by
  induction L generalizing before owed with
  | nil => rfl
  | cons s L ih =>
    rw [space_cons] at hsingle ⊢
    obtain ⟨hgap, hsingle⟩ := List.forall_mem_cons.1 hsingle
    have hwide := Widened.space hr L ((Owes.next r before owed s L).not_digit hr)
    have htakes : r.takes before owed (s.spaced owed (r.takes before owed s L))
        (r.space (some s.char) (r.takes before owed s L) L) = r.takes before owed s L := by
      have hspaced := s.gap_spaced owed (r.takes before owed s L)
      rw [takes, Spot.char_spaced, hwide.wants_eq hr, hspaced]
      rw [hspaced] at hgap
      cases owed with
      | false => simp [takes]
      | true =>
        cases htaken : r.takes before true s L with
        | false => simp
        | true =>
          rw [htaken] at hgap
          simp at hgap
    rw [space_cons, htakes, Spot.spaced_spaced, Spot.char_spaced, ih hsingle]

/-- Where a rule changes nothing, it still changes nothing once a rule with another sign was
applied. -/
theorem space_of_fixed (hr : r.Tidy) (hr' : r'.Tidy) (hne : r.sign ≠ r'.sign)
    (hfix : r.space before owed L = L) (howes : r.Owes before owed)
    (howes' : r'.Owes before owed') :
    r.space before owed (r'.space before owed' L) = r'.space before owed' L := by
  have hapart {before : Option Char} {owed owed' : Bool} (h : r.Owes before owed)
      (h' : r'.Owes before owed') : ¬(owed = true ∧ owed' = true) := fun ⟨ho, ho'⟩ =>
    hne (Option.some.inj ((h ho).symm.trans (h' ho')))
  induction L generalizing before owed owed' with
  | nil => rfl
  | cons s L ih =>
    rw [space_cons] at hfix
    obtain ⟨hspot, hfix⟩ := List.cons.inj hfix
    have hnext := Owes.next r before owed s L
    have hnext' := Owes.next r' before owed' s L
    have hwide := Widened.space hr' L (hnext'.not_digit hr')
    have howed : owed = true → s.gap ≠ [] := by
      intro ho hs
      rw [← hspot, Spot.gap_spaced_eq_nil, ho] at hs
      cases hs.1
    have htakes : r.takes before owed (s.spaced owed' (r'.takes before owed' s L))
        (r'.space (some s.char) (r'.takes before owed' s L) L) = r.takes before owed s L := by
      show (r.wants before (s.spaced owed' _).char _ && (!owed || (s.spaced owed' _).gap.isEmpty)) =
        (r.wants before s.char L && (!owed || s.gap.isEmpty))
      rw [Spot.char_spaced, hwide.wants_eq hr]
      cases owed with
      | false => rfl
      | true =>
        have hgap := howed rfl
        have hgap' : (s.spaced owed' (r'.takes before owed' s L)).gap ≠ [] :=
          fun h => hgap (Spot.gap_spaced_eq_nil.1 h).2.2
        rw [List.isEmpty_eq_false_iff.2 hgap, List.isEmpty_eq_false_iff.2 hgap']
    rw [space_cons, space_cons, htakes, Spot.char_spaced, ih hfix hnext hnext']
    refine congrArg (· :: _) ?_
    -- The two rules put their blanks at different places, and each puts one at most.
    have hfirst := hapart howes howes'
    have hsecond := hapart hnext hnext'
    have hboth : ¬(owed = true ∧ r.takes before owed s L = true) := fun ⟨ho, ht⟩ =>
      howed ho ((takes_eq_true ht).2.2 ho)
    generalize r.takes before owed s L = taken at hspot hsecond hboth
    generalize r'.takes before owed' s L = taken' at hsecond
    have hgap := congrArg Spot.gap hspot
    refine Spot.ext ?_ (by simp)
    simp only [Spot.gap_spaced] at hgap ⊢
    cases owed <;> cases taken <;> cases owed' <;> cases taken' <;> simp_all

/-! ## Where there are no two blanks -/

/-- Where the rule wants blanks around a sign of its own behind another one, there is a gap. -/
def Parted (r : Rule) : (before : Option Char) → Layout → Prop
  | _, [] => True
  | before, s :: L =>
    (before = some r.sign → r.wants before s.char L = true → s.gap ≠ []) ∧
      r.Parted (some s.char) L

theorem Parted.widened (hr : r.Tidy) (h : Widened before L L') (hL : r.Parted before L) :
    r.Parted before L' := by
  induction h with
  | nil => trivial
  | cons hchar hgap _ h ih =>
    rw [Parted, hchar, h.wants_eq hr]
    exact ⟨fun hb hwants hs => hL.1 hb hwants (hgap hs), ih hL.2⟩

/-- The rule puts a gap wherever it wants one. -/
theorem parted_space (hr : r.Tidy) (L : Layout) (before : Option Char) (owed : Bool) :
    r.Parted before (r.space before owed L) := by
  induction L generalizing before owed with
  | nil => trivial
  | cons s L ih =>
    have hwide := Widened.space hr L ((Owes.next r before owed s L).not_digit hr)
    rw [space_cons, Parted, Spot.char_spaced, hwide.wants_eq hr]
    refine ⟨fun _ hwants hs => ?_, ih _ _⟩
    obtain ⟨rfl, htakes, -⟩ := Spot.gap_spaced_eq_nil.1 hs
    rw [takes, hwants] at htakes
    cases htakes

theorem single_space (hsingle : Single L) (hL : r.Parted before L) (howes : r.Owes before owed) :
    Single (r.space before owed L) := by
  induction L generalizing before owed with
  | nil => exact hsingle
  | cons s L ih =>
    obtain ⟨hs, hsingle⟩ := List.forall_mem_cons.1 hsingle
    rw [space_cons]
    refine List.forall_mem_cons.2 ⟨?_, ih hsingle hL.2 (Owes.next r before owed s L)⟩
    have hboth : ¬(owed = true ∧ r.takes before owed s L = true) := by
      rintro ⟨ho, htakes⟩
      obtain ⟨-, hwants, hgap⟩ := takes_eq_true htakes
      exact hL.1 (howes ho) hwants (hgap ho)
    rw [Spot.gap_spaced]
    generalize r.takes before owed s L = taken at hboth
    cases owed <;> cases taken <;> simp_all

end Rule

theorem single_spaceBy (hrs : ∀ r ∈ rs, r.Tidy) (hsingle : Single L)
    (hL : ∀ r ∈ rs, r.Parted none L) : Single (spaceBy rs L) := by
  induction rs generalizing L with
  | nil => exact hsingle
  | cons r rs ih =>
    obtain ⟨hr, hrs'⟩ := List.forall_mem_cons.1 hrs
    obtain ⟨hparted, hL⟩ := List.forall_mem_cons.1 hL
    refine ih hrs' (Rule.single_space hsingle hparted (Rule.Owes.start r)) fun r' hr' => ?_
    exact (hL r' hr').widened (hrs' r' hr') (Widened.space hr L nofun)

/-! ## Where there are two blanks -/

/-- No gap is wider than one blank, other than between two equal signs of the list. -/
def Paired (signs : List Char) : (before : Option Char) → Layout → Prop
  | _, [] => True
  | before, s :: L =>
    ((s.gap = [] ∨ s.gap = [' ']) ∨ before = some s.char ∧ s.char ∈ signs) ∧
      Paired signs (some s.char) L

theorem Single.paired (h : Single L) (signs : List Char) (before : Option Char) :
    Paired signs before L := by
  induction L generalizing before with
  | nil => trivial
  | cons s L ih =>
    obtain ⟨hs, h⟩ := List.forall_mem_cons.1 h
    exact ⟨.inl hs, ih h _⟩

namespace Rule

theorem paired_space (h : Paired signs before L) (howes : r.Owes before owed) :
    Paired (r.sign :: signs) before (r.space before owed L) := by
  induction L generalizing before owed with
  | nil => trivial
  | cons s L ih =>
    rw [space_cons, Paired, Spot.char_spaced]
    refine ⟨?_, ih h.2 (Owes.next r before owed s L)⟩
    rw [Spot.gap_spaced]
    cases htakes : r.takes before owed s L with
    | true =>
      cases owed with
      | false => exact .inl (.inr rfl)
      | true =>
        have hsign := (takes_eq_true htakes).1
        exact .inr ⟨hsign ▸ howes rfl, hsign ▸ List.mem_cons_self⟩
    | false =>
      cases owed with
      | false => exact h.1.imp_right fun ⟨hb, hs⟩ => ⟨hb, List.mem_cons_of_mem _ hs⟩
      | true => exact .inl (.inr rfl)

/-- A rule leaves the blanks between other signs. -/
theorem single_of_space (h : Paired signs before L) (hsign : r.sign ∉ signs)
    (howes : r.Owes before owed) (hsingle : Single (r.space before owed L)) : Single L := by
  induction L generalizing before owed with
  | nil => exact hsingle
  | cons s L ih =>
    rw [space_cons] at hsingle
    obtain ⟨hs, hsingle⟩ := List.forall_mem_cons.1 hsingle
    refine List.forall_mem_cons.2 ⟨?_, ih h.2 (Owes.next r before owed s L) hsingle⟩
    rcases h.1 with hgap | ⟨hb, hmem⟩
    · exact hgap
    · have hne : s.char ≠ r.sign := fun he => hsign (he ▸ hmem)
      have howed : owed = false := by
        rw [← Bool.not_eq_true]
        intro ho
        rw [howes ho] at hb
        exact hne (Option.some.inj hb).symm
      have htakes : r.takes before owed s L = false := by
        rw [← Bool.not_eq_true]
        exact fun ht => hne (takes_eq_true ht).1
      rw [Spot.gap_spaced, howed] at hs
      rw [howed] at htakes
      rwa [htakes] at hs

end Rule

/-- If there are no two blanks in the end, there never were. -/
theorem single_of_spaceBy (hrs : (rs.map Rule.sign).Nodup) (hsigns : ∀ r ∈ rs, r.sign ∉ signs)
    (h : Paired signs none L) (hsingle : Single (spaceBy rs L)) {rs' : List Rule}
    (hrs' : rs' <+: rs) : Single (spaceBy rs' L) := by
  induction rs generalizing L signs rs' with
  | nil =>
    rw [List.prefix_nil.1 hrs']
    exact hsingle
  | cons r rs ih =>
    rw [List.map_cons, List.nodup_cons] at hrs
    obtain ⟨hr, hsigns⟩ := List.forall_mem_cons.1 hsigns
    have hsigns' : ∀ r' ∈ rs, r'.sign ∉ r.sign :: signs := fun r' hr' => by
      rw [List.mem_cons, not_or]
      exact ⟨fun he => hrs.1 (he ▸ List.mem_map_of_mem hr'), hsigns r' hr'⟩
    have hnext {rs' : List Rule} (hrs' : rs' <+: rs) :=
      ih hrs.2 hsigns' (Rule.paired_space h (Rule.Owes.start r)) hsingle hrs'
    cases rs' with
    | nil => exact Rule.single_of_space h hr (Rule.Owes.start r) (hnext List.nil_prefix)
    | cons r' rs' =>
      obtain ⟨rfl, hrest⟩ := List.cons_prefix_cons.1 hrs'
      exact hnext hrest

/-! ## All rules -/

/-- If there never are two blanks, every rule changes nothing once all rules were applied. -/
theorem space_spaceBy {done : List Rule} (htidy : ∀ r ∈ done ++ rs, r.Tidy)
    (hsigns : ((done ++ rs).map Rule.sign).Nodup) (hdone : ∀ r ∈ done, r.space none false L = L)
    (hsingle : ∀ rs', rs' <+: rs → Single (spaceBy rs' L)) :
    ∀ r ∈ done ++ rs, r.space none false (spaceBy rs L) = spaceBy rs L := by
  induction rs generalizing done L with
  | nil =>
    rw [List.append_nil]
    exact hdone
  | cons r rs ih =>
    have happend : done ++ r :: rs = (done ++ [r]) ++ rs := by simp
    have hr := htidy r (by simp)
    rw [happend] at htidy hsigns ⊢
    refine ih htidy hsigns (fun r' hr' => ?_) fun rs' hrs' => hsingle (r :: rs') ?_
    · rcases List.mem_append.1 hr' with hr' | hr'
      · have hne : r'.sign ≠ r.sign := by
          rw [List.map_append, List.map_append, List.nodup_append] at hsigns
          exact (List.nodup_append.1 hsigns.1).2.2 _ (List.mem_map_of_mem hr') _ (by simp)
        exact Rule.space_of_fixed (htidy r' (by simp [hr'])) hr hne (hdone r' hr')
          (Rule.Owes.start r') (Rule.Owes.start r)
      · rw [List.mem_singleton.1 hr']
        exact Rule.space_space hr (hsingle [r] (by simp))
    · exact (List.prefix_cons_inj r).2 hrs'

theorem nodup_rules : (rules.map Rule.sign).Nodup := by decide

theorem spaceBy_eq_self (h : ∀ r ∈ rs, r.space none false L = L) : spaceBy rs L = L := by
  induction rs with
  | nil => rfl
  | cons r rs ih =>
    obtain ⟨hr, hrs⟩ := List.forall_mem_cons.1 h
    rw [spaceBy_cons, hr, ih hrs]

theorem parted_spaceBy (hrs : ∀ r ∈ rs, r.Tidy) (L : Layout) :
    ∀ r ∈ rs, r.Parted none (spaceBy rs L) := by
  induction rs generalizing L with
  | nil => exact nofun
  | cons r rs ih =>
    obtain ⟨hr, hrs⟩ := List.forall_mem_cons.1 hrs
    refine List.forall_mem_cons.2 ⟨?_, ih hrs _⟩
    exact (Rule.parted_space hr L none false).widened hr (.spaceBy hrs _)

theorem spaceBy_spaceBy (h : ∀ rs, rs <+: rules → Single (spaceBy rs L)) :
    spaceBy rules (spaceBy rules L) = spaceBy rules L := by
  have hfix : ∀ r ∈ [] ++ rules, r.space none false (spaceBy rules L) = spaceBy rules L :=
    space_spaceBy rules_tidy nodup_rules nofun h
  exact spaceBy_eq_self hfix

/-- Where the rules have a gap between any two of their signs, they put no two blanks, and change
nothing the second time. -/
theorem spaceBy_of_parted (hsingle : Single L) (hL : ∀ r ∈ rules, r.Parted none L) :
    Single (spaceBy rules L) ∧ spaceBy rules (spaceBy rules L) = spaceBy rules L := by
  have hall (rs : List Rule) (hrs : rs <+: rules) : Single (spaceBy rs L) :=
    single_spaceBy (fun r hr => rules_tidy r (hrs.subset hr)) hsingle fun r hr =>
      hL r (hrs.subset hr)
  exact ⟨hall rules List.prefix_rfl, spaceBy_spaceBy hall⟩

/-- Where the rules put no two blanks, they change nothing the second time. -/
theorem spaceBy_of_single (hsingle : Single L) (h : Single (spaceBy rules L)) :
    spaceBy rules (spaceBy rules L) = spaceBy rules L :=
  spaceBy_spaceBy fun _ hrs =>
    single_of_spaceBy nodup_rules (fun _ _ => List.not_mem_nil) (hsingle.paired [] none) h hrs

/-- Once the blanks were set and squeezed, setting them again puts no two blanks, and leaves
nothing to do. -/
theorem spaceBy_tighten (L : Layout) : Single (spaceBy rules (tighten (spaceBy rules L))) ∧
    spaceBy rules (spaceBy rules (tighten (spaceBy rules L))) =
      spaceBy rules (tighten (spaceBy rules L)) :=
  spaceBy_of_parted (single_tighten _) fun r hr =>
    (parted_spaceBy rules_tidy L r hr).widened (rules_tidy r hr) (.tighten _ none)

theorem Flush.spaceBy (h : Flush L) (rs : List Rule) : Flush (spaceBy rs L) := by
  induction rs generalizing L with
  | nil => exact h
  | cons r rs ih =>
    refine ih ?_
    cases L with
    | nil => rfl
    | cons s L => exact Spot.gap_spaced_eq_nil.2 ⟨rfl, rfl, h⟩

/-! ## Blanks next to each other -/

variable {σ : Char → Text} {c : Char} {t u : Text}

theorem twoBlanks_append_iff (hu : ∀ c ∈ u, isBlank c = false) :
    [' ', ' '] <:+: u ++ t ↔ [' ', ' '] <:+: t := by
  induction u with
  | nil => rfl
  | cons c u ih =>
    obtain ⟨hc, hu⟩ := List.forall_mem_cons.1 hu
    rw [List.cons_append, List.infix_cons_iff, ih hu, or_iff_right]
    intro hp
    rw [← (List.cons_prefix_cons.1 hp).1] at hc
    cases hc

/-- Gaps of spaces are no wider than one blank, if there are no two next to each other in the
text. -/
theorem single_iff (hσ : Spelling σ) (hL : ∀ s ∈ L, ∀ c ∈ s.gap, c = ' ') :
    Single L ↔ ¬[' ', ' '] <:+: spelled σ L := by
  induction L with
  | nil => exact iff_of_true nofun (by simp [spelled])
  | cons s L ih =>
    obtain ⟨hs, hL⟩ := List.forall_mem_cons.1 hL
    rw [Single, List.forall_mem_cons, ← Single, ih hL, spelled_cons]
    have hchar := twoBlanks_append_iff (t := spelled σ L) (hσ.visible _ s.visible)
    generalize s.gap = g at hs
    cases g with
    | nil => rw [List.nil_append, hchar, and_iff_right (.inl rfl)]
    | cons a g =>
      obtain ⟨ha, hg⟩ := List.forall_mem_cons.1 hs
      subst ha
      cases g with
      | nil =>
        obtain ⟨d, w, hd, hw⟩ := hσ.exists_cons s.visible
        have hprefix : ¬[' ', ' '] <+: ' ' :: (σ s.char ++ spelled σ L) := by
          rw [hw]
          intro hp
          obtain ⟨-, hp⟩ := List.cons_prefix_cons.1 hp
          rw [← (List.cons_prefix_cons.1 hp).1] at hd
          cases hd
        rw [List.singleton_append, List.infix_cons_iff, or_iff_right hprefix, hchar,
          and_iff_right (.inr rfl)]
      | cons b g =>
        obtain rfl : b = ' ' := hg b List.mem_cons_self
        refine iff_of_false (fun h => by simp at h) (not_not_intro ?_)
        exact ⟨[], g ++ (σ s.char ++ spelled σ L), rfl⟩

theorem spaces_spaceBy (rs : List Rule) (hL : ∀ s ∈ L, ∀ c ∈ s.gap, c = ' ') :
    ∀ s ∈ spaceBy rs L, ∀ c ∈ s.gap, c = ' ' := by
  have hspace (r : Rule) {L : Layout} (hL : ∀ s ∈ L, ∀ c ∈ s.gap, c = ' ') (before : Option Char)
      (owed : Bool) : ∀ s ∈ r.space before owed L, ∀ c ∈ s.gap, c = ' ' := by
    induction L generalizing before owed with
    | nil => exact nofun
    | cons s L ih =>
      obtain ⟨hs, hL⟩ := List.forall_mem_cons.1 hL
      refine List.forall_mem_cons.2 ⟨fun c hc => ?_, ih hL _ _⟩
      rw [Spot.gap_spaced] at hc
      split at hc
      · exact List.eq_of_mem_replicate hc
      · exact hs c hc
  induction rs generalizing L with
  | nil => exact hL
  | cons r rs ih => exact ih (hspace r hL none false)

/-! ## Signs next to each other -/

/-- The signs that a rule takes behind one of their own. -/
theorem rules_twin : ∀ r ∈ rules, r.before r.sign = true → r.sign = '×' ∨ r.sign = '÷' := by
  decide

/-- Where no two such signs stand next to each other, the rules have gaps between their signs. -/
theorem parted_of_apart (hr : r ∈ rules)
    (h : ∀ c, c = '×' ∨ c = '÷' → ¬[c, c] <:+: before.toList ++ spell L) : r.Parted before L := by
  induction L generalizing before with
  | nil => trivial
  | cons s L ih =>
    rw [spell_cons] at h
    refine ⟨?_, ih fun c hc hin => h c hc (hin.trans ?_)⟩
    · rintro rfl hwants hgap
      simp only [Rule.wants, Bool.and_eq_true, beq_iff_eq] at hwants
      rw [hgap, hwants.1.2] at h
      exact h _ (rules_twin r hr hwants.1.1) ⟨[], spell L, rfl⟩
    · exact ((List.suffix_append s.gap _).trans (List.suffix_append _ _)).isInfix

/-- Characters that stand next to each other in a squeezed text do so in the text. -/
theorem infix_of_squeeze {d : Char} (hc : isBlank c = false) (hd : isBlank d = false)
    (h : [c, d] <:+: squeeze t) : [c, d] <:+: t := by
  have hboth := replaceAll_induction (p := blanks) (f := fun _ => [' '])
    (motive := fun _ t u => (∀ e, isBlank e = false → u.head? = some e → t.head? = some e) ∧
      ([c, d] <:+: u → [c, d] <:+: t))
    (fun _ => ⟨fun _ _ => id, id⟩) (fun b e r u ih => ⟨fun _ _ => id, fun hin => ?_⟩)
    (fun b r u m _ _ _ ih => ⟨fun e he hhead => ?_, fun hin => ?_⟩) (trim t)
  · obtain ⟨u, v, -, -, hleft, ht⟩ := exists_trim t
    rw [ht, hleft]
    exact (hboth.2 h).trans ⟨u, v, List.append_assoc u _ v⟩
  · rcases List.infix_cons_iff.1 hin with hin | hin
    · obtain ⟨rfl, w, rfl⟩ := List.cons_prefix_cons.1 hin
      obtain ⟨r, rfl⟩ := List.head?_eq_some_iff.1 (ih.1 d hd rfl)
      exact ⟨[], r, rfl⟩
    · exact List.infix_cons (ih.2 hin)
  · cases hhead
    cases he
  · rcases List.infix_cons_iff.1 hin with hin | hin
    · rw [(List.cons_prefix_cons.1 hin).1] at hc
      cases hc
    · exact (ih.2 hin).trans (List.suffix_append m.text r).isInfix

theorem Untaken.infix_of_aside (h : Untaken t) (hfew : (literals t).length ≤ placeholderCount)
    (hc : c = '×' ∨ c = '÷') (hin : [c, c] <:+: aside t) : [c, c] <:+: t := by
  have hblank : isBlank c = false := by rcases hc with rfl | rfl <;> decide
  have hplain : restored (literals t) c = [c] :=
    (restores_literals t).plain c (by rcases hc with rfl | rfl <;> decide)
  obtain ⟨x, y, hxy⟩ := hin
  refine infix_of_squeeze hblank hblank
    ⟨x.flatMap (restored (literals t)), y.flatMap (restored (literals t)), ?_⟩
  rw [← h.flatMap_aside hfew, ← hxy, List.flatMap_append, List.flatMap_append, List.flatMap_cons,
    List.flatMap_singleton, hplain]
  rfl

/-! ## What is shown again -/

theorem exists_layout_aside (h : Untaken t) (hfew : (literals t).length ≤ placeholderCount) :
    ∃ L, aside t = spell L ∧ Flush L ∧ Single L := by
  have hσ := (areLiterals_literals t).spelling_restored
  have htight : Tight (aside t) :=
    (setAside_spec (squeeze t) 0).2.1.tight ((keepsEnds_squeeze t).tight (tight_trim t))
  obtain ⟨L, hflush, ht⟩ := exists_layout_of_tight htight
  have hspelled := h.flatMap_aside hfew
  rw [ht, hσ.flatMap_spell] at hspelled
  have htighten := hσ.squeeze_spelled hflush
  rw [hspelled, squeeze_squeeze, ← hspelled] at htighten
  have hself : tighten L = L := hσ.spelled_injective htighten.symm (map_char_tighten L)
  exact ⟨L, ht, hflush, tighten_eq_self_iff.1 hself⟩

/-- **Theorem (`format_format_iff`).** What is shown of an expression is shown as it is, exactly if
no two blanks stand next to each other in it. What is shown of it then is shown as it is, and if no
two signs `×` and no two signs `÷` stand next to each other, this is so from the start. -/
theorem format_format_iff (h : Untaken t) (hfew : (literals t).length ≤ placeholderCount) :
    (format (format t) = format t ↔ ¬[' ', ' '] <:+: format t) ∧
      format (format (format t)) = format (format t) ∧
      ((∀ c, c = '×' ∨ c = '÷' → ¬[c, c] <:+: t) → format (format t) = format t) := by
  have hσ := (areLiterals_literals t).spelling_restored
  obtain ⟨L, ht, hflush, hsingle⟩ := exists_layout_aside h hfew
  have honce : format t = spelled (restored (literals t)) (spaceBy rules L) := by
    rw [h.format_eq hfew, ht, respaced_spell, hσ.flatMap_spell]
  have hwide : Widened none L (spaceBy rules L) := .spaceBy rules_tidy L
  have htwice := h.format_spelled hfew ht hwide (hflush.spaceBy rules)
  have hwide' : Widened none L (spaceBy rules (tighten (spaceBy rules L))) :=
    hwide.trans ((Widened.tighten _ none).trans (.spaceBy rules_tidy _))
  have hthrice := h.format_spelled hfew ht hwide' ((hflush.spaceBy rules).tighten.spaceBy rules)
  obtain ⟨hsettled, hfixed⟩ := spaceBy_tighten L
  rw [tighten_eq_self_iff.2 hsettled, hfixed] at hthrice
  rw [honce, htwice, hthrice]
  have hspaces : ∀ s ∈ L, ∀ c ∈ s.gap, c = ' ' := by
    intro s hs c hc
    rcases hsingle s hs with hgap | hgap
    · rw [hgap] at hc
      cases hc
    · rw [hgap] at hc
      exact List.mem_singleton.1 hc
  rw [← single_iff hσ (spaces_spaceBy rules hspaces)]
  refine ⟨⟨fun he => ?_, fun hs => ?_⟩, rfl, fun hapart => ?_⟩
  · have hchars := ((Widened.tighten (spaceBy rules L) none).trans (.spaceBy rules_tidy _)).map_char
    rw [← hσ.spelled_injective he hchars]
    exact hsettled
  · rw [tighten_eq_self_iff.2 hs, spaceBy_of_single hsingle hs]
  · have hparted : ∀ r ∈ rules, r.Parted none L := fun r hr =>
      parted_of_apart hr fun c hc hin => hapart c hc (h.infix_of_aside hfew hc (ht ▸ hin))
    obtain ⟨hs, hfix⟩ := spaceBy_of_parted hsingle hparted
    rw [tighten_eq_self_iff.2 hs, hfix]

/-- Two signs next to each other are shown with two blanks between them first, and then with one;
a sign in front of another one leaves nothing to do. -/
theorem format_format_signs :
    let t := "2024-1-2××3".toList
    let u := "2024-1-2×÷3".toList
    ((literals t).length ≤ placeholderCount ∧ Untaken t ∧ [' ', ' '] <:+: format t ∧
        format (format t) ≠ format t ∧ format (format (format t)) = format (format t)) ∧
      (literals u).length ≤ placeholderCount ∧ Untaken u ∧
        (∀ c, c = '×' ∨ c = '÷' → ¬[c, c] <:+: u) ∧ format (format u) = format u := by
  intro t u
  have hfew : (literals t).length ≤ placeholderCount := by decide +kernel
  have hfew' : (literals u).length ≤ placeholderCount := by decide +kernel
  have ht : Untaken t := Unmixed.untaken ⟨hfew, by decide +kernel⟩
  have hu : Untaken u := Unmixed.untaken ⟨hfew', by decide +kernel⟩
  have hblanks : [' ', ' '] <:+: format t := by decide +kernel
  have hapart : ∀ c, c = '×' ∨ c = '÷' → ¬[c, c] <:+: u := by
    rintro c (rfl | rfl) <;> decide +kernel
  obtain ⟨hiff, hagain, -⟩ := format_format_iff ht hfew
  exact ⟨⟨hfew, ht, hblanks, fun he => hiff.1 he hblanks, hagain⟩, hfew', hu, hapart,
    (format_format_iff hu hfew').2.2 hapart⟩

end Spacing

end Worksheet
