import Worksheet.Proofs.FirstMatches
import Worksheet.Proofs.Unspaced

/-!
# Characters and the gaps in front of them

Setting blanks changes nothing but the gaps between characters. So a text is laid out as its
characters other than blanks, each with the gap in front of it (`exists_layout`), and the steps of
setting blanks become recursions over the layout: `tighten` for squeezing (`squeeze_spelled`), and
`Rule.space` for a rule.

**Theorem (`Rule.apply_spell`).** Applying a rule to a text sets the gaps of its layout.

A rule goes from left to right. When it takes an operator, it takes the blanks behind it as well and
puts one there. So at the next character a blank is owed, and the operator in front is seen only if
there was no gap.
-/

namespace Worksheet

open Text Pattern

namespace Spacing

/-- A character that is no blank, with the blanks in front of it. -/
@[ext] structure Spot where
  gap : Text
  char : Char
  blank : gap.all isBlank = true
  visible : isBlank char = false

abbrev Layout := List Spot

variable {σ : Char → Text} {L L' : Layout} {s s' : Spot} {b t u v : Text} {c : Char}

/-! ## Texts of a layout -/

/-- The text of a layout, with a text for each character. -/
def spelled (σ : Char → Text) (L : Layout) : Text := L.flatMap fun s => s.gap ++ σ s.char

def spell (L : Layout) : Text := spelled (fun c => [c]) L

/-- The gap in front of all. -/
def lead (L : Layout) : Text := (L.head?.map Spot.gap).getD []

/-- The text of a layout without the gap in front of all. -/
def bare : Layout → Text
  | [] => []
  | s :: L => s.char :: spell L

theorem spelling_self : Spelling fun c => [c] where
  blank _ _ := rfl
  ne_nil _ := List.cons_ne_nil _ _
  visible _ hc _ hd := by rwa [List.mem_singleton.1 hd]

theorem spelled_cons (σ : Char → Text) (s : Spot) (L : Layout) :
    spelled σ (s :: L) = s.gap ++ (σ s.char ++ spelled σ L) := by
  rw [spelled, List.flatMap_cons, List.append_assoc]
  rfl

theorem spell_cons (s : Spot) (L : Layout) : spell (s :: L) = s.gap ++ s.char :: spell L :=
  spelled_cons _ s L

theorem spell_eq (L : Layout) : spell L = lead L ++ bare L := by
  cases L with
  | nil => rfl
  | cons s L => exact spell_cons s L

theorem all_lead (L : Layout) : (lead L).all isBlank = true := by
  cases L with
  | nil => rfl
  | cons s L => exact s.blank

theorem head?_bare (L : Layout) : (bare L).head?.any isBlank = false := by
  cases L with
  | nil => rfl
  | cons s L => exact s.visible

theorem Spelling.exists_cons (hσ : Spelling σ) (hc : isBlank c = false) :
    ∃ d w, isBlank d = false ∧ σ c = d :: w := by
  obtain ⟨d, w, hd⟩ := List.exists_cons_of_ne_nil (hσ.ne_nil c)
  exact ⟨d, w, hσ.visible c hc d (by rw [hd]; exact List.mem_cons_self), hd⟩

/-- Characters may be exchanged before the gaps are put in or after. -/
theorem Spelling.flatMap_spell (hσ : Spelling σ) (L : Layout) :
    (spell L).flatMap σ = spelled σ L := by
  have hgap {u : Text} (hu : u.all isBlank = true) : u.flatMap σ = u := by
    rw [List.flatMap_congr fun c hc => hσ.blank c (List.all_eq_true.1 hu c hc),
      List.flatMap_singleton']
  induction L with
  | nil => rfl
  | cons s L ih =>
    rw [spell_cons, List.flatMap_append, List.flatMap_cons, ih, hgap s.blank, spelled_cons]

/-- The gaps in front of the same characters can be told from the text. -/
theorem Spelling.spelled_injective (hσ : Spelling σ) (h : spelled σ L = spelled σ L')
    (hchars : L.map Spot.char = L'.map Spot.char) : L = L' := by
  induction L generalizing L' with
  | nil => exact (List.map_eq_nil_iff.1 hchars.symm).symm
  | cons s L ih =>
    cases L' with
    | nil => cases hchars
    | cons s' L' =>
      obtain ⟨hchar, hchars⟩ := List.cons.inj hchars
      rw [spelled_cons, spelled_cons, ← hchar] at h
      have hspan {t : Text} {u : Text} (hu : u.all isBlank = true) :
          (u ++ (σ s.char ++ t)).takeWhile isBlank = u := by
        obtain ⟨d, w, hd, hw⟩ := hσ.exists_cons s.visible
        rw [List.takeWhile_append_of_pos (List.all_eq_true.1 hu), hw, List.cons_append,
          List.takeWhile_cons_of_neg (by simp [hd]), List.append_nil]
      have hgap : s.gap = s'.gap := by
        rw [← hspan (t := spelled σ L) s.blank, h, hspan s'.blank]
      rw [hgap] at h
      rw [ih (List.append_cancel_left (List.append_cancel_left h)) hchars,
        Spot.ext hgap hchar]

/-! ## Layouts of a text -/

/-- Every text has a layout, and perhaps blanks behind it. -/
theorem exists_layout (t : Text) : ∃ L v, v.all isBlank = true ∧ t = spell L ++ v := by
  induction t with
  | nil => exact ⟨[], [], rfl, rfl⟩
  | cons c t ih =>
    obtain ⟨L, v, hv, rfl⟩ := ih
    cases hc : isBlank c with
    | false => exact ⟨⟨[], c, rfl, hc⟩ :: L, v, hv, by rw [spell_cons]; rfl⟩
    | true =>
      cases L with
      | nil => exact ⟨[], c :: v, by rw [List.all_cons, hc, hv]; rfl, rfl⟩
      | cons s L =>
        refine ⟨⟨c :: s.gap, s.char, ?_, s.visible⟩ :: L, v, hv, ?_⟩
        · rw [List.all_cons, hc, s.blank]
          rfl
        · rw [spell_cons, spell_cons]
          rfl

/-- There is no gap in front of all. -/
def Flush (L : Layout) : Prop := lead L = []

theorem exists_layout_of_tight (h : Tight t) : ∃ L, Flush L ∧ t = spell L := by
  obtain ⟨L, v, hv, rfl⟩ := exists_layout t
  obtain ⟨hhead, hlast⟩ := h
  obtain rfl : v = [] := by
    refine List.eq_nil_or_concat v |>.resolve_right ?_
    rintro ⟨v, c, rfl⟩
    rw [List.concat_eq_append, ← List.append_assoc, List.getLast?_concat] at hlast
    rw [List.concat_eq_append, List.all_append, Bool.and_eq_true] at hv
    simp [show isBlank c = false from hlast] at hv
  refine ⟨L, ?_, List.append_nil _⟩
  rw [List.append_nil, spell_eq] at hhead
  have hall := all_lead L
  unfold Flush
  generalize lead L = w at hhead hall
  cases w with
  | nil => rfl
  | cons c w =>
    rw [List.all_cons, Bool.and_eq_true] at hall
    rw [List.cons_append, List.head?_cons, Option.any_some, hall.1] at hhead
    cases hhead

theorem Spelling.tight_spelled (hσ : Spelling σ) (h : Flush L) : Tight (spelled σ L) := by
  have hlast (L : Layout) : (spelled σ L).getLast?.any isBlank = false := by
    induction L with
    | nil => rfl
    | cons s L ih =>
      obtain ⟨w, d, hd⟩ := (List.eq_nil_or_concat' (σ s.char)).resolve_left (hσ.ne_nil _)
      have hvisible : isBlank d = false := hσ.visible _ s.visible d (by rw [hd]; simp)
      rw [spelled_cons, ← List.append_assoc, List.getLast?_append, hd, ← List.append_assoc,
        List.getLast?_concat]
      cases hL : (spelled σ L).getLast? with
      | none => exact hvisible
      | some e => rwa [hL] at ih
  refine ⟨?_, hlast L⟩
  cases L with
  | nil => rfl
  | cons s L =>
    obtain ⟨d, w, hd, hw⟩ := hσ.exists_cons s.visible
    rw [spelled_cons, show s.gap = [] from h, hw]
    exact hd

/-! ## Squeezing -/

/-- The spot with one space for a gap, if there is any. -/
def Spot.tightened (s : Spot) : Spot where
  gap := if s.gap.isEmpty then [] else [' ']
  char := s.char
  blank := by split <;> rfl
  visible := s.visible

def tighten (L : Layout) : Layout := L.map Spot.tightened

theorem Flush.tighten (h : Flush L) : Flush (tighten L) := by
  cases L with
  | nil => rfl
  | cons s L =>
    show (if s.gap.isEmpty then [] else [' ']) = []
    rw [show s.gap = [] from h]
    rfl

theorem tighten_tighten (L : Layout) : tighten (tighten L) = tighten L := by
  have hspot (s : Spot) : s.tightened.tightened = s.tightened := by
    obtain ⟨gap, c, hgap, hc⟩ := s
    cases gap <;> rfl
  rw [tighten, tighten, List.map_map]
  exact List.map_congr_left fun s _ => hspot s

theorem map_char_tighten (L : Layout) : (tighten L).map Spot.char = L.map Spot.char := by
  rw [tighten, List.map_map]
  rfl

theorem matchAt_of_takesFirst {p : Pattern} (h : p.TakesFirst u v) (b : Text) :
    ∃ m, p.matchAt ⟨b, u ++ v⟩ = some m ∧ m.text = u := by
  refine ⟨⟨⟨b, u ++ v⟩, ⟨u.reverse ++ b, v⟩, []⟩, ?_, Cursor.upTo_eq rfl⟩
  rw [matchAt, h b [] _ _ rfl]
  rfl

theorem Spelling.squeeze_spelled (hσ : Spelling σ) (h : Flush L) :
    squeeze (spelled σ L) = spelled σ (tighten L) := by
  let f : Match → Text := fun _ => [' ']
  have hvisible {w : Text} (hw : ∀ d ∈ w, isBlank d = false) (b r : Text) :
      blanks.replaceFrom f b (w ++ r) = w ++ blanks.replaceFrom f (w.reverse ++ b) r := by
    induction w generalizing b with
    | nil => rfl
    | cons d w ih =>
      obtain ⟨hd, hw⟩ := List.forall_mem_cons.1 hw
      have hnone : blanks.matchAt ⟨b, d :: (w ++ r)⟩ = none := by
        have hfails : blanks.Fails (d :: (w ++ r)) := .of_head rfl hd
        rw [matchAt, hfails]
        rfl
      rw [List.cons_append, replaceFrom_plain hnone, ih hw]
      simp
  have hfrom (b : Text) : blanks.replaceFrom f b (spelled σ L) = spelled σ (tighten L) := by
    clear h
    induction L generalizing b with
    | nil => rfl
    | cons s L ih =>
      have hchar (b : Text) : blanks.replaceFrom f b (σ s.char ++ spelled σ L) =
          σ s.char ++ spelled σ (tighten L) := by
        rw [hvisible (hσ.visible _ s.visible), ih]
      have hspelled : spelled σ (tighten (s :: L)) =
          (if s.gap.isEmpty then [] else [' ']) ++ (σ s.char ++ spelled σ (tighten L)) :=
        spelled_cons σ s.tightened (tighten L)
      rw [spelled_cons, hspelled]
      by_cases hgap : s.gap = []
      · rw [hgap]
        exact hchar b
      · have hhead : (σ s.char ++ spelled σ L).head?.any isBlank = false := by
          obtain ⟨d, w, hd, hw⟩ := hσ.exists_cons s.visible
          rw [hw]
          exact hd
        have htakes : blanks.TakesFirst s.gap (σ s.char ++ spelled σ L) :=
          .many1 s.blank hgap hhead
        obtain ⟨m, hm, htext⟩ := matchAt_of_takesFirst htakes b
        rw [← htext] at hm hgap ⊢
        rw [replaceFrom_found hgap hm, hchar, if_neg (by simpa using hgap)]
  rw [squeeze, (hσ.tight_spelled h).trim_eq, replaceAll_eq]
  exact hfrom []

theorem squeeze_trim (t : Text) : squeeze (trim t) = squeeze t := by
  rw [squeeze, squeeze, (tight_trim t).trim_eq]

theorem squeeze_squeeze (t : Text) : squeeze (squeeze t) = squeeze t := by
  obtain ⟨L, hL, ht⟩ := exists_layout_of_tight (tight_trim t)
  rw [← squeeze_trim t, ht, spell, spelling_self.squeeze_spelled hL,
    spelling_self.squeeze_spelled hL.tighten, tighten_tighten]

/-! ## What rules look for -/

/-- A rule looks ahead for one character that is no blank, or for three digits. -/
inductive LooksAhead : Pattern → Prop
  | character {q : Char → Bool} : (∀ c, isBlank c = true → q c = false) → LooksAhead (one q)
  | digits : LooksAhead (run isDigit 3 none true)

namespace LooksAhead

variable {p : Pattern}

theorem nullable (h : LooksAhead p) : p.nullable = false := by cases h <;> rfl

theorem starts (h : LooksAhead p) (hc : isBlank c = true) : p.starts c = false := by
  cases h with
  | character hq => exact hq c hc
  | digits => exact not_isDigit_of_isBlank hc

theorem isSome_nil (h : LooksAhead p) : (p.matchAt ⟨[], []⟩).isSome = false := by
  cases h <;> rfl

theorem isSome_descend (n : ℕ) (c : Cursor) (g : Groups) :
    (descend (fun c => some (c, g)) n c).isSome = true := by
  cases n <;> rfl

/-- Whether the pattern matches does not depend on what stands in front of the place. -/
theorem exec_isSome (h : LooksAhead p) (b t : Text) (g : Groups) :
    (p.exec ⟨b, t⟩ g fun c g => some (c, g)).isSome = (p.matchAt ⟨[], t⟩).isSome := by
  rw [matchAt, Option.isSome_map]
  cases h with
  | character hq =>
    rw [exec, exec]
    cases t with
    | nil => rfl
    | cons c t =>
      dsimp only
      split <;> rfl
  | digits =>
    rw [exec, exec, climb_span, climb_span]
    dsimp only
    split
    · rw [isSome_descend, isSome_descend]
    · rfl

/-- Whether the pattern matches depends on the first character and on the digits in front alone. -/
theorem isSome_congr (h : LooksAhead p) (hhead : u.head? = t.head?)
    (hdigits : u.takeWhile isDigit = t.takeWhile isDigit) :
    (p.matchAt ⟨[], u⟩).isSome = (p.matchAt ⟨[], t⟩).isSome := by
  cases h with
  | @character q _ =>
    have hone (t : Text) : ((one q).matchAt ⟨[], t⟩).isSome = t.head?.any q := by
      rw [matchAt, Option.isSome_map, exec]
      cases t with
      | nil => rfl
      | cons c t =>
        dsimp only
        rw [List.head?_cons, Option.any_some]
        cases q c <;> rfl
    rw [hone, hone, hhead]
  | digits =>
    have hrun (t : Text) : ((run isDigit 3 none true).matchAt ⟨[], t⟩).isSome =
        decide (3 ≤ (t.takeWhile isDigit).length) := by
      rw [matchAt, Option.isSome_map, exec, climb_span, Nat.zero_add]
      dsimp only
      by_cases hlen : 3 ≤ (t.takeWhile isDigit).length
      · rw [if_pos hlen, isSome_descend, decide_eq_true hlen]
      · rw [if_neg hlen, decide_eq_false hlen]
        rfl
    rw [hrun, hrun, hdigits]

end LooksAhead

/-- What the rules have in common. -/
structure Rule.Tidy (r : Rule) : Prop where
  sign : isBlank r.sign = false
  number : isDigit r.sign = false
  before : ∀ c, isBlank c = true → r.before c = false
  after : LooksAhead r.after

theorem rules_tidy : ∀ r ∈ rules, r.Tidy := by
  have hblank (c : Char) (hc : isBlank c = true) : notBlank c = false := by simp [notBlank, hc]
  have hdigit (c : Char) : isBlank c = true → isDigit c = false := not_isDigit_of_isBlank
  have hend (c : Char) (hc : isBlank c = true) : isOperandEnd c = false := by
    have hne {d : Char} (hd : isBlank d = false) : (c == d) = false := by
      rw [beq_eq_false_iff_ne]
      rintro rfl
      rw [hc] at hd
      cases hd
    simp [isOperandEnd, hdigit c hc, hne (d := ')') (by decide), hne (d := '%') (by decide)]
  simp only [rules, List.forall_mem_cons, List.not_mem_nil, false_implies, implies_true, and_true]
  exact ⟨⟨by decide, by decide, hblank, .character hblank⟩,
    ⟨by decide, by decide, hblank, .character hblank⟩,
    ⟨by decide, by decide, hend, .character hdigit⟩,
    ⟨by decide, by decide, hdigit, .character hdigit⟩,
    ⟨by decide, by decide, hdigit, .character hdigit⟩,
    ⟨by decide, by decide, hend, .character hblank⟩,
    ⟨by decide, by decide, hend, .character hblank⟩,
    ⟨by decide, by decide, hdigit, .digits⟩⟩

namespace Rule

variable {r : Rule}

/-- Whether the text goes on as the rule wants it behind its operator. -/
def looks (r : Rule) (t : Text) : Bool := (r.after.matchAt ⟨[], t⟩).isSome

/-- Whether the rule wants blanks around `c`, behind `before` and in front of `L`. -/
def wants (r : Rule) (before : Option Char) (c : Char) (L : Layout) : Bool :=
  before.any r.before && c == r.sign && r.looks (bare L)

/-- In front of blanks, the sign of a rule and other blanks, the rule takes all of these. -/
theorem exists_matchAt (hr : r.Tidy) (hb : b.head?.any r.before = true) (hu : u.all isBlank = true)
    (hv : v.all isBlank = true) (ht : t.head?.any isBlank = false) (hlooks : r.looks t = true) :
    ∃ m, r.pattern.matchAt ⟨b, u ++ r.sign :: (v ++ t)⟩ = some m ∧ m.text = u ++ r.sign :: v := by
  have hexec : r.pattern.exec ⟨b, u ++ r.sign :: (v ++ t)⟩ [] (fun c g => some (c, g)) =
      some (⟨v.reverse ++ r.sign :: (u.reverse ++ b), t⟩, []) := by
    show (behind r.before).exec _ [] (fun c g => blanks?.exec c g fun c g =>
      (char r.sign).exec c g fun c g => blanks?.exec c g fun c g =>
        (ahead r.after).exec c g fun c g => some (c, g)) = _
    have hfront : blanks?.TakesFirst u (r.sign :: (v ++ t)) :=
      .run hu (Nat.zero_le _) nofun (.inl hr.sign)
    have hsign : (char r.sign).TakesFirst [r.sign] (v ++ t) := .char r.sign
    have hback : blanks?.TakesFirst v t := .run hv (Nat.zero_le _) nofun (.inl ht)
    rw [exec, if_pos hb]
    refine hfront b [] _ _ (hsign _ [] _ _ (hback _ [] _ _ ?_))
    have hahead : (r.after.matchAt ⟨[], t⟩).isSome = true := hlooks
    rw [exec, hr.after.exec_isSome, if_pos hahead]
    rfl
  refine ⟨⟨⟨b, u ++ r.sign :: (v ++ t)⟩, ⟨v.reverse ++ r.sign :: (u.reverse ++ b), t⟩, []⟩, ?_,
    Cursor.upTo_eq ?_⟩
  · rw [matchAt, hexec]
    rfl
  · rw [List.append_assoc]
    rfl

/-- A character is found with the blanks in front of it only if the rule wants it. -/
theorem wants_of_matchAt (hr : r.Tidy) (hu : u.all isBlank = true) (hc : isBlank c = false)
    {m : Match} (hm : r.pattern.matchAt ⟨b, u ++ c :: spell L⟩ = some m) :
    b.head?.any r.before = true ∧ c = r.sign ∧ r.looks (bare L) = true := by
  have hsplit {u u' : Text} {c c' : Char} {t t' : Text} (hu : u.all isBlank = true)
      (hu' : u'.all isBlank = true) (hc : isBlank c = false) (hc' : isBlank c' = false)
      (h : u ++ c :: t = u' ++ c' :: t') : c = c' ∧ t = t' := by
    have hdrop {u : Text} {c : Char} {t : Text} (hu : u.all isBlank = true)
        (hc : isBlank c = false) : (u ++ c :: t).dropWhile isBlank = c :: t := by
      rw [List.dropWhile_append_of_pos (List.all_eq_true.1 hu),
        List.dropWhile_cons_of_neg (by simp [hc])]
    have h := congrArg (List.dropWhile isBlank) h
    rw [hdrop hu hc, hdrop hu' hc'] at h
    exact List.cons.inj h
  obtain ⟨hb, ⟨v, w, hv, hw, htext⟩, g, hahead⟩ := matchAt_eq_some hm
  obtain ⟨d, t, hstop, hd⟩ := starts_after hm hr.after.nullable
  have hvisible : isBlank d = false := by
    rw [← Bool.not_eq_true]
    intro hblank
    rw [hr.after.starts hblank] at hd
    cases hd
  have hafter : u ++ c :: spell L = m.text ++ m.stop.after := (leads_of_matchAt hm).after
  rw [htext, List.append_assoc, List.cons_append] at hafter
  obtain ⟨hsign, hrest⟩ := hsplit hu hv hc hr.sign hafter
  rw [hr.after.exec_isSome, hstop] at hahead
  refine ⟨hb, hsign, ?_⟩
  rw [hstop, spell_eq] at hrest
  cases L with
  | nil =>
    rw [show lead [] ++ bare [] = [] from rfl] at hrest
    cases w <;> cases hrest
  | cons s L =>
    obtain ⟨hchar, hspell⟩ := hsplit s.blank hw s.visible hvisible hrest
    show (r.after.matchAt ⟨[], s.char :: spell L⟩).isSome = true
    rwa [hchar, hspell]

end Rule

/-! ## Rules on layouts -/

/-- The spot with a gap for an owed blank and one that is put in front of its character; without
either, the gap stays. -/
def Spot.spaced (s : Spot) (owed taken : Bool) : Spot :=
  if owed || taken then
    { s with
      gap := List.replicate (owed.toNat + taken.toNat) ' '
      blank := List.all_eq_true.2 fun c hc => by rw [List.eq_of_mem_replicate hc]; rfl }
  else s

namespace Rule

variable {r : Rule} {before : Option Char} {owed : Bool}

/-- Whether the rule takes a character with the blanks around it. -/
def takes (r : Rule) (before : Option Char) (owed : Bool) (s : Spot) (L : Layout) : Bool :=
  r.wants before s.char L && (!owed || s.gap.isEmpty)

/-- Applies the rule to a layout. -/
def space (r : Rule) : (before : Option Char) → (owed : Bool) → Layout → Layout
  | _, _, [] => []
  | before, owed, s :: L =>
    let taken := r.takes before owed s L
    s.spaced owed taken :: r.space (some s.char) taken L

theorem space_cons (r : Rule) (before : Option Char) (owed : Bool) (s : Spot) (L : Layout) :
    r.space before owed (s :: L) = s.spaced owed (r.takes before owed s L) ::
      r.space (some s.char) (r.takes before owed s L) L := rfl

/-- Applies the rule to a text that stands behind `b`, which is told from its end. -/
def applyFrom (r : Rule) (b t : Text) : Text :=
  r.pattern.replaceFrom (fun _ => [' ', r.sign, ' ']) b t

theorem applyFrom_wanted (hr : r.Tidy) (hb : b.head?.any r.before = true)
    (hu : u.all isBlank = true) (hlooks : r.looks (bare L) = true) :
    r.applyFrom b (u ++ r.sign :: spell L) =
      ' ' :: r.sign :: ' ' :: r.applyFrom ((u ++ r.sign :: lead L).reverse ++ b) (bare L) := by
  obtain ⟨m, hm, htext⟩ := exists_matchAt hr hb hu (all_lead L) (head?_bare L) hlooks
  have hrest : u ++ r.sign :: spell L = m.text ++ bare L := by
    rw [htext, spell_eq, List.append_assoc]
    rfl
  rw [← spell_eq, hrest] at hm
  rw [hrest, applyFrom, replaceFrom_found (by rw [htext]; simp) hm, htext]
  rfl

theorem applyFrom_unwanted (hr : r.Tidy) (hu : u.all isBlank = true) (hc : isBlank c = false)
    (h : (b.head?.any r.before && c == r.sign && r.looks (bare L)) = false) :
    r.applyFrom b (u ++ c :: spell L) =
      u ++ c :: r.applyFrom (c :: (u.reverse ++ b)) (spell L) := by
  have hnone {b u : Text} (hu : u.all isBlank = true)
      (h : (b.head?.any r.before && c == r.sign && r.looks (bare L)) = false) :
      r.pattern.matchAt ⟨b, u ++ c :: spell L⟩ = none := by
    refine Option.eq_none_iff_forall_ne_some.2 fun m hm => ?_
    obtain ⟨hb, rfl, hlooks⟩ := wants_of_matchAt hr hu hc hm
    rw [hb, hlooks, beq_self_eq_true] at h
    cases h
  induction u generalizing b with
  | nil => exact replaceFrom_plain (hnone hu h)
  | cons d u ih =>
    have hfirst : r.pattern.matchAt ⟨b, d :: (u ++ c :: spell L)⟩ = none := hnone hu h
    rw [List.all_cons, Bool.and_eq_true] at hu
    have hbefore : (d :: b).head?.any r.before = false := hr.before d hu.1
    rw [applyFrom, List.cons_append, replaceFrom_plain hfirst]
    refine congrArg (d :: ·) ((ih hu.2 (by rw [hbefore]; rfl)).trans ?_)
    simp

/-- Applying the rule in front of a layout, where it has taken the character in front or not. -/
theorem applyFrom_spell (hr : r.Tidy) (L : Layout) (before : Option Char) :
    (∀ b, b.head?.any r.before = before.any r.before →
      r.applyFrom b (spell L) = spell (r.space before false L)) ∧
    (L ≠ [] → ∀ b, b.head?.any r.before = (before.any r.before && (lead L).isEmpty) →
      ' ' :: r.applyFrom b (bare L) = spell (r.space before true L)) := by
  induction L generalizing before with
  | nil => exact ⟨fun _ _ => rfl, fun h => absurd rfl h⟩
  | cons s L ih =>
    obtain ⟨ihfree, ihowed⟩ := ih (some s.char)
    have htaken {u b : Text} (hwants : r.wants before s.char L = true) (hu : u.all isBlank = true)
        (hb : b.head?.any r.before = true) : r.applyFrom b (u ++ s.char :: spell L) =
          ' ' :: s.char :: spell (r.space (some s.char) true L) := by
      simp only [wants, Bool.and_eq_true, beq_iff_eq] at hwants
      obtain ⟨⟨-, hsign⟩, hlooks⟩ := hwants
      have hne : L ≠ [] := by
        rintro rfl
        rw [show r.looks (bare []) = false from hr.after.isSome_nil] at hlooks
        cases hlooks
      rw [hsign, applyFrom_wanted hr hb hu hlooks, ← hsign]
      refine congrArg (' ' :: s.char :: ·) (ihowed hne _ ?_)
      -- Behind what was taken, the sign is seen only if there was no gap.
      rw [List.reverse_append, List.reverse_cons]
      have hall := all_lead L
      rw [← List.all_reverse] at hall
      rw [← List.isEmpty_reverse]
      generalize (lead L).reverse = w at hall ⊢
      cases w with
      | nil => simp
      | cons d w =>
        rw [List.all_cons, Bool.and_eq_true] at hall
        simpa using hr.before d hall.1
    have hfree {u b : Text} (hwants : (b.head?.any r.before && s.char == r.sign &&
        r.looks (bare L)) = false) (hu : u.all isBlank = true) :
        r.applyFrom b (u ++ s.char :: spell L) =
          u ++ s.char :: spell (r.space (some s.char) false L) := by
      rw [applyFrom_unwanted hr hu s.visible hwants, ihfree _ rfl]
    constructor
    · intro b hb
      rw [spell_cons, space_cons, spell_cons]
      cases hwants : r.wants before s.char L with
      | true =>
        have hbefore : b.head?.any r.before = true := by
          simp only [wants, Bool.and_eq_true] at hwants
          rw [hb, hwants.1.1]
        rw [takes, hwants]
        exact htaken hwants s.blank hbefore
      | false =>
        rw [takes, hwants]
        rw [wants, ← hb] at hwants
        exact hfree hwants s.blank
    · intro _ b hb
      have hb : b.head?.any r.before = (before.any r.before && s.gap.isEmpty) := hb
      rw [space_cons, spell_cons]
      cases htakes : r.takes before true s L with
      | true =>
        rw [takes, Bool.and_eq_true] at htakes
        have hbefore : b.head?.any r.before = true := by
          have hwants := htakes.1
          simp only [wants, Bool.and_eq_true] at hwants
          rw [hb, hwants.1.1]
          exact htakes.2
        exact congrArg (' ' :: ·) (htaken (u := []) htakes.1 rfl hbefore)
      | false =>
        refine congrArg (' ' :: ·) (hfree (u := []) ?_ rfl)
        rw [hb, ← htakes, takes, wants]
        cases before.any r.before <;> cases s.gap.isEmpty <;> simp

/-- **Theorem (`Rule.apply_spell`).** Applying a rule to a text sets the gaps of its layout. -/
theorem apply_spell (hr : r.Tidy) (L : Layout) :
    r.apply (spell L) = spell (r.space none false L) :=
  (applyFrom_spell hr L none).1 [] rfl

end Rule

/-- Applies rules one after the other. -/
def spaceBy (rs : List Rule) (L : Layout) : Layout := rs.foldl (fun L r => r.space none false L) L

theorem spaceBy_cons (r : Rule) (rs : List Rule) (L : Layout) :
    spaceBy (r :: rs) L = spaceBy rs (r.space none false L) := rfl

theorem respaced_spell (L : Layout) : respaced (spell L) = spell (spaceBy rules L) := by
  have hfold {rs : List Rule} (hrs : ∀ r ∈ rs, r.Tidy) (L : Layout) :
      rs.foldl (fun t r => r.apply t) (spell L) = spell (spaceBy rs L) := by
    induction rs generalizing L with
    | nil => rfl
    | cons r rs ih =>
      obtain ⟨hr, hrs⟩ := List.forall_mem_cons.1 hrs
      rw [List.foldl_cons, Rule.apply_spell hr, ih hrs, spaceBy_cons]
  exact hfold rules_tidy L

/-! ## Gaps that are widened -/

/-- The same characters with gaps where there were gaps, and perhaps at other places, but none
between two digits. -/
inductive Widened : (before : Option Char) → Layout → Layout → Prop
  | nil {before : Option Char} : Widened before [] []
  | cons {before : Option Char} {s s' : Spot} {L L' : Layout} : s'.char = s.char →
      (s'.gap = [] → s.gap = []) →
      (before.any isDigit = true → isDigit s.char = true → s.gap = [] → s'.gap = []) →
      Widened (some s.char) L L' → Widened before (s :: L) (s' :: L')

@[simp] theorem Spot.char_spaced (s : Spot) (owed taken : Bool) :
    (s.spaced owed taken).char = s.char := by
  unfold Spot.spaced
  split <;> rfl

theorem Spot.gap_spaced (s : Spot) (owed taken : Bool) : (s.spaced owed taken).gap =
    if owed || taken then List.replicate (owed.toNat + taken.toNat) ' ' else s.gap := by
  unfold Spot.spaced
  split <;> rfl

theorem Spot.gap_spaced_eq_nil {owed taken : Bool} : (s.spaced owed taken).gap = [] ↔
    owed = false ∧ taken = false ∧ s.gap = [] := by
  rw [Spot.gap_spaced]
  cases owed <;> cases taken <;> simp

namespace Widened

variable {L₁ L₂ : Layout} {before : Option Char} {r : Rule}

theorem refl (L : Layout) (before : Option Char) : Widened before L L := by
  induction L generalizing before with
  | nil => exact .nil
  | cons s L ih => exact .cons rfl id (fun _ _ => id) (ih _)

theorem trans (h : Widened before L L₁) (h' : Widened before L₁ L₂) : Widened before L L₂ := by
  induction h generalizing L₂ with
  | nil => exact h'
  | cons hchar hgap hdigit _ ih =>
    cases h' with
    | cons hchar' hgap' hdigit' h' =>
      rw [hchar] at hchar' hdigit' h'
      exact .cons hchar' (hgap ∘ hgap') (fun hb hc hs => hdigit' hb hc (hdigit hb hc hs)) (ih h')

theorem map_char (h : Widened before L L') : L'.map Spot.char = L.map Spot.char := by
  induction h with
  | nil => rfl
  | cons hchar _ _ _ ih => rw [List.map_cons, List.map_cons, hchar, ih]

theorem tighten (L : Layout) (before : Option Char) : Widened before L (tighten L) := by
  induction L generalizing before with
  | nil => exact .nil
  | cons s L ih =>
    have hgap : s.tightened.gap = [] ↔ s.gap = [] := by
      show (if s.gap.isEmpty then [] else [' ']) = [] ↔ _
      cases s.gap <;> simp
    exact .cons rfl hgap.1 (fun _ _ => hgap.2) (ih _)

/-- The digits in front of a text are still there. -/
theorem takeWhile_isDigit (h : Widened before L L') (hb : before.any isDigit = true) :
    (spell L').takeWhile isDigit = (spell L).takeWhile isDigit := by
  have hgap {s : Spot} {L : Layout} (hs : s.gap ≠ [] ∨ isDigit s.char = false) :
      (spell (s :: L)).takeWhile isDigit = [] := by
    rw [spell_cons]
    have hblank := s.blank
    generalize s.gap = w at hs hblank
    cases w with
    | nil => rw [List.nil_append, List.takeWhile_cons_of_neg (by simp [hs.resolve_left (by simp)])]
    | cons c w =>
      rw [List.all_cons, Bool.and_eq_true] at hblank
      rw [List.cons_append, List.takeWhile_cons_of_neg (by simp [not_isDigit_of_isBlank hblank.1])]
  induction h with
  | nil => rfl
  | @cons before s s' L L' hchar hwide hdigit h ih =>
    by_cases hc : isDigit s.char = true
    · by_cases hs : s.gap = []
      · rw [spell_cons, spell_cons, hs, hdigit hb hc hs, hchar, List.nil_append, List.nil_append,
          List.takeWhile_cons_of_pos hc, List.takeWhile_cons_of_pos hc, ih hc]
      · rw [hgap (.inl hs), hgap (.inl (mt hwide hs))]
    · rw [Bool.not_eq_true] at hc
      rw [hgap (.inr hc), hgap (.inr (hchar ▸ hc))]

theorem wants_eq (hr : r.Tidy) (h : Widened before L L') (c : Char) (before' : Option Char) :
    r.wants before' c L' = r.wants before' c L := by
  have hlooks : r.looks (bare L') = r.looks (bare L) := by
    cases h with
    | nil => rfl
    | @cons _ s s' L L' hchar _ _ h =>
      refine hr.after.isSome_congr ?_ ?_
      · exact congrArg some hchar
      · rw [bare, bare, hchar, List.takeWhile_cons, List.takeWhile_cons]
        split
        · next hc => rw [h.takeWhile_isDigit hc]
        · rfl
  rw [Rule.wants, Rule.wants, hlooks]

/-- A rule puts blanks around an operator, and that is no digit. -/
theorem space (hr : r.Tidy) (L : Layout) {owed : Bool}
    (howed : owed = true → before.any isDigit = false) :
    Widened before L (r.space before owed L) := by
  induction L generalizing before owed with
  | nil => exact .nil
  | cons s L ih =>
    have htaken (htakes : r.takes before owed s L = true) : isDigit s.char = false := by
      simp only [Rule.takes, Rule.wants, Bool.and_eq_true, beq_iff_eq] at htakes
      rw [htakes.1.1.2]
      exact hr.number
    refine .cons (s.char_spaced _ _) (fun h => (Spot.gap_spaced_eq_nil.1 h).2.2) ?_ (ih htaken)
    intro hb hc hs
    refine Spot.gap_spaced_eq_nil.2 ⟨?_, ?_, hs⟩
    · rw [← Bool.not_eq_true]
      intro ho
      rw [howed ho] at hb
      cases hb
    · rw [← Bool.not_eq_true]
      intro ht
      rw [htaken ht] at hc
      cases hc

theorem spaceBy {rs : List Rule} (hrs : ∀ r ∈ rs, r.Tidy) (L : Layout) :
    Widened none L (spaceBy rs L) := by
  induction rs generalizing L with
  | nil => exact .refl L none
  | cons r rs ih =>
    obtain ⟨hr, hrs⟩ := List.forall_mem_cons.1 hrs
    exact (space hr L (by simp)).trans (ih hrs _)

end Widened

end Spacing

end Worksheet
