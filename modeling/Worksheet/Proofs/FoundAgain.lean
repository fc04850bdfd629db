import Worksheet.Proofs.Layouts

/-!
# Literals that are found again

An expression that was shown is read again, and its literals are set aside again. With wider gaps
between its characters, the words of an expression are cut short. A match in a word is the match in
the word cut short, or it reaches into what is cut off (`matchAt_cut`). So no literal comes up that
was not there before, and each is found again, as no gap is put into it (`Stands.widened`).

**Theorem (`Untaken.format_spelled`).** Whatever gaps of an expression are widened, it is shown as
the layout with its literals set aside says: the gaps are tightened, and the rules are applied.
-/

namespace Worksheet

open Text

namespace Pattern

variable {p : Pattern} {a b b' t t' w z : Text}

/-! ## Words that are cut short -/

/-- The outcome `o'` leaves what `o` leaves and then `z`, or it leaves a part of `z` only. -/
def CutTo (z : Text) (o o' : Outcome) : Prop :=
  o'.map (fun r => r.1.after) = o.map (fun r => r.1.after ++ z) ∨
    ∃ r, o' = some r ∧ r.1.after.length < z.length

/-- What leaves no more than a part of `z`. -/
def Late (z : Text) (k : Cursor → Outcome) : Prop :=
  ∀ c r, c.after.length < z.length → k c = some r → r.1.after.length < z.length

theorem Late.cutTo {k : Cursor → Outcome} (hk : Late z k) {c : Cursor}
    (hc : c.after.length < z.length) : CutTo z none (k c) := by
  cases h : k c with
  | none => exact .inl rfl
  | some r => exact .inr ⟨r, rfl, hk c r hc h⟩

/-- Where a first choice fails, the second one counts. -/
theorem CutTo.or {o₁ o₂ o₁' o₂' : Outcome} (h₁ : CutTo z o₁ o₁') (h₂ : CutTo z o₂ o₂') :
    CutTo z (o₁.or o₂) (o₁'.or o₂') := by
  rcases h₁ with h | ⟨r, rfl, hr⟩
  · cases o₁ with
    | none =>
      rw [Option.map_none, Option.map_eq_none_iff] at h
      rwa [h, Option.none_or, Option.none_or]
    | some r =>
      obtain ⟨r', rfl, hr⟩ := Option.map_eq_some_iff.1 h
      exact .inl (congrArg some hr)
  · exact .inr ⟨r, rfl, hr⟩

/-- Where a run may end in the text cut short and in the whole text. -/
theorem descend_cut {k k' : Cursor → Outcome}
    (hk : ∀ b b' a, CutTo z (k ⟨b, a⟩) (k' ⟨b', a ++ z⟩)) (hlate : Late z k') {n i : ℕ}
    (hi : i ≤ (a ++ z).length) (hn : n ≤ i) :
    CutTo z
      (if i - n ≤ a.length then
        descend k (min i a.length - (i - n)) ⟨(a.take i).reverse ++ b, a.drop i⟩ else none)
      (descend k' n ⟨((a ++ z).take i).reverse ++ b', (a ++ z).drop i⟩) := by
  have hhere {i : ℕ} (hi : i ≤ (a ++ z).length) : CutTo z
      (if i ≤ a.length then k ⟨(a.take i).reverse ++ b, a.drop i⟩ else none)
      (k' ⟨((a ++ z).take i).reverse ++ b', (a ++ z).drop i⟩) := by
    split
    · next hia =>
      rw [List.drop_append_of_le_length hia]
      exact hk _ _ _
    · next hia =>
      refine hlate.cutTo ?_
      rw [List.length_append] at hi
      rw [List.length_drop, List.length_append]
      omega
  induction n generalizing i with
  | zero =>
    have h := hhere hi
    rw [Nat.sub_zero, descend]
    split at h
    · next hia => rwa [if_pos hia, Nat.min_eq_left hia, Nat.sub_self, descend]
    · next hia => rwa [if_neg hia]
  | succ n ih =>
    obtain ⟨i, rfl⟩ : ∃ j, i = j + 1 := ⟨i - 1, by omega⟩
    have h := (hhere hi).or (ih (i := i) (by omega) (by omega))
    rw [descend_take_succ (by omega), Nat.add_sub_add_right]
    by_cases hia : i + 1 ≤ a.length
    · rw [if_pos hia, if_pos (by omega), Nat.min_eq_left (by omega), Nat.sub_sub_self (by omega)]
        at h
      rw [if_pos (by omega), Nat.min_eq_left hia,
        show i + 1 - (i - n) = n + 1 by omega, descend_take_succ hia]
      exact h
    · -- The run in the text cut short is at its end already.
      rw [if_neg hia, Option.none_or, Nat.min_eq_right (by omega),
        List.take_of_length_le (by omega), List.drop_eq_nil_of_le (by omega)] at h
      rwa [Nat.min_eq_right (by omega), List.take_of_length_le (by omega),
        List.drop_eq_nil_of_le (by omega)]

/-- A run goes as far in the text cut short as it goes in the whole text, or to the end. -/
theorem climb_cut (s : Char → Bool) (most : Option ℕ) (n : ℕ) (a b b' z : Text) :
    ∃ i ≤ (a ++ z).length,
      Cursor.climb s most n b' (a ++ z) =
        (n + i, ⟨((a ++ z).take i).reverse ++ b', (a ++ z).drop i⟩) ∧
      Cursor.climb s most n b a = (n + min i a.length, ⟨(a.take i).reverse ++ b, a.drop i⟩) := by
  induction a generalizing n b b' with
  | nil =>
    obtain ⟨i, hi, hclimb, -, -⟩ := @climb_eq s most n b' z
    exact ⟨i, hi, hclimb, by simp [Cursor.climb]⟩
  | cons c a ih =>
    by_cases hc : (s c && most != some n) = true
    · obtain ⟨i, hi, hwhole, hcut⟩ := ih (n + 1) (c :: b) (c :: b')
      refine ⟨i + 1, Nat.succ_le_succ hi, ?_, ?_⟩
      · rw [List.cons_append, Cursor.climb, if_pos hc, hwhole]
        simp [Nat.add_assoc, Nat.add_comm 1]
      · rw [Cursor.climb, if_pos hc, hcut]
        simp [Nat.add_assoc, Nat.add_comm 1, Nat.succ_min_succ]
    · refine ⟨0, Nat.zero_le _, ?_, ?_⟩
      · rw [List.cons_append, Cursor.climb, if_neg hc]
        rfl
      · rw [Cursor.climb, if_neg hc]
        simp

/-- Matching a solid pattern in a text is matching it in the text cut short, as long as it does not
reach into what is cut off. -/
theorem exec_cut (hp : p.Solid) {k k' : Cursor → Groups → Outcome}
    (hk : ∀ b b' a g g', CutTo z (k ⟨b, a⟩ g) (k' ⟨b', a ++ z⟩ g'))
    (hlate : ∀ g, Late z (k' · g)) (b b' a : Text) (g g' : Groups) :
    CutTo z (p.exec ⟨b, a⟩ g k) (p.exec ⟨b', a ++ z⟩ g' k') := by
  induction p generalizing k k' b b' a g g' with
  | nothing => exact hk b b' a g g'
  | one s =>
    rw [exec, exec]
    cases a with
    | nil =>
      cases z with
      | nil => exact .inl rfl
      | cons d z =>
        show CutTo (d :: z) none (if s d then k' ⟨d :: b', z⟩ g' else none)
        split
        · exact (hlate g').cutTo (Nat.lt_succ_self z.length)
        · exact .inl rfl
    | cons d a =>
      show CutTo z (if s d then k ⟨d :: b, a⟩ g else none)
        (if s d then k' ⟨d :: b', a ++ z⟩ g' else none)
      split
      · exact hk _ _ a g g'
      · exact .inl rfl
  | run s least most long =>
    obtain ⟨rfl, -⟩ := hp
    obtain ⟨i, hi, hwhole, hcut⟩ := climb_cut s most 0 a b b' z
    rw [exec, exec, hwhole, hcut]
    simp only [Nat.zero_add]
    by_cases hleast : least ≤ i
    · have h := @descend_cut a b b' z (k · g) (k' · g') (fun b b' a => hk b b' a g g') (hlate g')
        (i - least) i hi (Nat.sub_le i least)
      rw [Nat.sub_sub_self hleast] at h
      rw [if_pos hleast]
      split
      · next hle => rwa [if_pos (by omega)] at h
      · next hle => rwa [if_neg (by omega)] at h
    · rw [if_neg hleast, if_neg (by omega)]
      exact .inl rfl
  | seq p q ihp ihq =>
    refine ihp hp.1 (fun b b' a g g' => ihq hp.2 hk hlate b b' a g g') (fun g c r hc hr => ?_)
      b b' a g g'
    obtain ⟨w, c', g', hw, hk'⟩ := exec_eq_some hr
    have hlen := congrArg List.length hw.after
    rw [List.length_append] at hlen
    exact hlate g' c' r (by omega) hk'
  | either p q ihp ihq =>
    have hor (c : Cursor) (g : Groups) (k : Cursor → Groups → Outcome) :
        (either p q).exec c g k = (p.exec c g k).or (q.exec c g k) := by
      rw [exec]
      cases p.exec c g k <;> rfl
    rw [hor, hor]
    exact (ihp hp.1 hk hlate b b' a g g').or (ihq hp.2 hk hlate b b' a g g')
  | group | atStart | atEnd | atWordEdge | behind | ahead => exact hp.elim

/-- **Theorem (`matchAt_cut`).** A match in a text is the match in the text cut short, or it reaches
into what is cut off. -/
theorem matchAt_cut (hp : p.Solid) (b b' a z : Text) :
    (p.matchAt ⟨b', a ++ z⟩).map Match.text = (p.matchAt ⟨b, a⟩).map Match.text ∨
      ∃ w, (p.matchAt ⟨b', a ++ z⟩).map Match.text = some w ∧ a.length < w.length := by
  have hexec : CutTo z (p.exec ⟨b, a⟩ [] fun c g => some (c, g))
      (p.exec ⟨b', a ++ z⟩ [] fun c g => some (c, g)) := by
    refine exec_cut hp (fun _ _ _ _ _ => .inl rfl) (fun g c r hc hr => ?_) b b' a [] []
    cases hr
    exact hc
  have htext (c : Cursor) : (p.matchAt c).map Match.text =
      ((p.exec c [] fun c g => some (c, g)).map fun r => r.1.after).map fun r =>
        c.after.take (c.after.length - r.length) := by
    rw [matchAt, Option.map_map, Option.map_map]
    rfl
  rw [htext, htext]
  rcases hexec with h | ⟨⟨stop, g⟩, h, hstop⟩
  · left
    rw [h, Option.map_map, Option.map_map]
    refine congrArg (Option.map · _) (funext fun r => ?_)
    have hlen : (a ++ z).length - (r.1.after ++ z).length = a.length - r.1.after.length := by
      simp only [List.length_append]
      omega
    simp only [Function.comp_apply, hlen]
    exact List.take_append_of_le_length (Nat.sub_le _ _)
  · right
    rw [h]
    refine ⟨_, rfl, ?_⟩
    dsimp only at hstop ⊢
    rw [List.length_take, List.length_append]
    omega

/-- What the pattern matches at the start of the first word. -/
def firstIn (p : Pattern) (t : Text) : Option Text := (p.matchAt ⟨[], firstWord t⟩).map Match.text

theorem firstIn_of_prefix (hp : p.Solid) (h : firstWord t' <+: firstWord t) :
    p.firstIn t = p.firstIn t' ∨ ∃ w, p.firstIn t = some w ∧ (firstWord t').length < w.length := by
  obtain ⟨z, hz⟩ := h
  rw [firstIn, firstIn, ← hz]
  exact matchAt_cut hp [] [] (firstWord t') z

theorem firstWord_cons_blank {c : Char} (hc : isBlank c = true) (t : Text) :
    firstWord (c :: t) = [] := List.takeWhile_cons_of_neg (by simp [hc])

theorem firstWord_append_visible (hw : ∀ c ∈ w, isBlank c = false) (t : Text) :
    firstWord (w ++ t) = w ++ firstWord t :=
  List.takeWhile_append_of_pos fun c hc => by simp [hw c hc]

end Pattern

namespace Spacing

open Pattern

variable {σ : Char → Text} {i : ℕ} {u v : Text} {ls : List Text} {c : Char} {L L' : Layout}
  {before : Option Char}

theorem text_ne_nil {b t : Text} {m : Match} (h : protectedLiteral.matchAt ⟨b, t⟩ = some m) :
    m.text ≠ [] := by
  have hlen := (leads_of_matchAt h).spells.leastWidth_le
  rw [show protectedLiteral.leastWidth = 4 by decide] at hlen
  exact List.ne_nil_of_length_pos (by omega)

/-! ## Characters that stand in for literals -/

/-- With what `σ` puts in, the text has the literals `ls` where the characters numbered from `i` on
stand in for them, and no others. -/
inductive Stands (σ : Char → Text) : (i : ℕ) → Text → List Text → Prop
  | nil {i : ℕ} : Stands σ i [] []
  | plain {i : ℕ} {c : Char} {u : Text} {ls : List Text} : σ c = [c] →
      protectedLiteral.firstIn ((c :: u).flatMap σ) = none → Stands σ i u ls →
      Stands σ i (c :: u) ls
  | literal {i : ℕ} {u : Text} {ls : List Text} :
      protectedLiteral.firstIn ((placeholder i :: u).flatMap σ) = some (σ (placeholder i)) →
      Stands σ (i + 1) u ls → Stands σ i (placeholder i :: u) (σ (placeholder i) :: ls)

namespace Stands

/-- Setting aside finds these literals. -/
theorem setAside_eq (h : Stands σ i u ls) (b : Text) :
    setAside i (protectedLiteral.piecesFrom 0 b (u.flatMap σ)) = (u, ls) := by
  have hsolid := solid_protectedLiteral
  induction h generalizing b with
  | nil => rfl
  | @plain i c u ls hc hnone _ ih =>
    rw [firstIn, ← matchAt_firstWord hsolid b, List.flatMap_cons, hc, List.singleton_append,
      Option.map_eq_none_iff] at hnone
    rw [List.flatMap_cons, hc, List.singleton_append, piecesFrom_plain hnone, setAside, ih]
  | @literal i u ls hsome _ ih =>
    rw [firstIn, ← matchAt_firstWord hsolid b, List.flatMap_cons, Option.map_eq_some_iff] at hsome
    obtain ⟨m, hm, htext⟩ := hsome
    rw [← htext] at hm
    rw [List.flatMap_cons, ← htext, piecesFrom_found (text_ne_nil hm) hm, setAside, ih]

/-- The characters that are set stand in for the literals that are set aside. -/
theorem of_pieces (t : Text) (hplain : ∀ c, .plain c ∈ protectedLiteral.pieces t → σ c = [c])
    (hliteral : ∀ k l, (setAside i (protectedLiteral.pieces t)).2[k]? = some l →
      σ (placeholder (i + k)) = l) :
    Stands σ i (setAside i (protectedLiteral.pieces t)).1
      (setAside i (protectedLiteral.pieces t)).2 := by
  have hsolid := solid_protectedLiteral
  refine (pieces_induction_strong (p := protectedLiteral) (motive := fun _ t ps => ∀ i,
    (∀ c, .plain c ∈ ps → σ c = [c]) →
    (∀ k l, (setAside i ps).2[k]? = some l → σ (placeholder (i + k)) = l) →
    (setAside i ps).1.flatMap σ = t ∧ Stands σ i (setAside i ps).1 (setAside i ps).2)
    (fun _ _ _ _ => ⟨rfl, .nil⟩) (fun b c r ps hnone ih i hplain hliteral => ?_)
    (fun b r ps m hne hm _ ih i hplain hliteral => ?_) t i hplain hliteral).2
  · obtain ⟨htext, hstands⟩ := ih i (fun d hd => hplain d (List.mem_cons_of_mem _ hd)) hliteral
    have hc := hplain c List.mem_cons_self
    have hflat : (c :: (setAside i ps).1).flatMap σ = c :: r := by
      rw [List.flatMap_cons, hc, htext]
      rfl
    refine ⟨hflat, .plain hc ?_ hstands⟩
    rw [hflat, firstIn, ← matchAt_firstWord hsolid b, Option.map_eq_none_iff]
    exact Option.eq_none_iff_forall_ne_some.2 fun m hm => text_ne_nil hm (hnone m hm)
  · have hl : σ (placeholder i) = m.text := hliteral 0 m.text rfl
    obtain ⟨htext, hstands⟩ := ih (i + 1) (fun d hd => hplain d (List.mem_cons_of_mem _ hd))
      fun k l hk => by rw [Nat.add_assoc, Nat.add_comm 1]; exact hliteral (k + 1) l hk
    have hflat : (placeholder i :: (setAside (i + 1) ps).1).flatMap σ = m.text ++ r := by
      rw [List.flatMap_cons, hl, htext]
    refine ⟨hflat, ?_⟩
    show Stands σ i (placeholder i :: _) (m.text :: _)
    rw [← hl]
    refine .literal ?_ hstands
    rw [hflat, firstIn, ← matchAt_firstWord hsolid b, hm, hl]
    rfl

/-- No literal is looked for in blanks. -/
theorem blanks_append_iff (hσ : Spelling σ) (hv : v.all isBlank = true) :
    Stands σ i (v ++ u) ls ↔ Stands σ i u ls := by
  induction v with
  | nil => rfl
  | cons c v ih =>
    rw [List.all_cons, Bool.and_eq_true] at hv
    rw [← ih hv.2]
    constructor
    · intro h
      cases h with
      | plain _ _ h => exact h
      | literal _ _ =>
        rw [(placeholder_cases i).2] at hv
        cases hv.1
    · refine .plain (hσ.blank c hv.1) ?_
      rw [firstIn, List.flatMap_cons, hσ.blank c hv.1, List.singleton_append,
        firstWord_cons_blank hv.1]
      decide

end Stands

/-- The first word of a text is cut short if gaps are widened. -/
theorem Widened.firstWord_prefix (hσ : Spelling σ) (h : Widened before L L') :
    firstWord (spelled σ L') <+: firstWord (spelled σ L) := by
  induction h with
  | nil => exact List.prefix_rfl
  | @cons before s s' L L' hchar hgap _ _ ih =>
    rw [spelled_cons, spelled_cons, hchar]
    have hblank := s'.blank
    generalize s'.gap = v at hgap hblank
    cases v with
    | nil =>
      have hvisible := hσ.visible _ s.visible
      rw [hgap rfl, List.nil_append, List.nil_append, firstWord_append_visible hvisible,
        firstWord_append_visible hvisible]
      exact (List.prefix_append_right_inj _).2 ih
    | cons c v =>
      rw [List.all_cons, Bool.and_eq_true] at hblank
      rw [List.cons_append, firstWord_cons_blank hblank.1]
      exact List.nil_prefix

/-- The literals are the same if gaps are widened. -/
theorem Stands.widened (hσ : Spelling σ) (h : Widened before L L')
    (hs : Stands σ i (spell L) ls) : Stands σ i (spell L') ls := by
  induction h generalizing i ls with
  | nil => exact hs
  | @cons before s s' L L' hchar _ _ h ih =>
    rw [spell_cons, blanks_append_iff hσ s.blank] at hs
    rw [spell_cons, blanks_append_iff hσ s'.blank, hchar]
    have hflat (L : Layout) : (s.char :: spell L).flatMap σ = σ s.char ++ spelled σ L := by
      rw [List.flatMap_cons, hσ.flatMap_spell]
    have hvisible := hσ.visible _ s.visible
    have hprefix : firstWord ((s.char :: spell L').flatMap σ) <+:
        firstWord ((s.char :: spell L).flatMap σ) := by
      rw [hflat, hflat, firstWord_append_visible hvisible, firstWord_append_visible hvisible]
      exact (List.prefix_append_right_inj _).2 (h.firstWord_prefix hσ)
    have hfirst := firstIn_of_prefix solid_protectedLiteral hprefix
    generalize s.char = c at hs hfirst hflat hvisible
    cases hs with
    | plain hc hnone hs =>
      rw [hnone] at hfirst
      refine .plain hc (hfirst.resolve_right ?_).symm (ih hs)
      rintro ⟨w, hw, -⟩
      cases hw
    | literal hsome hs =>
      rw [hsome] at hfirst
      refine .literal (hfirst.resolve_right ?_).symm (ih hs)
      rintro ⟨w, hw, hlen⟩
      cases hw
      rw [hflat, firstWord_append_visible hvisible, List.length_append] at hlen
      omega

/-! ## What is shown of a layout -/

variable {t : Text}

/-- The literals of an expression stand in for the characters that are set in their places. -/
theorem Untaken.stands (h : Untaken t) (hfew : (literals t).length ≤ placeholderCount) :
    Stands (restored (literals t)) 0 (aside t) (literals t) := by
  refine Stands.of_pieces (squeeze t) (fun c hc => ?_) fun k l hk => ?_
  · exact restored_of_ne (fun i hi he => h.outside i hi (he ▸ hc)) hfew
  · obtain ⟨hlt, -⟩ := List.getElem?_eq_some_iff.1 hk
    rw [Nat.zero_add, restored_placeholder (hlt.trans_le hfew)]
    exact congrArg (Option.getD · _) hk

/-- **Theorem (`Untaken.format_spelled`).** An expression whose gaps are widened is shown with the
tightened gaps that the rules set where its literals are set aside. -/
theorem Untaken.format_spelled (h : Untaken t) (hfew : (literals t).length ≤ placeholderCount)
    (ht : aside t = spell L) (hL : Widened none L L') (hflush : Flush L') :
    format (spelled (restored (literals t)) L') =
      spelled (restored (literals t)) (spaceBy rules (tighten L')) := by
  have hσ := (areLiterals_literals t).spelling_restored
  have hstands : Stands (restored (literals t)) 0 (spell (tighten L')) (literals t) :=
    (ht ▸ h.stands hfew).widened hσ (hL.trans (.tighten L' none))
  rw [format, hσ.squeeze_spelled hflush, ← hσ.flatMap_spell, pieces, hstands.setAside_eq []]
  show putBack 0 (literals t) (respaced (spell (tighten L'))) = _
  rw [h.putBack_eq hfew, respaced_spell, hσ.flatMap_spell]

end Spacing

end Worksheet
