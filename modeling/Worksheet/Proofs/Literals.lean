import Worksheet.Proofs.Respacing

/-!
# Literals that are set aside

Addresses, dates and clock times are set aside while the blanks are set: each is exchanged for a
character of its own, which the rules see in its place. Putting the literals back replaces those
characters one after the other, which is the same as replacing all of them at once
(`putBack_restored`).

So a rule may be looked at with the literals in their places. It sets its blanks around the same
operator there, as a literal begins and ends with a digit (`looseBehind_apply`). Setting aside is
undone by replacing (`flatMap_setAside`), and what is shown of an expression has the tokens of the
expression (`toOption_scan_format`).

The characters that stand in for literals are of a private area. Where one of them is part of the
expression, a literal is put in for it too; `Unmixed` excludes that.
-/

namespace Worksheet

open Text

namespace Pattern

variable {p q : Pattern} {m : Match} {t w : Text} {least most : Nat}

/-! ## Digits at the ends -/

/-- All that the pattern spells begins with a digit. -/
def DigitFirst (p : Pattern) : Prop := ∀ w, p.Spells w → ∃ c u, isDigit c = true ∧ w = c :: u

/-- All that the pattern spells ends with a digit. -/
def DigitLast (p : Pattern) : Prop := ∀ w, p.Spells w → ∃ u c, isDigit c = true ∧ w = u ++ [c]

theorem DigitFirst.append (hp : p.DigitFirst) : (p ++ q).DigitFirst := by
  rintro w ⟨u, v, hu, -, rfl⟩
  obtain ⟨c, u, hc, rfl⟩ := hp u hu
  exact ⟨c, u ++ v, hc, rfl⟩

theorem DigitFirst.either (hp : p.DigitFirst) (hq : q.DigitFirst) : (p.either q).DigitFirst :=
  fun w hw => hw.elim (hp w) (hq w)

theorem DigitLast.append (hq : q.DigitLast) : (p ++ q).DigitLast := by
  rintro w ⟨u, v, -, hv, rfl⟩
  obtain ⟨v, c, hc, rfl⟩ := hq v hv
  exact ⟨u ++ v, c, hc, (List.append_assoc u v [c]).symm⟩

theorem DigitLast.append_opt (hp : p.DigitLast) (hq : q.DigitLast) : (p ++ opt q).DigitLast := by
  rintro w ⟨u, v, hu, hv | rfl, rfl⟩
  · exact hq.append (p := p) _ ⟨u, v, hu, hv, rfl⟩
  · rw [List.append_nil]
    exact hp u hu

theorem DigitLast.either (hp : p.DigitLast) (hq : q.DigitLast) : (p.either q).DigitLast :=
  fun w hw => hw.elim (hp w) (hq w)

theorem digitFirst_digits (h : 0 < least) : (times isDigit least most).DigitFirst := by
  rintro w ⟨hall, hlen, -⟩
  obtain ⟨c, u, rfl⟩ := List.exists_cons_of_ne_nil (List.ne_nil_of_length_pos (h.trans_le hlen))
  exact ⟨c, u, List.all_eq_true.1 hall c List.mem_cons_self, rfl⟩

theorem digitLast_digits (h : 0 < least) : (times isDigit least most).DigitLast := by
  rintro w ⟨hall, hlen, -⟩
  obtain ⟨u, c, rfl⟩ := (List.eq_nil_or_concat' w).resolve_left
    (List.ne_nil_of_length_pos (h.trans_le hlen))
  exact ⟨u, c, List.all_eq_true.1 hall c (by simp), rfl⟩

/-! ## Pieces -/

theorem mem_of_plain {c : Char} (h : Piece.plain c ∈ p.pieces t) : c ∈ t := by
  rw [← flatten_pieces p t]
  exact List.mem_flatMap_of_mem h List.mem_cons_self

theorem mem_of_found {c : Char} (h : Piece.found m ∈ p.pieces t) (hc : c ∈ m.text) : c ∈ t := by
  rw [← flatten_pieces p t]
  exact List.mem_flatMap_of_mem h hc

/-- What is found is what the pattern spells. -/
theorem spells_of_found (h : Piece.found m ∈ p.pieces t) : p.Spells m.text := by
  refine pieces_induction (p := p)
    (motive := fun _ _ ps => ∀ m, Piece.found m ∈ ps → p.Spells m.text) (fun _ => nofun)
    (fun b c r ps ih m hm => ?_) (fun b r ps m hne hm hs ih m' hm' => ?_) t m h
  · rcases List.mem_cons.1 hm with he | hm
    · cases he
    · exact ih m hm
  · rcases List.mem_cons.1 hm' with he | hm'
    · cases he
      exact (leads_of_matchAt hm).spells
    · exact ih m' hm'

theorem mem_findAll : m ∈ p.findAll t ↔ Piece.found m ∈ p.pieces t := by
  rw [findAll, List.mem_filterMap]
  constructor
  · rintro ⟨piece, hpiece, h⟩
    cases piece with
    | plain c => cases h
    | found m' =>
      cases h
      exact hpiece
  · exact fun h => ⟨_, h, rfl⟩

end Pattern

namespace Spacing

open Pattern Token

variable {t u w : Text} {rule : Rule} {σ : Char → Text}

/-- A literal begins and ends with a digit. -/
theorem digit_protectedLiteral : protectedLiteral.DigitFirst ∧ protectedLiteral.DigitLast := by
  have hfirst {least most : Nat} {q : Pattern} (h : 0 < least) :
      (digit least most ++ q).DigitFirst := (digitFirst_digits h).append
  have hlast {least most : Nat} {q : Pattern} (h : 0 < least) :
      (q ++ digit least most).DigitLast := (digitLast_digits h).append
  constructor
  · exact .either (hfirst Nat.one_pos).append.append.append <|
      .either (hfirst (by decide)).append.append.append <|
      .either (hfirst Nat.one_pos).append.append.append (hfirst Nat.one_pos).append.append
  · exact .either (.append_opt (.append (hlast Nat.one_pos)) (hlast Nat.one_pos)) <|
      .either (hlast Nat.one_pos) <|
      .either (hlast (by decide)) (.append_opt (hlast (by decide)) (hlast (by decide)))

/-! ## Rules with the literals in their places -/

/-- Texts for characters: those below the private area stay, and what is put in for another begins
and ends with a digit. -/
structure Restores (σ : Char → Text) : Prop where
  plain : ∀ c, c.toNat < placeholderBase → σ c = [c]
  edges : ∀ c, σ c = [c] ∨ (∃ d u, isDigit d = true ∧ σ c = d :: u) ∧
    ∃ u d, isDigit d = true ∧ σ c = u ++ [d]

namespace Restores

theorem head (h : Restores σ) {c : Char} (hc : isDigit c = true) :
    ∃ d u, isDigit d = true ∧ σ c = d :: u := by
  rcases h.edges c with hσ | ⟨hσ, -⟩
  · exact ⟨c, [], hc, hσ⟩
  · exact hσ

theorem last (h : Restores σ) {c : Char} (hc : isOperandEnd c = true) :
    ∃ u d, isOperandEnd d = true ∧ σ c = u ++ [d] := by
  rcases h.edges c with hσ | ⟨-, u, d, hd, hσ⟩
  · exact ⟨[], c, hc, hσ⟩
  · exact ⟨u, d, by simp [isOperandEnd, hd], hσ⟩

theorem blanks (h : Restores σ) (hu : u.all isBlank = true) : u.flatMap σ = u := by
  have hblank : ∀ c ∈ u, σ c = [c] := fun c hc => by
    have hb := List.all_eq_true.1 hu c hc
    refine h.plain c ?_
    simp only [isBlank, Bool.or_eq_true, Bool.and_eq_true, beq_iff_eq, decide_eq_true_eq] at hb
    rw [placeholderBase]
    omega
  rw [List.flatMap_congr hblank, List.flatMap_singleton']

end Restores

/-- A rule sets its blanks around an operator, also with the literals in their places. -/
theorem looseBehind_apply (hσ : Restores σ) (hrule : rule ∈ rules) (t : Text) :
    LooseBehind [] (t.flatMap σ) ((rule.apply t).flatMap σ) := by
  -- What stands in front of a place, nearest first, with the literals in their places.
  let front (b : Text) : Text := (b.reverse.flatMap σ).reverse
  have hfront (w b : Text) : front (w.reverse ++ b) = (w.flatMap σ).reverse ++ front b := by
    simp [front]
  obtain ⟨⟨hblank, hdigit⟩, hsign⟩ := rules_operator rule hrule
  have hplain : σ rule.sign = [rule.sign] :=
    hσ.plain _ ((by decide : ∀ rule ∈ rules, rule.sign.toNat < placeholderBase) rule hrule)
  have hspaced {u v : Text} (hu : u.all isBlank = true) (hv : v.all isBlank = true) :
      (u ++ rule.sign :: v).flatMap σ = u ++ rule.sign :: v := by
    rw [List.flatMap_append, List.flatMap_cons, hσ.blanks hu, hσ.blanks hv, hplain]
    rfl
  refine replaceAll_induction (p := rule.pattern) (f := fun _ => [' ', rule.sign, ' '])
    (motive := fun b t u => LooseBehind (front b) (t.flatMap σ) (u.flatMap σ))
    (fun _ => .nil) (fun b c r u h => ?_) (fun b r u m _ hm hr h => ?_) t
  · have hc := hfront [c] b
    rw [List.flatMap_singleton] at hc
    rw [List.flatMap_cons, List.flatMap_cons]
    exact .prepend (σ c) (hc ▸ h)
  · obtain ⟨hb, ⟨v, w, hv, hw, htext⟩, -⟩ := Rule.matchAt_eq_some hm
    have hflat : m.text.flatMap σ = m.text := htext ▸ hspaced hv hw
    rw [hfront, hflat] at h
    have hspace : [' ', rule.sign, ' '].flatMap σ = [' ', rule.sign, ' '] :=
      hspaced (u := [' ']) (v := [' ']) rfl rfl
    rw [List.flatMap_append, List.flatMap_append, hflat, hspace]
    refine .append ?_ h
    rw [htext]
    refine .operator (p := [' ']) (q := [' ']) hblank hdigit (fun hbefore hbehind => ?_) hv hw rfl
      rfl
    rcases hsign with hsign | rfl
    · exact hsign _ _
    · obtain ⟨d, s, hds, hd⟩ := Rule.starts_after hm rfl
      rw [hr] at hds
      obtain ⟨d, x, hd, hσd⟩ := hσ.head hd
      have hbehind' : r.flatMap σ = d :: (x ++ s.flatMap σ) := by
        rw [hds, List.flatMap_cons, hσd, List.cons_append]
      cases b with
      | nil => cases hb
      | cons c b =>
        obtain ⟨y, e, he, hσc⟩ := hσ.last hb
        have hbefore' : front (c :: b) = e :: (y.reverse ++ front b) := by
          have hc := hfront [c] b
          rw [List.flatMap_singleton, hσc] at hc
          simpa using hc
        rw [hbefore'] at hbefore ⊢
        rw [hbehind'] at hbehind ⊢
        exact isOperator_cross he hd hbefore hbehind

/-! ## Literals that are put back -/

/-- How many characters there are from the first that stands in for a literal. -/
def placeholderCount : Nat := 0x110000 - placeholderBase

/-- What stands for a character once the literals are put back. -/
def restored (literals : List Text) (c : Char) : Text :=
  if c.toNat < placeholderBase then [c] else (literals[c.toNat - placeholderBase]?).getD [c]

variable {ls done rest : List Text} {i : Nat} {c : Char}

theorem toNat_placeholder (h : i < placeholderCount) :
    (placeholder i).toNat = placeholderBase + i := by
  rw [placeholderCount] at h
  have hvalid : Nat.isValidChar (placeholderBase + i) := by
    refine .inr ⟨?_, ?_⟩ <;> rw [placeholderBase] at * <;> omega
  rw [placeholder, Char.toNat_ofNat, if_pos hvalid]

theorem eq_placeholder_iff (h : i < placeholderCount) :
    c = placeholder i ↔ c.toNat = placeholderBase + i := by
  rw [← Char.toNat_inj, toNat_placeholder h]

theorem restored_placeholder (h : i < placeholderCount) :
    restored ls (placeholder i) = ls[i]?.getD [placeholder i] := by
  rw [restored, toNat_placeholder h, if_neg (by omega), Nat.add_sub_cancel_left]

/-- A character that stands in for no literal stays. -/
theorem restored_of_ne (h : ∀ i < ls.length, c ≠ placeholder i)
    (hlen : ls.length ≤ placeholderCount) : restored ls c = [c] := by
  rw [restored]
  split
  · rfl
  · next hc =>
    have hnone : ls.length ≤ c.toNat - placeholderBase := by
      by_contra hlt
      refine h _ (Nat.lt_of_not_le hlt) ((eq_placeholder_iff (by omega)).2 ?_)
      omega
    rw [List.getElem?_eq_none hnone, Option.getD_none]

/-- Replaces a character by a literal. -/
def putIn (x : Char) (literal : Text) (t : Text) : Text :=
  t.flatMap fun c => if c == x then literal else [c]

theorem putIn_of_notMem {x : Char} {literal : Text} (h : x ∉ t) : putIn x literal t = t := by
  have hstay : ∀ c ∈ t, (if c == x then literal else [c]) = [c] := fun c hc => by
    rw [if_neg]
    rw [beq_iff_eq]
    rintro rfl
    exact h hc
  rw [putIn, List.flatMap_congr hstay, List.flatMap_singleton']

/-- One more literal is put in where those before it are in their places. -/
theorem putIn_restored {literal : Text} (hlen : done.length < placeholderCount)
    (hfree : ∀ l ∈ done, placeholder done.length ∉ l) (c : Char) :
    putIn (placeholder done.length) literal (restored done c) = restored (done ++ [literal]) c := by
  have hsingle : putIn (placeholder done.length) literal [c] =
      if c = placeholder done.length then literal else [c] := by simp [putIn]
  by_cases hc : c = placeholder done.length
  · subst hc
    rw [restored_placeholder hlen, restored_placeholder hlen, List.getElem?_eq_none (Nat.le_refl _),
      Option.getD_none, hsingle, if_pos rfl, List.getElem?_concat_length, Option.getD_some]
  · rw [eq_placeholder_iff hlen] at hc
    rw [restored, restored]
    split
    · rw [hsingle, if_neg (by rwa [eq_placeholder_iff hlen])]
    · cases hw : done[c.toNat - placeholderBase]? with
      | some w =>
        obtain ⟨hidx, hget⟩ := List.getElem?_eq_some_iff.1 hw
        rw [List.getElem?_append_left hidx, hw, Option.getD_some, putIn_of_notMem]
        exact hfree w (hget ▸ List.getElem_mem hidx)
      | none =>
        have hidx := List.getElem?_eq_none_iff.1 hw
        have hnone : (done ++ [literal])[c.toNat - placeholderBase]? = none := by
          rw [List.getElem?_eq_none_iff, List.length_append, List.length_singleton]
          omega
        rw [hnone, Option.getD_none, hsingle, if_neg (by rwa [eq_placeholder_iff hlen])]

/-- Putting back one literal after the other is putting back all of them at once, if nothing stands
in for a literal inside those before it. -/
theorem putBack_restored (hfew : (done ++ rest).length ≤ placeholderCount)
    (hfree : ∀ i < (done ++ rest).length, ∀ l ∈ (done ++ rest).take i, placeholder i ∉ l)
    (t : Text) : putBack done.length rest (t.flatMap (restored done)) =
      t.flatMap (restored (done ++ rest)) := by
  induction rest generalizing done with
  | nil => rw [putBack, List.append_nil]
  | cons l rest ih =>
    have hlen : done.length < (done ++ l :: rest).length := by simp
    have hdone : ∀ w ∈ done, placeholder done.length ∉ w := by
      simpa using hfree done.length hlen
    have hstep (c : Char) : putIn (placeholder done.length) l (restored done c) =
        restored (done ++ [l]) c := putIn_restored (hlen.trans_le hfew) hdone c
    have hput : (t.flatMap (restored done)).flatMap (fun c =>
        if c == placeholder done.length then l else [c]) = t.flatMap (restored (done ++ [l])) := by
      rw [List.flatMap_assoc]
      exact List.flatMap_congr fun c _ => hstep c
    rw [putBack, hput]
    simpa using @ih (done ++ [l]) (by simpa using hfew) (by simpa using hfree)

/-- Setting aside is undone by putting back. -/
theorem flatMap_setAside {ps : List Pattern.Piece}
    (hlen : (done ++ (setAside done.length ps).2).length ≤ placeholderCount)
    (hplain : ∀ c, .plain c ∈ ps → restored (done ++ (setAside done.length ps).2) c = [c]) :
    (setAside done.length ps).1.flatMap (restored (done ++ (setAside done.length ps).2)) =
      ps.flatMap Pattern.Piece.text := by
  induction ps generalizing done with
  | nil => rfl
  | cons piece ps ih =>
    cases piece with
    | plain c =>
      have hrest := ih hlen fun c hc => hplain c (List.mem_cons_of_mem _ hc)
      show (c :: (setAside done.length ps).1).flatMap (restored _) = _
      rw [List.flatMap_cons, hplain c List.mem_cons_self]
      exact congrArg ([c] ++ ·) hrest
    | found m =>
      have hnext : (done ++ [m.text]) ++ (setAside (done ++ [m.text]).length ps).2 =
          done ++ (setAside done.length (.found m :: ps)).2 := by
        rw [List.length_append, List.append_assoc]
        rfl
      have hself : restored (done ++ (setAside done.length (.found m :: ps)).2)
          (placeholder done.length) = m.text := by
        have hlt : done.length < (done ++ (setAside done.length (.found m :: ps)).2).length := by
          rw [List.length_append]
          exact Nat.lt_add_of_pos_right (Nat.succ_pos _)
        rw [restored_placeholder (hlt.trans_le hlen), List.getElem?_append_right (Nat.le_refl _),
          Nat.sub_self]
        rfl
      have hrest := @ih (done ++ [m.text]) (hnext ▸ hlen) fun c hc =>
        hnext ▸ hplain c (List.mem_cons_of_mem _ hc)
      rw [hnext, List.length_append] at hrest
      show (placeholder done.length :: (setAside (done.length + 1) ps).1).flatMap (restored _) = _
      rw [List.flatMap_cons, hself]
      exact congrArg (m.text ++ ·) hrest

theorem mem_setAside {ps : List Pattern.Piece} {l : Text} (h : l ∈ (setAside i ps).2) :
    ∃ m, .found m ∈ ps ∧ m.text = l := by
  induction ps generalizing i with
  | nil => cases h
  | cons piece ps ih =>
    cases piece with
    | plain c =>
      obtain ⟨m, hm, rfl⟩ := ih h
      exact ⟨m, List.mem_cons_of_mem _ hm, rfl⟩
    | found m =>
      rcases List.mem_cons.1 h with rfl | h
      · exact ⟨m, List.mem_cons_self, rfl⟩
      · obtain ⟨m, hm, rfl⟩ := ih h
        exact ⟨m, List.mem_cons_of_mem _ hm, rfl⟩

/-! ## What is shown -/

/-- The literals of an expression. -/
def literals (t : Text) : List Text := (setAside 0 (protectedLiteral.pieces (squeeze t))).2

/-- An expression with its literals set aside. -/
def aside (t : Text) : Text := (setAside 0 (protectedLiteral.pieces (squeeze t))).1

/-- Every rule applied to a text. -/
def respaced (t : Text) : Text := rules.foldl (fun t r => r.apply t) t

theorem format_eq (t : Text) : format t = putBack 0 (literals t) (respaced (aside t)) := rfl

/-- A character that stands in for a literal is no character of the expression outside its literals,
nor of a literal before. -/
structure Untaken (t : Text) : Prop where
  outside : ∀ i < (literals t).length, .plain (placeholder i) ∉ protectedLiteral.pieces (squeeze t)
  inside : ∀ i < (literals t).length, ∀ l ∈ (literals t).take i, placeholder i ∉ l

namespace Untaken

theorem putBack_eq (h : Untaken t) (hfew : (literals t).length ≤ placeholderCount) (u : Text) :
    putBack 0 (literals t) u = u.flatMap (restored (literals t)) := by
  have hnone : u.flatMap (restored []) = u := by
    have hstay (c : Char) : restored [] c = [c] :=
      restored_of_ne (fun i hi => absurd hi (Nat.not_lt_zero i)) (Nat.zero_le _)
    rw [List.flatMap_congr fun c _ => hstay c, List.flatMap_singleton']
  have hall := @putBack_restored [] (literals t) hfew h.inside u
  rwa [hnone] at hall

theorem format_eq (h : Untaken t) (hfew : (literals t).length ≤ placeholderCount) :
    format t = (respaced (aside t)).flatMap (restored (literals t)) := h.putBack_eq hfew _

theorem flatMap_aside (h : Untaken t) (hfew : (literals t).length ≤ placeholderCount) :
    (aside t).flatMap (restored (literals t)) = squeeze t := by
  have hplain : ∀ c, .plain c ∈ protectedLiteral.pieces (squeeze t) →
      restored (literals t) c = [c] := fun c hc =>
    restored_of_ne (fun i hi he => h.outside i hi (he ▸ hc)) hfew
  rw [← flatten_pieces protectedLiteral (squeeze t)]
  exact @flatMap_setAside [] _ hfew hplain

end Untaken

/-- There are characters to stand in for the literals of an expression, and the expression holds
none of them. -/
structure Unmixed (t : Text) : Prop where
  few : (literals t).length ≤ placeholderCount
  free : ∀ i < (literals t).length, placeholder i ∉ t

theorem mem_squeeze (h : c ∈ squeeze t) : c = ' ' ∨ c ∈ t := by
  have hall := replaceAll_induction (p := blanks) (f := fun _ => [' '])
    (motive := fun _ t u => ∀ c ∈ u, c = ' ' ∨ c ∈ t) (fun _ => nofun)
    (fun b d r u ih c hc => ?_) (fun b r u m _ _ _ ih c hc => ?_) (trim t) c h
  · exact hall.imp_right mem_of_mem_trim
  · rcases List.mem_cons.1 hc with rfl | hc
    · exact .inr List.mem_cons_self
    · exact (ih c hc).imp_right (List.mem_cons_of_mem d)
  · rcases List.mem_cons.1 hc with rfl | hc
    · exact .inl rfl
    · exact (ih c hc).imp_right (List.mem_append_right m.text)

theorem Unmixed.notMem_squeeze (h : Unmixed t) (hi : i < (literals t).length) :
    placeholder i ∉ squeeze t := by
  intro hm
  rcases mem_squeeze hm with he | hm
  · have hblank := (placeholder_cases i).2
    rw [he] at hblank
    cases hblank
  · exact h.free i hi hm

theorem literals_eq_nil (h : protectedLiteral.findAll (squeeze t) = []) : literals t = [] := by
  refine List.eq_nil_iff_forall_not_mem.2 fun l hl => ?_
  obtain ⟨m, hm, -⟩ := mem_setAside hl
  have hfind := mem_findAll.2 hm
  rw [h] at hfind
  cases hfind

/-- An expression without literals mixes nothing up. -/
theorem Unmixed.of_literals (h : literals t = []) : Unmixed t where
  few := by rw [h]; exact Nat.zero_le _
  free i hi := by rw [h] at hi; cases hi

theorem Unmixed.untaken (h : Unmixed t) : Untaken t where
  outside i hi hmem := h.notMem_squeeze hi (mem_of_plain hmem)
  inside i hi l hl hmem := by
    obtain ⟨m, hm, rfl⟩ := mem_setAside (List.mem_of_mem_take hl)
    exact h.notMem_squeeze hi (mem_of_found hm hmem)

theorem restores_literals (t : Text) : Restores (restored (literals t)) where
  plain c hc := if_pos hc
  edges c := by
    rw [restored]
    split
    · exact .inl rfl
    · cases hl : (literals t)[c.toNat - placeholderBase]? with
      | none => exact .inl rfl
      | some l =>
        obtain ⟨m, hm, rfl⟩ := mem_setAside (List.mem_of_getElem? hl)
        obtain ⟨hfirst, hlast⟩ := digit_protectedLiteral
        exact .inr ⟨hfirst _ (spells_of_found hm), hlast _ (spells_of_found hm)⟩

/-- What is shown of an expression has the tokens of the expression. -/
theorem toOption_scan_format (h : Unmixed t) :
    (scan (format t)).toOption = (scan t).toOption := by
  let σ := restored (literals t)
  have hfold {rs : List Rule} (hrs : ∀ rule ∈ rs, rule ∈ rules) (u : Text) :
      (scanFrom (normalize ((rs.foldl (fun t r => r.apply t) u).flatMap σ))).toOption =
        (scanFrom (normalize (u.flatMap σ))).toOption := by
    induction rs generalizing u with
    | nil => rfl
    | cons rule rs ih =>
      obtain ⟨hrule, hrs⟩ := List.forall_mem_cons.1 hrs
      rw [List.foldl_cons, ih hrs,
        toOption_scanFrom (looseBehind_apply (restores_literals t) hrule u)]
  rw [scan, scan, (tight_format t).trim_eq, h.untaken.format_eq h.few, respaced,
    hfold fun _ => id, h.untaken.flatMap_aside h.few, toOption_scanFrom (looseBehind_squeeze t)]

-- A character that stands in for the literal behind it becomes that literal, and a number.
example : format "\uE000+2024-1-2".toList = "2024-1-2+2024-1-2".toList := by decide +kernel

end Spacing

end Worksheet
