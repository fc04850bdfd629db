import Worksheet.Proofs.Lowering
import Worksheet.Proofs.Replacing
import Worksheet.Proofs.Rewriting
import Worksheet.Spacing

/-!
# What is shown of an expression

Setting blanks exchanges parts of an expression that hold no sign of a comparison for others that
hold none (`Patched`): runs of blanks, operators with the blanks around them, and the literals that
are set aside and put back. So the expression that is shown, like the typed one, has no equals sign
that a line is cut at, no comment, and no blanks at its ends.
-/

namespace Worksheet

open Text Reference

/-! ## Texts without blanks at the ends -/

/-- No blank stands at an end of the text. -/
def Tight (t : Text) : Prop := t.head?.any isBlank = false ∧ t.getLast?.any isBlank = false

theorem dropWhile_of_head? {p : Char → Bool} {t : Text} (h : t.head?.any p = false) :
    t.dropWhile p = t := by
  cases t with
  | nil => rfl
  | cons c r => rw [List.dropWhile_cons, if_neg (by simpa using h)]

theorem Tight.trim_eq {t : Text} (h : Tight t) : trim t = t := by
  rw [trim, trimBy, dropWhile_of_head? h.1,
    dropWhile_of_head? (by rw [List.head?_reverse]; exact h.2),
    List.reverse_reverse]

theorem tight_trim (t : Text) : Tight (trim t) := by
  have hlast {u : Text} : (trimRight u).getLast?.any isBlank = false := by
    rw [trimRight, trimRightBy, List.getLast?_reverse]
    exact head?_dropWhile_any
  refine ⟨?_, hlast⟩
  have hhead : (trimLeft t).head?.any isBlank = false := head?_dropWhile_any
  show (trimRight (trimLeft t)).head?.any isBlank = false
  exact head?_any_of_append hhead (trimRight_append (trimLeft t)).symm

theorem mem_of_mem_trim {t : Text} {c : Char} (h : c ∈ trim t) : c ∈ t := by
  have hright : c ∈ trimLeft t := by
    rw [← trimRight_append (trimLeft t)]
    exact List.mem_append_left _ h
  exact (List.dropWhile_sublist isBlank).subset hright

/-- Where a text has no blank at an end, neither has the other; `c` counts as the last character of
the empty text. -/
def KeepsEnds (t u : Text) : Prop :=
  (t.head?.any isBlank = false → u.head?.any isBlank = false) ∧
    ∀ c, isBlank (t.getLastD c) = false → isBlank (u.getLastD c) = false

namespace KeepsEnds

variable {t u v w : Text}

theorem tight (h : KeepsEnds t u) (ht : Tight t) : Tight u := by
  have hlast {v : Text} : v.getLast?.any isBlank = false ↔ isBlank (v.getLastD 'a') = false := by
    rw [List.getLastD_eq_getLast?]
    cases v.getLast? with
    | none => exact iff_of_true rfl (by decide)
    | some c => rfl
  exact ⟨h.1 ht.1, hlast.2 (h.2 _ (hlast.1 ht.2))⟩

theorem refl (t : Text) : KeepsEnds t t := ⟨id, fun _ => id⟩

theorem cons (c : Char) (h : KeepsEnds t u) : KeepsEnds (c :: t) (c :: u) :=
  ⟨id, fun d hd => by
    rw [List.getLastD_cons] at hd ⊢
    exact h.2 c hd⟩

theorem of_eq (hhead : u.head? = t.head?) (hlast : u.getLast? = t.getLast?) : KeepsEnds t u := by
  refine ⟨fun h => hhead ▸ h, fun c hc => ?_⟩
  rw [List.getLastD_eq_getLast?] at hc ⊢
  rwa [hlast]

theorem getLastD_append (w t : Text) (c : Char) :
    (w ++ t).getLastD c = t.getLastD (w.getLastD c) := by
  induction w generalizing c with
  | nil => rfl
  | cons d w ih => rw [List.cons_append, List.getLastD_cons, List.getLastD_cons, ih]

/-- A part without blanks is put in. -/
theorem append (hne : v ≠ []) (hv : ∀ c ∈ v, isBlank c = false) (h : KeepsEnds t u) :
    KeepsEnds (w ++ t) (v ++ u) := by
  obtain ⟨c, v, rfl⟩ := List.exists_cons_of_ne_nil hne
  have hlast : isBlank (v.getLastD c) = false := hv _ (List.getLastD_mem_cons)
  refine ⟨fun _ => hv c List.mem_cons_self, fun d hd => ?_⟩
  rw [getLastD_append] at hd ⊢
  rw [List.getLastD_cons]
  refine h.2 _ ?_
  rw [List.getLastD_eq_getLast?] at hd ⊢
  cases hl : t.getLast? with
  | none => exact hlast
  | some x =>
    rw [hl] at hd
    exact hd

/-- Blanks are put in for blanks. -/
theorem append_blanks (hw : ∀ c ∈ w, isBlank c = true) (hne : w ≠ [])
    (hv : ∀ c ∈ v, isBlank c = true) (hne' : v ≠ []) (h : KeepsEnds t u) :
    KeepsEnds (w ++ t) (v ++ u) := by
  obtain ⟨c, w, rfl⟩ := List.exists_cons_of_ne_nil hne
  obtain ⟨c', v, rfl⟩ := List.exists_cons_of_ne_nil hne'
  have hlast : isBlank (w.getLastD c) = true := hw _ (List.getLastD_mem_cons)
  refine ⟨fun hh => ?_, fun d hd => ?_⟩
  · rw [List.cons_append, List.head?_cons, Option.any_some, hw c List.mem_cons_self] at hh
    cases hh
  · rw [getLastD_append, List.getLastD_cons] at hd ⊢
    refine h.2 _ ?_
    rw [List.getLastD_eq_getLast?] at hd ⊢
    cases hl : t.getLast? with
    | none =>
      rw [hl, Option.getD_none, hlast] at hd
      cases hd
    | some x =>
      rw [hl] at hd
      exact hd

end KeepsEnds

/-! ## Where a line is cut -/

namespace Line

variable {t u a b : Text}

/-- A text that goes on with anything but an equals sign is cut where its front is cut, or behind
that. -/
theorem cutResult_append_of_head (hu : u.head? ≠ some '=') : cutResult (t ++ u) =
    match cutResult t with
    | some p => some (p.1, p.2 ++ u)
    | none => (cutResult u).map fun p => (t ++ p.1, p.2) := by
  induction h : t.length using Nat.strongRecOn generalizing t with
  | ind n ih =>
    cases t with
    | nil => simp [cutResult]
    | cons c r =>
      have hhead : ((r ++ u).head? == some '=') = (r.head? == some '=') := by
        cases r with
        | nil => simpa using hu
        | cons d r => rfl
      rw [List.cons_append, cutResult_cons, cutResult_cons, hhead]
      split
      · next hp =>
        simp only [Bool.and_eq_true, beq_iff_eq] at hp
        obtain ⟨r, rfl⟩ := List.head?_eq_some_iff.1 hp.2
        rw [List.cons_append, List.tail_cons, List.tail_cons,
          ih r.length (by rw [← h, List.length_cons, List.length_cons]; omega) rfl]
        cases cutResult r with
        | none => simp [Function.comp_def]
        | some p => rfl
      · split
        · rfl
        · rw [ih r.length (by simp [← h]) rfl]
          cases cutResult r with
          | none => simp [Function.comp_def]
          | some p => rfl

/-- What stands in front of the cut is not cut itself. -/
theorem cutResult_left (h : cutResult t = some (a, b)) : cutResult a = none := by
  induction hn : t.length using Nat.strongRecOn generalizing t a with
  | ind n ih =>
    cases t with
    | nil => cases h
    | cons c r =>
      rw [cutResult_cons] at h
      split at h
      · next hp =>
        simp only [Bool.and_eq_true, beq_iff_eq] at hp
        obtain ⟨r, rfl⟩ := List.head?_eq_some_iff.1 hp.2
        obtain ⟨⟨a', b'⟩, hr, he⟩ := Option.map_eq_some_iff.1 h
        cases he
        rw [cutResult_cons, if_pos (by simp [hp.1]), List.tail_cons,
          ih r.length (by rw [← hn, List.length_cons, List.length_cons]; omega) hr rfl]
        rfl
      · next hp =>
        split at h
        · cases h
          rfl
        · next hc =>
          obtain ⟨⟨a', b'⟩, hr, he⟩ := Option.map_eq_some_iff.1 h
          cases he
          have hhead : ¬(opensComparison c && a'.head? == some '=') = true := by
            cases a' with
            | nil => simp
            | cons d a' =>
              rw [cutResult_append hr] at hp
              exact hp
          rw [cutResult_cons, if_neg hhead, if_neg hc, ih r.length (by simp [← hn]) hr rfl]
          rfl

theorem opensComparison_of_isBlank {c : Char} (h : isBlank c = true) :
    opensComparison c = false := by
  refine Bool.eq_false_iff.2 fun ho => ?_
  simp only [opensComparison, Bool.or_eq_true, beq_iff_eq] at ho
  rcases ho with ((rfl | rfl) | rfl) | rfl <;> exact absurd h (by decide)

theorem cutResult_trim (h : cutResult t = none) : cutResult (trim t) = none := by
  have hleft : cutResult (trimLeft t) = none := by
    rw [← List.takeWhile_append_dropWhile (p := isBlank) (l := t), cutResult_append_left] at h
    · exact Option.map_eq_none_iff.1 h
    · exact fun c hc => opensComparison_of_isBlank (List.all_eq_true.1 List.all_takeWhile c hc)
  have hblank : ((trimLeft t).reverse.takeWhile isBlank).reverse.all isBlank = true := by
    rw [List.all_reverse]
    exact List.all_takeWhile
  rw [← trimRight_append (trimLeft t), cutResult_append_of_head] at hleft
  · show cutResult (trimRight (trimLeft t)) = none
    cases hc : cutResult (trimRight (trimLeft t)) with
    | none => rfl
    | some p =>
      rw [hc] at hleft
      cases hleft
  · intro hhead
    have := List.all_eq_true.1 hblank _ (List.mem_of_mem_head? hhead)
    exact absurd this (by decide)

end Line

theorem notMem_splitComment (l : Text) : '#' ∉ (Line.splitComment l).1 := by
  unfold Line.splitComment
  split
  · next h => exact cutAt_eq_none.1 h
  · next h => exact notMem_of_cutAt h

theorem mem_of_mem_splitComment {l : Text} {c : Char} (h : c ∈ (Line.splitComment l).1) : c ∈ l := by
  unfold Line.splitComment at h
  split at h
  · exact h
  · next hcut =>
    rw [cutAt_append hcut]
    exact List.mem_append_left _ h

/-! ## Patches -/

namespace Spacing

/-- A character that a patch may hold: no sign of a comparison, of a comment or of a new line. -/
def isInert (c : Char) : Bool := !opensComparison c && c != '#' && c != '\n'

/-- One text becomes the other by exchanging parts that hold no sign of a comparison. What is put in
is inert. -/
inductive Patched : Text → Text → Prop
  | nil : Patched [] []
  | keep (c : Char) {r s : Text} : Patched r s → Patched (c :: r) (c :: s)
  | patch {w v r s : Text} : w ≠ [] → v ≠ [] → (∀ c ∈ w, opensComparison c = false) →
      (∀ c ∈ v, isInert c = true) → Patched r s → Patched (w ++ r) (v ++ s)

namespace Patched

variable {t t' : Text}

theorem ne_nil (h : Patched t t') (ht : t ≠ []) : t' ≠ [] := by
  cases h with
  | nil => exact ht
  | keep => simp
  | patch _ hw' => simp [hw']

/-- A character that is not inert is one of the text before. -/
theorem mem (h : Patched t t') {c : Char} (hc : isInert c = false) (hm : c ∈ t') : c ∈ t := by
  induction h with
  | nil => exact hm
  | keep d _ ih =>
    rcases List.mem_cons.1 hm with rfl | hm
    · exact List.mem_cons_self
    · exact List.mem_cons_of_mem _ (ih hm)
  | patch _ _ _ hw' _ ih =>
    rcases List.mem_append.1 hm with hm | hm
    · rw [hw' c hm] at hc
      cases hc
    · exact List.mem_append_right _ (ih hm)

theorem opensComparison_of_inert {c : Char} (h : isInert c = true) : opensComparison c = false := by
  simp only [isInert, Bool.and_eq_true, Bool.not_eq_true'] at h
  exact h.1.1

theorem head?_eq (h : Patched t t') : (t'.head? == some '=') = (t.head? == some '=') := by
  have hpatch {w r : Text} (hne : w ≠ []) (hw : ∀ c ∈ w, opensComparison c = false) :
      ((w ++ r).head? == some '=') = false := by
    obtain ⟨c, w, rfl⟩ := List.exists_cons_of_ne_nil hne
    have hc := hw c List.mem_cons_self
    simp only [List.cons_append, List.head?_cons, beq_eq_false_iff_ne, ne_eq, Option.some.injEq]
    rintro rfl
    cases hc
  cases h with
  | nil => rfl
  | keep => rfl
  | patch hne hne' hw hw' =>
    rw [hpatch hne hw, hpatch hne' fun c hc => opensComparison_of_inert (hw' c hc)]

/-- Patches bring no equals sign that the text is cut at. -/
theorem cutResult_eq_none (h : Patched t t') (ht : Line.cutResult t = none) :
    Line.cutResult t' = none := by
  induction hn : t.length using Nat.strongRecOn generalizing t t' with
  | ind n ih =>
    cases h with
    | nil => exact ht
    | @keep c r s h =>
      rw [cutResult_cons] at ht ⊢
      rw [h.head?_eq]
      split at ht
      · next hp =>
        rw [if_pos hp]
        simp only [Bool.and_eq_true, beq_iff_eq] at hp
        obtain ⟨r, rfl⟩ := List.head?_eq_some_iff.1 hp.2
        have hs : Patched r s.tail := by
          generalize hq : '=' :: r = q at h
          cases h with
          | nil => cases hq
          | keep => cases hq; assumption
          | @patch w _ _ _ hne _ hw =>
            obtain ⟨d, w, rfl⟩ := List.exists_cons_of_ne_nil hne
            have hd := hw d List.mem_cons_self
            rw [← (List.cons.inj hq).1] at hd
            cases hd
        rw [List.tail_cons, Option.map_eq_none_iff] at ht
        rw [ih r.length (by rw [← hn, List.length_cons, List.length_cons]; omega) hs ht rfl]
        rfl
      · next hp =>
        rw [if_neg hp]
        split at ht
        · cases ht
        · next hc =>
          rw [Option.map_eq_none_iff] at ht
          rw [if_neg hc, ih r.length (by simp [← hn]) h ht rfl]
          rfl
    | @patch w w' r s hne hne' hw hw' h =>
      rw [cutResult_append_left hw, Option.map_eq_none_iff] at ht
      rw [cutResult_append_left fun c hc => opensComparison_of_inert (hw' c hc)]
      have hpos := List.length_pos_iff.2 hne
      rw [ih r.length (by rw [← hn, List.length_append]; omega) h ht rfl]
      rfl

/-- Replacing patches a text, where what is replaced and what is put in are parts of a patch. -/
theorem replaceAll {p : Pattern} {f : Match → Text} (t : Text)
    (h : ∀ b r m, m.text ≠ [] → p.matchAt ⟨b, m.text ++ r⟩ = some m →
      f m ≠ [] ∧ (∀ c ∈ m.text, opensComparison c = false) ∧ ∀ c ∈ f m, isInert c = true) :
    Patched t (p.replaceAll f t) := by
  refine Pattern.replaceAll_induction (motive := fun _ t u => Patched t u) (fun _ => .nil)
    (fun b c r u hr => .keep c hr) (fun b r u m hne hm _ hr => ?_) t
  obtain ⟨hf, hw, hi⟩ := h b r m hne hm
  exact .patch hne hf hw hi hr

end Patched

/-! ## What the rules find -/

open Pattern

section Rules

variable {rule : Rule} {b t : Text} {m : Match}

/-- A rule finds its operator with blanks around it, behind a character of its class and in front of
what it looks ahead for. -/
theorem Rule.matchAt_eq_some (h : rule.pattern.matchAt ⟨b, t⟩ = some m) :
    b.head?.any rule.before = true ∧
      (∃ u v, u.all isBlank = true ∧ v.all isBlank = true ∧ m.text = u ++ rule.sign :: v) ∧
        ∃ g, (rule.after.exec ⟨m.text.reverse ++ b, m.stop.after⟩ g fun c g => some (c, g)).isSome =
          true := by
  have hblanks {c : Cursor} {g : Groups} {k : Cursor → Groups → Pattern.Outcome}
      {o : Cursor × Groups} (h : blanks?.exec c g k = some o) : ∃ w c' g', w.all isBlank = true ∧
        c.after = w ++ c'.after ∧ k c' g' = some o := by
    obtain ⟨w, c', g', hw, hk⟩ := exec_eq_some h
    exact ⟨w, c', g', hw.spells.1, hw.after, hk⟩
  have hleads := leads_of_matchAt h
  have ht : t = m.text ++ m.stop.after := hleads.after
  rw [← show m.stop.before = m.text.reverse ++ b from hleads.before]
  obtain ⟨⟨stop, g⟩, ho, hm⟩ := Option.map_eq_some_iff.1 h
  have hstop : m.stop = stop := by rw [← hm]
  rw [hstop] at ht ⊢
  have ho : (behind rule.before).exec ⟨b, t⟩ [] (fun c g => blanks?.exec c g fun c g =>
      (char rule.sign).exec c g fun c g => blanks?.exec c g fun c g =>
        (ahead rule.after).exec c g fun c g => some (c, g)) = some (stop, g) := ho
  rw [exec] at ho
  split at ho
  · next hb =>
    refine ⟨hb, ?_⟩
    obtain ⟨u, c₁, g₁, hu, ha₁, ho⟩ := hblanks ho
    rw [char, exec] at ho
    split at ho
    · cases ho
    · next x r hx =>
      split at ho
      · next hs =>
        obtain ⟨v, c₂, g₂, hv, ha₂, ho⟩ := hblanks ho
        rw [exec] at ho
        split at ho
        · next hahead =>
          cases ho
          have ha₁ : t = u ++ c₁.after := ha₁
          have ha₂ : r = v ++ stop.after := ha₂
          refine ⟨⟨u, v, hu, hv, List.append_cancel_right (ht.symm.trans ?_)⟩, g, hahead⟩
          rw [ha₁, hx, ha₂, beq_iff_eq.1 hs, List.append_assoc, List.cons_append]
        · cases ho
      · cases ho
  · cases ho

/-- Behind what a rule finds the text goes on with what the rule looks ahead for. -/
theorem Rule.starts_after (h : rule.pattern.matchAt ⟨b, t⟩ = some m)
    (hn : rule.after.nullable = false) :
    ∃ c r, m.stop.after = c :: r ∧ rule.after.starts c = true := by
  obtain ⟨-, -, g, hg⟩ := Rule.matchAt_eq_some h
  obtain ⟨o, ho⟩ := Option.isSome_iff_exists.1 hg
  rcases starts_of_exec ho with ⟨hn', -⟩ | hs
  · rw [hn'] at hn
    cases hn
  · exact hs

/-- What the rules put in is inert, and they look ahead for at least one character. -/
theorem rules_inert : ∀ rule ∈ rules, isInert rule.sign = true ∧ rule.after.nullable = false := by
  decide

theorem patched_apply (hrule : rule ∈ rules) (t : Text) : Patched t (rule.apply t) := by
  have hsign := (rules_inert rule hrule).1
  refine .replaceAll t fun b r m _ hm => ⟨by simp, ?_, ?_⟩
  · obtain ⟨-, ⟨u, v, hu, hv, htext⟩, -⟩ := Rule.matchAt_eq_some hm
    rw [htext]
    intro c hc
    simp only [List.mem_append, List.mem_cons] at hc
    rcases hc with hc | rfl | hc
    · exact Line.opensComparison_of_isBlank (List.all_eq_true.1 hu c hc)
    · exact Patched.opensComparison_of_inert hsign
    · exact Line.opensComparison_of_isBlank (List.all_eq_true.1 hv c hc)
  · intro c hc
    simp only [List.mem_cons, List.not_mem_nil, or_false] at hc
    rcases hc with rfl | rfl | rfl
    · rfl
    · exact hsign
    · rfl

/-- A rule changes no end of a text. -/
theorem Rule.ends_apply (hn : rule.after.nullable = false) (t : Text) :
    (rule.apply t).head? = t.head? ∧ (rule.apply t).getLast? = t.getLast? := by
  have hends := replaceAll_induction (p := rule.pattern) (f := fun _ => [' ', rule.sign, ' '])
    (motive := fun b t u => (b = [] → u.head? = t.head?) ∧ u.getLast? = t.getLast?)
    (fun b => ⟨fun _ => rfl, rfl⟩)
    (fun b c r u hu => ⟨fun _ => rfl, by rw [List.getLast?_cons, List.getLast?_cons, hu.2]⟩)
    (fun b r u m _ hm hr hu => ?_) t
  · exact ⟨hends.1 rfl, hends.2⟩
  · obtain ⟨hb, -, -⟩ := Rule.matchAt_eq_some hm
    obtain ⟨c, r', hstop, -⟩ := Rule.starts_after hm hn
    refine ⟨?_, ?_⟩
    · rintro rfl
      cases hb
    · have hlast : r.getLast?.isSome = true := by
        rw [← hr, hstop, List.getLast?_cons]
        rfl
      obtain ⟨d, hd⟩ := Option.isSome_iff_exists.1 hlast
      rw [List.getLast?_append, List.getLast?_append, hu.2, hd]
      rfl

end Rules

/-! ## Blanks -/

theorem matchAt_blanks {b t : Text} {m : Match} (h : blanks.matchAt ⟨b, t⟩ = some m) :
    ∀ c ∈ m.text, isBlank c = true :=
  List.all_eq_true.1 (leads_of_matchAt h).spells.1

theorem patched_squeeze (t : Text) : Patched (trim t) (squeeze t) := by
  refine .replaceAll (trim t) fun b r m _ hm => ⟨by simp, fun c hc => ?_,
    List.forall_mem_singleton.2 (by decide)⟩
  exact Line.opensComparison_of_isBlank (matchAt_blanks hm c hc)

theorem keepsEnds_squeeze (t : Text) : KeepsEnds (trim t) (squeeze t) := by
  refine replaceAll_induction (motive := fun _ t u => KeepsEnds t u) (fun _ => .refl [])
    (fun b c r u h => h.cons c) (fun b r u m hne hm _ h => ?_) (trim t)
  exact h.append_blanks (matchAt_blanks hm) hne (List.forall_mem_singleton.2 (by decide)) (by simp)

/-! ## Literals -/

/-- The characters of protected literals. -/
def isLiteral (c : Char) : Bool := isDigit c || c == '.' || c == '/' || c == '-' || c == ':'

theorem within_protectedLiteral : protectedLiteral.Within fun c => isLiteral c = true := by
  have hdigit (least most : Nat) : (digit least most).Within fun c => isLiteral c = true :=
    fun c hc => by simp [isLiteral, hc]
  have hmark {d : Char} (hd : isLiteral d = true) : (char d).Within fun c => isLiteral c = true :=
    fun c hc => by rwa [beq_iff_eq.1 hc]
  have hseq {p q : Pattern} (hp : p.Within fun c => isLiteral c = true)
    (hq : q.Within fun c => isLiteral c = true) : (p ++ q).Within fun c => isLiteral c = true :=
    ⟨hp, hq⟩
  have hdot : (char '.' ++ digit 1 3).Within fun c => isLiteral c = true :=
    hseq (hmark rfl) (hdigit 1 3)
  exact ⟨hseq (hseq (hseq (hseq (hdigit 1 3) hdot) hdot) hdot)
      ⟨hseq (hmark rfl) (hdigit 1 2), trivial⟩,
    hseq (hseq (hseq (hseq (hdigit 4 4) (hmark rfl)) (hdigit 1 2)) (hmark rfl)) (hdigit 1 2),
    hseq (hseq (hseq (hseq (hdigit 1 2) (hmark rfl)) (hdigit 1 2)) (hmark rfl)) (hdigit 2 4),
    hseq (hseq (hseq (hdigit 1 2) (hmark rfl)) (hdigit 2 2))
      ⟨hseq (hmark rfl) (hdigit 2 2), trivial⟩⟩

theorem isLiteral_cases {c : Char} (h : isLiteral c = true) :
    isInert c = true ∧ isBlank c = false := by
  rw [isLiteral, Bool.or_eq_true, Bool.or_eq_true, Bool.or_eq_true, Bool.or_eq_true] at h
  rcases h with (((hd | h) | h) | h) | h
  · have hne {d : Char} (hd' : isDigit d = false) : c ≠ d := by
      rintro rfl
      rw [hd] at hd'
      cases hd'
    refine ⟨?_, not_isBlank_of_isDigit hd⟩
    simp [isInert, opensComparison_of_isDigit hd, hne (d := '#') (by decide),
      hne (d := '\n') (by decide)]
  all_goals
    rw [beq_iff_eq.1 h]
    decide

theorem placeholder_cases (i : Nat) : isInert (placeholder i) = true ∧
    isBlank (placeholder i) = false := by
  have hn : (placeholder i).toNat = placeholderBase + i ∨ (placeholder i).toNat = 0 := toNat_ofNat _
  rw [placeholderBase] at hn
  generalize placeholder i = c at hn ⊢
  have hne {d : Char} (hd : 0 < d.toNat ∧ d.toNat < 0xE000) : c ≠ d := by
    rintro rfl
    omega
  constructor
  · simp [isInert, opensComparison, hne (d := '<') (by decide), hne (d := '>') (by decide),
      hne (d := '=') (by decide), hne (d := '!') (by decide), hne (d := '#') (by decide),
      hne (d := '\n') (by decide)]
  · simp only [isBlank, Bool.or_eq_false_iff, Bool.and_eq_false_iff, beq_eq_false_iff_ne,
      decide_eq_false_iff_not]
    omega

/-- Literals that can be put back. -/
def AreLiterals (literals : List Text) : Prop :=
  ∀ l ∈ literals, l ≠ [] ∧ ∀ c ∈ l, isLiteral c = true

theorem setAside_spec (t : Text) (i : Nat) :
    let aside := setAside i (protectedLiteral.pieces t)
    Patched t aside.1 ∧ KeepsEnds t aside.1 ∧ AreLiterals aside.2 := by
  refine pieces_induction (motive := fun _ t ps => ∀ i, Patched t (setAside i ps).1 ∧
    KeepsEnds t (setAside i ps).1 ∧ AreLiterals (setAside i ps).2) ?_ ?_ ?_ t i
  · exact fun b i => ⟨.nil, .refl [], nofun⟩
  · intro b c r ps h i
    obtain ⟨hp, hk, hl⟩ := h i
    exact ⟨.keep c hp, hk.cons c, hl⟩
  · intro b r ps m hne hm _ h i
    obtain ⟨hp, hk, hl⟩ := h (i + 1)
    obtain ⟨hinert, hblank⟩ := placeholder_cases i
    have htext := (leads_of_matchAt hm).spells.within within_protectedLiteral
    refine ⟨.patch (v := [placeholder i]) hne (by simp) ?_ (by simpa using hinert) hp,
      hk.append (v := [placeholder i]) (by simp) (by simpa using hblank),
      List.forall_mem_cons.2 ⟨⟨hne, htext⟩, hl⟩⟩
    exact fun c hc => Patched.opensComparison_of_inert (isLiteral_cases (htext c hc)).1

/-- A literal is put in for each of its placeholders. -/
theorem replaced_placeholder {literal : Text} (hne : literal ≠ [])
    (hl : ∀ c ∈ literal, isLiteral c = true) (i : Nat) (t : Text) :
    let u := t.flatMap fun c => if c == placeholder i then literal else [c]
    Patched t u ∧ KeepsEnds t u := by
  induction t with
  | nil => exact ⟨.nil, .refl []⟩
  | cons c t ih =>
    obtain ⟨hp, hk⟩ := ih
    dsimp only at hp hk ⊢
    rw [List.flatMap_cons]
    split
    · next hc =>
      refine ⟨.patch (w := [c]) (by simp) hne ?_ (fun d hd => (isLiteral_cases (hl d hd)).1) hp,
        hk.append (w := [c]) hne fun d hd => (isLiteral_cases (hl d hd)).2⟩
      rw [beq_iff_eq.1 hc]
      simpa using Patched.opensComparison_of_inert (placeholder_cases i).1
    · exact ⟨.keep c hp, hk.cons c⟩

/-! ## What is shown -/

/-- What is shown of an expression comes about by patches that bring no blanks to the ends. -/
theorem format_induction {motive : Text → Prop} (t : Text) (start : motive (trim t))
    (step : ∀ u v, Patched u v → KeepsEnds u v → motive u → motive v) : motive (format t) := by
  have hsqueeze : motive (squeeze t) := step _ _ (patched_squeeze t) (keepsEnds_squeeze t) start
  obtain ⟨hp, hk, hl⟩ := setAside_spec (squeeze t) 0
  have hrules {rs : List Rule} (hrs : ∀ rule ∈ rs, rule ∈ rules) {u : Text} (hu : motive u) :
      motive (rs.foldl (fun t r => r.apply t) u) := by
    induction rs generalizing u with
    | nil => exact hu
    | cons rule rs ih =>
      obtain ⟨hrule, hrs⟩ := List.forall_mem_cons.1 hrs
      obtain ⟨hhead, hlast⟩ := rule.ends_apply (rules_inert rule hrule).2 u
      exact ih hrs (step _ _ (patched_apply hrule u) (.of_eq hhead hlast) hu)
  have hback {literals : List Text} (hl : AreLiterals literals) (i : Nat) {u : Text}
      (hu : motive u) : motive (putBack i literals u) := by
    induction literals generalizing i u with
    | nil => exact hu
    | cons literal literals ih =>
      obtain ⟨⟨hne, hchars⟩, hl⟩ := List.forall_mem_cons.1 hl
      obtain ⟨hp, hk⟩ := replaced_placeholder hne hchars i u
      exact ih hl (i + 1) (step _ _ hp hk hu)
  exact hback hl 0 (hrules (fun _ => id) (step _ _ hp hk hsqueeze))

theorem tight_format (t : Text) : Tight (format t) :=
  format_induction t (tight_trim t) fun _ _ _ hk h => hk.tight h

/-! ## Expressions that are read again -/

/-- A text that is read again as an expression when it stands in front of an equals sign. -/
structure Rereadable (t : Text) : Prop where
  ne_nil : t ≠ []
  tight : Tight t
  uncut : Line.cutResult t = none
  uncommented : '#' ∉ t
  single : '\n' ∉ t

namespace Rereadable

variable {t u : Text}

theorem patched (h : Rereadable t) (hp : Patched t u) (hk : KeepsEnds t u) : Rereadable u where
  ne_nil := hp.ne_nil h.ne_nil
  tight := hk.tight h.tight
  uncut := hp.cutResult_eq_none h.uncut
  uncommented hm := h.uncommented (hp.mem (by decide) hm)
  single hm := h.single (hp.mem (by decide) hm)

/-- What is shown of an expression is read again as one. -/
theorem format (h : Rereadable t) : Rereadable (format t) :=
  format_induction t (h.tight.trim_eq.symm ▸ h) fun _ _ hp hk hu => hu.patched hp hk

/-- The expression of a line is one that is read again. -/
theorem of_expressionOf {l comment : Text} (h : Document.expressionOf? l = some (t, comment))
    (hl : '\n' ∉ l) : Rereadable t := by
  obtain ⟨-, hne, a, b, hcut, rfl⟩ := cutResult_of_expressionOf h
  have hsub : ∀ c ∈ trim a, c ∈ (Line.splitComment l).1 := fun c hc => by
    rw [Line.cutResult_append hcut]
    exact List.mem_append_left _ (mem_of_mem_trim hc)
  refine ⟨hne, tight_trim a, Line.cutResult_trim (Line.cutResult_left hcut), ?_, ?_⟩
  · exact fun hm => notMem_splitComment l (hsub _ hm)
  · exact fun hm => hl (mem_of_mem_splitComment (hsub _ hm))

end Rereadable

end Spacing

end Worksheet
