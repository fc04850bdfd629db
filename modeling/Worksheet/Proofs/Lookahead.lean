import Worksheet.Proofs.Copying
import Worksheet.Proofs.Idempotence

/-!
# References to lines further down

Evaluation resolves a reference against the lines in front of it. A copy of a document takes the
values from all of its lines, so a reference to the line itself or to one further down gives way to
a value in the copy although it fails in the document.

**Theorem (`Document.resolveReferences_iff`).** The copy is the text that evaluation would resolve
exactly if no line refers to itself or to a line further down that has a value or a date.

What stands for a line begins with a character of a number, and a reference that stays begins with
a backslash. So two copies that differ in one reference differ from its first character on
(`Parts`), and no later line makes up for it.
-/

namespace Worksheet

open Text Result

/-! ## Texts that part at once -/

/-- Two texts are the same, or differ in their first characters. -/
def Parts (a b : Text) : Prop := a = b ∨ a ≠ [] ∧ b ≠ [] ∧ a.head? ≠ b.head?

theorem Parts.append_inj {a b x y : Text} (h : Parts a b) : a ++ x = b ++ y ↔ a = b ∧ x = y := by
  rcases h with rfl | ⟨ha, hb, hne⟩
  · simp
  · refine ⟨fun he => absurd ?_ hne, fun ⟨h, hxy⟩ => by rw [h, hxy]⟩
    have hhead := congrArg List.head? he
    rwa [List.head?_append_of_ne_nil _ ha, List.head?_append_of_ne_nil _ hb] at hhead

namespace Reference

variable {d d' : Text → Text} {t u x y : Text}

/-- Texts for references that part at once can be told from the whole. -/
theorem fill_append_inj (hd : ∀ u, Parts (d u) (d' u)) :
    fill d t ++ x = fill d' t ++ y ↔ (∀ u ∈ runs t, d u = d' u) ∧ x = y := by
  induction t using pieces_induction with
  | nil => simp [fill_nil, runs, pieces]
  | run u r hne hu hr ih =>
    rw [fill_run hne hu hr, fill_run hne hu hr, List.append_assoc, List.append_assoc,
      (hd u).append_inj, ih, runs_run hne hu hr, List.forall_mem_cons, and_assoc]
  | char c r hc ih =>
    rw [fill_cons hc, fill_cons hc, List.cons_append, List.cons_append, List.cons_inj_right, ih,
      runs_cons hc]

end Reference

/-- A line behind the first `k` ones is out of their sight. -/
theorem Earlier.seen_take (e : Earlier) (k n : Nat) :
    Earlier.seen (e.take k) n = if n ≤ k then e.seen n else {} := by
  unfold Earlier.seen Earlier.line?
  cases n with
  | zero => simp
  | succ n =>
    simp only [Nat.add_one_ne_zero, if_false, Nat.add_sub_cancel, List.getElem?_take,
      Nat.add_one_le_iff]
    split <;> rfl

namespace Document

variable {s : Surroundings} {k : Nat} {E : Earlier} {t t' : Text} {ls : List Text}
  {es : List EvaluatedLine}

/-! ## Copies -/

/-- The lines of a text with values in place of references. The line behind `k` lines that count is
filled with what `front k` has; output lines stay. -/
def copied (front : Nat → Earlier) (k : Nat) : List Text → List Text
  | [] => []
  | l :: ls =>
    if Line.isOutput l then l :: copied front k ls
    else Reference.fill (copies (front k)) l :: copied front (k + 1) ls

theorem copied_const (E : Earlier) (k : Nat) (ls : List Text) : copied (fun _ => E) k ls =
    ls.map fun l => if Line.isOutput l then l else Reference.fill (copies E) l := by
  induction ls generalizing k with
  | nil => rfl
  | cons l ls ih =>
    rw [copied, List.map_cons]
    split <;> rw [ih]

theorem flatMap_newline {ps : List Text} (h : ps ≠ []) :
    ps.flatMap (fun p => '\n' :: p) = '\n' :: unlines ps := by
  obtain ⟨p, ps, rfl⟩ := List.exists_cons_of_ne_nil h
  rw [Line.unlines_cons]
  rfl

theorem forall_getElem?_cons {P : Nat → Text → Prop} {l : Text} :
    (∀ i l', (l :: ls)[i]? = some l' → P i l') ↔ P 0 l ∧ ∀ i l', ls[i]? = some l' → P (i + 1) l' := by
  refine ⟨fun h => ⟨h 0 l rfl, fun i l' hi => h (i + 1) l' hi⟩, fun ⟨h0, h⟩ i l' hi => ?_⟩
  cases i with
  | zero =>
    cases hi
    exact h0
  | succ i => exact h i l' hi

/-- Copies whose texts for references part at once are the same if these texts are. -/
theorem unlines_copied_inj {front front' : Nat → Earlier}
    (h : ∀ k u, Parts (copies (front k) u) (copies (front' k) u)) :
    unlines (copied front k ls) = unlines (copied front' k ls) ↔
      ∀ i l, (Line.counted ls)[i]? = some l →
        ∀ u ∈ Reference.runs l, copies (front (k + i)) u = copies (front' (k + i)) u := by
  have hflat : (copied front k ls).flatMap (fun p => '\n' :: p) =
        (copied front' k ls).flatMap (fun p => '\n' :: p) ↔
      ∀ i l, (Line.counted ls)[i]? = some l →
        ∀ u ∈ Reference.runs l, copies (front (k + i)) u = copies (front' (k + i)) u := by
    induction ls generalizing k with
    | nil => simp [copied, Line.counted]
    | cons l ls ih =>
      rw [copied, copied, Line.counted, List.filter_cons]
      cases hl : Line.isOutput l with
      | true => simpa using! ih
      | false =>
        have hshift (i : Nat) : k + 1 + i = k + (i + 1) := by omega
        simp only [Bool.not_false, if_true, Bool.false_eq_true, if_false, List.flatMap_cons,
          List.cons_append, List.cons_inj_right, Reference.fill_append_inj (h k), ih, hshift]
        exact (forall_getElem?_cons (P := fun i l => ∀ u ∈ Reference.runs l,
          copies (front (k + i)) u = copies (front' (k + i)) u)).symm
  cases ls with
  | nil => simp [copied, Line.counted]
  | cons l ls =>
    have hne (front : Nat → Earlier) : copied front k (l :: ls) ≠ [] := by
      rw [copied]
      split <;> exact List.cons_ne_nil _ _
    rw [← hflat, flatMap_newline (hne _), flatMap_newline (hne _), List.cons_inj_right]

/-! ## What a line cannot see -/

/-- A line behind `k` others refers to itself or to a line further down, and that line has a value
or a date. -/
def RefersAhead (E : Earlier) (k : Nat) (l : Text) : Prop :=
  ∃ digits ∈ Reference.runs l, ∃ n, Reference.line digits = .ok n ∧ k < n ∧
    ((E.seen n).display?).isSome = true

/-- A reference is filled from the lines in front as from all lines, if it does not lead ahead. -/
theorem copies_take {digits : Text} (h : ¬∃ n, Reference.line digits = .ok n ∧ k < n ∧
    ((E.seen n).display?).isSome = true) : copies (E.take k) digits = copies E digits := by
  unfold copies Reference.written
  cases hn : Reference.line digits with
  | error err => rfl
  | ok n =>
    simp only [Except.toOption, Option.bind_some, Earlier.seen_take]
    split
    · rfl
    · next hk =>
      have hnone : (E.seen n).display? = none := by
        by_contra hne
        exact h ⟨n, hn, by omega, Option.isSome_iff_ne_none.2 hne⟩
      rw [hnone]
      rfl

/-- A reference that leads ahead gives way to a text that begins with no backslash, or it stays. -/
theorem parts_copies (hE : ∀ n w, (E.seen n).display? = some w → w.head?.any Amount.isShown = true)
    (k : Nat) (digits : Text) : Parts (copies E digits) (copies (E.take k) digits) ∧
      (copies E digits = copies (E.take k) digits ↔ ¬∃ n, Reference.line digits = .ok n ∧ k < n ∧
        ((E.seen n).display?).isSome = true) := by
  by_cases h : ∃ n, Reference.line digits = .ok n ∧ k < n ∧ ((E.seen n).display?).isSome = true
  · obtain ⟨n, hn, hk, hsome⟩ := h
    obtain ⟨w, hw⟩ := Option.isSome_iff_exists.1 hsome
    have hstays : copies (E.take k) digits = '\\' :: digits := by
      simp [copies, Reference.written, hn, Except.toOption, Earlier.seen_take, Nat.not_le.2 hk,
        Outcome.display?]
    obtain ⟨c, r, rfl⟩ : ∃ c r, w = c :: r := List.exists_cons_of_ne_nil (by rintro rfl; cases hE n _ hw)
    have hne : c ≠ '\\' := by
      rintro rfl
      cases hE n _ hw
    rw [hstays, copies_eq hn hw]
    exact ⟨.inr ⟨by simp, by simp, by simpa using hne⟩,
      iff_of_false (by simpa using fun hc => absurd hc hne) fun hnot => hnot ⟨n, hn, hk, hsome⟩⟩
  · rw [copies_take h]
    exact ⟨.inl rfl, iff_of_true rfl h⟩

/-- **A copy is filled as evaluation would fill it, unless a reference leads ahead.** A text with
values in place of references is that of its lines, each filled with the values of all lines. It is
the text of the lines filled with the values in front of each, as evaluation has them, exactly if no
line refers to itself or to a line further down that has a value or a date. -/
theorem resolveReferences_iff (h : evaluate s 0 (lines t) = .ok es) :
    (resolveReferences s t = .ok t' ↔
      (∀ l ∈ Line.logical t, ∀ digits ∈ Reference.runs l, digits.length ≤ Literal.maxDigits) ∧
        t' = unlines (copied (fun _ => es.map (·.outcome)) 0 (lines t))) ∧
    (unlines (copied (fun _ => es.map (·.outcome)) 0 (lines t)) =
        unlines (copied (es.map (·.outcome)).take 0 (lines t)) ↔
      ∀ k l, (Line.logical t)[k]? = some l → ¬RefersAhead (es.map (·.outcome)) k l) := by
  have hE : ∀ n w, (Earlier.seen (es.map (·.outcome)) n).display? = some w →
      w.head?.any Amount.isShown = true := fun _ _ => head_display h
  refine ⟨?_, ?_⟩
  · rw [copied_const, resolveReferences_eq_ok h]
  · rw [unlines_copied_inj fun k u => (parts_copies hE k u).1]
    refine forall_congr' fun k => forall_congr' fun l => imp_congr_right fun _ => ?_
    simp only [Nat.zero_add, (parts_copies hE k _).2, RefersAhead, not_exists, not_and]

/-- A reference to the line below fails in the document and gives way to its value in the copy. -/
theorem resolveReferences_below :
    let s : Surroundings := ⟨⟨0, none, false, by decide⟩, .fixed⟩
    let t := "\\2 + 1 =\n5 =".toList
    ∃ es, evaluate s 0 (lines t) = .ok es ∧ es.map (·.output) =
        ["\\2 + 1 = ERR".toList, "5 = 5".toList] ∧
      resolveReferences s t = .ok "5 + 1 =\n5 =".toList ∧
      unlines (copied (es.map (·.outcome)).take 0 (lines t)) = t ∧
      resolveReferences s t ≠ .ok t := by
  intro s t
  obtain ⟨es, h⟩ := exists_eq_ok (show (evaluate s 0 (lines t)).toOption.isSome = true by
    decide +kernel)
  have hes : (evaluate s 0 (lines t)).toOption.map
      (·.map fun r => (r.output, r.outcome.display?)) =
        some [("\\2 + 1 = ERR".toList, none), ("5 = 5".toList, some "5".toList)] := by decide +kernel
  have hcopy : resolveReferences s t = .ok "5 + 1 =\n5 =".toList :=
    eq_ok_of_toOption (show (resolveReferences s t).toOption = some _ by decide +kernel)
  rw [h] at hes
  obtain ⟨r₁, rest, rfl, hr₁, hrest⟩ := List.map_eq_cons_iff.1 (Option.some.inj hes)
  obtain ⟨r₂, rest, rfl, hr₂, hnil⟩ := List.map_eq_cons_iff.1 hrest
  obtain rfl := List.map_eq_nil_iff.1 hnil
  obtain ⟨houtput₁, -⟩ := Prod.mk.inj hr₁
  obtain ⟨houtput₂, hdisplay⟩ := Prod.mk.inj hr₂
  have hahead : RefersAhead ([r₁, r₂].map (·.outcome)) 0 "\\2 + 1 =".toList := by
    have hruns : Reference.runs "\\2 + 1 =".toList = [['2']] := by cbv
    refine ⟨['2'], hruns ▸ List.mem_singleton_self _, 2, rfl, by decide, ?_⟩
    show (r₂.outcome.display?).isSome = true
    rw [hdisplay]
    rfl
  -- Behind no line, the reference stays.
  have hstays : unlines (copied (([r₁, r₂].map (·.outcome)).take) 0 (lines t)) = t := by
    have hfirst : Reference.fill (copies []) "\\2 + 1 =".toList = "\\2 + 1 =".toList :=
      (Reference.fill_run (u := ['2']) (r := " + 1 =".toList) (by decide) rfl rfl).trans
        (by rw [Reference.fill_of_notMem (by decide)]; rfl)
    have hlines : lines t = ["\\2 + 1 =".toList, "5 =".toList] := by decide
    rw [hlines, copied, if_neg (by decide), copied, if_neg (by decide), copied, List.take_zero,
      hfirst, Reference.fill_of_notMem (by decide)]
    decide
  refine ⟨_, h, by simp [houtput₁, houtput₂], hcopy, hstays, fun ht => ?_⟩
  obtain ⟨hcopies, hsame⟩ : (resolveReferences s t = .ok t ↔ _) ∧ _ := resolveReferences_iff h
  exact hsame.1 ((hcopies.1 ht).2.symm.trans hstays.symm) 0 _ (by decide +kernel) hahead

end Document

end Worksheet
