import Worksheet.Proofs.References

/-!
# Texts with other references

`Reference.rewrite ρ` exchanges the digits of every reference of a text by `ρ`. All ways to cut a
line apart (at a character, at line feeds, at its equals sign, at its comment, at blanks) go by
characters that no reference holds, so they cut the rewritten text in the same places. The last
theorem puts this together: the expression of a rewritten line is the rewritten expression
(`expressionOf_rewrite`).
-/

namespace Worksheet

open Text

/-- Exchanges the digits of a reference. -/
def Piece.rename (ρ : Text → Text) : Piece → Piece
  | char c => char c
  | reference digits => reference (ρ digits)

namespace Reference

/-- A text with the digits of its references exchanged. -/
def rewrite (ρ : Text → Text) (t : Text) : Text :=
  (pieces t).flatMap fun p => (p.rename ρ).text

/-- What stands for the digits of a reference is digits too. -/
def KeepsRuns (ρ : Text → Text) : Prop := ∀ digits, ρ digits ≠ [] ∧ (ρ digits).all isDigit = true

/-- What stands for the digits of a reference is ASCII digits. -/
def KeepsAscii (ρ : Text → Text) : Prop := ∀ digits, (ρ digits).all isAsciiDigit = true

variable {ρ : Text → Text} {t a b : Text} {c : Char}

theorem rewrite_nil : rewrite ρ [] = [] := by
  simp [rewrite, pieces]

theorem rewrite_cons {r : Text} (h : c = '\\' → r.head?.any isDigit = false) :
    rewrite ρ (c :: r) = c :: rewrite ρ r := by
  rw [rewrite, pieces_char h]
  rfl

theorem rewrite_run {u : Text} (hne : u ≠ []) (hu : u.all isDigit = true)
    (ha : a.head?.any isDigit = false) :
    rewrite ρ ('\\' :: (u ++ a)) = '\\' :: (ρ u ++ rewrite ρ a) := by
  rw [rewrite, pieces_run hne hu ha]
  rfl

theorem rewrite_append (hb : b.head?.any isDigit = false) :
    rewrite ρ (a ++ b) = rewrite ρ a ++ rewrite ρ b := by
  rw [rewrite, pieces_append hb, List.flatMap_append]
  rfl

theorem rewrite_append_cons (hc : isDigit c = false) (hb : c ≠ '\\') :
    rewrite ρ (a ++ c :: b) = rewrite ρ a ++ c :: rewrite ρ b := by
  rw [rewrite_append (by simpa using hc), rewrite_cons fun h => absurd h hb]

/-- A part without backslashes stays. -/
theorem rewrite_append_of_notMem (ha : '\\' ∉ a) : rewrite ρ (a ++ b) = a ++ rewrite ρ b := by
  induction a with
  | nil => rfl
  | cons c a ih =>
    simp only [List.mem_cons, not_or] at ha
    rw [List.cons_append, rewrite_cons fun hc => absurd hc.symm ha.1, ih ha.2]
    rfl

theorem rewrite_of_notMem (h : '\\' ∉ t) : rewrite ρ t = t := by
  have := rewrite_append_of_notMem (ρ := ρ) (b := []) h
  rwa [List.append_nil, rewrite_nil, List.append_nil] at this

theorem head?_rewrite : (rewrite ρ t).head? = t.head? := by
  induction t using pieces_induction with
  | nil => rw [rewrite_nil]
  | run u r hne hu hr => rw [rewrite_run hne hu hr]; rfl
  | char c r hc => rw [rewrite_cons hc]; rfl

theorem rewrite_eq_nil : rewrite ρ t = [] ↔ t = [] := by
  rw [← List.head?_eq_none_iff, head?_rewrite, List.head?_eq_none_iff]

/-- A character that no reference holds is one of the text when it is one of the rewritten text. -/
theorem mem_rewrite (hρ : KeepsRuns ρ) (hc : isDigit c = false) (hb : c ≠ '\\') :
    c ∈ rewrite ρ t ↔ c ∈ t := by
  have hrun {u : Text} (hu : u.all isDigit = true) : c ∉ u := fun hm => by
    rw [List.all_eq_true.1 hu c hm] at hc
    cases hc
  induction t using pieces_induction with
  | nil => rw [rewrite_nil]
  | run u r hne hu hr ih =>
    rw [rewrite_run hne hu hr]
    simp [ih, hb, hrun hu, hrun (hρ u).2]
  | char d r hd ih =>
    rw [rewrite_cons hd]
    simp [ih]

theorem backslash_mem_rewrite (h : '\\' ∈ t) : '\\' ∈ rewrite ρ t := by
  induction t using pieces_induction with
  | nil => cases h
  | run u r hne hu hr =>
    rw [rewrite_run hne hu hr]
    exact List.mem_cons_self
  | char c r hc ih =>
    rw [rewrite_cons hc]
    rcases List.mem_cons.1 h with h | h
    · exact h ▸ List.mem_cons_self
    · exact List.mem_cons_of_mem _ (ih h)

/-- The references of the rewritten text are those of the text, exchanged. -/
theorem pieces_rewrite (hρ : KeepsRuns ρ) (t : Text) :
    pieces (rewrite ρ t) = (pieces t).map (Piece.rename ρ) := by
  induction t using pieces_induction with
  | nil => simp [rewrite_nil, pieces]
  | run u r hne hu hr ih =>
    rw [rewrite_run hne hu hr, pieces_run (hρ u).1 (hρ u).2 (by rwa [head?_rewrite]),
      pieces_run hne hu hr, ih]
    rfl
  | char c r hc ih =>
    rw [rewrite_cons hc, pieces_char (by rwa [head?_rewrite]), pieces_char hc, ih]
    rfl

theorem runs_rewrite (hρ : KeepsRuns ρ) (t : Text) : runs (rewrite ρ t) = (runs t).map ρ := by
  rw [runs, runs, pieces_rewrite hρ, List.filterMap_map, List.map_filterMap]
  congr 1
  funext p
  cases p <;> rfl

theorem rewrite_of_runs (h : runs t = []) : rewrite ρ t = t := by
  induction t using pieces_induction with
  | nil => exact rewrite_nil
  | run u r hne hu hr =>
    rw [runs_run hne hu hr] at h
    cases h
  | char c r hc ih =>
    rw [runs_cons hc] at h
    rw [rewrite_cons hc, ih h]

/-! ## At a character -/

theorem cutAt_eq_none : cutAt c t = none ↔ c ∉ t := by
  induction t with
  | nil => simp [cutAt]
  | cons d r ih =>
    rw [cutAt]
    by_cases hd : d = c
    · simp [hd]
    · simp [hd, ih, Ne.symm hd]

theorem cutAt_append_cons (ha : c ∉ a) : cutAt c (a ++ c :: b) = some (a, b) := by
  induction a with
  | nil => simp [cutAt]
  | cons d a ih =>
    simp only [List.mem_cons, not_or] at ha
    rw [List.cons_append, cutAt, if_neg (Ne.symm ha.1), ih ha.2]
    rfl

theorem notMem_of_cutAt (h : cutAt c t = some (a, b)) : c ∉ a := by
  induction t generalizing a with
  | nil => cases h
  | cons d r ih =>
    rw [cutAt] at h
    split at h
    · cases h
      exact List.not_mem_nil
    · next hd =>
      simp only [Option.map_eq_some_iff] at h
      obtain ⟨⟨a', b'⟩, h, he⟩ := h
      cases he
      simp only [List.mem_cons, not_or]
      exact ⟨fun e => hd e.symm, ih h⟩

theorem cutAt_rewrite (hρ : KeepsRuns ρ) (hc : isDigit c = false) (hb : c ≠ '\\') :
    cutAt c (rewrite ρ t) = (cutAt c t).map fun (a, b) => (rewrite ρ a, rewrite ρ b) := by
  cases h : cutAt c t with
  | none => exact cutAt_eq_none.2 fun hm => cutAt_eq_none.1 h ((mem_rewrite hρ hc hb).1 hm)
  | some p =>
    obtain ⟨a, b⟩ := p
    rw [cutAt_append h, rewrite_append_cons hc hb]
    exact cutAt_append_cons fun hm => notMem_of_cutAt h ((mem_rewrite hρ hc hb).1 hm)

/-! ## At line feeds -/

theorem split_append_cons {sep : Char} {p q : Text} (hp : sep ∉ p) :
    split sep (p ++ sep :: q) = p :: split sep q := by
  induction p with
  | nil => simp [split]
  | cons d p ih =>
    simp only [List.mem_cons, not_or] at hp
    rw [List.cons_append, split, if_neg (Ne.symm hp.1), ih hp.2]

theorem split_of_notMem {sep : Char} {p : Text} (hp : sep ∉ p) : split sep p = [p] := by
  induction p with
  | nil => rfl
  | cons d p ih =>
    simp only [List.mem_cons, not_or] at hp
    rw [split, if_neg (Ne.symm hp.1), ih hp.2]

theorem split_join {sep : Char} {ps : List Text} (hne : ps ≠ []) (hp : ∀ p ∈ ps, sep ∉ p) :
    split sep (join [sep] ps) = ps := by
  induction ps with
  | nil => exact absurd rfl hne
  | cons p ps ih =>
    cases ps with
    | nil => exact split_of_notMem (hp p (by simp))
    | cons q ps =>
      rw [join, List.append_assoc]
      show split sep (p ++ sep :: join [sep] (q :: ps)) = _
      rw [split_append_cons (hp p (by simp)), ih (by simp) fun p hm => hp p (by simp [hm])]

theorem mem_join {sep : Text} {ps : List Text} {c : Char} (h : c ∈ join sep ps) :
    c ∈ sep ∨ ∃ p ∈ ps, c ∈ p := by
  induction ps with
  | nil => cases h
  | cons p ps ih =>
    cases ps with
    | nil => exact .inr ⟨p, List.mem_singleton_self p, h⟩
    | cons q ps =>
      simp only [join, List.mem_append] at h
      rcases h with (hp | hsep) | hrest
      · exact .inr ⟨p, List.mem_cons_self, hp⟩
      · exact .inl hsep
      · rcases ih hrest with hsep | ⟨r, hr, hc⟩
        · exact .inl hsep
        · exact .inr ⟨r, List.mem_cons_of_mem p hr, hc⟩

theorem split_rewrite (hρ : KeepsRuns ρ) (hc : isDigit c = false) (hb : c ≠ '\\') :
    split c (rewrite ρ t) = (split c t).map (rewrite ρ) := by
  have hjoin {ps : List Text} : rewrite ρ (join [c] ps) = join [c] (ps.map (rewrite ρ)) := by
    induction ps with
    | nil => exact rewrite_nil
    | cons p ps ih =>
      cases ps with
      | nil => rfl
      | cons q ps =>
        rw [join, List.append_assoc]
        show rewrite ρ (p ++ c :: join [c] (q :: ps)) = _
        rw [rewrite_append_cons hc hb, ih]
        simp [join]
  rw [← join_split c t, hjoin, join_split]
  refine split_join (by simp [split_ne_nil]) fun p hp => ?_
  obtain ⟨q, hq, rfl⟩ := List.mem_map.1 hp
  exact fun hm => not_mem_of_mem_split hq ((mem_rewrite hρ hc hb).1 hm)

/-! ## At blanks -/

theorem trimLeft_rewrite : trimLeft (rewrite ρ t) = rewrite ρ (trimLeft t) := by
  have h := rewrite_append_of_notMem (ρ := ρ) (b := trimLeft t)
    (notMem_of_isBlank (List.all_takeWhile (p := isBlank) (l := t)))
  rw [List.takeWhile_append_dropWhile] at h
  have hspan := span_append (b := rewrite ρ (trimLeft t))
    (List.all_takeWhile (p := isBlank) (l := t)) (by rw [head?_rewrite]; exact head?_dropWhile_any)
  rw [h]
  exact hspan.2

theorem getLast?_append_any {p : Char → Bool} (ha : a.getLast?.any p = false ∨ b ≠ []) :
    (a ++ b).getLast?.any p = b.getLast?.any p := by
  rw [List.getLast?_append]
  cases hb : b.getLast? with
  | none => simpa [List.getLast?_eq_none_iff.1 hb] using ha
  | some c => rfl

/-- The rewritten text ends in a blank when the text does. -/
theorem getLast?_rewrite (hρ : KeepsRuns ρ) :
    (rewrite ρ t).getLast?.any isBlank = t.getLast?.any isBlank := by
  have hrun {u : Text} (hu : u.all isDigit = true) :
      ('\\' :: u).getLast?.any isBlank = false := by
    rw [← List.singleton_append, getLast?_append_any (.inl (by decide))]
    cases h : u.getLast? with
    | none => rfl
    | some c => exact not_isBlank_of_isDigit (List.all_eq_true.1 hu c (List.mem_of_getLast? h))
  induction t using pieces_induction with
  | nil => rw [rewrite_nil]
  | run u r hne hu hr ih =>
    rw [rewrite_run hne hu hr, ← List.cons_append, ← List.cons_append,
      getLast?_append_any (.inl (hrun (hρ u).2)), getLast?_append_any (.inl (hrun hu)), ih]
  | char c r hc ih =>
    rw [rewrite_cons hc]
    by_cases hr : r = []
    · rw [hr, rewrite_nil]
    · rw [← List.singleton_append, ← List.singleton_append (l := r), getLast?_append_any (.inr hr),
        getLast?_append_any (.inr fun e => hr (rewrite_eq_nil.1 e)), ih]

theorem trimRight_rewrite (hρ : KeepsRuns ρ) :
    trimRight (rewrite ρ t) = rewrite ρ (trimRight t) := by
  have hb : (t.reverse.takeWhile isBlank).all isBlank = true := List.all_takeWhile
  have hb' : (t.reverse.takeWhile isBlank).reverse.all isBlank = true := by
    rwa [List.all_reverse]
  have h : rewrite ρ t = rewrite ρ (trimRight t) ++ (t.reverse.takeWhile isBlank).reverse := by
    have := rewrite_append (ρ := ρ) (a := trimRight t) (head?_any_isDigit_of_isBlank hb')
    rwa [trimRight_append, rewrite_of_notMem (notMem_of_isBlank hb')] at this
  have hlast : (rewrite ρ (trimRight t)).reverse.head?.any isBlank = false := by
    rw [List.head?_reverse, getLast?_rewrite hρ, trimRight, trimRightBy, List.getLast?_reverse]
    exact head?_dropWhile_any
  rw [h, trimRight, trimRightBy, List.reverse_append, List.reverse_reverse,
    (span_append hb hlast).2, List.reverse_reverse]

theorem trim_rewrite (hρ : KeepsRuns ρ) : trim (rewrite ρ t) = rewrite ρ (trim t) := by
  show trimRight (trimLeft (rewrite ρ t)) = rewrite ρ (trimRight (trimLeft t))
  rw [trimLeft_rewrite, trimRight_rewrite hρ]

/-! ## At the equals sign -/

/-- A character that begins a comparison when an equals sign follows. -/
def opensComparison (c : Char) : Bool := c == '<' || c == '>' || c == '=' || c == '!'

theorem cutResult_cons {r : Text} : Line.cutResult (c :: r) =
    if opensComparison c && r.head? == some '=' then
      (Line.cutResult r.tail).map fun p => (c :: '=' :: p.1, p.2)
    else if c = '=' then some ([], r)
    else (Line.cutResult r).map fun p => (c :: p.1, p.2) := by
  cases r with
  | nil => simp [Line.cutResult]
  | cons d r =>
    rw [Line.cutResult]
    by_cases hd : d = '='
    · simp [hd, opensComparison]
    · simp [hd, opensComparison]

/-- The equals sign stands behind a part that holds no sign of a comparison. -/
theorem cutResult_append_left (ha : ∀ c ∈ a, opensComparison c = false) :
    Line.cutResult (a ++ b) = (Line.cutResult b).map fun p => (a ++ p.1, p.2) := by
  induction a with
  | nil => simp
  | cons c a ih =>
    have hc := ha c (by simp)
    have he : c ≠ '=' := by
      rintro rfl
      cases hc
    rw [List.cons_append, cutResult_cons, hc, ih fun c hc => ha c (by simp [hc])]
    simp [he, Function.comp_def]

theorem opensComparison_of_isDigit (h : isDigit c = true) : opensComparison c = false := by
  refine Bool.eq_false_iff.2 fun ho => ?_
  simp only [opensComparison, Bool.or_eq_true, beq_iff_eq] at ho
  rcases ho with ((rfl | rfl) | rfl) | rfl <;> exact absurd h (by decide)

theorem head?_any_of_append {p : Char → Bool} (h : t.head?.any p = false) (ht : t = a ++ b) :
    a.head?.any p = false := by
  cases a with
  | nil => rfl
  | cons c a => simpa [ht] using h

/-- What stands in front of a cut begins as the whole does. -/
theorem rewrite_cons_cut {d : Char} {r : Text} (h : c = '\\' → r.head?.any isDigit = false)
    (hr : r = a ++ d :: b) : rewrite ρ (c :: a) = c :: rewrite ρ a := by
  refine rewrite_cons fun hc => ?_
  cases a with
  | nil => rfl
  | cons e a => simpa [hr] using h hc

theorem cutResult_rewrite (hρ : KeepsRuns ρ) (t : Text) :
    Line.cutResult (rewrite ρ t) =
      (Line.cutResult t).map fun (a, b) => (rewrite ρ a, rewrite ρ b) := by
  have hrun {u : Text} (hu : u.all isDigit = true) :
      ∀ c ∈ '\\' :: u, opensComparison c = false := by
    intro c hm
    rcases List.mem_cons.1 hm with rfl | hm
    · rfl
    · exact opensComparison_of_isDigit (List.all_eq_true.1 hu c hm)
  rcases pieces_cases t with rfl | ⟨u, r, hne, hu, hr, rfl⟩ | ⟨c, r, hc, rfl⟩
  · simp [rewrite_nil, Line.cutResult]
  · rw [rewrite_run hne hu hr, ← List.cons_append, ← List.cons_append,
      cutResult_append_left (hrun (hρ u).2), cutResult_append_left (hrun hu),
      cutResult_rewrite hρ r]
    cases hcut : Line.cutResult r with
    | none => rfl
    | some p =>
      have hp := head?_any_of_append hr (Line.cutResult_append hcut)
      simp [rewrite_run hne hu hp]
  · rw [rewrite_cons hc, cutResult_cons, cutResult_cons, head?_rewrite]
    split
    · next h =>
      simp only [Bool.and_eq_true, beq_iff_eq] at h
      obtain ⟨r, rfl⟩ := List.head?_eq_some_iff.1 h.2
      rw [rewrite_cons fun h => absurd h (by decide), List.tail_cons, List.tail_cons,
        cutResult_rewrite hρ r]
      cases hcut : Line.cutResult r with
      | none => rfl
      | some p =>
        have hb : c ≠ '\\' := by
          rintro rfl
          cases h.1
        simp [rewrite_cons (c := c) fun h => absurd h hb,
          rewrite_cons (c := '=') fun h => absurd h (by decide)]
    · split
      · simp [rewrite_nil]
      · rw [cutResult_rewrite hρ r]
        cases hcut : Line.cutResult r with
        | none => rfl
        | some p => simp [rewrite_cons_cut hc (Line.cutResult_append hcut)]
termination_by t.length
decreasing_by
  all_goals
    subst_vars
    simp only [List.length_cons, List.length_append]
    omega

/-! ## A line -/

theorem exists_rewrite_cons {r : Text} : ∃ r', rewrite ρ (c :: r) = c :: r' :=
  List.head?_eq_some_iff.1 (by rw [head?_rewrite]; rfl)

theorem isOutput_rewrite {l : Text} : Line.isOutput (rewrite ρ l) = Line.isOutput l := by
  unfold Line.isOutput Line.outputMark
  rw [trimLeft_rewrite]
  match trimLeft l with
  | [] => rw [rewrite_nil]
  | [c] =>
    rw [rewrite_cons fun _ => rfl, rewrite_nil]
  | c :: d :: r =>
    by_cases hc : c = '>'
    · obtain ⟨r', hr⟩ := exists_rewrite_cons (ρ := ρ) (c := d) (r := r)
      rw [hc, rewrite_cons fun h => absurd h (by decide), hr]
      simp [List.isPrefixOf]
    · obtain ⟨r', hr⟩ := exists_rewrite_cons (ρ := ρ) (c := c) (r := d :: r)
      have hb : ('>' == c) = false := by simpa using Ne.symm hc
      rw [hr]
      simp [List.isPrefixOf, hb]

theorem splitComment_rewrite (hρ : KeepsRuns ρ) {l : Text} :
    Line.splitComment (rewrite ρ l) =
      (rewrite ρ (Line.splitComment l).1, rewrite ρ (Line.splitComment l).2) := by
  unfold Line.splitComment
  rw [cutAt_rewrite hρ (by decide) (by decide)]
  cases cutAt '#' l with
  | none => simp [rewrite_nil]
  | some p =>
    simp only [Option.map_some]
    rw [← rewrite_cons fun h => absurd h (by decide), trimRight_rewrite hρ]

/-- Whether a line is blank or a comment. -/
def isRemark (l : Text) : Bool := (trim l).head?.all (· == '#')

theorem expressionOf_eq {l : Text} : Document.expressionOf? l =
    if isRemark l then none
    else (Line.cutResult (Line.splitComment l).1).bind fun p =>
      if (trim p.1).isEmpty then none else some (trim p.1, (Line.splitComment l).2) := by
  unfold Document.expressionOf? isRemark
  split
  · next h => simp [h]
  · next h => simp [h]
  · next hne hc =>
    rw [if_neg]
    cases ht : trim l with
    | nil => exact absurd ht hne
    | cons c r =>
      have : c ≠ '#' := by
        rintro rfl
        exact hc r ht
      simpa using this

/-- The expression of a line is what stands in front of its equals sign, but for the comment, which
is cut off before. -/
theorem cutResult_of_expressionOf {l t comment : Text}
    (h : Document.expressionOf? l = some (t, comment)) :
    comment = (Line.splitComment l).2 ∧ t ≠ [] ∧
      ∃ a b, Line.cutResult (Line.splitComment l).1 = some (a, b) ∧ t = trim a := by
  rw [expressionOf_eq] at h
  split at h
  · cases h
  · obtain ⟨⟨a, b⟩, hcut, h⟩ := Option.bind_eq_some_iff.1 h
    dsimp only at h
    split at h
    · cases h
    · next hne =>
      cases h
      exact ⟨rfl, by simpa using hne, a, b, hcut, rfl⟩

/-- The expression of a rewritten line is the rewritten expression. -/
theorem expressionOf_rewrite (hρ : KeepsRuns ρ) {l : Text} :
    Document.expressionOf? (rewrite ρ l) =
      (Document.expressionOf? l).map fun (expr, comment) =>
        (rewrite ρ expr, rewrite ρ comment) := by
  rw [expressionOf_eq, expressionOf_eq]
  have hr : isRemark (rewrite ρ l) = isRemark l := by
    rw [isRemark, isRemark, trim_rewrite hρ, head?_rewrite]
  rw [hr, splitComment_rewrite hρ, cutResult_rewrite hρ]
  split
  · rfl
  · cases Line.cutResult (Line.splitComment l).1 with
    | none => rfl
    | some p =>
      have he : (rewrite ρ (trim p.1)).isEmpty = (trim p.1).isEmpty := by
        rw [Bool.eq_iff_iff, List.isEmpty_iff, List.isEmpty_iff, rewrite_eq_nil]
      simp only [Option.map_some, Option.bind_some, trim_rewrite hρ, he]
      split <;> rfl

end Reference

end Worksheet
