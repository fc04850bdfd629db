import Worksheet.Document
import Worksheet.Proofs.Characters

/-!
# Where a text refers to lines

The references of a text are cut off by any character that is not a digit, so a part of a text has
its own references among those of the text (`runs_append`), and the expression of a line refers to
nothing but the line does (`runs_expressionOf`).
-/

namespace Worksheet

open Text

section Cut

variable {α : Type} {p : α → Bool} {a b : List α}

theorem takeWhile_append_of_head (hb : b.head?.any p = false) :
    (a ++ b).takeWhile p = a.takeWhile p := by
  induction a with
  | nil => cases b <;> simp_all
  | cons c a ih => simp [List.takeWhile_cons, ih]

theorem dropWhile_append_of_head (hb : b.head?.any p = false) :
    (a ++ b).dropWhile p = a.dropWhile p ++ b := by
  induction a with
  | nil => cases b <;> simp_all
  | cons c a ih =>
    simp only [List.cons_append, List.dropWhile_cons, ih]
    split <;> rfl

theorem head?_dropWhile_any : (a.dropWhile p).head?.any p = false := by
  induction a with
  | nil => rfl
  | cons c a ih =>
    rw [List.dropWhile_cons]
    split
    · exact ih
    · next hc => simpa using hc

theorem head?_any_of_takeWhile_ne_nil (h : a.takeWhile p ≠ []) : a.head?.any p = true := by
  cases a with
  | nil => simp at h
  | cons c a =>
    refine Classical.byContradiction fun hc => h ?_
    rw [List.takeWhile_cons, if_neg (by simpa using hc)]

/-- A run of a class ends where its last character stands in front of another. -/
theorem span_append (ha : a.all p = true) (hb : b.head?.any p = false) :
    (a ++ b).takeWhile p = a ∧ (a ++ b).dropWhile p = b := by
  rw [List.all_eq_true] at ha
  rw [List.takeWhile_append_of_pos ha, List.dropWhile_append_of_pos ha]
  cases b <;> simp_all

end Cut

namespace Reference

/-- The references of a text as they are written, without their backslashes. -/
def runs (t : Text) : List Text := (pieces t).filterMap Piece.digits?

section Pieces

variable {c : Char} {u r : Text}

/-- A backslash and the digits behind it are one reference. -/
theorem pieces_run (hne : u ≠ []) (hu : u.all isDigit = true) (hr : r.head?.any isDigit = false) :
    pieces ('\\' :: (u ++ r)) = .reference u :: pieces r := by
  obtain ⟨htake, hdrop⟩ := span_append hu hr
  have hh := head?_any_of_takeWhile_ne_nil (p := isDigit) (a := u ++ r) (by rwa [htake])
  rw [pieces, if_pos (by rw [hh]; rfl), htake, hdrop]

theorem pieces_char (h : c = '\\' → r.head?.any isDigit = false) :
    pieces (c :: r) = .char c :: pieces r := by
  rw [pieces, if_neg (by simpa using h)]

/-- A text is empty, or begins with a reference or with another character. -/
theorem pieces_cases (t : Text) : t = [] ∨
    (∃ u r : Text, u ≠ [] ∧ u.all isDigit = true ∧ r.head?.any isDigit = false ∧
      t = '\\' :: (u ++ r)) ∨
    ∃ (c : Char) (r : Text), (c = '\\' → r.head?.any isDigit = false) ∧ t = c :: r := by
  cases t with
  | nil => exact .inl rfl
  | cons c r =>
    by_cases h : c = '\\' ∧ r.head?.any isDigit = true
    · obtain ⟨rfl, h⟩ := h
      refine .inr (.inl ⟨r.takeWhile isDigit, r.dropWhile isDigit, ?_, List.all_takeWhile,
        head?_dropWhile_any, by rw [List.takeWhile_append_dropWhile]⟩)
      cases r with
      | nil => cases h
      | cons d r => simp [show isDigit d = true from h]
    · exact .inr (.inr ⟨c, r, by simpa using h, rfl⟩)

/-- What holds of the empty text and is kept by a reference and by any other character in front
holds of all texts. -/
theorem pieces_induction {motive : Text → Prop} (t : Text) (nil : motive [])
    (run : ∀ u r : Text, u ≠ [] → u.all isDigit = true → r.head?.any isDigit = false → motive r →
      motive ('\\' :: (u ++ r)))
    (char : ∀ (c : Char) (r : Text), (c = '\\' → r.head?.any isDigit = false) → motive r →
      motive (c :: r)) : motive t := by
  rcases pieces_cases t with rfl | ⟨u, r, hne, hu, hr, rfl⟩ | ⟨c, r, hc, rfl⟩
  · exact nil
  · exact run u r hne hu hr (pieces_induction r nil run char)
  · exact char c r hc (pieces_induction r nil run char)
termination_by t.length
decreasing_by
  all_goals
    subst_vars
    simp only [List.length_cons, List.length_append]
    omega

theorem runs_run (hne : u ≠ []) (hu : u.all isDigit = true) (hr : r.head?.any isDigit = false) :
    runs ('\\' :: (u ++ r)) = u :: runs r := by
  rw [runs, pieces_run hne hu hr]
  rfl

theorem runs_cons (h : c = '\\' → r.head?.any isDigit = false) : runs (c :: r) = runs r := by
  rw [runs, pieces_char h]
  rfl

end Pieces

theorem findAll_eq (t : Text) : findAll t = (runs t).mapM line := rfl

theorem pieces_append {a b : Text} (hb : b.head?.any isDigit = false) :
    pieces (a ++ b) = pieces a ++ pieces b := by
  have hhead {r : Text} (hr : r.head?.any isDigit = false) :
      (r ++ b).head?.any isDigit = false := by
    cases r with
    | nil => exact hb
    | cons d r => exact hr
  induction a using pieces_induction with
  | nil => simp [pieces]
  | run u r hne hu hr ih =>
    rw [List.cons_append, List.append_assoc, pieces_run hne hu (hhead hr), pieces_run hne hu hr, ih]
    rfl
  | char c r hc ih =>
    rw [List.cons_append, pieces_char fun h => hhead (hc h), pieces_char hc, ih]
    rfl

theorem runs_append {a b : Text} (hb : b.head?.any isDigit = false) :
    runs (a ++ b) = runs a ++ runs b := by
  rw [runs, pieces_append hb, List.filterMap_append]
  rfl

theorem runs_append_of_notMem {a b : Text} (ha : '\\' ∉ a) : runs (a ++ b) = runs b := by
  induction a with
  | nil => rfl
  | cons c a ih =>
    simp only [List.mem_cons, not_or] at ha
    rw [List.cons_append, runs_cons fun hc => absurd hc.symm ha.1, ih ha.2]

theorem runs_eq_nil {t : Text} (h : '\\' ∉ t) : runs t = [] := by
  have := runs_append_of_notMem (b := []) h
  rw [List.append_nil] at this
  rw [this]
  simp [runs, pieces]

/-! ## Blanks at the ends -/

theorem head?_any_isDigit_of_isBlank {t : Text} (h : t.all isBlank = true) :
    t.head?.any isDigit = false := by
  cases t with
  | nil => rfl
  | cons c t =>
    refine Bool.eq_false_iff.2 fun hc => ?_
    have hb := not_isBlank_of_isDigit (c := c) (by simpa using hc)
    simp [hb] at h

theorem notMem_of_isBlank {t : Text} (h : t.all isBlank = true) : '\\' ∉ t := fun hm => by
  have := List.all_eq_true.1 h _ hm
  revert this
  decide

theorem runs_trimLeft (t : Text) : runs (trimLeft t) = runs t := by
  have h := runs_append_of_notMem (b := trimLeft t)
    (notMem_of_isBlank (List.all_takeWhile (p := isBlank) (l := t)))
  rw [List.takeWhile_append_dropWhile] at h
  exact h.symm

theorem trimRight_append (t : Text) : trimRight t ++ (t.reverse.takeWhile isBlank).reverse = t := by
  unfold trimRight trimRightBy
  rw [← List.reverse_append, List.takeWhile_append_dropWhile, List.reverse_reverse]

theorem runs_trimRight (t : Text) : runs (trimRight t) = runs t := by
  have hb : (t.reverse.takeWhile isBlank).reverse.all isBlank = true := by
    rw [List.all_reverse]
    exact List.all_takeWhile
  have h := runs_append (a := trimRight t) (head?_any_isDigit_of_isBlank hb)
  rw [trimRight_append, runs_eq_nil (notMem_of_isBlank hb), List.append_nil] at h
  exact h.symm

theorem runs_trim (t : Text) : runs (trim t) = runs t := by
  rw [trim, trimBy_eq, runs_trimRight, runs_trimLeft]

/-! ## The expression of a line -/

theorem cutAt_append {c : Char} {t a b : Text} (h : cutAt c t = some (a, b)) :
    t = a ++ c :: b := by
  induction t generalizing a with
  | nil => cases h
  | cons d r ih =>
    rw [cutAt] at h
    split at h
    · next hd =>
      cases h
      rw [hd]
      rfl
    · simp only [Option.map_eq_some_iff] at h
      obtain ⟨⟨a', b'⟩, h, he⟩ := h
      cases he
      rw [ih h]
      rfl

theorem runs_prefix_of_append {a b : Text} {c : Char} (hc : isDigit c = false) :
    runs a <+: runs (a ++ c :: b) := by
  rw [runs_append (by simpa using hc)]
  exact List.prefix_append _ _

theorem runs_splitComment (l : Text) : runs (Line.splitComment l).1 <+: runs l := by
  unfold Line.splitComment
  split
  · exact List.prefix_refl _
  · next a b h =>
    rw [cutAt_append h]
    exact runs_prefix_of_append (by decide)

/-- The expression of a line refers to no other lines than the line does. -/
theorem runs_expressionOf {l expr comment : Text}
    (h : Document.expressionOf? l = some (expr, comment)) : runs expr <+: runs l := by
  unfold Document.expressionOf? at h
  split at h
  · cases h
  · cases h
  · obtain ⟨⟨a, b⟩, hcut, h⟩ := Option.bind_eq_some_iff.1 h
    dsimp only at h
    split at h
    · cases h
    · cases h
      have ha := runs_prefix_of_append (a := a) (b := b) (c := '=') (by decide)
      rw [← Line.cutResult_append hcut] at ha
      rw [runs_trim]
      exact ha.trans (runs_splitComment l)

end Reference

end Worksheet
