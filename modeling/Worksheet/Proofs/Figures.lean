import Mathlib.Data.List.DropRight
import Worksheet.Percentage
import Worksheet.Proofs.Amounts
import Worksheet.Proofs.FirstMatches

/-!
# Numbers with commas

A number that is written as results are shown has commas in its whole part (`Quantity`). A pattern
that takes digits and points sees such a text (`Figure`) in pieces: it takes what stands in front of
the first comma if it comes from the left (`Figure.first`), and what stands behind the last if the
words that follow are looked for (`Figure.last`).

**Theorem (`Figure.first_eq_bare_iff`, `Figure.last_eq_bare_iff`).** Either is the number without
its commas only if there are none.
-/

namespace Worksheet

open Text Pattern

namespace Percentage

theorem isNumeric_of_isDigit {c : Char} (h : isDigit c = true) : isNumeric c = true := by
  rw [isNumeric, h, Bool.true_or]

/-- A character that the text of a number may hold. -/
def inFigure (c : Char) : Bool := isNumeric c || c == ','

theorem inFigure_of_isNumeric {c : Char} (h : isNumeric c = true) : inFigure c = true := by
  rw [inFigure, h, Bool.true_or]

theorem isNumeric_of_inFigure {c : Char} (h : inFigure c = true) (hc : c ≠ ',') :
    isNumeric c = true := by simpa [inFigure, hc] using h

theorem ne_comma_of_isNumeric {c : Char} (h : isNumeric c = true) : c ≠ ',' := by
  rintro rfl
  exact absurd h (by decide)

/-- A text of digits, points and commas, without a comma at its ends. -/
@[ext] structure Figure where
  text : Text
  all : text.all inFigure = true
  starts : text.head?.any isNumeric = true
  ends : text.getLast?.any isNumeric = true

namespace Figure

variable {x : Figure} {w : Text} {s : Char → Bool}

/-- It has no comma. -/
def Plain (x : Figure) : Prop := ',' ∉ x.text

instance : DecidablePred Plain := fun x => inferInstanceAs (Decidable (',' ∉ x.text))

def ofNumeric (t : Text) (hne : t ≠ []) (h : t.all isNumeric = true) : Figure where
  text := t
  all := List.all_eq_true.2 fun c hc => inFigure_of_isNumeric (List.all_eq_true.1 h c hc)
  starts := by
    rw [List.head?_eq_some_head hne, Option.any_some]
    exact List.all_eq_true.1 h _ (List.head_mem hne)
  ends := by
    rw [List.getLast?_eq_some_getLast hne, Option.any_some]
    exact List.all_eq_true.1 h _ (List.getLast_mem hne)

theorem plain_ofNumeric {t : Text} {hne : t ≠ []} {h : t.all isNumeric = true} :
    (ofNumeric t hne h).Plain := fun hc => ne_comma_of_isNumeric (List.all_eq_true.1 h _ hc) rfl

theorem exists_cons (x : Figure) : ∃ c t, x.text = c :: t ∧ isNumeric c = true := by
  have hx := x.starts
  cases ht : x.text with
  | nil => simp [ht] at hx
  | cons c t => exact ⟨c, t, rfl, by simpa [ht] using hx⟩

theorem exists_concat (x : Figure) : ∃ t c, x.text = t ++ [c] ∧ isNumeric c = true := by
  have hx := x.ends
  rcases List.eq_nil_or_concat x.text with ht | ⟨t, c, ht⟩
  · simp [ht] at hx
  · rw [List.concat_eq_append] at ht
    exact ⟨t, c, ht, by simpa [ht] using hx⟩

theorem ne_nil (x : Figure) : x.text ≠ [] := by
  obtain ⟨c, t, ht, -⟩ := x.exists_cons
  simp [ht]

theorem all_isNumeric (hx : x.Plain) : x.text.all isNumeric = true :=
  List.all_eq_true.2 fun c hc => isNumeric_of_inFigure (List.all_eq_true.1 x.all c hc)
    fun he => hx (he ▸ hc)

theorem notMem_text {c : Char} (hc : inFigure c = false) (x : Figure) : c ∉ x.text := fun h => by
  rw [List.all_eq_true.1 x.all c h] at hc
  cases hc

/-! ## Its pieces -/

/-- What stands in front of the first comma. -/
def first (x : Figure) : Figure :=
  ofNumeric (x.text.takeWhile isNumeric)
    (by
      obtain ⟨c, t, ht, hc⟩ := x.exists_cons
      simp [ht, hc])
    List.all_takeWhile

/-- What stands behind the last comma. -/
def last (x : Figure) : Figure :=
  ofNumeric (x.text.rtakeWhile isNumeric)
    (by
      obtain ⟨t, c, ht, hc⟩ := x.exists_concat
      simp [ht, hc])
    (List.all_eq_true.2 fun _ => List.mem_rtakeWhile_imp)

/-- The number without its commas. -/
def bare (x : Figure) : Figure :=
  ofNumeric (x.text.filter (· != ','))
    (by
      obtain ⟨c, t, ht, hc⟩ := x.exists_cons
      simp [ht, ne_comma_of_isNumeric hc])
    (List.all_eq_true.2 fun c hc => by
      obtain ⟨hc, hne⟩ := List.mem_filter.1 hc
      exact isNumeric_of_inFigure (List.all_eq_true.1 x.all c hc) (bne_iff_ne.1 hne))

/-- Where the text stops being digits and points. -/
theorem exists_first (x : Figure) :
    ∃ r, x.text = x.first.text ++ r ∧ r.head?.any isNumeric = false := by
  refine ⟨x.text.dropWhile isNumeric, List.takeWhile_append_dropWhile.symm, ?_⟩
  have hhead := List.head?_dropWhile_not isNumeric x.text
  cases hr : (x.text.dropWhile isNumeric).head? with
  | none => rfl
  | some c =>
    rw [hr] at hhead
    exact hhead

/-- The last comma. -/
theorem exists_last (hx : ¬x.Plain) :
    ∃ z, z.all inFigure = true ∧ x.text = z ++ ',' :: x.last.text := by
  have hpieces : x.text.rdropWhile isNumeric ++ x.last.text = x.text :=
    List.rdropWhile_append_rtakeWhile
  have hne : x.text.rdropWhile isNumeric ≠ [] := fun h => by
    rw [h, List.nil_append] at hpieces
    rw [Plain, not_not, ← hpieces] at hx
    exact plain_ofNumeric hx
  have hmem := List.getLast_mem hne
  have hcomma : (x.text.rdropWhile isNumeric).getLast hne = ',' := by
    by_contra hc
    refine List.rdropWhile_last_not isNumeric x.text hne (isNumeric_of_inFigure ?_ hc)
    exact List.all_eq_true.1 x.all _ ((List.rdropWhile_prefix isNumeric _).subset hmem)
  refine ⟨(x.text.rdropWhile isNumeric).dropLast, List.all_eq_true.2 fun c hc => ?_, ?_⟩
  · exact List.all_eq_true.1 x.all c
      ((List.rdropWhile_prefix isNumeric _).subset (List.mem_of_mem_dropLast hc))
  rw [← List.singleton_append, ← List.append_assoc, ← hcomma, List.dropLast_concat_getLast, hpieces]

theorem filter_of_plain (hx : x.Plain) : x.text.filter (· != ',') = x.text :=
  List.filter_eq_self.2 fun _ hc => bne_iff_ne.2 fun he => hx (he ▸ hc)

theorem bare_of_plain (hx : x.Plain) : x.bare = x := Figure.ext (filter_of_plain hx)

theorem first_of_plain (hx : x.Plain) : x.first = x :=
  Figure.ext (List.takeWhile_eq_self_iff.2 (List.all_eq_true.1 (all_isNumeric hx)))

theorem last_of_plain (hx : x.Plain) : x.last = x :=
  Figure.ext (List.rtakeWhile_eq_self_iff.2 (List.all_eq_true.1 (all_isNumeric hx)))

theorem plain_first (x : Figure) : x.first.Plain := plain_ofNumeric

theorem plain_last (x : Figure) : x.last.Plain := plain_ofNumeric

theorem plain_bare (x : Figure) : x.bare.Plain := plain_ofNumeric

theorem text_bare (x : Figure) : x.bare.text = x.text.filter (· != ',') := rfl

theorem first_eq_bare_iff : x.first = x.bare ↔ x.Plain := by
  refine ⟨fun h => ?_, fun hx => by rw [first_of_plain hx, bare_of_plain hx]⟩
  obtain ⟨r, hr, -⟩ := x.exists_first
  have hbare := x.text_bare
  rw [← h, hr, List.filter_append, filter_of_plain x.plain_first, List.self_eq_append_right,
    List.filter_eq_nil_iff] at hbare
  -- The number ends in a digit or a point, so something would stand behind its first comma.
  obtain ⟨t, c, ht, hc⟩ := x.exists_concat
  rcases List.eq_nil_or_concat r with rfl | ⟨r, d, rfl⟩
  · rw [Plain, hr, List.append_nil]
    exact x.plain_first
  · rw [hr, List.concat_eq_append, ← List.append_assoc] at ht
    obtain ⟨-, hd⟩ := List.append_inj' ht rfl
    cases hd
    exact absurd (bne_iff_ne.2 (ne_comma_of_isNumeric hc)) (hbare c (by simp))

theorem last_eq_bare_iff : x.last = x.bare ↔ x.Plain := by
  refine ⟨fun h => ?_, fun hx => by rw [last_of_plain hx, bare_of_plain hx]⟩
  by_contra hx
  obtain ⟨z, -, hz⟩ := exists_last hx
  have hbare := x.text_bare
  rw [← h, hz, List.filter_append, List.filter_cons_of_neg (by decide),
    filter_of_plain x.plain_last, List.self_eq_append_left, List.filter_eq_nil_iff] at hbare
  -- The number begins with a digit or a point, so something would stand in front of its last comma.
  obtain ⟨c, t, ht, hc⟩ := x.exists_cons
  rw [hz] at ht
  cases z with
  | nil =>
    cases ht
    exact absurd hc (by decide)
  | cons d z =>
    cases ht
    exact absurd (bne_iff_ne.2 (ne_comma_of_isNumeric hc)) (hbare c List.mem_cons_self)

end Figure

/-! ## Numbers as results are shown -/

/-- An unsigned decimal number: the digits of its whole part, those behind its point if it has one,
and whether the whole part is written in groups of three. -/
structure Quantity where
  whole : Text
  places : Option Text
  grouped : Bool
  whole_digits : whole.all isDigit = true
  places_digits : ∀ t ∈ places, t.all isDigit = true
  ne : whole ≠ [] ∨ places ≠ none

namespace Quantity

variable {q : Quantity} {s : Char → Bool}

def wholeText (q : Quantity) : Text := if q.grouped then Fixed.grouped q.whole else q.whole

def fraction (q : Quantity) : Text :=
  match q.places with
  | none => []
  | some t => '.' :: t

/-- The number as it is written. -/
def text (q : Quantity) : Text := q.wholeText ++ q.fraction

/-- The same number without groups. -/
def ungrouped (q : Quantity) : Quantity := { q with grouped := false }

theorem head?_wholeText (q : Quantity) : q.wholeText.head? = q.whole.head? := by
  unfold wholeText
  split
  · exact Fixed.head?_grouped
  · rfl

theorem getLast?_wholeText (q : Quantity) : q.wholeText.getLast? = q.whole.getLast? := by
  unfold wholeText
  split
  · exact Fixed.getLast?_grouped
  · rfl

theorem all_wholeText (q : Quantity) : q.wholeText.all inFigure = true := by
  have hwhole : q.whole.all inFigure = true := List.all_eq_true.2 fun c hc =>
    inFigure_of_isNumeric (isNumeric_of_isDigit (List.all_eq_true.1 q.whole_digits c hc))
  unfold wholeText
  split
  · exact Fixed.all_grouped rfl hwhole
  · exact hwhole

theorem all_fraction (q : Quantity) : q.fraction.all isNumeric = true := by
  unfold fraction
  split
  · rfl
  · next t ht =>
    rw [List.all_cons, Bool.and_eq_true]
    exact ⟨rfl, List.all_eq_true.2 fun c hc =>
      isNumeric_of_isDigit (List.all_eq_true.1 (q.places_digits t ht) c hc)⟩

theorem fraction_ne_nil (h : q.whole = []) : q.fraction ≠ [] := by
  have hne := q.ne.resolve_left (not_not.2 h)
  unfold fraction
  split
  · next hnone => exact absurd hnone hne
  · exact List.cons_ne_nil _ _

/-- The number as a text of digits, points and commas. -/
def figure (q : Quantity) : Figure where
  text := q.text
  all := by
    rw [text, List.all_append, q.all_wholeText, Bool.true_and]
    exact List.all_eq_true.2 fun c hc =>
      inFigure_of_isNumeric (List.all_eq_true.1 q.all_fraction c hc)
  starts := by
    rw [text, List.head?_append, q.head?_wholeText]
    cases hw : q.whole with
    | nil =>
      have hne := fraction_ne_nil hw
      rw [List.head?_nil, Option.none_or, List.head?_eq_some_head hne]
      exact List.all_eq_true.1 q.all_fraction _ (List.head_mem hne)
    | cons c t =>
      exact isNumeric_of_isDigit (List.all_eq_true.1 q.whole_digits c (by simp [hw]))
  ends := by
    rw [text, List.getLast?_append, q.getLast?_wholeText]
    cases hf : q.fraction.getLast? with
    | none =>
      rw [List.getLast?_eq_none_iff] at hf
      have hne : q.whole ≠ [] := fun h => fraction_ne_nil h hf
      rw [Option.none_or, List.getLast?_eq_some_getLast hne]
      exact isNumeric_of_isDigit (List.all_eq_true.1 q.whole_digits _ (List.getLast_mem hne))
    | some c =>
      exact List.all_eq_true.1 q.all_fraction c (List.mem_of_getLast? hf)

theorem bare_figure (q : Quantity) : q.figure.bare = q.ungrouped.figure := by
  have hwhole : ',' ∉ q.whole := fun h =>
    ne_comma_of_isNumeric (isNumeric_of_isDigit (List.all_eq_true.1 q.whole_digits _ h)) rfl
  have hfraction : q.fraction.filter (· != ',') = q.fraction := List.filter_eq_self.2 fun c hc =>
    bne_iff_ne.2 (ne_comma_of_isNumeric (List.all_eq_true.1 q.all_fraction c hc))
  refine Figure.ext ?_
  show (q.wholeText ++ q.fraction).filter (· != ',') = q.whole ++ q.fraction
  rw [List.filter_append, hfraction, wholeText]
  split
  · rw [Fixed.filter_grouped hwhole]
  · rw [List.filter_eq_self.2]
    rintro c hc
    refine bne_iff_ne.2 ?_
    rintro rfl
    exact hwhole hc

/-- What is shown of a number that is not negative is such a number. -/
theorem exists_shown (n : Nat) :
    ∃ q : Quantity, q.grouped = true ∧ q.text = Amount.plainDigits n := by
  have hdigits (n : Nat) : (ofNat n).all isDigit = true := List.all_eq_true.2 fun c hc =>
    isDigit_of_isAsciiDigit (List.all_eq_true.1 (Reference.ofNat_ascii n) c hc)
  have hplaces : (Amount.trimZeros (Fixed.fractionDigits 10 n)).all isDigit = true := by
    refine List.all_eq_true.2 fun c hc => ?_
    have hpad := (List.rdropWhile_prefix _ _).subset hc
    rcases List.mem_append.1 hpad with hc | hc
    · rw [List.eq_of_mem_replicate hc]
      rfl
    · exact List.all_eq_true.1 (hdigits _) c hc
  generalize hp : Amount.trimZeros (Fixed.fractionDigits 10 n) = places at hplaces
  cases places with
  | nil =>
    refine ⟨⟨ofNat (n / Nat.pow 10 10), none, true, hdigits _, ?_, .inl (Literal.ofNat_ne_nil _)⟩,
      rfl, ?_⟩
    · rintro _ ⟨⟩
    · rw [Amount.plainDigits, hp]
      exact List.append_nil _
  | cons c t =>
    refine ⟨⟨ofNat (n / Nat.pow 10 10), some (c :: t), true, hdigits _, ?_,
      .inr (Option.some_ne_none _)⟩, rfl, ?_⟩
    · rintro _ ⟨⟩
      exact hplaces
    · rw [Amount.plainDigits]
      simp only [hp]
      rfl

end Quantity

end Percentage

end Worksheet
