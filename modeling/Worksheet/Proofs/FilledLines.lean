import Worksheet.Proofs.Filling
import Worksheet.Proofs.Idempotence

/-!
# Lines with texts in place of references

A text that begins with no mark of a line, and goes on to no second line, can stand for a reference
anywhere in a document (`Inline`): every line remains one line, and an output line if it was one.

**Theorem (`Reference.expressionOf_fill`).** Amounts in place of the references of an expression
make a line with the filled expression.
-/

namespace Worksheet

open Text

/-- A character that counts at the start of a line, or behind an equals sign. -/
def opensLine (c : Char) : Bool := isBlank c || c == '>' || c == '='

/-- A text of one line that can stand where a line begins, or behind its equals sign. -/
structure Inline (w : Text) : Prop where
  ne_nil : w ≠ []
  head : w.head?.any opensLine = false
  single : '\n' ∉ w

namespace Reference

variable {d : Text → Text} {t a b w : Text} {c : Char} {p : Char → Bool}

theorem notMem_fill (ht : c ∉ t) (hd : ∀ u ∈ runs t, c ∉ d u) : c ∉ fill d t := by
  induction t using pieces_induction with
  | nil => rwa [fill_nil]
  | run u r hne hu hr ih =>
    rw [runs_run hne hu hr] at hd
    obtain ⟨hdu, hd⟩ := List.forall_mem_cons.1 hd
    simp only [List.mem_cons, List.mem_append, not_or] at ht
    rw [fill_run hne hu hr, List.mem_append, not_or]
    exact ⟨hdu, ih ht.2.2 hd⟩
  | char x r hx ih =>
    rw [runs_cons hx] at hd
    simp only [List.mem_cons, not_or] at ht
    rw [fill_cons hx, List.mem_cons, not_or]
    exact ⟨ht.1, ih ht.2 hd⟩

theorem fill_ne_nil (ht : t ≠ []) (hd : ∀ u ∈ runs t, d u ≠ []) : fill d t ≠ [] := by
  rcases pieces_cases t with rfl | ⟨u, r, hne, hu, hr, rfl⟩ | ⟨c, r, hc, rfl⟩
  · exact absurd rfl ht
  · rw [fill_run hne hu hr]
    exact List.append_ne_nil_of_left_ne_nil (hd u (by rw [runs_run hne hu hr]; simp)) _
  · rw [fill_cons hc]
    exact List.cons_ne_nil _ _

/-- A filled text begins with a character of a class when the text does, if neither a backslash nor
what stands for references does. -/
theorem head?_any_fill (hp : p '\\' = false)
    (hd : ∀ u ∈ runs t, d u ≠ [] ∧ (d u).head?.any p = false) :
    (fill d t).head?.any p = t.head?.any p := by
  rcases pieces_cases t with rfl | ⟨u, r, hne, hu, hr, rfl⟩ | ⟨c, r, hc, rfl⟩
  · rw [fill_nil]
  · obtain ⟨hn, hh⟩ := hd u (by rw [runs_run hne hu hr]; simp)
    obtain ⟨x, v, hv⟩ := List.exists_cons_of_ne_nil hn
    rw [fill_run hne hu hr]
    rw [hv] at hh ⊢
    simpa [hp] using hh
  · rw [fill_cons hc]
    rfl

theorem head?_any_of_inline (hp : ∀ c, p c = true → opensLine c = true)
    (h : Inline w) : w ≠ [] ∧ w.head?.any p = false := by
  refine ⟨h.ne_nil, ?_⟩
  obtain ⟨x, v, rfl⟩ := List.exists_cons_of_ne_nil h.ne_nil
  have hx : opensLine x = false := h.head
  simp only [List.head?_cons, Option.any_some]
  exact Bool.eq_false_iff.2 fun hc => by
    rw [hp x hc] at hx
    cases hx

/-! ## Blanks at the ends -/

theorem trimLeft_fill (hd : ∀ u ∈ runs t, d u ≠ [] ∧ (d u).head?.any isBlank = false) :
    trimLeft (fill d t) = fill d (trimLeft t) := by
  have hsplit := fill_append_of_notMem (d := d) (b := trimLeft t)
    (notMem_of_isBlank (List.all_takeWhile (p := isBlank) (l := t)))
  rw [List.takeWhile_append_dropWhile] at hsplit
  have hhead : (fill d (trimLeft t)).head?.any isBlank = false := by
    rw [head?_any_fill (by decide) (by rwa [runs_trimLeft])]
    exact head?_dropWhile_any
  rw [hsplit]
  exact (span_append (List.all_takeWhile (p := isBlank) (l := t)) hhead).2

theorem keepsEnds_fill (hd : ∀ u ∈ runs t, d u ≠ [] ∧ ∀ c ∈ d u, isBlank c = false) :
    KeepsEnds t (fill d t) := by
  induction t using pieces_induction with
  | nil =>
    rw [fill_nil]
    exact .refl []
  | run u r hne hu hr ih =>
    rw [runs_run hne hu hr] at hd
    obtain ⟨⟨hn, hb⟩, hd⟩ := List.forall_mem_cons.1 hd
    rw [fill_run hne hu hr]
    exact (ih hd).append (w := '\\' :: u) hn hb
  | char c r hc ih =>
    rw [runs_cons hc] at hd
    rw [fill_cons hc]
    exact (ih hd).cons c

theorem trim_fill (hd : ∀ u ∈ runs t, d u ≠ [] ∧ ∀ c ∈ d u, isBlank c = false) :
    trim (fill d t) = fill d (trim t) := by
  have hright {x y : Text} (hy : y.all isBlank = true) : trimRight (x ++ y) = trimRight x := by
    show ((x ++ y).reverse.dropWhile isBlank).reverse = _
    rw [List.reverse_append, List.dropWhile_append_of_pos (by simpa using hy)]
    rfl
  have hhead : ∀ u ∈ runs t, d u ≠ [] ∧ (d u).head?.any isBlank = false := fun u hu => by
    obtain ⟨hn, hb⟩ := hd u hu
    obtain ⟨x, v, hv⟩ := List.exists_cons_of_ne_nil hn
    refine ⟨hn, ?_⟩
    rw [hv]
    exact hb x (by rw [hv]; simp)
  have htight : Tight (fill d (trim t)) :=
    (keepsEnds_fill (by rwa [runs_trim])).tight (tight_trim t)
  have hblank : ((trimLeft t).reverse.takeWhile isBlank).reverse.all isBlank = true := by
    rw [List.all_reverse]
    exact List.all_takeWhile
  have hsplit : fill d (trimLeft t) =
      fill d (trim t) ++ ((trimLeft t).reverse.takeWhile isBlank).reverse := by
    conv => lhs; rw [← trimRight_append (trimLeft t)]
    rw [fill_append (head?_any_isDigit_of_isBlank hblank), fill_of_notMem (notMem_of_isBlank hblank)]
    rfl
  have hend : trimRight (fill d (trim t)) = fill d (trim t) := by
    have h := htight.trim_eq
    rwa [trim, trimBy_eq, dropWhile_of_head? htight.1] at h
  show trimRight (trimLeft (fill d t)) = _
  rw [trimLeft_fill hhead, hsplit, hright hblank, hend]

/-! ## Output lines -/

/-- Texts of one line in place of references make no line an output line. -/
theorem isOutput_fill {l : Text} (hd : ∀ u ∈ runs l, Inline (d u)) :
    Line.isOutput (fill d l) = Line.isOutput l := by
  have hblank {t : Text} (ht : ∀ u ∈ runs t, Inline (d u)) {c : Char} (hc : isBlank c = true) :
      (fill d t).head?.any (· == c) = t.head?.any (· == c) := by
    refine head?_any_fill ?_ fun u hu => head?_any_of_inline (fun x hx => ?_) (ht u hu)
    · rw [beq_eq_false_iff_ne]
      rintro rfl
      cases hc
    · rw [beq_iff_eq.1 hx, opensLine, hc]
      rfl
  have hmark (c : Char) (t : Text) : Line.outputMark.isPrefixOf (c :: t) =
      (c == '>' && t.head?.any (· == ' ')) := by
    cases t <;> simp [Line.outputMark, List.isPrefixOf, BEq.comm]
  have hd : ∀ u ∈ runs (trimLeft l), Inline (d u) := by rwa [runs_trimLeft]
  unfold Line.isOutput
  rw [trimLeft_fill fun u hu => head?_any_of_inline (fun c hc => by simp [opensLine, hc])
    (hd u (by rwa [runs_trimLeft]))]
  generalize trimLeft l = t at hd
  rcases pieces_cases t with rfl | ⟨u, r, hne, hu, hr, rfl⟩ | ⟨c, r, hc, rfl⟩
  · rw [fill_nil]
  · have hi := hd u (by rw [runs_run hne hu hr]; simp)
    obtain ⟨x, v, hv⟩ := List.exists_cons_of_ne_nil hi.ne_nil
    have hx : (x == '>') = false := by
      have := hi.head
      rw [hv] at this
      simp only [List.head?_cons, Option.any_some, opensLine, Bool.or_eq_false_iff] at this
      exact this.1.2
    rw [fill_run hne hu hr, hv, List.cons_append, hmark, hmark, hx]
    rfl
  · rw [runs_cons hc] at hd
    rw [fill_cons hc, hmark, hmark, hblank hd (by decide)]

/-! ## At the equals sign -/

theorem head?_of_cutResult (h : Line.cutResult t = some (a, b)) : b.head? ≠ some '=' := by
  induction hn : t.length using Nat.strongRecOn generalizing t a with
  | ind n ih =>
    cases t with
    | nil => cases h
    | cons c r =>
      rw [cutResult_cons] at h
      split at h
      · obtain ⟨⟨a', b'⟩, hr, he⟩ := Option.map_eq_some_iff.1 h
        cases he
        refine ih r.tail.length ?_ hr rfl
        rw [← hn, List.length_cons, List.length_tail]
        omega
      · next hp =>
        split at h
        · next hc =>
          cases h
          simpa [hc, opensComparison] using hp
        · obtain ⟨⟨a', b'⟩, hr, he⟩ := Option.map_eq_some_iff.1 h
          cases he
          exact ih r.length (by simp [← hn]) hr rfl

/-- What stands for the references in front of the equals sign does not move it. -/
theorem cutResult_fill {t a b : Text} (h : Line.cutResult t = some (a, b))
    (hd : ∀ u ∈ runs a, d u ≠ [] ∧ ∀ c ∈ d u, opensComparison c = false)
    (hw : w.head? ≠ some '=') :
    Line.cutResult (fill d a ++ '=' :: w) = some (fill d a, w) := by
  rcases pieces_cases t with rfl | ⟨u, r, hne, hu, hr, rfl⟩ | ⟨c, r, hc, rfl⟩
  · cases h
  · have hrun : ∀ c ∈ '\\' :: u, opensComparison c = false := List.forall_mem_cons.2
      ⟨rfl, fun c hc => opensComparison_of_isDigit (List.all_eq_true.1 hu c hc)⟩
    rw [← List.cons_append, cutResult_append_left hrun] at h
    obtain ⟨⟨a', b'⟩, hcut, he⟩ := Option.map_eq_some_iff.1 h
    cases he
    have ha := head?_any_of_append hr (Line.cutResult_append hcut)
    rw [List.cons_append, runs_run hne hu ha] at hd
    obtain ⟨⟨-, hdu⟩, hd⟩ := List.forall_mem_cons.1 hd
    rw [List.cons_append, fill_run hne hu ha, List.append_assoc, cutResult_append_left hdu,
      cutResult_fill hcut hd hw]
    rfl
  · rw [cutResult_cons] at h
    split at h
    · next hp =>
      simp only [Bool.and_eq_true, beq_iff_eq] at hp
      obtain ⟨r, rfl⟩ := List.head?_eq_some_iff.1 hp.2
      rw [List.tail_cons] at h
      obtain ⟨⟨a', b'⟩, hcut, he⟩ := Option.map_eq_some_iff.1 h
      cases he
      have hb : c ≠ '\\' := by
        rintro rfl
        cases hp.1
      rw [runs_cons fun h => absurd h hb, runs_cons fun h => absurd h (by decide)] at hd
      rw [fill_cons fun h => absurd h hb, fill_cons fun h => absurd h (by decide),
        List.cons_append, List.cons_append, cutResult_cons, if_pos (by simp [hp.1]), List.tail_cons,
        cutResult_fill hcut hd hw]
      rfl
    · next hp =>
      split at h
      · next hc =>
        cases h
        rw [fill_nil, List.nil_append, cutResult_cons, if_neg (by simp [hw]), if_pos rfl]
      · next hne =>
        obtain ⟨⟨a', b'⟩, hcut, he⟩ := Option.map_eq_some_iff.1 h
        cases he
        have hr := Line.cutResult_append hcut
        have ha (h : c = '\\') : a'.head?.any isDigit = false := head?_any_of_append (hc h) hr
        rw [runs_cons ha] at hd
        -- What follows `c` begins with an equals sign when it did before.
        have hsame : (fill d (a' ++ ['='])).head?.any (· == '=') =
            (a' ++ ['=']).head?.any (· == '=') := by
          refine head?_any_fill rfl fun u hu => ?_
          rw [runs_append rfl, runs_eq_nil (t := ['=']) (by decide), List.append_nil] at hu
          obtain ⟨hn, hdu⟩ := hd u hu
          obtain ⟨x, v, hv⟩ := List.exists_cons_of_ne_nil hn
          refine ⟨hn, ?_⟩
          have hx := hdu x (by rw [hv]; simp)
          rw [hv, List.head?_cons, Option.any_some, beq_eq_false_iff_ne]
          rintro rfl
          cases hx
        have hhead (x y : Text) : ((x ++ '=' :: y).head? == some '=') =
            (x ++ ['=']).head?.any (· == '=') := by
          cases x <;> rfl
        have hstill : ¬(opensComparison c && (fill d a' ++ '=' :: w).head? == some '=') = true := by
          rw [fill_append_cons (by decide) (by decide), fill_nil] at hsame
          rwa [hhead, hsame, ← hhead a' b', ← hr]
        rw [fill_cons ha, List.cons_append, cutResult_cons, if_neg hstill, if_neg hne,
          cutResult_fill hcut hd hw]
        rfl
termination_by t.length
decreasing_by
  all_goals
    subst_vars
    simp only [List.length_cons, List.length_append]
    omega

/-! ## Expressions -/

/-- The expression of a line is what stands in front of its equals sign, if no comment begins
there. -/
theorem exists_expressionOf {l expr : Text} :
    (∃ comment, Document.expressionOf? l = some (expr, comment)) ↔
      ∃ a b, Line.cutResult l = some (a, b) ∧ '#' ∉ a ∧ trim a = expr ∧ expr ≠ [] := by
  obtain ⟨z, hz, hcomment⟩ : ∃ z, l = (Line.splitComment l).1 ++ z ∧
      (z = [] ∨ ∃ r, z = '#' :: r) := by
    unfold Line.splitComment
    split
    · exact ⟨[], by simp, .inl rfl⟩
    · next a b h => exact ⟨'#' :: b, cutAt_append h, .inr ⟨b, rfl⟩⟩
  have hend : z.head? ≠ some '=' := by
    rcases hcomment with rfl | ⟨r, rfl⟩ <;> simp
  have hcut := Line.cutResult_append_of_head (t := (Line.splitComment l).1) hend
  rw [← hz] at hcut
  constructor
  · rintro ⟨comment, h⟩
    obtain ⟨-, hne, a, b, hbody, rfl⟩ := cutResult_of_expressionOf h
    rw [hbody] at hcut
    refine ⟨a, b ++ z, hcut, fun hm => notMem_splitComment l ?_, rfl, hne⟩
    rw [Line.cutResult_append hbody]
    exact List.mem_append_left _ hm
  · rintro ⟨a, b, h, hmark, rfl, hne⟩
    have hremark : isRemark l = false := by
      obtain ⟨c, r, hc⟩ : ∃ c r, a.dropWhile isBlank = c :: r :=
        List.exists_cons_of_ne_nil fun he => hne (by rw [trim, trimBy_eq, he]; rfl)
      have hblank : isBlank c = false := by
        have := head?_dropWhile_any (p := isBlank) (a := a)
        rwa [hc] at this
      have hm : c ≠ '#' := by
        rintro rfl
        refine hmark ((List.dropWhile_suffix isBlank).subset ?_)
        rw [hc]
        exact List.mem_cons_self
      have hleft : l.dropWhile isBlank = c :: (r ++ '=' :: b) := by
        rw [Line.cutResult_append h, List.dropWhile_append, hc]
        rfl
      rw [isRemark, trim, trimBy_eq, hleft]
      show (trimRight (c :: (r ++ '=' :: b))).head?.all (· == '#') = false
      rw [Line.trimRight_cons hblank]
      simpa using hm
    rw [h] at hcut
    cases hbody : Line.cutResult (Line.splitComment l).1 with
    | none =>
      rw [hbody] at hcut
      obtain ⟨⟨a', b'⟩, hz', he⟩ := Option.map_eq_some_iff.1 hcut.symm
      cases he
      rcases hcomment with rfl | ⟨r, rfl⟩
      · cases hz'
      · rw [cutResult_cons, if_neg (by simp [opensComparison]), if_neg (by decide)] at hz'
        obtain ⟨p, -, he⟩ := Option.map_eq_some_iff.1 hz'
        cases he
        exact absurd (by simp) hmark
    | some p =>
      rw [hbody] at hcut
      obtain ⟨rfl, -⟩ := Prod.mk.inj (Option.some.inj hcut)
      refine ⟨(Line.splitComment l).2, ?_⟩
      rw [expressionOf_eq, hremark, hbody]
      simp [hne]

/-- Amounts in place of the references of an expression make a line with the filled expression. -/
theorem expressionOf_fill {l expr comment : Text}
    (h : Document.expressionOf? l = some (expr, comment)) (hl : ∀ u ∈ runs l, Inline (d u))
    (hx : ∀ u ∈ runs expr, ∃ ws, Token.IsAmount (d u) ws) :
    ∃ comment', Document.expressionOf? (fill d l) = some (fill d expr, comment') := by
  obtain ⟨a, b, hcut, hmark, rfl, hne⟩ := exists_expressionOf.1 ⟨comment, h⟩
  rw [runs_trim] at hx
  refine exists_expressionOf.2 ⟨fill d a, fill d b, ?_, ?_, ?_, ?_⟩
  · have hl' := Line.cutResult_append hcut
    have hfill : fill d l = fill d a ++ '=' :: fill d b := by
      rw [hl', fill_append_cons (by decide) (by decide)]
    have hb : ∀ u ∈ runs b, Inline (d u) := fun u hu => hl u (by
      rw [hl', runs_append (b := '=' :: b) rfl, runs_cons fun he => absurd he (by decide)]
      exact List.mem_append_right _ hu)
    have hhead : (fill d b).head?.any (· == '=') = b.head?.any (· == '=') :=
      head?_any_fill rfl fun u hu => head?_any_of_inline (fun c hc => by simp [opensLine, hc])
        (hb u hu)
    rw [hfill]
    refine cutResult_fill hcut (fun u hu => ?_) ?_
    · obtain ⟨ws, hw⟩ := hx u hu
      refine ⟨hw.ne_nil, fun c hc => Bool.eq_false_iff.2 fun ho => ?_⟩
      have hchar := List.all_eq_true.1 hw.all_isAmountChar c hc
      simp only [opensComparison, Bool.or_eq_true, beq_iff_eq] at ho
      rcases ho with ((rfl | rfl) | rfl) | rfl <;> cases hchar
    · have hne := head?_of_cutResult hcut
      intro he
      rw [he] at hhead
      cases hb : b.head? with
      | none => simp [hb] at hhead
      | some c =>
        simp [hb] at hhead
        exact hne (by rw [hb, ← hhead])
  · refine notMem_fill hmark fun u hu hm => ?_
    obtain ⟨ws, hw⟩ := hx u hu
    cases List.all_eq_true.1 hw.all_isAmountChar _ hm
  · exact trim_fill fun u hu => (hx u hu).elim fun ws hw => ⟨hw.ne_nil, hw.not_isBlank⟩
  · refine fill_ne_nil hne fun u hu => ?_
    rw [runs_trim] at hu
    exact (hx u hu).elim fun ws hw => hw.ne_nil

end Reference

end Worksheet
