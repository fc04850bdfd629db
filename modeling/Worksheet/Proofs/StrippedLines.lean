import Worksheet.Proofs.Stripping
import Worksheet.Proofs.Unspaced

/-!
# The normal form of a line

**Theorem (`Line.stripResult_normal`).** A line without its result is its own normal form: stripping
it again changes nothing, it has no result, and its equals sign stands where it stood. Stripping
takes nothing but blanks exactly if there was no result.

All of this is read off the cut at the equals sign, which is the same before and after
(`cutResult_stripResult`). A result is told by the first character behind the equals sign that is no
blank (`hasResult_eq`), so it is told by what is left of that text without its blanks.
-/

namespace Worksheet

open Text Spacing Reference

theorem Spacing.head?_unspaced (t : Text) : (unspaced t).head? = (trim t).head? := by
  induction t with
  | nil => rfl
  | cons c t ih =>
    rw [trim, trimBy_eq, List.dropWhile_cons]
    cases hc : isBlank c with
    | true =>
      rw [unspaced_cons_blank hc, if_pos rfl]
      exact ih
    | false =>
      rw [unspaced_cons hc, if_neg Bool.false_ne_true]
      exact (congrArg List.head? (Line.trimRight_cons hc t)).symm

theorem Spacing.notMem_unspaced {t : Text} {c : Char} (h : c ∉ t) : c ∉ unspaced t :=
  fun hc => h (List.mem_filter.1 hc).1

namespace Line

variable {l a b : Text}

/-- The equals sign of a stripped line is that of the line. Behind it nothing stands, or a space and
the comment that stood there. -/
theorem cutResult_stripResult (h : cutResult l = some (a, b)) :
    ∃ w, stripResult l = a ++ '=' :: w ∧ cutResult (stripResult l) = some (a, w) ∧
      ('#' ∉ b ∧ w = [] ∨ ∃ v r, b = v ++ '#' :: r ∧ '#' ∉ v ∧ w = ' ' :: '#' :: r) := by
  obtain ⟨w, hstrip, hhead, hw⟩ := stripResult_eq_append h
  refine ⟨w, hstrip, by rw [hstrip, cutResult_before h hhead], ?_⟩
  refine hw.imp (And.imp_left cutAt_eq_none.1) ?_
  rintro ⟨v, r, hcut, rfl⟩
  exact ⟨v, r, cutAt_append hcut, notMem_of_cutAt hcut, rfl⟩

theorem resultPosition?_stripResult (l : Text) :
    resultPosition? (stripResult l) = resultPosition? l := by
  cases h : cutResult l with
  | none => rw [stripResult, h]
  | some p =>
    obtain ⟨w, -, hcut, -⟩ := cutResult_stripResult h
    rw [resultPosition?, resultPosition?, hcut, h]
    rfl

theorem isStripped_stripResult (l : Text) : IsStripped (stripResult l) := by
  intro a' w' hcut'
  cases h : cutResult l with
  | none =>
    rw [stripResult, h] at hcut'
    cases h.symm.trans hcut'
  | some p =>
    obtain ⟨w, -, hcut, hw⟩ := cutResult_stripResult h
    cases hcut.symm.trans hcut'
    rcases hw with ⟨-, rfl⟩ | ⟨v, r, -, -, rfl⟩
    · exact .inl rfl
    · exact .inr ⟨r, rfl⟩

/-! ## Results -/

/-- A line has a result if the first character behind its equals sign that is no blank begins no
comment. -/
theorem hasResult_eq (h : cutResult l = some (a, b)) :
    hasResult l = (unspaced b).head?.any (· != '#') := by
  rw [head?_unspaced, hasResult, h]
  dsimp only
  cases trim b <;> rfl

theorem hasResult_of_isStripped (h : IsStripped l) : hasResult l = false := by
  cases hcut : cutResult l with
  | none => rw [hasResult, hcut]
  | some p =>
    obtain ⟨a, b⟩ := p
    rw [hasResult_eq hcut]
    rcases h a b hcut with rfl | ⟨r, rfl⟩ <;> rfl

/-- What is taken off is blank exactly if no result is taken off. -/
theorem unspaced_stripResult_iff (l : Text) :
    unspaced (stripResult l) = unspaced l ↔ hasResult l = false := by
  cases h : cutResult l with
  | none => simp [stripResult, hasResult, h]
  | some p =>
    obtain ⟨a, b⟩ := p
    obtain ⟨w, hstrip, -, hw⟩ := cutResult_stripResult h
    have hsame : unspaced (stripResult l) = unspaced l ↔ unspaced w = unspaced b := by
      have hequals : isBlank '=' = false := rfl
      rw [hstrip, cutResult_append h, unspaced_append, unspaced_append, unspaced_cons hequals,
        unspaced_cons hequals, List.append_cancel_left_eq, List.cons.injEq, and_iff_right rfl]
    -- In front of what begins no result there is a result, or nothing but blanks.
    have hfront {v x : Text} (hv : '#' ∉ v) (hx : x.head?.any (· != '#') = false) :
        (unspaced v ++ x).head?.any (· != '#') = false ↔ unspaced v = [] := by
      have hv := notMem_unspaced hv
      cases hu : unspaced v with
      | nil => simp [hx]
      | cons c u =>
        rw [hu, List.mem_cons, not_or] at hv
        simp [Ne.symm hv.1]
    rw [hsame, hasResult_eq h]
    rcases hw with ⟨hb, rfl⟩ | ⟨v, r, rfl, hv, rfl⟩
    · have hnone := hfront hb (x := []) rfl
      rw [List.append_nil] at hnone
      rw [hnone, eq_comm]
      rfl
    · have hspace : isBlank ' ' = true := rfl
      have hmark : isBlank '#' = false := rfl
      rw [unspaced_append, unspaced_cons_blank hspace, unspaced_cons hmark, hfront hv rfl,
        List.self_eq_append_left]

/-- **Theorem.** Stripping leads to a normal form, in which a line has no result and its equals sign
in its place. It takes nothing but blanks from a line exactly if that has no result. -/
theorem stripResult_normal (l : Text) :
    stripResult (stripResult l) = stripResult l ∧ hasResult (stripResult l) = false ∧
      resultPosition? (stripResult l) = resultPosition? l ∧
      (unspaced (stripResult l) = unspaced l ↔ hasResult l = false) :=
  ⟨stripResult_eq_self_iff.2 (isStripped_stripResult l),
    hasResult_of_isStripped (isStripped_stripResult l), resultPosition?_stripResult l,
    unspaced_stripResult_iff l⟩

end Line

end Worksheet
