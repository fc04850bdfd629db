import Mathlib
import Worksheet.Json.Reader

/-!
# What reading JSON can come to

**Theorem (`Json.read_cases`).** A text that has no run of more than 4300 digits, and no more
opening brackets than values may be nested, is a value or is malformed.

Each reader leaves an end of the text that it was given, and refuses a number or a nesting only for
what stands in that text. `Within` says so of one reading. It is kept by what follows a reading
(`Within.bind`), and a bracket that is opened allows for one more (`Within.opened`).
-/

namespace Worksheet

open Text

namespace Json

variable {α β : Type} {d n : Nat} {t u r w : Text}

/-- The text has a run of digits that is too long for a whole number. -/
def LongRun (t : Text) : Prop :=
  ∃ ds, ds <:+: t ∧ ds.all isAsciiDigit = true ∧ Literal.maxDigits < ds.length

/-- What a reading leaves is an end of the text. It refuses a number only if a run of digits is too
long, and a nesting only if there are more than `d` opening brackets. -/
def Within (d : Nat) (t : Text) : Except ReadError (α × Text) → Prop
  | .ok (_, r) => r <:+ t
  | .error (.malformed _) => True
  | .error .hugeNumber => LongRun t
  | .error .tooDeep => d < t.countP isOpening

theorem LongRun.of_infix (h : LongRun r) (hr : r <:+: t) : LongRun t := by
  obtain ⟨ds, hds, hdigits, hlong⟩ := h
  exact ⟨ds, hds.trans hr, hdigits, hlong⟩

namespace Within

variable {x : Except ReadError (α × Text)} {f : α × Text → Except ReadError (β × Text)}

theorem suffix (h : Within d r x) (hr : r <:+ t) : Within d t x :=
  match x, h with
  | .ok (_, _), h => List.IsSuffix.trans h hr
  | .error (.malformed _), _ => trivial
  | .error .hugeNumber, h => LongRun.of_infix h hr.isInfix
  | .error .tooDeep, h => Nat.lt_of_lt_of_le h (hr.sublist.countP_le)

theorem bind (h : Within d t x) (hf : ∀ a r, r <:+ t → Within d t (f (a, r))) :
    Within d t (x >>= f) :=
  match x, h with
  | .ok (a, r), h => hf a r h
  | .error (.malformed _), _ => trivial
  | .error .hugeNumber, h => h
  | .error .tooDeep, h => h

/-- Behind an opening bracket one less is left to nest. -/
theorem opened {c : Char} (hc : isOpening c = true) (h : Within d r x) :
    Within (d + 1) (c :: r) x :=
  match x, h with
  | .ok (_, _), h => List.IsSuffix.trans h (List.suffix_cons c r)
  | .error (.malformed _), _ => trivial
  | .error .hugeNumber, h => LongRun.of_infix h (List.suffix_cons c r).isInfix
  | .error .tooDeep, h => by
    rw [Within, List.countP_cons_of_pos hc]
    exact Nat.succ_lt_succ h

theorem stop (r : Text) : Within d t (stopAt r : Except ReadError (α × Text)) := trivial

end Within

theorem skip_suffix (t : Text) : skip t <:+ t := List.dropWhile_suffix _

/-! ## Strings -/

theorem within_codedChar (t : Text) : Within d t (codedChar t) := by
  have hfour {t r : Text} {k : Nat} (h : fourDigits? t = some (k, r)) : r <:+ t := by
    unfold fourDigits? at h
    obtain ⟨ds, -, h⟩ := Option.bind_eq_some_iff.1 h
    split at h
    · cases h
    · cases h
      exact List.drop_suffix 4 t
  unfold codedChar
  split
  · exact .stop _
  · next k r hk =>
    have hr := hfour hk
    split
    · next r' =>
      split
      · split
        · exact .stop _
        · next j r'' hj =>
          split
          · exact (hfour hj).trans (((List.suffix_cons _ _).trans (List.suffix_cons _ _)).trans hr)
          · exact hr
      · exact hr
    · exact hr

theorem within_stringFrom (start done t : Text) : Within d t (stringFrom start n done t) := by
  induction n generalizing done t with
  | zero => exact .stop _
  | succ n ih =>
    unfold stringFrom
    split
    · exact .stop _
    · exact List.suffix_cons _ _
    · exact .stop _
    · next r =>
      have hr : r <:+ '\\' :: 'u' :: r := (List.suffix_cons _ _).trans (List.suffix_cons _ _)
      exact ((within_codedChar r).suffix hr).bind fun c r' hr' => (ih (c :: done) r').suffix hr'
    · next r _ =>
      split
      · exact (ih _ r).suffix ((List.suffix_cons _ _).trans (List.suffix_cons _ _))
      · exact .stop _
    · next c r _ _ _ _ =>
      split
      · exact .stop _
      · exact (ih _ r).suffix (List.suffix_cons _ _)

theorem within_stringBehind (t : Text) : Within d t (stringBehind n t) := within_stringFrom _ _ _

/-! ## Numbers -/

theorem placesOf_suffix (t : Text) : (placesOf t).2 <:+ t := by
  unfold placesOf
  split
  · next r =>
    split
    · rw [List.span_eq_takeWhile_dropWhile]
      exact (List.dropWhile_suffix _).trans (List.suffix_cons _ _)
    · exact List.suffix_refl _
  · exact List.suffix_refl _

theorem exponentOf_suffix (t : Text) : (exponentOf t).2 <:+ t := by
  have hsign (t : Text) : (Literal.splitSign t).2 <:+ t := by
    unfold Literal.splitSign
    split
    · exact List.suffix_cons _ _
    · exact List.suffix_cons _ _
    · exact List.suffix_refl _
  unfold exponentOf
  split
  · next e r =>
    split
    · dsimp only
      rw [List.span_eq_takeWhile_dropWhile]
      split
      · exact List.suffix_refl _
      · exact ((List.dropWhile_suffix _).trans (hsign r)).trans (List.suffix_cons _ _)
    · exact List.suffix_refl _
  · exact List.suffix_refl _

theorem within_number (t : Text) : Within d t (number t) := by
  unfold number
  dsimp only
  -- What stands behind a sign is an end of the text.
  have hdigits : (if (t.head? == some '-') = true then t.drop 1 else t) <:+ t := by
    split
    · exact List.drop_suffix 1 t
    · exact List.suffix_refl t
  split
  · exact .stop _
  · next c r hcr =>
    rw [hcr] at hdigits
    split
    · exact .stop _
    · next hc =>
      -- The whole part is a run of digits, with the rest of the text behind it.
      obtain ⟨whole, r', hwhole, hr', hall⟩ : ∃ whole r', (if c = '0' then (['0'], r)
          else (c :: r.takeWhile isAsciiDigit, r.dropWhile isAsciiDigit)) = (whole, r') ∧
          whole ++ r' = c :: r ∧ whole.all isAsciiDigit = true := by
        split
        · next h0 => exact ⟨_, _, rfl, by rw [h0]; rfl, by decide⟩
        · refine ⟨_, _, rfl, ?_, ?_⟩
          · rw [List.cons_append, List.takeWhile_append_dropWhile]
          · simpa using hc
      rw [hwhole]
      dsimp only
      have hleft : r' <:+ t := (hr' ▸ List.suffix_append whole r').trans hdigits
      have hrest := (exponentOf_suffix (placesOf r').2).trans ((placesOf_suffix r').trans hleft)
      split
      · split
        · next hlong =>
          refine ⟨whole, ?_, hall, ?_⟩
          · exact (hr' ▸ List.infix_append' [] whole r').trans hdigits.isInfix
          · unfold Literal.natural? at hlong
            split at hlong
            · assumption
            · cases hlong
        · exact hrest
      · exact hrest

/-! ## Values -/

variable {value : Text → Except ReadError (Json × Text)}

theorem within_items (h : ∀ t, Within d t (value t)) (done : List Json) (t : Text) :
    Within d t (items value n done t) := by
  induction n generalizing done t with
  | zero => exact .stop _
  | succ n ih =>
    unfold items
    refine (h t).bind fun x r hr => ?_
    have hskip : skip r <:+ t := (skip_suffix r).trans hr
    dsimp only
    split
    · next r' hr' => exact (List.suffix_cons _ _).trans (hr' ▸ hskip)
    · next r' hr' =>
      refine (ih (x :: done) (skip r')).suffix ?_
      exact (skip_suffix r').trans ((List.suffix_cons _ _).trans (hr' ▸ hskip))
    · exact .stop _

theorem within_fields (h : ∀ t, Within d t (value t)) (done : List (Text × Json)) (t : Text) :
    Within d t (fields value n done t) := by
  induction n generalizing done t with
  | zero => exact .stop _
  | succ n ih =>
    unfold fields
    split
    · next r =>
      refine ((within_stringBehind r).suffix (List.suffix_cons _ _)).bind fun name r hr => ?_
      have hskip : skip r <:+ _ := (skip_suffix r).trans hr
      dsimp only
      split
      · next r' hr' =>
        have hvalue := (skip_suffix r').trans ((List.suffix_cons _ _).trans (hr' ▸ hskip))
        refine ((h (skip r')).suffix hvalue).bind fun x r'' hx => ?_
        have hskip' := (skip_suffix r'').trans hx
        dsimp only
        split
        · next r₃ hr₃ => exact (List.suffix_cons _ _).trans (hr₃ ▸ hskip')
        · next r₃ hr₃ =>
          refine (ih _ (skip r₃)).suffix ?_
          exact (skip_suffix r₃).trans ((List.suffix_cons _ _).trans (hr₃ ▸ hskip'))
        · exact .stop _
      · exact .stop _
    · exact .stop _

theorem within_plain (t : Text) : Within d t (plain n t) := by
  unfold plain
  split
  · next r =>
    exact ((within_stringBehind r).suffix (List.suffix_cons _ _)).bind fun _ _ hr => hr
  · split
    · exact List.drop_suffix _ _
    · exact within_number t

theorem within_value (n d : Nat) (t : Text) : Within d t (Json.value n d t) := by
  induction d generalizing t with
  | zero =>
    unfold Json.value
    split
    · next h =>
      cases t with
      | nil => cases h
      | cons c r =>
        rw [List.head?_cons, Option.any_some] at h
        exact List.countP_pos_iff.2 ⟨c, List.mem_cons_self, h⟩
    · exact within_plain t
  | succ d ih =>
    unfold Json.value
    split
    · next r =>
      split
      · next r' hr =>
        exact ((List.suffix_cons _ _).trans (hr ▸ skip_suffix r)).trans (List.suffix_cons _ _)
      · refine .opened rfl (.suffix (.bind (within_items ih _ _) ?_) (skip_suffix r))
        exact fun _ _ hr => hr
    · next r =>
      split
      · next r' hr =>
        exact ((List.suffix_cons _ _).trans (hr ▸ skip_suffix r)).trans (List.suffix_cons _ _)
      · refine .opened rfl (.suffix (.bind (within_fields ih _ _) ?_) (skip_suffix r))
        exact fun _ _ hr => hr
    · exact within_plain t

theorem within_alone (t : Text) : Within maxDepth t (alone t) := by
  refine ((within_value t.length maxDepth (skip t)).suffix (skip_suffix t)).bind fun j r _ => ?_
  dsimp only
  split
  · exact List.nil_suffix
  · exact .stop _

/-- **A text is a value or malformed** where no run of digits is too long for a number, and no more
brackets are opened than may be nested. -/
theorem read_cases (hlong : ¬LongRun t) (hnested : t.countP isOpening ≤ maxDepth) :
    (∃ j, read t = .ok j) ∨ ∃ n, read t = .error (.malformed n) := by
  have hwithin := within_alone t
  unfold read
  match h : alone t with
  | .ok (j, r) => exact .inl ⟨j, rfl⟩
  | .error (.malformed left) => exact .inr ⟨_, rfl⟩
  | .error .hugeNumber =>
    rw [h] at hwithin
    exact absurd hwithin hlong
  | .error .tooDeep =>
    rw [h] at hwithin
    exact absurd hwithin (Nat.not_lt.2 hnested)

end Json

end Worksheet
