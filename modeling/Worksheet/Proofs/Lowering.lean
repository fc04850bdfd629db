import Worksheet.Proofs.Rewriting

/-!
# Lower case of a text with other references

Lower case makes no character a digit or a backslash, and a reference ends the word in front of it
whatever its digits are. So the references of a text are those of its lower case, and exchanging
them commutes with lower case (`lower_rewrite`).
-/

namespace Worksheet

open Text

namespace Text

/-- Neither a digit nor a backslash. -/
def isForeign (c : Char) : Bool := !isDigit c && c != '\\'

/-- No digit is the lower case of another character, and nothing in front of the small letters. -/
theorem lowerRuns_foreign : ∀ r ∈ lowerRuns.toList, 96 < (r.1 : Int) + r.2.2.2 ∧
    ∀ z ∈ decimalZeros.toList, (z : Int) + 9 < r.1 + r.2.2.2 ∨ r.2.1 + r.2.2.2 < (z : Int) := by
  have hbeyond : ∀ r ∈ lowerRuns.toList, 96 < (r.1 : Int) + r.2.2.2 ∧ r.1 ≤ r.2.1 := by
    decide +kernel
  have happart : rangeBits (lowerRuns.toList.map fun r =>
      (((r.1 : Int) + r.2.2.2).toNat, ((r.2.1 : Int) + r.2.2.2).toNat)) &&&
      rangeBits (decimalZeros.toList.map fun z => (z, z + 9)) = 0 := by decide +kernel
  intro r hr
  obtain ⟨hlow, hle⟩ := hbeyond r hr
  refine ⟨hlow, fun z hz => ?_⟩
  have := apart_of_rangeBits happart (List.mem_map_of_mem hr) (List.mem_map_of_mem hz)
    (Int.toNat_le_toNat (by omega)) (Nat.le_add_right z 9)
  dsimp only at this
  omega

/-- Capitals of ASCII become small letters, and other characters stay. -/
theorem toLower_cases (c : Char) :
    c.toLower = c ∨ (65 ≤ c.toNat ∧ c.toNat ≤ 90 ∧ c.toLower.toNat = c.toNat + 32) := by
  unfold Char.toLower
  split
  · next h =>
    simp only [ge_iff_le, UInt32.le_iff_toNat_le] at h
    refine .inr ⟨h.1, h.2, ?_⟩
    have hle : c.val.toNat ≤ 90 := h.2
    show (c.val + 32).toNat = c.val.toNat + 32
    rw [UInt32.toNat_add]
    show (c.val.toNat + 32) % 4294967296 = c.val.toNat + 32
    omega
  · exact .inl rfl

theorem toLower_plain {c : Char} : (c.toLower = '\\' → c = '\\') ∧
    (isDigit c.toLower = true → isDigit c = true) ∧ (isAsciiDigit c = true → c.toLower = c) := by
  rcases toLower_cases c with h | ⟨hl, hr, h⟩
  · rw [h]
    exact ⟨id, id, fun _ => rfl⟩
  · refine ⟨fun he => ?_, fun hd => ?_, fun hd => ?_⟩
    · have : c.toNat + 32 = 92 := h ▸ congrArg Char.toNat he
      omega
    · cases ha : isAsciiDigit c.toLower with
      | true =>
        have := toNat_of_isAsciiDigit ha
        omega
      | false =>
        have := (exists_zero_of_isDigit hd ha).1
        omega
    · have := toNat_of_isAsciiDigit hd
      omega

theorem ranges_caseless : ∀ r ∈ casedRanges.toList ++ caseIgnorableRanges.toList,
    (57 < r.1 ∨ r.2 < 48) ∧ (92 < r.1 ∨ r.2 < 92) := by
  decide +kernel

theorem inRanges_eq_false {ranges : Array (Nat × Nat)} {n : Nat}
    (h : ∀ r ∈ ranges.toList, n < r.1 ∨ r.2 < n) : inRanges ranges n = false := by
  rw [inRanges, ← Array.any_toList, List.any_eq_false]
  intro r hr
  have := h r hr
  simp only [Bool.and_eq_true, decide_eq_true_eq]
  omega

/-- ASCII digits and the backslash neither have case nor are passed over in a search for it. -/
theorem caseless {c : Char} (h : isAsciiDigit c = true ∨ c = '\\') :
    isCased c = false ∧ isCaseIgnorable c = false := by
  have hc : (48 ≤ c.toNat ∧ c.toNat ≤ 57) ∨ c.toNat = 92 := by
    rcases h with h | rfl
    · exact .inl (toNat_of_isAsciiDigit h)
    · exact .inr rfl
  have hr {r : Nat × Nat} (hr : r ∈ casedRanges.toList ++ caseIgnorableRanges.toList) :
      c.toNat < r.1 ∨ r.2 < c.toNat := by
    have := ranges_caseless r hr
    omega
  exact ⟨inRanges_eq_false fun r hm => hr (List.mem_append_left _ hm),
    inRanges_eq_false fun r hm => hr (List.mem_append_right _ hm)⟩

theorem toNat_ofNat (n : Nat) : (Char.ofNat n).toNat = n ∨ (Char.ofNat n).toNat = 0 := by
  by_cases h : n.isValidChar
  · left
    simp [Char.ofNat, h, Char.toNat, Char.ofNatAux]
  · right
    simp [Char.ofNat, h]

theorem lowerChar_cases {c : Char} (hn : ¬c.toNat < 128) :
    lowerChar c = c ∨ isForeign (lowerChar c) = true := by
  unfold lowerChar
  simp only [hn, if_false]
  split
  · next lo hi step shift hr =>
    have hm := Array.mem_toList_iff.2 (Array.mem_of_find?_eq_some hr)
    have hp := Array.find?_some hr
    simp only [Bool.and_eq_true, decide_eq_true_eq] at hp
    obtain ⟨hb, hz⟩ := lowerRuns_foreign _ hm
    generalize hd : Char.ofNat (c.toNat + shift).toNat = d
    have hd' : d.toNat = (c.toNat + shift).toNat ∨ d.toNat = 0 := hd ▸ toNat_ofNat _
    right
    rw [isForeign, Bool.and_eq_true, Bool.not_eq_true', bne_iff_ne]
    refine ⟨Bool.eq_false_iff.2 fun hdig => ?_, ?_⟩
    · cases ha : isAsciiDigit d with
      | true =>
        have := toNat_of_isAsciiDigit ha
        simp only at *
        omega
      | false =>
        obtain ⟨_, z, hzm, _⟩ := exists_zero_of_isDigit hdig ha
        have := hz z hzm
        simp only at *
        omega
    · rintro rfl
      have : ('\\' : Char).toNat = 92 := rfl
      simp only at *
      omega
  · exact .inl rfl

theorem lowerChar_ne_backslash {c : Char} (hn : ¬c.toNat < 128) : lowerChar c ≠ '\\' := by
  rcases lowerChar_cases hn with h | h
  · rw [h]
    rintro rfl
    exact hn (by decide)
  · rw [isForeign, Bool.and_eq_true, bne_iff_ne] at h
    exact h.2

/-- Lower case begins with a digit only where the text does. -/
theorem head?_lowerFrom {before r : Text} (h : r.head?.any isDigit = false) :
    (lowerFrom before r).head?.any isDigit = false := by
  cases r with
  | nil => rfl
  | cons c r =>
    rw [List.head?_cons, Option.any_some] at h
    rw [lowerFrom]
    split
    · next hn =>
      refine Bool.eq_false_iff.2 fun hd => ?_
      rw [toLower_plain.2.1 (by simpa using hd)] at h
      cases h
    · next hn =>
      split
      · show isDigit 'i' = false
        decide +kernel
      · split
        · show isDigit (if finalSigma before r then 'ς' else 'σ') = false
          split <;> decide +kernel
        · rcases lowerChar_cases hn with hl | hl
          · simpa [hl] using h
          · rw [isForeign, Bool.and_eq_true, Bool.not_eq_true'] at hl
            simpa using hl.1

/-! ## Sigmas -/

/-- Whether the text behind which lower case is taken ends in a character with case. -/
def endsCased (before : Text) : Bool := (before.dropWhile isCaseIgnorable).head?.any isCased

theorem endsCased_cons {b b' : Text} (h : endsCased b = endsCased b') (c : Char) :
    endsCased (c :: b) = endsCased (c :: b') := by
  unfold endsCased at *
  by_cases hc : isCaseIgnorable c = true
  · rw [List.dropWhile_cons_of_pos hc, List.dropWhile_cons_of_pos hc, h]
  · rw [List.dropWhile_cons_of_neg hc, List.dropWhile_cons_of_neg hc]
    rfl

theorem endsCased_digits {u b : Text} (hne : u ≠ []) (hu : u.all isAsciiDigit = true) :
    endsCased (u.reverse ++ b) = false := by
  obtain ⟨c, s, hs⟩ := List.exists_cons_of_ne_nil (by simpa using hne : u.reverse ≠ [])
  have hc : isAsciiDigit c = true :=
    List.all_eq_true.1 hu c (List.mem_reverse.1 (by rw [hs]; exact List.mem_cons_self))
  obtain ⟨hcased, hign⟩ := caseless (.inl hc)
  rw [hs, endsCased, List.cons_append, List.dropWhile_cons_of_neg (by simp [hign])]
  simpa using hcased

theorem lowerFrom_digits {u b r : Text} (hu : u.all isAsciiDigit = true) :
    lowerFrom b (u ++ r) = u ++ lowerFrom (u.reverse ++ b) r := by
  induction u generalizing b with
  | nil => rfl
  | cons c u ih =>
    rw [List.all_cons, Bool.and_eq_true] at hu
    have hn : c.toNat < 128 := Nat.lt_of_le_of_lt (toNat_of_isAsciiDigit hu.1).2 (by decide)
    rw [List.cons_append, lowerFrom, if_pos hn, toLower_plain.2.2 hu.1, ih hu.2]
    simp

end Text

namespace Reference

variable {ρ : Text → Text}

theorem head?_dropWhile_rewrite {p : Char → Bool} (hp : p '\\' = false) (t : Text) :
    ((rewrite ρ t).dropWhile p).head? = (t.dropWhile p).head? := by
  induction t using pieces_induction with
  | nil => rw [rewrite_nil]
  | run u r hne hu hr =>
    rw [rewrite_run hne hu hr, List.dropWhile_cons_of_neg (by simp [hp]),
      List.dropWhile_cons_of_neg (by simp [hp])]
    rfl
  | char c r hc ih =>
    rw [rewrite_cons hc]
    by_cases hpc : p c = true
    · rw [List.dropWhile_cons_of_pos hpc, List.dropWhile_cons_of_pos hpc, ih]
    · rw [List.dropWhile_cons_of_neg hpc, List.dropWhile_cons_of_neg hpc]
      rfl

theorem finalSigma_rewrite {b b' : Text} (h : endsCased b = endsCased b') (r : Text) :
    finalSigma b' (rewrite ρ r) = finalSigma b r := by
  unfold finalSigma
  rw [head?_dropWhile_rewrite (caseless (.inr rfl)).2]
  unfold endsCased at h
  rw [h]

/-- Lower case keeps the references, and the rewritten text is lowered like the text. -/
theorem lowerFrom_rewrite (hρ : KeepsAscii ρ) {b b' : Text} (h : endsCased b = endsCased b')
    (hne : ∀ digits, ρ digits ≠ []) (t : Text)
    (ht : ∀ digits ∈ runs t, digits.all isAsciiDigit = true) :
    lowerFrom b' (rewrite ρ t) = rewrite ρ (lowerFrom b t) ∧ runs (lowerFrom b t) = runs t := by
  induction t using pieces_induction generalizing b b' with
  | nil =>
    rw [rewrite_nil]
    exact ⟨rewrite_nil.symm, rfl⟩
  | run u r hu₁ hu₂ hr ih =>
    rw [runs_run hu₁ hu₂ hr] at ht ⊢
    have hua := ht u List.mem_cons_self
    have hends : endsCased (u.reverse ++ '\\' :: b) = endsCased ((ρ u).reverse ++ '\\' :: b') := by
      rw [endsCased_digits hu₁ hua, endsCased_digits (hne u) (hρ u)]
    have hb (s x : Text) : lowerFrom x ('\\' :: s) = '\\' :: lowerFrom ('\\' :: x) s := by
      rw [lowerFrom, if_pos (by decide)]
      rfl
    obtain ⟨h₁, h₂⟩ := ih hends fun digits hd => ht digits (List.mem_cons_of_mem u hd)
    rw [rewrite_run hu₁ hu₂ hr, hb, hb, lowerFrom_digits hua, lowerFrom_digits (hρ u), h₁,
      rewrite_run hu₁ hu₂ (head?_lowerFrom hr), runs_run hu₁ hu₂ (head?_lowerFrom hr), h₂]
    exact ⟨rfl, rfl⟩
  | char c r hc ih =>
    have hruns {c : Char} {s : Text} (hs : c = '\\' → s.head?.any isDigit = false) :
        runs (c :: s) = runs s := by
      rw [runs, pieces_char hs]
      rfl
    rw [hruns hc] at ht ⊢
    obtain ⟨h₁, h₂⟩ := ih (endsCased_cons h c) ht
    rw [rewrite_cons hc, lowerFrom, lowerFrom]
    split
    · next hn =>
      have hl : c.toLower = '\\' → (lowerFrom (c :: b) r).head?.any isDigit = false := fun hl =>
        head?_lowerFrom (hc (toLower_plain.1 hl))
      exact ⟨by rw [rewrite_cons hl, h₁], by rw [hruns hl, h₂]⟩
    · next hn =>
      split
      · have hi {s : Text} : 'i' = '\\' → s.head?.any isDigit = false := fun h =>
          absurd h (by decide)
        have hdot {s : Text} : '\u0307' = '\\' → s.head?.any isDigit = false := fun h =>
          absurd h (by decide)
        exact ⟨by rw [rewrite_cons hi, rewrite_cons hdot, h₁], by rw [hruns hi, hruns hdot, h₂]⟩
      · split
        · rw [finalSigma_rewrite h]
          have hs {s : Text} : (if finalSigma b r then 'ς' else 'σ') = '\\' →
              s.head?.any isDigit = false := by
            split <;> exact fun h => absurd h (by decide)
          exact ⟨by rw [rewrite_cons hs, h₁], by rw [hruns hs, h₂]⟩
        · have hl {s : Text} : lowerChar c = '\\' → s.head?.any isDigit = false := fun hl =>
            absurd hl (lowerChar_ne_backslash hn)
          exact ⟨by rw [rewrite_cons hl, h₁], by rw [hruns hl, h₂]⟩

theorem lower_rewrite (hρ : KeepsRuns ρ) (hρa : KeepsAscii ρ) {t : Text}
    (ht : ∀ digits ∈ runs t, digits.all isAsciiDigit = true) :
    lower (rewrite ρ t) = rewrite ρ (lower t) :=
  (lowerFrom_rewrite hρa rfl (fun digits => (hρ digits).1) t ht).1

theorem runs_lower {t : Text} (ht : ∀ digits ∈ runs t, digits.all isAsciiDigit = true) :
    runs (lower t) = runs t := by
  have hρ : KeepsAscii fun _ => ['0'] := fun _ => rfl
  exact (lowerFrom_rewrite hρ rfl (by simp) t ht).2

end Reference

end Worksheet
