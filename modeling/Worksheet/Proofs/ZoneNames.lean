import Worksheet.Calendar.ZoneNames
import Worksheet.Proofs.Lowering

/-!
# Names of zones

Every abbreviation names a zone of the table (`Zone.isSome_ofText?`). An abbreviation is told by its
lower case, which has no blanks; so a text with that lower case has none either, and is looked up as
it is.
-/

namespace Worksheet

open Text

/-! ## Lower case of blanks -/

namespace Text

/-- No blank has another lower case. -/
theorem lowerRuns_not_blank : ∀ r ∈ lowerRuns.toList, ∀ b ∈
    [(0x85, 0x85), (0xA0, 0xA0), (0x1680, 0x1680), (0x2000, 0x200A), (0x2028, 0x2029),
      (0x202F, 0x202F), (0x205F, 0x205F), (0x3000, 0x3000)],
    r.2.1 < b.1 ∨ b.2 < r.1 := by
  decide +kernel

theorem lowerChar_of_isBlank {c : Char} (hc : isBlank c = true) : lowerChar c = c := by
  by_cases hn : c.toNat < 128
  · rw [lowerChar]
    simp only [hn, if_true]
    refine (toLower_cases c).resolve_right fun ⟨hl, hr, _⟩ => ?_
    simp only [isBlank, Bool.or_eq_true, Bool.and_eq_true, decide_eq_true_eq, beq_iff_eq] at hc
    omega
  · rw [lowerChar]
    simp only [hn, if_false]
    split
    · next lo hi step shift hr =>
      have hm := lowerRuns_not_blank _ (Array.mem_toList_iff.2 (Array.mem_of_find?_eq_some hr))
      have hp := Array.find?_some hr
      simp only [List.forall_mem_cons, isBlank, Bool.and_eq_true, Bool.or_eq_true,
        decide_eq_true_eq, beq_iff_eq] at hm hp hc
      omega
    · rfl

/-- Lower case leaves a character where it is that is its own lower case. -/
theorem mem_lowerFrom_of_eq {b t : Text} {c : Char} (hl : lowerChar c = c)
    (hne : c ≠ 'İ' ∧ c ≠ 'Σ') (h : c ∈ t) : c ∈ lowerFrom b t := by
  induction t generalizing b with
  | nil => cases h
  | cons d r ih =>
    rw [lowerFrom]
    rcases List.mem_cons.1 h with rfl | h
    · rw [if_neg hne.1, if_neg hne.2]
      split
      · next hn =>
        rw [lowerChar] at hl
        simp only [hn, if_true] at hl
        simp [hl]
      · simp [hl]
    · repeat' split
      all_goals simp [ih h]

/-- Lower case leaves blanks where they are. -/
theorem mem_lowerFrom_of_isBlank {b t : Text} {c : Char} (hc : isBlank c = true) (h : c ∈ t) :
    c ∈ lowerFrom b t := by
  refine mem_lowerFrom_of_eq (lowerChar_of_isBlank hc) ⟨?_, ?_⟩ h <;>
  · rintro rfl
    exact absurd hc (by decide)

theorem trimBy_eq_self {p : Char → Bool} {t : Text} (h : ∀ c ∈ t, p c = false) :
    trimBy p t = t := by
  have hdrop {t : Text} (h : ∀ c ∈ t, p c = false) : t.dropWhile p = t := by
    cases t with
    | nil => rfl
    | cons c r => rw [List.dropWhile_cons_of_neg (by simp [h c])]
  rw [trimBy, hdrop h, hdrop fun c hc => h c (List.mem_reverse.1 hc), List.reverse_reverse]

theorem trim_of_not_blank {t : Text} (h : ∀ c ∈ t, isBlank c = false) : trim t = t :=
  trimBy_eq_self h

end Text

/-! ## Abbreviations of zones -/

namespace Zone

theorem isSome_ofName? {p : String × String} (hp : p ∈ abbreviations) :
    (ofName? p.2).isSome = true := by
  have h : ∀ z ∈ (abbreviations.map (·.2)).eraseDups, (ofName? z).isSome = true := by
    decide +kernel
  exact h p.2 (List.mem_eraseDups.2 (List.mem_map_of_mem hp))

theorem abbreviations_spec : ∀ p ∈ abbreviations, cities.lookup p.1 = none ∧
    p.1.toList.any isBlank = false := by
  decide +kernel

/-- An abbreviation names a zone of the table. -/
theorem isSome_ofText? {t : Text} (h : isAbbreviation t = true) : (ofText? t).isSome = true := by
  obtain ⟨name, hname⟩ := Option.isSome_iff_exists.1 h
  obtain ⟨l₁, l₂, hl, -⟩ := List.lookup_eq_some_iff.1 hname
  have hmem : (String.ofList (lower t), name) ∈ abbreviations := by simp [hl]
  obtain ⟨hcity, hblank⟩ := abbreviations_spec _ hmem
  have htrim : trim t = t := trim_of_not_blank fun c hc => Bool.eq_false_iff.2 fun hb => by
    refine List.any_eq_false.1 hblank c ?_ hb
    rw [String.toList_ofList]
    exact mem_lowerFrom_of_isBlank hb hc
  have hsome := isSome_ofName? hmem
  unfold ofText?
  rw [htrim]
  dsimp only
  rw [hcity, hname]
  exact hsome

end Zone

end Worksheet
