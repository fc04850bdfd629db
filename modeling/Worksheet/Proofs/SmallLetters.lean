import Worksheet.Proofs.Claiming
import Worksheet.Proofs.Spellings

/-!
# Parts of a text in lower case

But for the two small sigmas, a text becomes lower case character by character, so a part of a text
has a part of its lower case (`infix_lower_mono`). Digits and the marks between them come from
nothing else, so where they stand in the lower case they stand in the text
(`infix_of_infix_lower`), and lower case changes nothing in what is lower case already
(`lower_eq_self`).
-/

namespace Worksheet

namespace Text

variable {b t u w : Text} {c d x y : Char}

/-! ## Character by character -/

/-- The small sigmas as one letter. -/
def oneSigma (c : Char) : Char := if c = 'ς' then 'σ' else c

/-- What a character becomes in lower case, wherever it stands. -/
def small (c : Char) : Text := if c = 'İ' then ['i', '\u0307'] else [oneSigma (lowerChar c)]

/-- No sigma is in the text. -/
def Sigmaless (t : Text) : Prop := 'σ' ∉ t ∧ 'ς' ∉ t

instance (t : Text) : Decidable (Sigmaless t) := inferInstanceAs (Decidable (_ ∧ _))

theorem lowerChar_of_ascii (h : c.toNat < 128) : lowerChar c = c.toLower := if_pos h

/-- Beyond ASCII, with the runs in a list: the kernel looks for one faster there than in an array. -/
theorem lowerChar_of_not_ascii (h : ¬c.toNat < 128) : lowerChar c =
    match lowerRuns.toList.find? fun (lo, hi, step, _) =>
      lo ≤ c.toNat && c.toNat ≤ hi && (c.toNat - lo) % step == 0 with
    | some (_, _, _, shift) => Char.ofNat (c.toNat + shift).toNat
    | none => c := by
  rw [Array.find?_toList]
  refine (if_neg h).trans ?_
  generalize Array.find? _ lowerRuns = run
  cases run <;> rfl

/-- The capital sigma and the Kelvin sign. -/
theorem lowerChar_special : lowerChar 'Σ' = 'σ' ∧ lowerChar '\u212A' = 'k' := by
  rw [lowerChar_of_not_ascii (by decide), lowerChar_of_not_ascii (by decide)]
  decide +kernel

theorem oneSigma_of_ne (h : c ≠ 'ς') : oneSigma c = c := if_neg h

theorem map_oneSigma_lowerFrom (b t : Text) : (lowerFrom b t).map oneSigma = t.flatMap small := by
  induction t generalizing b with
  | nil => rfl
  | cons c r ih =>
    rw [lowerFrom, List.flatMap_cons, small]
    split
    · next hc =>
      have hne : c ≠ 'İ' := by
        rintro rfl
        exact absurd hc (by decide)
      rw [if_neg hne, lowerChar_of_ascii hc, List.map_cons, ih]
      rfl
    split
    · rw [List.map_cons, List.map_cons, ih]
      rfl
    split
    · next hc =>
      have hsigma : oneSigma (if finalSigma b r then 'ς' else 'σ') = oneSigma (lowerChar c) := by
        rw [hc, lowerChar_special.1]
        split <;> rfl
      rw [List.map_cons, hsigma, ih]
      rfl
    · rw [List.map_cons, ih]
      rfl

/-- A part of the lower case without a sigma does not depend on what stands around it. -/
theorem infix_lower_iff (hw : Sigmaless w) : w <:+: lower t ↔ w <:+: t.flatMap small := by
  have hsame : w.map oneSigma = w := by
    refine (List.map_congr_left fun c hc => ?_).trans (List.map_id' w)
    exact oneSigma_of_ne fun he => hw.2 (he ▸ hc)
  rw [lower, ← map_oneSigma_lowerFrom [] t]
  constructor
  · intro h
    rw [← hsame]
    exact h.map oneSigma
  · rintro ⟨z, r, h⟩
    obtain ⟨l, r', hl, hlw, -⟩ := List.map_eq_append_iff.1 h.symm
    obtain ⟨z', w', rfl, -, hw'⟩ := List.map_eq_append_iff.1 hlw
    have hback : w' = w := by
      rw [← hw']
      refine ((List.map_congr_left fun c hc => ?_).trans (List.map_id' w')).symm
      refine oneSigma_of_ne fun he => hw.1 ?_
      rw [← hw', List.mem_map]
      exact ⟨c, hc, by rw [he]; rfl⟩
    exact ⟨z', r', by rw [hl, hback]⟩

theorem infix_flatMap {α β : Type} {f : α → List β} {l l' : List α} (h : l <:+: l') :
    l.flatMap f <:+: l'.flatMap f := by
  obtain ⟨z, r, rfl⟩ := h
  rw [List.flatMap_append, List.flatMap_append]
  exact List.infix_append _ _ _

/-- A part of a text has a part of its lower case. -/
theorem infix_lower_mono (hw : Sigmaless w) (hu : u <:+: t) (h : w <:+: lower u) : w <:+: lower t :=
  (infix_lower_iff hw).2 (((infix_lower_iff hw).1 h).trans (infix_flatMap hu))

/-! ## Digits and marks -/

/-- A decimal digit, or a mark between digits or in front of them. -/
def isSteady (c : Char) : Bool := isDigit c || ['.', '/', ':', '-', '\\'].contains c

/-- Neither a sigma nor a capital with a dot, nor what the capital becomes. -/
theorem not_isSteady_special : ∀ c ∈ ['σ', 'ς', 'İ', 'i', '\u0307'], isSteady c = false := by
  intro c hc
  simp only [List.mem_cons, List.not_mem_nil, or_false] at hc
  rcases hc with rfl | rfl | rfl | rfl | rfl <;> decide +kernel

theorem isSteady_iff : isSteady c = true ↔ isDigit c = true ∨ c ∈ ['.', '/', ':', '-', '\\'] := by
  rw [isSteady, Bool.or_eq_true, List.contains_iff_mem]

theorem toNat_of_mark (h : c ∈ ['.', '/', ':', '-', '\\']) :
    45 ≤ c.toNat ∧ (c.toNat ≤ 58 ∨ c.toNat = 92) := by
  simp only [List.mem_cons, List.not_mem_nil, or_false] at h
  rcases h with rfl | rfl | rfl | rfl | rfl <;> decide

theorem not_isDigit_of_ascii (hc : c.toNat < 128) (h : 57 < c.toNat) : isDigit c = false := by
  refine Bool.eq_false_iff.2 fun hd => ?_
  cases ha : isAsciiDigit c with
  | true =>
    have := toNat_of_isAsciiDigit ha
    omega
  | false =>
    have := (exists_zero_of_isDigit hd ha).1
    omega

/-- A digit or a mark is the lower case of itself alone. -/
theorem eq_of_isSteady_lowerChar (h : isSteady (lowerChar c) = true) : lowerChar c = c := by
  by_cases hc : c.toNat < 128
  · rw [lowerChar_of_ascii hc] at h ⊢
    rcases toLower_cases c with hsame | ⟨hl, hr, hlow⟩
    · exact hsame
    · rcases isSteady_iff.1 h with hd | hm
      · rw [not_isDigit_of_ascii (by omega) (by omega)] at hd
        cases hd
      · have := toNat_of_mark hm
        omega
  · refine (lowerChar_cases hc).resolve_right fun hf => ?_
    rw [isForeign, Bool.and_eq_true, Bool.not_eq_true'] at hf
    rcases isSteady_iff.1 h with hd | hm
    · rw [hf.1] at hd
      cases hd
    · have := toNat_of_mark hm
      have := lowerChar_beyond hc
      omega

theorem small_cases (c : Char) : small c = [c] ∨ ∀ x ∈ small c, isSteady x = false := by
  rw [small]
  split
  · exact .inr fun x hx => not_isSteady_special x (List.mem_append_right ['σ', 'ς', 'İ'] hx)
  · cases h : isSteady (oneSigma (lowerChar c)) with
    | false => exact .inr fun x hx => by rw [List.mem_singleton.1 hx, h]
    | true =>
      left
      have hne : lowerChar c ≠ 'ς' := fun he => by
        rw [he, not_isSteady_special (oneSigma 'ς') (by decide)] at h
        cases h
      rw [oneSigma_of_ne hne] at h ⊢
      rw [eq_of_isSteady_lowerChar h]

theorem small_ne_nil (c : Char) : small c ≠ [] := by
  rw [small]
  split <;> exact List.cons_ne_nil _ _

/-- Digits and marks stand behind a text that has none. -/
theorem infix_of_append {p l : Text} (hw : w.all isSteady = true)
    (hp : ∀ x ∈ p, isSteady x = false) (h : w <:+: p ++ l) : w <:+: l := by
  induction p with
  | nil => exact h
  | cons x p ih =>
    rcases List.infix_cons_iff.1 h with h | h
    · rcases List.prefix_cons_iff.1 h with rfl | ⟨w', rfl, -⟩
      · exact List.nil_infix
      · rw [List.all_cons, hp x List.mem_cons_self] at hw
        cases hw
    · exact ih (fun y hy => hp y (List.mem_cons_of_mem _ hy)) h

theorem prefix_of_flatMap_small (hw : w.all isSteady = true) (h : w <+: t.flatMap small) :
    w <+: t := by
  induction t generalizing w with
  | nil => exact h
  | cons c r ih =>
    cases w with
    | nil => exact List.nil_prefix
    | cons x w =>
      rw [List.all_cons, Bool.and_eq_true] at hw
      rw [List.flatMap_cons] at h
      rcases small_cases c with hc | hc
      · rw [hc, List.cons_append, List.nil_append, List.cons_prefix_cons] at h
        exact List.cons_prefix_cons.2 ⟨h.1, ih hw.2 h.2⟩
      · obtain ⟨y, l, hsmall⟩ := List.exists_cons_of_ne_nil (small_ne_nil c)
        rw [hsmall, List.cons_append, List.cons_prefix_cons] at h
        have hx : isSteady x = false := h.1 ▸ hc y (hsmall ▸ List.mem_cons_self)
        rw [hx] at hw
        cases hw.1

theorem infix_of_flatMap_small (hw : w.all isSteady = true) (h : w <:+: t.flatMap small) :
    w <:+: t := by
  induction t with
  | nil => exact h
  | cons c r ih =>
    rcases small_cases c with hc | hc
    · rw [List.flatMap_cons, hc] at h
      rcases List.infix_cons_iff.1 h with hstart | hlater
      · refine (prefix_of_flatMap_small hw ?_).isInfix
        rw [List.flatMap_cons, hc]
        exact hstart
      · exact (ih hlater).trans (List.suffix_cons c r).isInfix
    · rw [List.flatMap_cons] at h
      exact (ih (infix_of_append hw hc h)).trans (List.suffix_cons c r).isInfix

/-- Where digits and marks stand in the lower case of a text, they stand in the text. -/
theorem infix_of_infix_lower (hw : w.all isSteady = true) (h : w <:+: lower t) : w <:+: t := by
  have hne (x : Char) (hx : x ∈ ['σ', 'ς', 'İ', 'i', '\u0307']) (h : x ∈ w) : False :=
    Bool.false_ne_true ((not_isSteady_special x hx).symm.trans (List.all_eq_true.1 hw x h))
  have hsigma : Sigmaless w := ⟨hne 'σ' (by decide), hne 'ς' (by decide)⟩
  exact infix_of_flatMap_small hw ((infix_lower_iff hsigma).1 h)

/-! ## Lower case once and again -/

/-- Where the runs lead: the first and the last lower case, and the step between them. -/
def lowerTargets : List (Nat × Nat × Nat) :=
  lowerRuns.toList.map fun r => (((r.1 : Int) + r.2.2.2).toNat, (r.2.1 + r.2.2.2).toNat, r.2.2.1)

/-- No run begins where one leads to, nor is its lower case a capital with a dot: they lie apart, or
take every second character in turn. -/
theorem lowerTargets_apart : ∀ r ∈ lowerTargets, (304 < r.1 ∨ r.2.1 < 304) ∧
    ∀ r' ∈ lowerRuns.toList, r.2.1 < r'.1 ∨ r'.2.1 < r.1 ∨
      ((r.2.2 = 2 ∨ r.1 = r.2.1) ∧ r'.2.2.1 = 2 ∧ (r.1 + r'.1) % 2 = 1) := by
  have hordered : (∀ r ∈ lowerTargets, r.1 ≤ r.2.1 ∧ (304 < r.1 ∨ r.2.1 < 304)) ∧
      ∀ r' ∈ lowerRuns.toList, r'.1 ≤ r'.2.1 := by decide +kernel
  have hapart {r : Nat × Nat × Nat} {r' : Nat × Nat × Nat × Int} (p : Nat × Nat × Nat → Bool)
      (q : Nat × Nat × Nat × Int → Bool) (hr : r ∈ lowerTargets) (hr' : r' ∈ lowerRuns.toList)
      (hp : p r = true) (hq : q r' = true)
      (h : rangeBits ((lowerTargets.filter p).map fun r => (r.1, r.2.1)) &&&
        rangeBits ((lowerRuns.toList.filter q).map fun r' => (r'.1, r'.2.1)) = 0) :
      r.2.1 < r'.1 ∨ r'.2.1 < r.1 :=
    apart_of_rangeBits h (List.mem_map_of_mem (List.mem_filter.2 ⟨hr, hp⟩))
      (List.mem_map_of_mem (List.mem_filter.2 ⟨hr', hq⟩)) (hordered.1 r hr).1 (hordered.2 r' hr')
  intro r hr
  refine ⟨(hordered.1 r hr).2, fun r' hr' => ?_⟩
  by_cases hthin : r.2.2 = 2 ∨ r.1 = r.2.1
  · by_cases hstep : r'.2.2.1 = 2
    · by_cases hodd : (r.1 + r'.1) % 2 = 1
      · exact .inr (.inr ⟨hthin, hstep, hodd⟩)
      -- Both begin with an even number, or both with an odd one.
      · refine or_assoc.1 (.inl ?_)
        rcases Nat.mod_two_eq_zero_or_one r.1 with heven | hone
        · exact hapart (fun r => r.1 % 2 == 0) (fun r' => r'.1 % 2 == 0) hr hr'
            (beq_iff_eq.2 heven) (beq_iff_eq.2 (by omega)) (by decide +kernel)
        · exact hapart (fun r => r.1 % 2 == 1) (fun r' => r'.1 % 2 == 1) hr hr'
            (beq_iff_eq.2 hone) (beq_iff_eq.2 (by omega)) (by decide +kernel)
    · exact or_assoc.1 (.inl (hapart (fun _ => true) (fun r' => r'.2.2.1 != 2) hr hr' rfl
        (bne_iff_ne.2 hstep) (by decide +kernel)))
  · exact or_assoc.1 (.inl (hapart (fun r => !(r.2.2 == 2 || r.1 == r.2.1)) (fun _ => true) hr hr'
      (by simpa using hthin) rfl (by decide +kernel)))

/-- A character that lower case leaves as it is. -/
def IsSmall (c : Char) : Prop := lowerChar c = c ∧ c ≠ 'İ'

theorem lowerRuns_apart_digits : ∀ r ∈ lowerRuns.toList, ∀ z ∈ decimalZeros.toList,
    r.2.1 < z ∨ z + 9 < r.1 := by
  have hordered : ∀ r ∈ lowerRuns.toList, r.1 ≤ r.2.1 := by decide +kernel
  have h : rangeBits (lowerRuns.toList.map fun r => (r.1, r.2.1)) &&&
      rangeBits (decimalZeros.toList.map fun z => (z, z + 9)) = 0 := by decide +kernel
  intro r hr z hz
  exact apart_of_rangeBits h (List.mem_map_of_mem hr) (List.mem_map_of_mem hz) (hordered r hr)
    (Nat.le_add_right z 9)

/-- Digits have no capitals. -/
theorem isSmall_of_isDigit (h : isDigit c = true) : IsSmall c := by
  have hdot : c ≠ 'İ' := by
    rintro rfl
    have hsteady := not_isSteady_special 'İ' (by decide)
    rw [isSteady_iff.2 (.inl h)] at hsteady
    cases hsteady
  refine ⟨?_, hdot⟩
  cases hc : isAsciiDigit c with
  | true =>
    have hn : c.toNat < 128 := Nat.lt_of_le_of_lt (toNat_of_isAsciiDigit hc).2 (by decide)
    rw [lowerChar_of_ascii hn, toLower_plain.2.2 hc]
  | false =>
    obtain ⟨hn, z, hz, hlo, hhi⟩ := exists_zero_of_isDigit h hc
    have hnone : (lowerRuns.find? fun r => r.1 ≤ c.toNat && c.toNat ≤ r.2.1 &&
        (c.toNat - r.1) % r.2.2.1 == 0) = none := by
      rw [Array.find?_eq_none]
      intro r hr
      have := lowerRuns_apart_digits r (Array.mem_toList_iff.2 hr) z hz
      simp only [Bool.and_eq_true, decide_eq_true_eq, beq_iff_eq]
      omega
    unfold lowerChar
    simp only [Nat.not_lt.2 hn, if_false]
    rw [hnone]

theorem toLower_toLower (c : Char) : c.toLower.toLower = c.toLower := by
  rcases toLower_cases c.toLower with h | ⟨hl, hr, -⟩
  · exact h
  · rcases toLower_cases c with h | ⟨hl', hr', h⟩
    · rw [h, h]
    · omega

/-- Where a run leads beyond ASCII, no other begins. -/
theorem isSmall_of_run {r : Nat × Nat × Nat × Int} {n : Nat} (hr : r ∈ lowerRuns.toList)
    (hlo : r.1 ≤ n) (hhi : n ≤ r.2.1) (hstep : (n - r.1) % r.2.2.1 = 0)
    (hy : y.toNat = (n + r.2.2.2).toNat) (hn : ¬y.toNat < 128) : IsSmall y := by
  have hpositive := (lowerRuns_foreign r hr).1
  obtain ⟨hdot, hapart⟩ := lowerTargets_apart _ (List.mem_map_of_mem hr)
  dsimp only at hdot hapart
  constructor
  · unfold lowerChar
    simp only [hn, if_false]
    split
    · next lo hi step shift hr' =>
      have hp := Array.find?_some hr'
      simp only [Bool.and_eq_true, decide_eq_true_eq, beq_iff_eq] at hp
      obtain ⟨⟨hlo', hhi'⟩, hstep'⟩ := hp
      have hcase := hapart _ (Array.mem_toList_iff.2 (Array.mem_of_find?_eq_some hr'))
      dsimp only at hcase
      rcases hcase with h | h | ⟨htwo, rfl, hodd⟩
      · omega
      · omega
      · rcases htwo with htwo | hone
        · rw [htwo] at hstep
          omega
        · omega
    · rfl
  · rintro rfl
    rw [show 'İ'.toNat = 304 from rfl] at hy
    omega

theorem isSmall_lowerChar (hc : c ≠ 'İ') : IsSmall (lowerChar c) := by
  by_cases hn : c.toNat < 128
  · rw [lowerChar_of_ascii hn]
    have hlt : c.toLower.toNat < 128 := by
      rcases toLower_cases c with h | ⟨-, hr, h⟩
      · rwa [h]
      · omega
    refine ⟨(lowerChar_of_ascii hlt).trans (toLower_toLower c), fun he => ?_⟩
    rw [he] at hlt
    exact absurd hlt (by decide)
  -- Beyond ASCII, lower case is a `k`, or it stays beyond ASCII.
  by_cases hbeyond : (lowerChar c).toNat < 128
  · rcases (lowerChar_beyond hn).resolve_left (Nat.not_le.2 hbeyond) with h | h
    · rw [show lowerChar c = 'k' from Char.ext (UInt32.toNat_inj.1 h)]
      exact ⟨by decide, by decide⟩
    · rw [show lowerChar c = '\x00' from Char.ext (UInt32.toNat_inj.1 h)]
      exact ⟨by decide, by decide⟩
  · cases hr : lowerRuns.find? fun r => r.1 ≤ c.toNat && c.toNat ≤ r.2.1 &&
        (c.toNat - r.1) % r.2.2.1 == 0 with
    | none =>
      have hsame : lowerChar c = c := by
        unfold lowerChar
        simp only [hn, if_false]
        rw [hr]
      rw [hsame]
      exact ⟨hsame, hc⟩
    | some r =>
      have hlow : lowerChar c = Char.ofNat (c.toNat + r.2.2.2).toNat := by
        unfold lowerChar
        simp only [hn, if_false]
        rw [hr]
      have hp := Array.find?_some hr
      simp only [Bool.and_eq_true, decide_eq_true_eq, beq_iff_eq] at hp
      refine isSmall_of_run (Array.mem_toList_iff.2 (Array.mem_of_find?_eq_some hr)) hp.1.1 hp.1.2
        hp.2 ?_ hbeyond
      rw [hlow] at hbeyond ⊢
      exact (toNat_ofNat _).resolve_right fun h => hbeyond (by omega)

/-- The small sigmas, and the dot that a capital `İ` leaves behind. -/
theorem isSmall_special : ∀ c ∈ ['σ', 'ς', '\u0307'], IsSmall c := by
  intro c hc
  simp only [List.mem_cons, List.not_mem_nil, or_false] at hc
  rcases hc with rfl | rfl | rfl <;>
    refine ⟨?_, by decide⟩ <;>
    rw [lowerChar_of_not_ascii (by decide)] <;>
    decide +kernel

theorem isSmall_of_mem_lowerFrom (h : y ∈ lowerFrom b t) : IsSmall y := by
  induction t generalizing b with
  | nil => cases h
  | cons c r ih =>
    rw [lowerFrom] at h
    split at h
    · next hc =>
      rcases List.mem_cons.1 h with rfl | h
      · rw [← lowerChar_of_ascii hc]
        exact isSmall_lowerChar fun he => absurd hc (by rw [he]; decide)
      · exact ih h
    split at h
    · rcases List.mem_cons.1 h with rfl | h
      · exact ⟨by decide, by decide⟩
      rcases List.mem_cons.1 h with rfl | h
      · exact isSmall_special _ (by decide)
      · exact ih h
    split at h
    · rcases List.mem_cons.1 h with rfl | h
      · split
        · exact isSmall_special _ (by decide)
        · exact isSmall_special _ (by decide)
      · exact ih h
    · next hc _ =>
      rcases List.mem_cons.1 h with rfl | h
      · exact isSmall_lowerChar hc
      · exact ih h

theorem lowerFrom_eq_self (h : ∀ y ∈ t, IsSmall y) : lowerFrom b t = t := by
  induction t generalizing b with
  | nil => rfl
  | cons c r ih =>
    obtain ⟨⟨hc, hdot⟩, hr⟩ := List.forall_mem_cons.1 h
    rw [lowerFrom, ih hr]
    rw [if_neg hdot]
    split
    · next hn => rw [← lowerChar_of_ascii hn, hc]
    split
    · next he =>
      rw [he, lowerChar_special.1] at hc
      exact absurd hc (by decide)
    · rw [hc]

/-- Lower case changes nothing in a part of the lower case of a text. -/
theorem lower_eq_self (h : u <:+: lower t) : lower u = u :=
  lowerFrom_eq_self fun _ hy => isSmall_of_mem_lowerFrom (h.subset hy)

/-! ## Words in any case -/

/-- The letters beyond ASCII that a search takes for an `s` or an `i`, though their lower case is
another text. -/
def oddLetters : List Char := ['ſ', 'ı', 'İ']

theorem small_of_sameLetter (hd : d.isLower = true) (h : sameLetter d c = true) :
    small c = [d] ∨ c ∈ oddLetters ∧ d ∈ ['s', 'i'] := by
  have hascii : 97 ≤ d.toNat ∧ d.toNat ≤ 122 := by
    simp only [Char.isLower, Bool.and_eq_true, decide_eq_true_eq, ge_iff_le,
      UInt32.le_iff_toNat_le] at hd
    exact hd
  have hsmall (hc : c.toNat < 128) (hl : c.toLower = d) : small c = [d] := by
    have hne : c ≠ 'İ' := by
      rintro rfl
      exact absurd hc (by decide)
    have hsigma : d ≠ 'ς' := by
      rintro rfl
      exact absurd hascii.2 (by decide)
    rw [small, if_neg hne, lowerChar_of_ascii hc, hl, oneSigma_of_ne hsigma]
  simp only [sameLetter, Bool.or_eq_true, Bool.and_eq_true, beq_iff_eq] at h
  rcases h with (((rfl | hlow) | ⟨rfl, rfl⟩) | ⟨rfl, rfl⟩) | ⟨rfl, rfl | rfl⟩
  · refine .inl (hsmall (by omega) ?_)
    rcases toLower_cases c with h | ⟨-, hr, -⟩
    · exact h
    · omega
  · refine .inl (hsmall ?_ hlow)
    rcases toLower_cases c with h | ⟨-, hr, -⟩
    · rw [← h, hlow]
      omega
    · omega
  · exact .inr (by decide)
  · rw [small, if_neg (by decide), lowerChar_special.2]
    exact .inl rfl
  · exact .inr (by decide)
  · exact .inr (by decide)

/-- What a word in any case takes becomes the word in lower case, unless an odd letter stands for
one of its own. -/
theorem small_of_anyCase {l : String} (hl : l.toList.all Char.isLower = true)
    (h : (Pattern.anyCase l).Spells w) :
    w.flatMap small = l.toList ∨ (∃ c ∈ w, c ∈ oddLetters) ∧ ∃ d ∈ l.toList, d ∈ ['s', 'i'] := by
  have hletters := Pattern.forall₂_of_spells_anyCase h
  clear h
  generalize l.toList = l at hletters hl
  induction hletters with
  | nil => exact .inl rfl
  | @cons d c l w hc _ ih =>
    rw [List.all_cons, Bool.and_eq_true] at hl
    rcases small_of_sameLetter hl.1 hc with hs | ⟨hodd, hd⟩
    · rcases ih hl.2 with hw | ⟨⟨c', hc', hodd⟩, d', hd', hsi⟩
      · left
        rw [List.flatMap_cons, hs, hw]
        rfl
      · exact .inr ⟨⟨c', List.mem_cons_of_mem _ hc', hodd⟩, d', List.mem_cons_of_mem _ hd', hsi⟩
    · exact .inr ⟨⟨c, List.mem_cons_self, hodd⟩, d, List.mem_cons_self, hd⟩

/-- A word in any case that has no letter with an odd form stands in the lower case. -/
theorem infix_lower_of_anyCase {l : String}
    (hl : (l.toList.all fun d => d.isLower && d != 's' && d != 'i') = true)
    (hw : (Pattern.anyCase l).Spells w) (ht : w <:+: t) : l.toList <:+: lower t := by
  have hall : ∀ d ∈ l.toList, d.isLower = true ∧ d ∉ ['s', 'i'] := fun d hd => by
    simpa [and_assoc] using List.all_eq_true.1 hl d hd
  have hsigma : Sigmaless l.toList :=
    ⟨fun h => absurd (hall _ h).1 (by decide), fun h => absurd (hall _ h).1 (by decide)⟩
  rcases small_of_anyCase (List.all_eq_true.2 fun d hd => (hall d hd).1) hw with h | ⟨-, d, hd, hsi⟩
  · rw [infix_lower_iff hsigma, ← h]
    exact infix_flatMap ht
  · exact absurd hsi (hall d hd).2

end Text

end Worksheet
