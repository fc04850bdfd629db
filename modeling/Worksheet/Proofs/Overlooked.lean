import Worksheet.Proofs.Copying
import Worksheet.Proofs.OverlookedDates

/-!
# What a first look overlooks

**Theorem (`claimed_or_overlooked`).** What the evaluators of subnets, dates and units answer is
claimed by their first look, but for the phrases about subnets and the dates that it overlooks.

A conversion looks for its names as the rules do, so there it overlooks nothing
(`claimsConversion_of_run`).
-/

namespace Worksheet

open Text Result

namespace Evaluator

variable {s : Surroundings} {e : Earlier} {expr : Text} {a : Answer}

/-- An expression that is answered by a conversion names a currency or a unit. -/
theorem claimsConversion_of_run {rates : Currency.Rates} {t : Text}
    (h : PhraseRule.run [Currency.convert rates, Measure.convertPhrase] expr = .ok (some t)) :
    claimsConversion expr = true := by
  have htrim : Conversion.ofText? (trim expr) = Conversion.ofText? expr := by
    rw [Conversion.ofText?, Conversion.ofText?, (tight_trim expr).trim_eq]
  obtain ⟨rule, hrule, h⟩ := PhraseRule.exists_of_run h
  simp only [List.mem_cons, List.not_mem_nil, or_false] at hrule
  rw [claimsConversion]
  rcases hrule with rfl | rfl
  · unfold Currency.convert at h
    rw [htrim] at h
    cases hc : Conversion.ofText? expr with
    | none =>
      rw [hc] at h
      cases h
    | some c =>
      rw [hc] at h
      cases hcode : Currency.code? c.source with
      | some code => simp [hcode]
      | none =>
        have hcodes : Currency.codes? c = none := by simp [Currency.codes?, hcode]
        simp only [hcodes] at h
        cases h
  · unfold Measure.convertPhrase at h
    rw [htrim] at h
    cases hc : Conversion.ofText? expr with
    | none =>
      rw [hc] at h
      cases h
    | some c =>
      rw [hc] at h
      dsimp only at h
      split at h
      · cases h
      · next hnamed =>
        cases hs : Measure.commonName? c.source with
        | some name => simp [hs]
        | none =>
          cases ht : Measure.commonName? c.target with
          | some name => simp [ht]
          | none => simp [hs, ht] at hnamed

/-- What the first look of an evaluator may pass over although the evaluator has an answer. No unit
is passed over. -/
def Overlooks : Evaluator → Text → Prop
  | subnets, expr => Subnet.overlooks expr = true
  | dates, expr => Calendar.Overlooked (trim expr)
  | percentages, _ | units, _ | arithmetic, _ => False

/-- **Theorem (`claimed_or_overlooked`).** What the evaluators of subnets, dates and units answer is
claimed for them, but for what they overlook. -/
theorem claimed_or_overlooked {ev : Evaluator} (hev : ev ∈ [subnets, dates, units])
    (h : ev.answer s e expr = .ok (some a)) : ev.claims expr = true ∨ ev.Overlooks expr := by
  have hby {rules : List PhraseRule} (h : answerBy rules expr = .ok (some a)) :
      ∃ t, PhraseRule.run rules expr = .ok (some t) := by
    obtain ⟨t, ht, h⟩ := bind_eq_ok.1 h
    obtain ⟨u, rfl, -⟩ := Option.map_eq_some_iff.1 (Except.ok.inj h)
    exact ⟨u, ht⟩
  cases ev with
  | subnets =>
    obtain ⟨t, ht⟩ := hby h
    exact Subnet.claims_or_overlooks ht
  | dates =>
    by_cases hreference : '\\' ∈ expr
    · exact .inl (Calendar.claims_iff.2 (.inr (.inr hreference)))
    · -- Without a reference the expression is taken as it stands.
      obtain ⟨u, hu, h⟩ := bind_eq_ok.1 h
      rw [Reference.replaceM_of_runs (Reference.runs_eq_nil hreference)] at hu
      cases hu
      obtain ⟨v, hv, h⟩ := bind_eq_ok.1 h
      obtain ⟨t, rfl, -⟩ := Option.map_eq_some_iff.1 (Except.ok.inj h)
      exact Calendar.claims_or_overlooked hv
  | units =>
    obtain ⟨t, ht⟩ := hby h
    exact .inl (claimsConversion_of_run ht)
  | percentages | arithmetic => exact absurd hev (by decide)

/-- The hosts of a prefix are asked for in the plural. -/
theorem claimed_or_overlooked_hosts :
    let s : Surroundings := ⟨⟨0, none, false, by decide⟩, .fixed⟩
    let expr := "hosts in /24".toList
    subnets ∈ [subnets, dates, units] ∧
      subnets.answer s [] expr = .ok (some { text := "254 hosts".toList }) ∧
        ¬subnets.Overlooks expr ∧ (subnets.claims expr = true ∨ subnets.Overlooks expr) := by
  intro s expr
  have hanswer : subnets.answer s [] expr = .ok (some { text := "254 hosts".toList }) := by rfl
  have hplural : ¬subnets.Overlooks expr := by
    show ¬Subnet.overlooks expr = true
    decide +kernel
  exact ⟨by decide, hanswer, hplural, claimed_or_overlooked (by decide) hanswer⟩

/-- In the singular they are overlooked. -/
example :
    let s : Surroundings := ⟨⟨0, none, false, by decide⟩, .fixed⟩
    let expr := "host in /24".toList
    subnets.answer s [] expr = .ok (some { text := "254 hosts".toList }) ∧
      subnets.claims expr = false := ⟨rfl, rfl⟩

/-- So is a date that names its month. -/
example :
    let now : Moment := ⟨0, none, false, by decide⟩
    let expr := "Dec 25, 2025".toList
    (PhraseRule.run (Calendar.rules now) expr).toOption = some (some "2025-12-25 00:00 ".toList) ∧
      dates.claims expr = false := by
  decide +kernel

end Evaluator

end Worksheet
