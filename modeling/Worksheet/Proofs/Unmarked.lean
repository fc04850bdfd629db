import Worksheet.Evaluator
import Worksheet.Proofs.Lowering
import Worksheet.Proofs.Renumbering
import Worksheet.Proofs.Result

/-!
# Answers without a comment mark

Behind a result a comment begins with its mark, so a line with its result is read back only if no
result holds the mark. Numbers, addresses and the names of units and currencies are without it, and
what an answer takes over from its expression is a group of a match (`Pattern.group_part`), which
lies in the expression. Answers about dates have a file of their own.
-/

namespace Worksheet

open Text Result

theorem Text.trimRightBy_subset (p : Char → Bool) (t : Text) : trimRightBy p t ⊆ t := fun _ hc =>
  List.mem_reverse.1 ((List.dropWhile_sublist p).subset (List.mem_reverse.1 hc))

theorem Text.trim_subset (t : Text) : trim t ⊆ t :=
  List.Subset.trans (trimRightBy_subset isBlank _) (List.dropWhile_sublist _).subset

/-- The text holds no comment mark. -/
def Unmarked (t : Text) : Prop := '#' ∉ t

instance (t : Text) : Decidable (Unmarked t) := inferInstanceAs (Decidable ('#' ∉ t))

namespace Unmarked

variable {t u : Text}

@[simp] theorem nil : Unmarked [] := nofun

@[simp] theorem cons_iff {c : Char} : Unmarked (c :: t) ↔ c ≠ '#' ∧ Unmarked t := by
  simp [Unmarked, eq_comm]

@[simp] theorem append_iff : Unmarked (t ++ u) ↔ Unmarked t ∧ Unmarked u := by
  simp [Unmarked]

theorem subset (h : Unmarked t) (hu : u ⊆ t) : Unmarked u := fun hm => h (hu hm)

theorem of_all {p : Char → Bool} (h : t.all p = true) (hp : p '#' = false) : Unmarked t :=
  fun hm => by
    have := List.all_eq_true.1 h _ hm
    rw [hp] at this
    cases this

theorem replicate {c : Char} (hc : c ≠ '#') (n : Nat) : Unmarked (List.replicate n c) :=
  fun hm => hc (List.eq_of_mem_replicate hm).symm

theorem trimRightBy {p : Char → Bool} (h : Unmarked t) : Unmarked (trimRightBy p t) :=
  h.subset (trimRightBy_subset p t)

theorem trim (h : Unmarked t) : Unmarked (trim t) := h.subset (trim_subset t)

theorem join {sep : Text} {ps : List Text} (hsep : Unmarked sep) (h : ∀ p ∈ ps, Unmarked p) :
    Unmarked (join sep ps) := by
  intro hm
  rcases Reference.mem_join hm with hmark | ⟨p, hp, hmark⟩
  · exact hsep hmark
  · exact h p hp hmark

/-! ## Lower case -/

theorem lowerChar_eq {c : Char} (h : lowerChar c = '#') : c = '#' := by
  rw [lowerChar] at h
  dsimp only at h
  split at h
  · rcases toLower_cases c with hc | ⟨hl, -, hc⟩
    · exact hc.symm.trans h
    · have : c.toNat + 32 = 35 := hc ▸ congrArg Char.toNat h
      omega
  · split at h
    · next lo hi step shift hr =>
      have hm := (lowerRuns_foreign _ (Array.mem_toList_iff.2 (Array.mem_of_find?_eq_some hr))).1
      have hp := Array.find?_some hr
      have hn := toNat_ofNat (c.toNat + shift).toNat
      rw [h, show ('#' : Char).toNat = 35 from rfl] at hn
      simp only [Bool.and_eq_true, decide_eq_true_eq] at hm hp
      omega
    · exact h

theorem lower (h : Unmarked t) : Unmarked (lower t) := by
  have hfrom (b : Text) : Unmarked (lowerFrom b t) := by
    induction t generalizing b with
    | nil => exact nil
    | cons c r ih =>
      obtain ⟨hc, hr⟩ := cons_iff.1 h
      have hlow : lowerChar c ≠ '#' := fun he => hc (lowerChar_eq he)
      rw [lowerFrom]
      split
      · next hn =>
        rw [lowerChar] at hlow
        simp only [hn, if_true] at hlow
        exact cons_iff.2 ⟨hlow, ih hr _⟩
      split
      · simpa using ih hr _
      split
      · refine cons_iff.2 ⟨?_, ih hr _⟩
        split <;> decide
      · exact cons_iff.2 ⟨hlow, ih hr _⟩
  exact hfrom []

/-! ## Numbers -/

@[simp] theorem ofNat (n : Nat) : Unmarked (ofNat n) := Reference.notMem_ofNat (by decide) n

@[simp] theorem ofInt (n : Int) : Unmarked (ofInt n) := by
  cases n <;> simp [Text.ofInt]

@[simp] theorem padLeft {c : Char} {n : Nat} (hc : c ≠ '#') (h : Unmarked t) :
    Unmarked (padLeft c n t) := append_iff.2 ⟨replicate hc _, h⟩

theorem groupReversed (h : Unmarked t) : Unmarked (Fixed.groupReversed t) := by
  fun_induction Fixed.groupReversed t with
  | case1 a b c d r ih => simp_all
  | case2 => exact h

theorem grouped (h : Unmarked t) : Unmarked (Fixed.grouped t) := by
  have hrev {t : Text} (h : Unmarked t) : Unmarked t.reverse := fun hm => h (List.mem_reverse.1 hm)
  exact hrev (groupReversed (hrev h))

theorem fractionDigits (places n : Nat) : Unmarked (Fixed.fractionDigits places n) :=
  padLeft (by decide) (ofNat _)

@[simp] theorem fixed (group : Bool) (places : Nat) (x : Float) :
    Unmarked (Fixed.ofFloat group places x) := by
  have hdigits (n : Nat) : Unmarked (Fixed.digits group places n) := by
    have hwhole : Unmarked (if group then Fixed.grouped (Text.ofNat (n / Nat.pow 10 places))
        else Text.ofNat (n / Nat.pow 10 places)) := by
      split
      · exact grouped (ofNat _)
      · exact ofNat _
    unfold Fixed.digits
    dsimp only
    split
    · exact hwhole
    · exact append_iff.2 ⟨hwhole, cons_iff.2 ⟨by decide, fractionDigits places n⟩⟩
  unfold Fixed.ofFloat
  split
  · dsimp only
    split
    · simp [hdigits]
    · exact hdigits _
  · repeat' split
    all_goals decide

@[simp] theorem amount (x : Float) (isCurrency : Bool) : Unmarked (Amount.format x isCurrency) := by
  have hplain (n : Nat) : Unmarked (Amount.plainDigits n) := by
    have htrim := trimRightBy (p := (· == '0')) (fractionDigits 10 n)
    unfold Amount.plainDigits Amount.trimZeros
    generalize Text.trimRightBy (· == '0') (Fixed.fractionDigits 10 n) = places at htrim
    dsimp only
    split
    · exact grouped (ofNat _)
    · exact append_iff.2 ⟨grouped (ofNat _), cons_iff.2 ⟨by decide, htrim⟩⟩
  unfold Amount.format
  split
  · decide
  · split
    · have hcents (whole cents : Nat) :
          Unmarked
            (Fixed.grouped (Text.ofNat whole) ++ '.' :: Text.padLeft '0' 2 (Text.ofNat cents)) := by
        simp [grouped, padLeft]
      unfold Amount.currency
      dsimp only
      split
      · simp [hcents]
      · simp [hcents]
    · unfold Amount.plain
      dsimp only
      split
      · simp [hplain]
      · exact hplain _

end Unmarked

/-! ## Rules -/

namespace PhraseRule

variable {ps : List Pattern} {f : Match → Result Text} {rules : List PhraseRule} {expr : Text}

/-- The rule's answers to expressions without a comment mark are without one. -/
def KeepsUnmarked (rule : PhraseRule) : Prop :=
  ∀ expr low, Unmarked expr → Yields (fun a => ∀ t ∈ a, Unmarked t) (rule expr low)

theorem keepsUnmarked_onMatch (h : ∀ m, Yields Unmarked (f m)) :
    KeepsUnmarked (onMatch ps f) := by
  intro expr low _
  unfold onMatch
  split
  · next m _ =>
    refine (yields_map (g := some)).2 fun t ht => ?_
    simpa using h m t ht
  · simp

/-- An answer is that of one of the rules. -/
theorem exists_of_run {t : Text} (h : run rules expr = .ok (some t)) :
    ∃ rule ∈ rules, rule (trim expr) (lower (trim expr)) = .ok (some t) := by
  change firstAnswer rules (trim expr) (lower (trim expr)) = .ok (some t) at h
  induction rules with
  | nil => cases h
  | cons rule rules ih =>
    obtain ⟨a, ha, h⟩ := bind_eq_ok.1 h
    cases a with
    | some u =>
      cases h
      exact ⟨rule, List.mem_cons_self, ha⟩
    | none =>
      obtain ⟨rule', hm, ht⟩ := ih h
      exact ⟨rule', List.mem_cons_of_mem _ hm, ht⟩

theorem unmarked_run (h : ∀ rule ∈ rules, KeepsUnmarked rule) (hx : Unmarked expr) :
    Yields (fun a => ∀ t ∈ a, Unmarked t) (run rules expr) := by
  rintro a ha t rfl
  obtain ⟨rule, hrule, ht⟩ := exists_of_run ha
  exact h rule hrule _ _ hx.trim _ ht t rfl

end PhraseRule

/-! ## Subnets -/

@[simp] theorem Address.unmarked_text (a : Address) : Unmarked a.text :=
  .join (by decide) fun p hp => by
    obtain ⟨i, -, rfl⟩ := List.mem_map.1 hp
    exact .ofNat _

@[simp] theorem Block.unmarked_text (b : Block) : Unmarked b.text := by
  simp [Block.text]

@[simp] theorem Block.unmarked_describe (b : Block) : Unmarked b.describe :=
  .join (by decide) fun p hp => by
    simp only [List.mem_cons, List.not_mem_nil, or_false] at hp
    rcases hp with rfl | rfl | rfl | rfl | rfl <;> simp

theorem unmarked_listBlocks (bs : List Block) (total : Option Int) :
    Unmarked (listBlocks bs total) := by
  unfold listBlocks
  split
  · decide
  · refine .join (by decide) fun p hp => ?_
    rcases List.mem_append.1 hp with hp | hp
    · obtain ⟨⟨b, i⟩, -, rfl⟩ := List.mem_map.1 hp
      simp
    · split at hp
      · split at hp
        · rw [List.mem_singleton.1 hp]
          simp
        · cases hp
      · cases hp

theorem Subnet.keepsUnmarked_rules : ∀ rule ∈ rules, rule.KeepsUnmarked := by
  intro rule hrule
  simp only [rules, List.mem_cons, List.not_mem_nil, or_false] at hrule
  rcases hrule with rfl | rfl | rfl | rfl | rfl | rfl | rfl | rfl | rfl | rfl | rfl | rfl | rfl
  case inr.inr.inr.inr.inr.inr.inr.inr.inr.inr.inr.inr =>
    intro expr low _
    unfold bare
    split <;> simp
  all_goals
    refine PhraseRule.keepsUnmarked_onMatch fun m => ?_
    simp [unmarked_listBlocks, hostsText]
  intro a _ b _
  split <;> decide

/-! ## Percentages -/

theorem Percentage.keepsUnmarked_rules : ∀ rule ∈ rules, rule.KeepsUnmarked := by
  have hsplit : split.KeepsUnmarked := by
    refine PhraseRule.keepsUnmarked_onMatch fun m => yields_bind.2 fun amount _ =>
      yields_bind.2 fun ways _ => ?_
    split
    · exact yields_error _
    · dsimp only
      cases m.group? 3
      all_goals
        refine yields_bind.2 fun percent _ => ?_
        split
        · exact yields_error _
        · refine yields_pure.2 ?_
          split <;> simp [twoPlaces]
  intro rule hrule
  simp only [rules, List.mem_cons, List.not_mem_nil, or_false] at hrule
  rcases hrule with rfl | rfl | rfl | rfl | rfl | rfl | rfl
  case inr.inr.inr.inr.inr.inr => exact hsplit
  all_goals
    refine PhraseRule.keepsUnmarked_onMatch fun m => ?_
    simp [twoPlaces]
  all_goals
    intro x _ y _
    split <;> simp
  split <;> simp

/-! ## Currencies and units -/

theorem Conversion.unmarked_target {t : Text} {c : Conversion} (h : ofText? t = some c)
    (ht : Unmarked t) : Unmarked c.target := by
  obtain ⟨m, hm, h⟩ := Option.bind_eq_some_iff.1 h
  simp only [Option.ite_none_left_eq_some] at h
  obtain ⟨x, -, h⟩ := Option.bind_eq_some_iff.1 h.2
  cases h
  exact (ht.trim.subset (Pattern.group_part hm 4).subset).trim.lower

theorem mem_of_lookup {α β : Type} [BEq α] [LawfulBEq α] {l : List (α × β)} {a : α} {b : β}
    (h : l.lookup a = some b) : (a, b) ∈ l := by
  obtain ⟨l₁, l₂, rfl, -⟩ := List.lookup_eq_some_iff.1 h
  simp

theorem Currency.unmarked_code {name code : Text} (h : code? name = some code) :
    Unmarked (upperAscii code) := by
  have hnames : ∀ p ∈ names, Unmarked (upperAscii p.2.toList) := by decide +kernel
  obtain ⟨t, ht, rfl⟩ := Option.map_eq_some_iff.1 h
  exact hnames _ (mem_of_lookup ht)

theorem Currency.keepsUnmarked_convert (rates : Rates) : (convert rates).KeepsUnmarked := by
  intro expr low _
  unfold convert
  split
  · simp
  split
  · simp
  · next source target hcodes =>
    obtain ⟨_, -, hcodes⟩ := Option.bind_eq_some_iff.1 hcodes
    obtain ⟨_, hcode, hcodes⟩ := Option.bind_eq_some_iff.1 hcodes
    cases hcodes
    refine yields_bind.2 fun rate _ => ?_
    split
    · simp
    · simp [unmarked_code hcode]

theorem Measure.keepsUnmarked_convertPhrase : PhraseRule.KeepsUnmarked convertPhrase := by
  have hlabels : ∀ p ∈ labels, Unmarked p.2.toList := by decide +kernel
  intro expr low hx
  unfold convertPhrase
  split
  · simp
  split
  · simp
  dsimp only
  split
  · simp
  · simp
  · next c hc _ _ _ _ =>
    have hlabel (target : Text) :
        Unmarked (((labels.lookup (String.ofList target)).map String.toList).getD c.target) := by
      cases hl : labels.lookup (String.ofList target) with
      | none => exact Conversion.unmarked_target hc hx
      | some label => exact hlabels _ (mem_of_lookup hl)
    simp [hlabel]

end Worksheet
