import Worksheet.Calendar.Span
import Worksheet.Proofs.Amounts
import Worksheet.Proofs.Renumbering

/-!
# Texts of spans

A span is told by numbers and units in turn, with one space between two words, so that its text can
be read word by word. **Theorem (`ofText_format`).** The text of a span tells all its numbers, zero
where a unit is missing.
-/

namespace Worksheet

open Text

namespace Span

/-! ## Reading -/

/-- A word is a unit, or the plural of a unit. -/
def Names (unit : String) (w : Text) : Prop := w = unit.toList ∨ w = unit.toList ++ ['s']

instance (unit : String) (w : Text) : Decidable (Names unit w) :=
  inferInstanceAs (Decidable (_ ∨ _))

/-- The number in front of a unit, zero if the unit is missing. Numbers and units take turns. -/
def amountOf (unit : String) : List Text → Nat
  | n :: w :: ws => if Names unit w then Literal.digitsValue n else amountOf unit ws
  | _ => 0

/-- The span that a text tells. -/
def ofText (t : Text) : Span :=
  let words := split ' ' t
  { years := amountOf "year" words
    months := amountOf "month" words
    weeks := amountOf "week" words
    days := amountOf "day" words
    hours := amountOf "hour" words
    minutes := amountOf "min" words }

/-! ## The words of a span -/

def units : List String := ["year", "month", "week", "day", "hour", "min"]

/-- The name of a unit behind the number `n`. -/
def unitName (n : Nat) (unit : String) : Text := unit.toList ++ if n = 1 then [] else ['s']

/-- The two words that tell of `n` units, none if there are none. -/
def wordsOf (n : Nat) (unit : Text) : List (Text × Text) := if n = 0 then [] else [(ofNat n, unit)]

/-- The numbers and units of a span in turn. -/
def wordPairs (s : Span) : List (Text × Text) :=
  wordsOf s.years (unitName s.years "year") ++ (wordsOf s.months (unitName s.months "month") ++
    (wordsOf s.weeks (unitName s.weeks "week") ++ (wordsOf s.days (unitName s.days "day") ++
      (wordsOf s.hours (unitName s.hours "hour") ++ wordsOf s.minutes "min".toList))))

/-- The words of pairs, one after the other. -/
def inTurn (ps : List (Text × Text)) : List Text := ps.flatMap fun p => [p.1, p.2]

variable {unit : String}

theorem join_inTurn (ps : List (Text × Text)) :
    join [' '] (ps.map fun p => p.1 ++ ' ' :: p.2) = join [' '] (inTurn ps) := by
  induction ps with
  | nil => rfl
  | cons p ps ih =>
    cases ps with
    | nil => simp [join, inTurn]
    | cons q ps =>
      simp only [inTurn, List.map_cons, List.flatMap_cons, List.cons_append, List.nil_append,
        join] at ih ⊢
      rw [ih]
      simp

theorem format_eq_join (s : Span) : s.format =
    if s.wordPairs = [] then "0 min".toList else join [' '] (inTurn s.wordPairs) := by
  have hpart (n : Nat) (unit : Text) : (if n = 0 then [] else [ofNat n ++ ' ' :: unit]) =
      (wordsOf n unit).map fun p => p.1 ++ ' ' :: p.2 := by
    unfold wordsOf
    split <;> rfl
  have hcounted (n : Nat) (unit : String) : counted n unit = ofNat n ++ ' ' :: unitName n unit := by
    rw [counted, unitName, List.append_assoc, List.cons_append]
  have hmin (n : Nat) : ofNat n ++ " min".toList = ofNat n ++ ' ' :: "min".toList := rfl
  rw [format]
  simp only [hcounted, hmin, hpart, ← List.map_append, List.append_assoc, List.isEmpty_iff,
    List.map_eq_nil_iff]
  rw [← join_inTurn]
  rfl

theorem notMem_wordPairs {s : Span} {w : Text} (h : w ∈ inTurn s.wordPairs) : ' ' ∉ w := by
  have hof (n : Nat) (unit : Text) (hunit : ' ' ∉ unit) :
      ∀ p ∈ wordsOf n unit, ' ' ∉ p.1 ∧ ' ' ∉ p.2 := by
    intro p hp
    unfold wordsOf at hp
    split at hp
    · cases hp
    · cases List.mem_singleton.1 hp
      exact ⟨Reference.notMem_ofNat rfl n, hunit⟩
  have hname {unit : String} (hunit : ' ' ∉ unit.toList) (n : Nat) : ' ' ∉ unitName n unit := by
    unfold unitName
    split <;> simp [hunit]
  obtain ⟨p, hp, hw⟩ := List.mem_flatMap.1 h
  have hboth : ' ' ∉ p.1 ∧ ' ' ∉ p.2 := by
    simp only [wordPairs, List.mem_append] at hp
    rcases hp with hp | hp | hp | hp | hp | hp
    · exact hof _ _ (hname (by decide) _) p hp
    · exact hof _ _ (hname (by decide) _) p hp
    · exact hof _ _ (hname (by decide) _) p hp
    · exact hof _ _ (hname (by decide) _) p hp
    · exact hof _ _ (hname (by decide) _) p hp
    · exact hof _ _ (by decide) p hp
  simp only [List.mem_cons, List.not_mem_nil, or_false] at hw
  rcases hw with rfl | rfl
  · exact hboth.1
  · exact hboth.2

/-! ## Reading what is told -/

/-- Units are told apart by their names. -/
theorem names_unitName {u v : String} (hu : u ∈ units) (hv : v ∈ units) (n : Nat) :
    Names u (unitName n v) ↔ u = v := by
  have hsingular : ∀ u ∈ units, ∀ v ∈ units, Names u v.toList ↔ u = v := by decide
  have hplural : ∀ u ∈ units, ∀ v ∈ units, Names u (v.toList ++ ['s']) ↔ u = v := by decide
  unfold unitName
  split
  · rw [List.append_nil]
    exact hsingular u hu v hv
  · exact hplural u hu v hv

theorem amountOf_wordsOf (unit : String) (n : Nat) (w : Text) (ps : List (Text × Text)) :
    amountOf unit (inTurn (wordsOf n w ++ ps)) =
      if n ≠ 0 ∧ Names unit w then n else amountOf unit (inTurn ps) := by
  unfold wordsOf inTurn
  by_cases hn : n = 0
  · simp [hn]
  · by_cases hw : Names unit w
    · simp [hn, hw, amountOf, Literal.digitsValue_ofNat]
    · simp [hn, hw, amountOf]

/-- **A span is read back from its text.** -/
theorem ofText_format (s : Span) : ofText s.format = s := by
  have hlast (unit : String) (n : Nat) :
      amountOf unit (inTurn (wordsOf n "min".toList)) =
        if n ≠ 0 ∧ Names unit "min".toList then n else 0 := by
    have h := amountOf_wordsOf unit n "min".toList []
    rwa [List.append_nil] at h
  have hmin : ∀ u ∈ units, Names u "min".toList ↔ u = "min" := by decide
  have hwords : ∀ unit ∈ units, amountOf unit (split ' ' s.format) =
      amountOf unit (inTurn s.wordPairs) := by
    intro unit hunit
    rw [format_eq_join]
    split
    · next h =>
      rw [h]
      have hzero : ∀ unit ∈ units, amountOf unit (split ' ' "0 min".toList) = 0 := by decide
      exact hzero unit hunit
    · next h =>
      obtain ⟨p, ps, hps⟩ := List.exists_cons_of_ne_nil h
      have hne : inTurn s.wordPairs ≠ [] := by simp [hps, inTurn]
      rw [Reference.split_join hne fun w hw => notMem_wordPairs hw]
  obtain ⟨years, months, weeks, days, hours, minutes⟩ := s
  rw [ofText]
  simp only [hwords _ (show "year" ∈ units by decide), hwords _ (show "month" ∈ units by decide),
    hwords _ (show "week" ∈ units by decide), hwords _ (show "day" ∈ units by decide),
    hwords _ (show "hour" ∈ units by decide), hwords _ (show "min" ∈ units by decide)]
  simp only [wordPairs, amountOf_wordsOf, hlast]
  simp (disch := decide) only [names_unitName, hmin]
  simp +contextual

end Span

end Worksheet
