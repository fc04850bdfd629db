import Worksheet.Proofs.Renaming
import Worksheet.Proofs.Rewriting
import Worksheet.Proofs.Scanning

/-!
# Scanning a rewritten text

When all references have ASCII digits, before and after, the scan of a rewritten text is that of the
text with its reference tokens exchanged (`scan_rewrite`). Pasted operators are replaced in the same
places, since a reference ends a factor and begins one whatever its digits are.
-/

namespace Worksheet

open Text

namespace Token

open Reference (rewrite runs KeepsRuns KeepsAscii)

variable {ρ : Text → Text} {σ : Nat → Nat} {t u r : Text}

/-! ## Pasted operators -/

theorem plainSign_of_isDigit {c : Char} (h : isDigit c = true) : plainSign c = c := by
  unfold plainSign
  split <;> first | rfl | exact absurd h (by decide)

theorem isDigit_plainSign (c : Char) : isDigit (plainSign c) = isDigit c := by
  unfold plainSign
  split <;> rfl

theorem map_plainSign_of_digits (h : u.all isDigit = true) : u.map plainSign = u := by
  induction u with
  | nil => rfl
  | cons c u ih =>
    simp only [List.all_cons, Bool.and_eq_true] at h
    rw [List.map_cons, plainSign_of_isDigit h.1, ih h.2]

theorem head?_map_plainSign : (u.map plainSign).head?.any isDigit = u.head?.any isDigit := by
  cases u with
  | nil => rfl
  | cons c u => exact isDigit_plainSign c

theorem plainSign_eq_backslash {c : Char} : plainSign c = '\\' ↔ c = '\\' := by
  unfold plainSign
  split <;> first | rfl | exact ⟨fun h => absurd h (by decide), fun h => absurd h (by decide)⟩

theorem rewrite_map_plainSign (hρ : KeepsRuns ρ) :
    rewrite ρ (t.map plainSign) = (rewrite ρ t).map plainSign := by
  induction t using Reference.pieces_induction with
  | nil => simp [Reference.rewrite_nil]
  | run u r hne hu hr ih =>
    have hs : plainSign '\\' = '\\' := by decide
    rw [List.map_cons, List.map_append, map_plainSign_of_digits hu, hs,
      Reference.rewrite_run hne hu (by rwa [head?_map_plainSign]), Reference.rewrite_run hne hu hr,
      List.map_cons, List.map_append, map_plainSign_of_digits (hρ u).2, hs, ih]
  | char c r hc ih =>
    rw [Reference.rewrite_cons hc, List.map_cons, List.map_cons, Reference.rewrite_cons, ih]
    rw [plainSign_eq_backslash, head?_map_plainSign]
    exact hc

/-- The character next to a multiplication sign. -/
def nearest (t : Text) : Option Char := t.find? fun c => !isBlank c

theorem nearest_eq : nearest t = (trimLeft t).head? := by
  induction t with
  | nil => rfl
  | cons c r ih =>
    cases hc : isBlank c with
    | true => simpa [nearest, hc] using ih
    | false => simp [nearest, hc]

theorem nearest_rewrite : nearest (rewrite ρ t) = nearest t := by
  rw [nearest_eq, nearest_eq, Reference.trimLeft_rewrite, Reference.head?_rewrite]

theorem multiplySigns_cons {before : Text} {c : Char} :
    multiplySigns before (c :: r) =
      (if (c == 'x' || c == 'X') && (nearest before).any endsFactor &&
        (nearest r).any beginsFactor then '*' else c) :: multiplySigns (c :: before) r := rfl

theorem multiplySigns_digits {before : Text} (hu : u.all isDigit = true) :
    multiplySigns before (u ++ r) = u ++ multiplySigns (u.reverse ++ before) r := by
  induction u generalizing before with
  | nil => rfl
  | cons c u ih =>
    simp only [List.all_cons, Bool.and_eq_true] at hu
    have hc : (c == 'x' || c == 'X') = false := by
      simp only [Bool.or_eq_false_iff, beq_eq_false_iff_ne]
      refine ⟨?_, ?_⟩ <;>
      · rintro rfl
        exact absurd hu.1 (by decide)
    rw [List.cons_append, multiplySigns_cons, hc, ih hu.2]
    simp

theorem head?_multiplySigns {before : Text} :
    (multiplySigns before r).head?.any isDigit = r.head?.any isDigit := by
  cases r with
  | nil => rfl
  | cons c r =>
    rw [multiplySigns_cons]
    split
    · next h =>
      simp only [Bool.and_eq_true, Bool.or_eq_true, beq_iff_eq] at h
      rcases h.1.1 with rfl | rfl <;> rfl
    · rfl

theorem nearest_digits {before : Text} (hne : u ≠ []) (hu : u.all isAsciiDigit = true) :
    (nearest (u.reverse ++ before)).any endsFactor = true := by
  have hne' : u.reverse ≠ [] := by simpa using hne
  obtain ⟨c, v, hv⟩ := List.exists_cons_of_ne_nil hne'
  have hc : isAsciiDigit c = true := List.all_eq_true.1 hu c (by
    rw [← List.mem_reverse, hv]
    exact List.mem_cons_self)
  rw [hv]
  simp [nearest, not_isBlank_of_isDigit (isDigit_of_isAsciiDigit hc), endsFactor, hc]

theorem nearest_cons {before : Text} {c : Char} :
    nearest (c :: before) = if isBlank c then nearest before else some c := by
  cases hc : isBlank c <;> simp [nearest, hc]

/-- Behind texts that both end a factor or both do not, the same signs become multiplications. -/
theorem rewrite_multiplySigns (hρ : KeepsRuns ρ) (hρa : KeepsAscii ρ) {before before' : Text}
    (ha : ∀ digits ∈ runs t, digits.all isAsciiDigit = true)
    (hb : (nearest before').any endsFactor = (nearest before).any endsFactor) :
    multiplySigns before' (rewrite ρ t) = rewrite ρ (multiplySigns before t) := by
  induction t using Reference.pieces_induction generalizing before before' with
  | nil => simp [Reference.rewrite_nil, multiplySigns]
  | run u r hne hu hr ih =>
    rw [Reference.runs_run hne hu hr] at ha
    have hbackslash {before r : Text} :
        multiplySigns before ('\\' :: r) = '\\' :: multiplySigns ('\\' :: before) r := rfl
    rw [Reference.rewrite_run hne hu hr, hbackslash, hbackslash, multiplySigns_digits (hρ u).2,
      multiplySigns_digits hu, Reference.rewrite_run hne hu (by rwa [head?_multiplySigns])]
    rw [ih (fun digits hd => ha digits (by simp [hd]))]
    rw [nearest_digits (hρ u).1 (hρa u), nearest_digits hne (ha u (by simp))]
  | char c r hc ih =>
    rw [Reference.runs_cons hc] at ha
    have hnext : (nearest (c :: before')).any endsFactor =
        (nearest (c :: before)).any endsFactor := by
      rw [nearest_cons, nearest_cons]
      split
      · exact hb
      · rfl
    rw [Reference.rewrite_cons hc, multiplySigns_cons, multiplySigns_cons, nearest_rewrite, hb,
      ih ha hnext]
    refine (Reference.rewrite_cons fun hd => ?_).symm
    rw [head?_multiplySigns]
    split at hd
    · exact absurd hd (by decide)
    · exact hc hd

theorem runs_map_plainSign : runs (t.map plainSign) = runs t := (respelled_plainSign t).runs_eq

theorem normalize_rewrite (hρ : KeepsRuns ρ) (hρa : KeepsAscii ρ)
    (ha : ∀ digits ∈ runs t, digits.all isAsciiDigit = true) :
    normalize (rewrite ρ t) = rewrite ρ (normalize t) := by
  unfold normalize
  rw [← rewrite_map_plainSign hρ, rewrite_multiplySigns hρ hρa (by rwa [runs_map_plainSign]) rfl]

/-! ## Tokens -/

theorem map_rename_of_notMem {τ : Text → Text} {ts : List Token} (h : scanFrom t = .ok ts)
    (ht : '\\' ∉ t) : ts.map (rename σ τ) = ts := by
  have hl := filterMap_line?_of_notMem h ht
  rw [List.filterMap_eq_nil_iff] at hl
  rw [List.map_congr_left (g := id), List.map_id]
  intro token hm
  cases token with
  | reference n t => cases hl _ hm
  | _ => rfl

/-- The text of a reference token with other digits. -/
def renameText (ρ : Text → Text) (t : Text) : Text := '\\' :: ρ t.tail

/-- A reference in ASCII digits is one token. -/
theorem scanFrom_run (hne : u ≠ []) (hu : u.all isAsciiDigit = true)
    (hr : r.head?.any isDigit = false) : scanFrom ('\\' :: (u ++ r)) =
      match Literal.natural? u with
      | some n => (scanFrom r).map fun ts => reference n ('\\' :: u) :: ts
      | none => .error (.fault .badValue) := by
  have ha : r.head?.any isAsciiDigit = false := by
    cases r with
    | nil => rfl
    | cons c r =>
      refine Bool.eq_false_iff.2 fun hc => ?_
      rw [List.head?_cons, Option.any_some, isDigit_of_isAsciiDigit hc] at hr
      cases hr
  obtain ⟨htake, hdrop⟩ := span_append hu ha
  rw [scanFrom_cons, next_backslash, htake, hdrop, if_neg (by simpa using hne)]
  cases Literal.natural? u <;> rfl

theorem scanFrom_bareBackslash (hr : r.head?.any isDigit = false) :
    scanFrom ('\\' :: r) = .error (.lex .bareBackslash) := by
  have htake : r.takeWhile isAsciiDigit = [] := by
    cases r with
    | nil => rfl
    | cons c r =>
      refine List.takeWhile_cons_of_neg fun hc => ?_
      rw [List.head?_cons, Option.any_some, isDigit_of_isAsciiDigit hc] at hr
      cases hr
  rw [scanFrom_cons, next_backslash, htake]
  rfl

theorem scanFrom_rewrite (hρ : KeepsRuns ρ) (hρa : KeepsAscii ρ) (t : Text)
    (ha : ∀ digits ∈ runs t, digits.all isAsciiDigit = true ∧
      Literal.natural? (ρ digits) = (Literal.natural? digits).map σ) :
    scanFrom (rewrite ρ t) = (scanFrom t).map (List.map (rename σ (renameText ρ))) := by
  by_cases ht : '\\' ∈ t
  · obtain ⟨u, r, rfl, hu⟩ := List.eq_append_cons_of_mem ht
    rw [Reference.runs_append_of_notMem hu] at ha
    -- The part in front of the backslash stays, so the reference behind it decides.
    have hback : scanFrom (rewrite ρ ('\\' :: r)) =
        (scanFrom ('\\' :: r)).map (List.map (rename σ (renameText ρ))) := by
      rcases Reference.pieces_cases ('\\' :: r) with h | ⟨v, r', hne, hv, hr, he⟩ | ⟨c, r', hc, he⟩
      · cases h
      · have hle : r'.length ≤ r.length := by
          rw [(List.cons.inj he).2, List.length_append]
          omega
        obtain rfl := (List.cons.inj he).2
        rw [Reference.runs_run hne hv hr] at ha
        obtain ⟨hva, hnat⟩ := ha v (by simp)
        rw [Reference.rewrite_run hne hv hr, scanFrom_run (hρ v).1 (hρa v)
          (by rwa [Reference.head?_rewrite]), scanFrom_run hne hva hr, hnat,
          scanFrom_rewrite hρ hρa r' fun digits hd => ha digits (by simp [hd])]
        cases Literal.natural? v with
        | none => rfl
        | some n => cases scanFrom r' <;> rfl
      · obtain ⟨rfl, rfl⟩ := List.cons.inj he
        have hr := hc rfl
        rw [Reference.rewrite_cons hc, scanFrom_bareBackslash hr,
          scanFrom_bareBackslash (by rwa [Reference.head?_rewrite])]
        rfl
    obtain ⟨s, hs⟩ := Reference.exists_rewrite_cons (ρ := ρ) (c := '\\') (r := r)
    rw [hs] at hback
    rw [Reference.rewrite_append_of_notMem hu, hs, scanFrom_append hu, scanFrom_append hu, hback]
    cases hts : scanFrom u with
    | error => rfl
    | ok ts =>
      have hm : ts.map (rename σ (renameText ρ)) = ts := map_rename_of_notMem hts hu
      cases scanFrom ('\\' :: r) with
      | error => rfl
      | ok ts' => simp [Except.bind, Except.map, hm]
  · rw [Reference.rewrite_of_notMem ht]
    cases hts : scanFrom t with
    | error => rfl
    | ok ts => rw [Except.map, map_rename_of_notMem hts ht]
termination_by t.length
decreasing_by
  subst_vars
  simp only [List.length_append, List.length_cons]
  omega

/-- The tokens of a rewritten expression. -/
theorem scan_rewrite (hρ : KeepsRuns ρ) (hρa : KeepsAscii ρ)
    (ha : ∀ digits ∈ runs t, digits.all isAsciiDigit = true ∧
      Literal.natural? (ρ digits) = (Literal.natural? digits).map σ) :
    scan (rewrite ρ t) = (scan t).map (List.map (rename σ (renameText ρ))) := by
  unfold scan
  rw [Reference.trim_rewrite hρ, normalize_rewrite hρ hρa]
  · exact scanFrom_rewrite hρ hρa _ (by rwa [runs_normalize, Reference.runs_trim])
  · rw [Reference.runs_trim]
    exact fun digits hd => (ha digits hd).1

end Token

end Worksheet
