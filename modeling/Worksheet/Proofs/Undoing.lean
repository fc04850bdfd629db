import Worksheet.Proofs.Deletion
import Worksheet.Session

/-!
# Undoing an insertion

**Theorem (`Reference.adjust_undone`).** When lines are put into a text and taken out again, the text
is the same as before, with all its references.

Renumbering for the deletion undoes renumbering for the insertion, on numbers (`shrinking_growing`)
and so on texts whose references are written plainly (`rewrite_rewrite`). Hence the first renumbering
keeps different lines apart, and the second edit is taken to begin where the first was
(`firstDifference_map`). That need not be where the lines were put in, as these may repeat their
neighbours, but it is the same place for both edits.
-/

namespace Worksheet

open Text

/-! ## Numbers written plainly -/

namespace Literal

theorem ofNat_digit {c : Char} (h : isAsciiDigit c = true) : ofNat (c.toNat - 48) = [c] := by
  obtain ⟨hlow, hhigh⟩ := toNat_of_isAsciiDigit h
  have hlt : c.toNat - 48 < 10 := by omega
  have hchar : ∀ d < 10, Nat.digitChar d = Char.ofNat (48 + d) := by decide
  rw [ofNat, Nat.toDigits_of_lt_base hlt, hchar _ hlt, show 48 + (c.toNat - 48) = c.toNat by omega,
    Char.ofNat_toNat]

/-- Digits behind the digits of a number continue it. -/
theorem ofNat_digitsFrom {u : Text} (hu : u.all isAsciiDigit = true) {n : Nat} (hn : 0 < n) :
    ofNat (digitsFrom n u) = ofNat n ++ u := by
  induction u generalizing n with
  | nil => simp [digitsFrom]
  | cons c u ih =>
    rw [List.all_cons, Bool.and_eq_true] at hu
    have hlt := (toNat_of_isAsciiDigit hu.1).2
    have hstep : ofNat (10 * n + (c.toNat - 48)) = ofNat n ++ [c] := by
      rw [← ofNat_digit hu.1]
      exact (Nat.toDigits_append_toDigits (by decide) hn (by omega)).symm
    rw [digitsFrom, List.foldl_cons]
    refine (ih hu.2 (by omega)).trans ?_
    rw [hstep, List.append_assoc, List.singleton_append]

/-- Whether a number is written in ASCII digits without zeros in front. -/
def isPlain (digits : Text) : Bool :=
  digits.all isAsciiDigit && (digits == ['0'] || digits.head?.any (· != '0'))

/-- What is written plainly is written as its value is. -/
theorem ofNat_digitsValue {digits : Text} (h : isPlain digits = true) :
    ofNat (digitsValue digits) = digits := by
  simp only [isPlain, Bool.and_eq_true, Bool.or_eq_true, beq_iff_eq] at h
  obtain ⟨hall, rfl | hhead⟩ := h
  · rfl
  · obtain ⟨c, hc, hne⟩ := (Option.any_eq_true _ _).1 hhead
    obtain ⟨u, rfl⟩ := List.head?_eq_some_iff.1 hc
    rw [List.all_cons, Bool.and_eq_true] at hall
    have hlow := (toNat_of_isAsciiDigit hall.1).1
    have hzero : c.toNat ≠ 48 := fun h => bne_iff_ne.1 hne (Char.toNat_inj.1 h)
    rw [digitsValue, digitsFrom, List.foldl_cons, Nat.mul_zero, Nat.zero_add]
    refine (ofNat_digitsFrom hall.2 (by omega)).trans ?_
    rw [ofNat_digit hall.1, List.singleton_append]

end Literal

namespace Reference

/-! ## Renumbering back -/

/-- The number of a line after `count` lines have been put in at `start`. -/
def growing (start count n : Nat) : Nat := if start ≤ n then n + count else n

theorem shrinking_growing (start count n : Nat) :
    shrinking start count (growing start count n) = n := by
  unfold shrinking growing
  split <;> split <;> omega

variable {ρ ρ' : Text → Text} {σ τ : Nat → Nat} {t : Text}

/-- Exchanging the references of a text back gives the text. -/
theorem rewrite_rewrite (hρ : KeepsRuns ρ) (h : ∀ digits ∈ runs t, ρ' (ρ digits) = digits) :
    rewrite ρ' (rewrite ρ t) = t := by
  have hpiece : ∀ p ∈ pieces t, ((p.rename ρ).rename ρ').text = p.text := by
    intro p hp
    cases p with
    | char c => rfl
    | reference digits =>
      have hback := h digits (List.mem_filterMap.2 ⟨_, hp, rfl⟩)
      rw [Piece.rename, Piece.rename, hback]
  rw [rewrite, pieces_rewrite hρ, List.flatMap_map]
  exact (List.flatMap_congr hpiece).trans (flatten_pieces t)

/-- A plain reference is written as before when its number is led back. -/
theorem renumbering_renumbering {digits : Text} (hplain : Literal.isPlain digits = true)
    (hw : Writable σ digits) (hback : ∀ n, τ (σ n) = n) :
    renumbering τ (renumbering σ digits) = digits := by
  obtain ⟨n, hn, -⟩ := id hw
  have hvalue : n = Literal.digitsValue digits := by
    have hascii := (Bool.and_eq_true_iff.1 hplain).1
    rw [Literal.natural?, Literal.asciiDigits_of_digits hascii] at hn
    split at hn
    · cases hn
    · exact (Option.some.inj hn).symm
  rw [renumbering, natural?_renumbering hw, hn]
  dsimp only [Option.map_some]
  rw [hback, hvalue, Literal.ofNat_digitsValue hplain]

/-! ## The same first difference -/

theorem firstDifference_comm (as bs : List Text) : firstDifference as bs = firstDifference bs as := by
  induction as generalizing bs with
  | nil => cases bs <;> rfl
  | cons a as ih =>
    cases bs with
    | nil => rfl
    | cons b bs =>
      rw [firstDifference, firstDifference, ih bs]
      by_cases h : a = b
      · rw [if_pos h, if_pos h.symm]
      · rw [if_neg h, if_neg (Ne.symm h)]

/-- Lines that are kept apart differ first where they did. -/
theorem firstDifference_map {f : Text → Text} {as bs : List Text}
    (h : ∀ a ∈ as, ∀ b ∈ bs, f a = f b → a = b) :
    firstDifference (as.map f) (bs.map f) = firstDifference as bs := by
  induction as generalizing bs with
  | nil => cases bs <;> rfl
  | cons a as ih =>
    cases bs with
    | nil => rfl
    | cons b bs =>
      have hrest := ih fun x hx y hy => h x (List.mem_cons_of_mem a hx) y (List.mem_cons_of_mem b hy)
      rw [List.map_cons, List.map_cons, firstDifference, firstDifference, hrest]
      by_cases hab : a = b
      · rw [if_pos hab, if_pos (congrArg f hab)]
      · have hf : f a ≠ f b := fun hf =>
          hab (h a List.mem_cons_self b List.mem_cons_self hf)
        rw [if_neg hab, if_neg hf]

/-! ## Lines put in and taken out -/

theorem runs_unlines (ls : List Text) : runs (unlines ls) = ls.flatMap runs := by
  induction ls with
  | nil =>
    show runs [] = []
    simp [runs, pieces]
  | cons p ls ih =>
    cases ls with
    | nil => simp [join]
    | cons q ls =>
      have hnl : (['\n'] ++ unlines (q :: ls)).head?.any isDigit = false :=
        show isDigit '\n' = false by decide
      rw [List.flatMap_cons, ← ih]
      show runs (p ++ ['\n'] ++ unlines (q :: ls)) = _
      rw [List.append_assoc, runs_append hnl]
      exact congrArg _ (runs_cons fun h => absurd h (by decide))

variable {old new adj : Text} {P Y S : List Text}

theorem adjust_inserted (hold : Line.logical old = P ++ S) (hnew : Line.logical new = P ++ Y ++ S)
    (hY : Y ≠ []) : adjust old new = .ok adj ↔
      adj = rewrite (renumbering (growing (firstDifference (P ++ S) (P ++ Y ++ S)) Y.length)) new ∧
        ∀ digits ∈ runs new,
          Writable (growing (firstDifference (P ++ S) (P ++ Y ++ S)) Y.length) digits := by
  have hadj := adjust_of_lt (X := []) (by rw [hold, List.append_nil]) hnew
    (List.length_pos_iff.2 hY)
  rw [hadj, List.append_nil]
  refine renumber_eq_ok _ fun n => ?_
  unfold growing
  split <;> split <;> simp <;> omega

theorem adjust_of_length_eq (h : (Line.logical old).length = (Line.logical new).length) :
    adjust old new = .ok new := if_pos h

/-- References of at most 4000 digits are renumbered, if the lines put in can be counted with as
many. -/
theorem exists_adjust_inserted (hold : Line.logical old = P ++ S)
    (hnew : Line.logical new = P ++ Y ++ S) (hdigits : ∀ digits ∈ runs new, digits.length ≤ 4000)
    (hsize : Y.length ≤ 10 ^ 4000) : ∃ adj, adjust old new = .ok adj := by
  by_cases hY : Y = []
  · exact ⟨new, adjust_of_length_eq (by rw [hold, hnew, hY, List.append_nil])⟩
  · refine ⟨_, (adjust_inserted hold hnew hY).2 ⟨rfl, fun digits hm => ?_⟩⟩
    refine writable_of_length (all_isDigit_of_mem_runs hm) (hdigits digits hm) (by decide) hsize
      fun n => ?_
    unfold growing
    split <;> omega

/-- Where lines `Y` are put in and taken out, the second renumbering leads every reference back. -/
theorem adjust_back (hold : Line.logical old = P ++ S) (hnew : Line.logical new = P ++ Y ++ S)
    (hY : Y ≠ []) (hsub : runs old ⊆ runs new)
    (hlines : ∀ l ∈ P ++ Y ++ S, runs l ⊆ runs new)
    (hplain : ∀ digits ∈ runs new, Literal.isPlain digits = true)
    (hadj : adjust old new = .ok adj) :
    ∃ ρ, KeepsRuns ρ ∧ adj = rewrite ρ new ∧ adjust adj (rewrite ρ old) = .ok old := by
  obtain ⟨rfl, hw⟩ := (adjust_inserted hold hnew hY).1 hadj
  generalize hd : firstDifference (P ++ S) (P ++ Y ++ S) = d at hw
  have hback := shrinking_growing d Y.length
  generalize hσ : growing d Y.length = σ at hw hback
  have hρ : KeepsRuns (renumbering σ) := keepsRuns_renumbering
  have hdigits : ∀ digits ∈ runs new, renumbering (shrinking d Y.length) (renumbering σ digits) =
      digits := fun digits hm => renumbering_renumbering (hplain digits hm) (hw digits hm) hback
  have hline : ∀ l ∈ P ++ Y ++ S,
      rewrite (renumbering (shrinking d Y.length)) (rewrite (renumbering σ) l) = l :=
    fun l hl => rewrite_rewrite hρ fun digits hm => hdigits digits (hlines l hl hm)
  have hapart : ∀ a ∈ P ++ Y ++ S, ∀ b ∈ P ++ S,
      rewrite (renumbering σ) a = rewrite (renumbering σ) b → a = b := by
    intro a ha b hb hab
    have hmem : b ∈ P ++ Y ++ S := by
      simp only [List.mem_append] at hb ⊢
      exact hb.imp_left .inl
    rw [← hline a ha, hab, hline b hmem]
  have hnew' := logical_rewrite hρ new
  have hold' := logical_rewrite hρ old
  have hfirst := (firstDifference_map hapart).trans ((firstDifference_comm _ _).trans hd)
  rw [hnew, List.map_append, List.map_append] at hnew'
  rw [hold, List.map_append] at hold'
  rw [List.map_append, List.map_append, List.map_append] at hfirst
  have hadj' := adjust_of_deleted hnew' hold' (by simpa using hY)
  rw [hfirst, List.length_map] at hadj'
  refine ⟨renumbering σ, hρ, rfl, hadj'.trans ((renumber_eq_ok (shrinking d Y.length) ?_).2 ⟨?_, ?_⟩)⟩
  · intro n
    unfold shrinking
    split <;> split <;> omega
  · exact (rewrite_rewrite hρ fun digits hm => hdigits digits (hsub hm)).symm
  · -- A reference that is led back is as long as it was.
    intro digits hm
    rw [runs_rewrite hρ] at hm
    obtain ⟨u, hu, rfl⟩ := List.mem_map.1 hm
    have hmem := hsub hu
    have hsame := hdigits u hmem
    obtain ⟨n, hn, -⟩ := hw u hmem
    have hnat := natural?_renumbering (hw u hmem)
    rw [hn, Option.map_some] at hnat
    rw [renumbering, hnat] at hsame
    refine ⟨_, hnat, ?_⟩
    have hlen : u.length ≤ Literal.maxDigits := by
      unfold Literal.natural? at hn
      split at hn
      · cases hn
      · next hle => exact Nat.not_lt.1 hle
    exact (congrArg List.length hsame).trans_le hlen

theorem rewrite_unlines (ls : List Text) :
    rewrite ρ (unlines ls) = unlines (ls.map (rewrite ρ)) := by
  induction ls with
  | nil => exact rewrite_nil
  | cons p ls ih =>
    cases ls with
    | nil => rfl
    | cons q ls =>
      have hjoin (p q : Text) (ls : List Text) : unlines (p :: q :: ls) = p ++ '\n' :: unlines (q :: ls) := by
        simp [join]
      rw [hjoin, rewrite_append_cons (by decide) (by decide), ih, List.map_cons, List.map_cons,
        List.map_cons, hjoin]

theorem logical_unlines {ls : List Text} (hne : ls ≠ []) (hls : ∀ l ∈ ls, '\n' ∉ l) :
    Line.logical (unlines ls) = Line.counted ls := by
  rw [Line.logical, lines, split_join hne hls]

/-- Between lines `A` and `C` lines `B` are put in. Renumbering keeps the lines in their places, and
when those between are taken out again, it gives the text without them. -/
theorem adjust_between {A B C : List Text} (hne : A ++ C ≠ []) (hnl : ∀ l ∈ A ++ B ++ C, '\n' ∉ l)
    (hplain : ∀ l ∈ A ++ B ++ C, ∀ digits ∈ runs l, Literal.isPlain digits = true)
    (hadj : adjust (unlines (A ++ C)) (unlines (A ++ B ++ C)) = .ok adj) :
    ∃ A' B' C', lines adj = A' ++ B' ++ C' ∧ A'.length = A.length ∧ B'.length = B.length ∧
      adjust adj (unlines (A' ++ C')) = .ok (unlines (A ++ C)) := by
  have hsub : ∀ l ∈ A ++ C, l ∈ A ++ B ++ C := by
    intro l hl
    simp only [List.mem_append] at hl ⊢
    exact hl.imp_left .inl
  have hne' : A ++ B ++ C ≠ [] := fun h => hne (List.eq_nil_iff_forall_not_mem.2 fun l hl =>
    List.not_mem_nil (h ▸ hsub l hl))
  have hcount (as bs : List Text) : Line.counted (as ++ bs) = Line.counted as ++ Line.counted bs :=
    List.filter_append _ _
  have hlo : Line.logical (unlines (A ++ C)) = Line.counted A ++ Line.counted C := by
    rw [logical_unlines hne fun l hl => hnl l (hsub l hl), hcount]
  have hln : Line.logical (unlines (A ++ B ++ C)) =
      Line.counted A ++ Line.counted B ++ Line.counted C := by
    rw [logical_unlines hne' hnl, hcount, hcount]
  by_cases hB : Line.counted B = []
  · -- Only output lines are put in, so that neither edit changes a reference.
    rw [hB, List.append_nil] at hln
    have hlength := congrArg List.length (hlo.trans hln.symm)
    rw [adjust_of_length_eq hlength] at hadj
    cases hadj
    exact ⟨A, B, C, split_join hne' hnl, rfl, rfl, adjust_of_length_eq hlength.symm⟩
  · have hcounted : ∀ l ∈ Line.counted A ++ Line.counted B ++ Line.counted C, l ∈ A ++ B ++ C := by
      rw [← hcount, ← hcount]
      exact fun l hl => (List.mem_filter.1 hl).1
    have hmem (ls : List Text) {digits : Text} : digits ∈ runs (unlines ls) ↔
        ∃ l ∈ ls, digits ∈ runs l := by rw [runs_unlines, List.mem_flatMap]
    have hruns : runs (unlines (A ++ C)) ⊆ runs (unlines (A ++ B ++ C)) := by
      intro digits hd
      obtain ⟨l, hl, hd⟩ := (hmem _).1 hd
      exact (hmem _).2 ⟨l, hsub l hl, hd⟩
    have hwhole : ∀ digits ∈ runs (unlines (A ++ B ++ C)), Literal.isPlain digits = true := by
      intro digits hd
      obtain ⟨l, hl, hd⟩ := (hmem _).1 hd
      exact hplain l hl digits hd
    obtain ⟨ρ, hρ, rfl, hback⟩ := adjust_back hlo hln hB hruns
      (fun l hl => runs_subset_unlines (hcounted l hl)) hwhole hadj
    refine ⟨A.map (rewrite ρ), B.map (rewrite ρ), C.map (rewrite ρ), ?_, by simp, by simp, ?_⟩
    · rw [lines, split_rewrite hρ (by decide) (by decide), split_join hne' hnl, List.map_append,
        List.map_append]
    · rw [← List.map_append, ← rewrite_unlines, hback]

/-- Lines put in at a place between the lines of a text. -/
theorem splice_insert {ls new : List Text} {p : Nat} (hp : p ≤ ls.length) :
    Session.splice ls new p p = ls.take p ++ new ++ ls.drop p := by
  have hplace : Session.place ls.length p = p := by
    unfold Session.place
    split <;> omega
  rw [Session.splice, hplace]

/-- Lines taken out again from where they were put in. -/
theorem splice_remove {as bs cs : List Text} :
    Session.splice (as ++ bs ++ cs) [] as.length (as.length + bs.length) = as ++ cs := by
  have hstart : Session.place (as ++ bs ++ cs).length as.length = as.length := by
    unfold Session.place
    simp only [List.length_append]
    split <;> omega
  have hstop : Session.place (as ++ bs ++ cs).length (as.length + bs.length) =
      (as ++ bs).length := by
    unfold Session.place
    simp only [List.length_append]
    split <;> omega
  rw [Session.splice, hstart, hstop, List.append_nil, List.drop_left, List.append_assoc,
    List.take_left]

/-- **Undoing an insertion restores the text.** The lines `B` are put in behind the first `p` lines
of a text, and the lines at their place are taken out again. If all references are written plainly,
renumbering after both edits gives the text. Both times it has an answer if the lines can be counted
with 4000 digits. -/
theorem adjust_undone {B : List Text} {p : Nat} (hp : p ≤ (lines t).length)
    (hB : ∀ l ∈ B, '\n' ∉ l)
    (hplain : ∀ l ∈ lines t ++ B, ∀ digits ∈ runs l,
      Literal.isPlain digits = true ∧ digits.length ≤ 4000) :
    (∀ t₁, adjust t (unlines (Session.splice (lines t) B p p)) = .ok t₁ →
      adjust t₁ (unlines (Session.splice (lines t₁) [] p (p + B.length))) = .ok t) ∧
    (B.length ≤ 10 ^ 4000 →
      ∃ t₁, adjust t (unlines (Session.splice (lines t) B p p)) = .ok t₁) := by
  obtain ⟨A, C, hAC, rfl⟩ : ∃ A C, lines t = A ++ C ∧ A.length = p :=
    ⟨_, _, (List.take_append_drop p (lines t)).symm, by simpa using hp⟩
  have hsplice : Session.splice (lines t) B A.length A.length = A ++ B ++ C := by
    rw [splice_insert hp, hAC, List.take_left, List.drop_left]
  have hmem {l : Text} : l ∈ A ++ B ++ C ↔ l ∈ lines t ++ B := by
    rw [hAC]
    simp only [List.mem_append]
    tauto
  have hnl : ∀ l ∈ A ++ B ++ C, '\n' ∉ l := by
    intro l hl
    rcases List.mem_append.1 (hmem.1 hl) with hl | hl
    · exact not_mem_of_mem_split hl
    · exact hB l hl
  have hne : A ++ C ≠ [] := hAC ▸ split_ne_nil '\n' t
  have ht : unlines (A ++ C) = t := hAC ▸ join_split '\n' t
  rw [hsplice]
  refine ⟨fun t₁ hadj => ?_, fun hsize => ?_⟩
  · rw [← ht] at hadj
    obtain ⟨A', B', C', hlines, hA, hB', hback⟩ := adjust_between hne hnl
      (fun l hl digits hd => (hplain l (hmem.1 hl) digits hd).1) hadj
    rw [hlines, ← hA, ← hB', splice_remove, hback, ht]
  · have hcount (as bs : List Text) :
        Line.counted (as ++ bs) = Line.counted as ++ Line.counted bs := List.filter_append _ _
    have hne' : A ++ B ++ C ≠ [] := by
      simp only [ne_eq, List.append_eq_nil_iff, not_and] at hne ⊢
      exact fun h => hne h.1
    refine exists_adjust_inserted (P := Line.counted A) (Y := Line.counted B)
      (S := Line.counted C) ?_ ?_ (fun digits hd => ?_) ?_
    · rw [Line.logical, hAC, hcount]
    · rw [logical_unlines hne' hnl, hcount, hcount]
    · rw [runs_unlines] at hd
      obtain ⟨l, hl, hd⟩ := List.mem_flatMap.1 hd
      exact (hplain l (hmem.1 hl) digits hd).2
    · exact Nat.le_trans (List.length_filter_le _ _) hsize

/-- A line that repeats the one in front of it and an output line are put in, and taken out. -/
theorem adjust_undone_repeated :
    let t := "1 =\n\\1 =\n\\2 =".toList
    let t₁ := "1 =\n1 =\n> \\1\n\\1 =\n\\3 =".toList
    let B := ["1 =", "> \\1"].map String.toList
    1 ≤ (lines t).length ∧ adjust t (unlines (Session.splice (lines t) B 1 1)) = .ok t₁ ∧
      adjust t₁ (unlines (Session.splice (lines t₁) [] 1 3)) = .ok t := by
  intro t t₁ B
  have hp : 1 ≤ (lines t).length := by decide
  have hplain : ∀ l ∈ lines t ++ B, ∀ digits ∈ runs l,
      Literal.isPlain digits = true ∧ digits.length ≤ 4000 := by decide +kernel
  have h := Result.eq_ok_of_toOption
    (show (adjust t (unlines (Session.splice (lines t) B 1 1))).toOption = some t₁ by
      decide +kernel)
  exact ⟨hp, h, (adjust_undone (p := 1) hp (by decide) hplain).1 t₁ h⟩

-- A reference with a zero in front is written anew.
example :
    let t := "1 =\n\\01 =".toList
    (adjust t (unlines (Session.splice (lines t) ["#".toList] 0 0))).toOption =
      some "#\n1 =\n\\2 =".toList := by
  decide +kernel

end Reference

end Worksheet
