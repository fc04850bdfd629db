import Worksheet.Proofs.Phrases
import Worksheet.Proofs.Rewriting
import Worksheet.Reference.Renumber

/-!
# References that move with their lines

**Theorems (`Reference.adjust_grown`, `Reference.adjust_shrunk`).** An edit puts lines `Y` in place of
lines `X`. If `Y` is no shorter, renumbering leads each reference to a line outside `X` to a line
with the same text. If the lines `X` are taken out, it does so for each reference outside a block of
`X.length` lines that begins at the first difference. In both cases nothing but the digits of
references changes.

The block where lines differ need not be the one that was edited: where the lines put in repeat
their neighbours, the first difference lies behind them. What saves the growing case is that the
lines in front of the first difference are the same in both texts (`getElem?_of_firstDifference`),
whatever they are.
-/

namespace Worksheet

open Text Result

/-! ## Numbers that can be written -/

namespace Literal

theorem natural?_eq_some {digits : Text} (h : digits.length ≤ maxDigits) :
    natural? digits = some (digitsValue (asciiDigits digits)) := by
  rw [natural?, if_neg (Nat.not_lt.2 h)]

theorem asciiDigits_ascii {u : Text} (hu : u.all isDigit = true) :
    (asciiDigits u).all isAsciiDigit = true := by
  have hdigit : ∀ d < 10, isAsciiDigit (Char.ofNat (48 + d)) = true := by decide
  rw [asciiDigits, List.all_map, List.all_eq_true]
  intro c hc
  obtain ⟨d, hd⟩ := Option.isSome_iff_exists.1 (List.all_eq_true.1 hu c hc)
  simp only [Function.comp_apply, hd]
  exact hdigit d (digitValue?_lt hd)

theorem digitsFrom_lt {u : Text} (hu : u.all isAsciiDigit = true) (n : Nat) :
    digitsFrom n u < (n + 1) * 10 ^ u.length := by
  induction u generalizing n with
  | nil => simp [digitsFrom]
  | cons c u ih =>
    rw [List.all_cons, Bool.and_eq_true] at hu
    have hc := (toNat_of_isAsciiDigit hu.1).2
    calc digitsFrom (10 * n + (c.toNat - 48)) u
        < (10 * n + (c.toNat - 48) + 1) * 10 ^ u.length := ih hu.2 _
      _ ≤ ((n + 1) * 10) * 10 ^ u.length := Nat.mul_le_mul_right _ (by omega)
      _ = (n + 1) * 10 ^ (c :: u).length := by 
        rw [List.length_cons, Nat.pow_succ, Nat.mul_comm (10 ^ _), Nat.mul_assoc]

/-- A number is below the power of ten that has as many zeros as the number has digits. -/
theorem natural?_lt {digits : Text} {n : Nat} (hd : digits.all isDigit = true)
    (h : natural? digits = some n) : n < 10 ^ digits.length := by
  unfold natural? at h
  split at h
  · cases h
  · cases h
    have hlt := digitsFrom_lt (asciiDigits_ascii hd) 0
    rwa [asciiDigits, List.length_map, Nat.zero_add, Nat.one_mul] at hlt

end Literal

namespace Reference

/-- The digits of a reference when line `n` becomes line `σ n`. -/
def renumbering (σ : Nat → Nat) (digits : Text) : Text :=
  match Literal.natural? digits with
  | some n => ofNat (σ n)
  | none => ['0']

variable {σ : Nat → Nat}

theorem ofNat_ascii (n : Nat) : (ofNat n).all isAsciiDigit = true := by
  refine List.all_eq_true.2 fun c hc => ?_
  have hd := Nat.isDigit_of_mem_toDigits (by decide) (by decide) hc
  simp only [Char.isDigit, Bool.and_eq_true, decide_eq_true_eq] at hd
  simp only [isAsciiDigit, Bool.and_eq_true, decide_eq_true_eq]
  exact hd

theorem notMem_ofNat {c : Char} (hc : isAsciiDigit c = false) (n : Nat) : c ∉ ofNat n := by
  intro h
  have hdigit := List.all_eq_true.1 (ofNat_ascii n) c h
  rw [hc] at hdigit
  cases hdigit

theorem keepsAscii_renumbering : KeepsAscii (renumbering σ) := by
  intro digits
  unfold renumbering
  split
  · exact ofNat_ascii _
  · rfl

theorem keepsRuns_renumbering : KeepsRuns (renumbering σ) := by
  refine fun digits => ⟨?_, List.all_eq_true.2 fun c hc =>
    isDigit_of_isAsciiDigit (List.all_eq_true.1 (keepsAscii_renumbering digits) c hc)⟩
  unfold renumbering
  split
  · exact Nat.toDigits_ne_nil
  · simp

theorem natural?_ofNat {n : Nat} (h : (ofNat n).length ≤ Literal.maxDigits) :
    Literal.natural? (ofNat n) = some n := by
  rw [Literal.natural?, if_neg (Nat.not_lt.2 h),
    Literal.asciiDigits_of_digits (ofNat_ascii n)]
  exact congrArg some Nat.ofDigitChars_ten_toDigits

/-- A reference can be read, and written with its new number. -/
def Writable (σ : Nat → Nat) (digits : Text) : Prop :=
  ∃ n, Literal.natural? digits = some n ∧ (ofNat (σ n)).length ≤ Literal.maxDigits

theorem writeLine_eq_ok {n : Nat} {t : Text} : writeLine n = .ok t ↔
    t = '\\' :: ofNat n ∧ (ofNat n).length ≤ Literal.maxDigits := by
  rw [writeLine, Int.natAbs_natCast]
  split
  · next h => simp [Nat.not_le.2 h]
  · next h => simp [Nat.not_lt.1 h, ofInt, eq_comm]

theorem line_eq_ok {digits : Text} {n : Nat} :
    line digits = .ok n ↔ Literal.natural? digits = some n := by
  unfold line
  cases Literal.natural? digits <;> simp

/-- Renumbering exchanges the digits of all references, if each can be read and written. -/
theorem renumber_eq_ok (σ : Nat → Nat) {f : Int → Int} (hf : ∀ n : Nat, f n = σ n) {t t' : Text} :
    renumber f t = .ok t' ↔
      t' = rewrite (renumbering σ) t ∧ ∀ digits ∈ runs t, Writable σ digits := by
  have hpiece (g : Piece → Result Text) (hchar : ∀ c, g (.char c) = .ok [c])
      (hreference : ∀ digits, g (.reference digits) = do writeLine (f (← line digits)))
      (p : Piece) (u : Text) : g p = .ok u ↔ u = (p.rename (renumbering σ)).text ∧
        ∀ digits, p.digits? = some digits → Writable σ digits := by
    cases p with
    | char c => simp [hchar, Piece.rename, Piece.text, Piece.digits?, eq_comm]
    | reference digits =>
      simp only [hreference, bind_eq_ok, line_eq_ok, hf, writeLine_eq_ok, Piece.digits?, Option.some.injEq,
        forall_eq', Writable, Piece.rename, Piece.text]
      constructor
      · rintro ⟨n, hn, rfl, hlen⟩
        exact ⟨by rw [renumbering, hn], n, hn, hlen⟩
      · rintro ⟨rfl, n, hn, hlen⟩
        exact ⟨n, hn, by rw [renumbering, hn], hlen⟩
  have hruns : (∀ p ∈ pieces t, ∀ digits, p.digits? = some digits → Writable σ digits) ↔
      ∀ digits ∈ runs t, Writable σ digits := by
    simp only [runs, List.mem_filterMap]
    constructor
    · rintro h digits ⟨p, hp, hd⟩
      exact h p hp digits hd
    · exact fun h p hp digits hd => h digits ⟨p, hp, hd⟩
  rw [renumber, replaceM, bind_eq_ok, ← hruns, rewrite, List.flatMap_def]
  constructor
  · rintro ⟨ps, hps, h⟩
    obtain ⟨rfl, hw⟩ := (mapM_eq_ok_iff (hpiece _ (fun _ => rfl) fun _ => rfl)).1 hps
    exact ⟨(pure_eq_ok.1 h).symm, hw⟩
  · rintro ⟨rfl, hw⟩
    exact ⟨_, (mapM_eq_ok_iff (hpiece _ (fun _ => rfl) fun _ => rfl)).2 ⟨rfl, hw⟩, rfl⟩

/-- The number behind a backslash after renumbering. -/
theorem natural?_renumbering {digits : Text} (h : Writable σ digits) :
    Literal.natural? (renumbering σ digits) = (Literal.natural? digits).map σ := by
  obtain ⟨n, hn, hlen⟩ := h
  rw [renumbering, hn]
  exact natural?_ofNat hlen

/-! ## The first line that differs -/

variable {as bs cs xs : List Text}

theorem firstDifference_append : firstDifference (as ++ bs) (as ++ cs) =
    as.length + firstDifference bs cs := by
  induction as with
  | nil => simp
  | cons a as ih =>
    rw [List.cons_append, List.cons_append, firstDifference, if_pos rfl, ih, List.length_cons]
    omega

theorem firstDifference_pos : 0 < firstDifference as bs := by
  unfold firstDifference
  split
  · split <;> omega
  · omega

theorem getElem?_of_firstDifference {i : Nat} (h : i + 1 < firstDifference as bs) :
    as[i]? = bs[i]? := by
  induction as generalizing bs i with
  | nil =>
    rw [firstDifference] at h
    · omega
    · exact fun _ _ _ _ h => nomatch h
  | cons a as ih =>
    cases bs with
    | nil =>
      rw [firstDifference] at h
      · omega
      · exact fun _ _ _ _ _ h => nomatch h
    | cons b bs =>
      rw [firstDifference] at h
      split at h
      · next hab =>
        cases i with
        | zero => simp [hab]
        | succ i => exact ih (by omega)
      · omega


theorem length_lt_firstDifference : as.length < firstDifference (as ++ bs) (as ++ cs) := by
  rw [firstDifference_append]
  exact Nat.lt_add_of_pos_right firstDifference_pos

/-- Texts that go on with different lines, or one of which ends, differ there. -/
theorem firstDifference_eq_one (h : bs.head? ≠ cs.head?) : firstDifference bs cs = 1 := by
  cases bs with
  | nil => rfl
  | cons b bs =>
    cases cs with
    | nil => rfl
    | cons c cs =>
      rw [firstDifference, if_neg]
      simpa using h

end Reference

/-! ## Lines by their numbers -/

/-- Line `n`, counted from 1. -/
def Line.numbered? (ls : List Text) (n : Nat) : Option Text := if n = 0 then none else ls[n - 1]?

section Numbered

open Line Reference

variable {P X Y S : List Text} {n : Nat}

theorem numbered?_append_right (h : P.length < n) :
    numbered? (P ++ S) n = numbered? S (n - P.length) := by
  rw [numbered?, numbered?, if_neg (by omega), if_neg (by omega),
    List.getElem?_append_right (by omega), Nat.sub_right_comm]

/-- In front of the first difference lines have their numbers in both texts. -/
theorem numbered?_of_lt_firstDifference (h : n < firstDifference X Y) :
    numbered? Y n = numbered? X n := by
  unfold numbered?
  split
  · rfl
  · exact (getElem?_of_firstDifference (by omega)).symm

/-- Lines that are not replaced by as many or more have their texts at their new numbers. -/
theorem numbered?_grown (hn : n ≤ P.length ∨ P.length + X.length < n)
    (hlen : X.length ≤ Y.length) :
    numbered? (P ++ Y ++ S)
        (if firstDifference (P ++ X ++ S) (P ++ Y ++ S) ≤ n then n + (Y.length - X.length) else n) =
      numbered? (P ++ X ++ S) n := by
  split
  · next hd =>
    have hP : P.length < firstDifference (P ++ X ++ S) (P ++ Y ++ S) := by
      rw [List.append_assoc, List.append_assoc]
      exact length_lt_firstDifference
    have hn : P.length + X.length < n := by omega
    rw [numbered?_append_right (by simp only [List.length_append]; omega),
      numbered?_append_right (by simpa using hn)]
    congr 1
    simp only [List.length_append]
    omega
  · next hd => exact numbered?_of_lt_firstDifference (Nat.not_le.1 hd)

/-- Lines outside the block that is taken to be deleted have their texts at their new numbers. -/
theorem numbered?_shrunk (hn : n < firstDifference (P ++ X ++ S) (P ++ S) ∨
      firstDifference (P ++ X ++ S) (P ++ S) + X.length ≤ n) :
    numbered? (P ++ S)
        (if firstDifference (P ++ X ++ S) (P ++ S) + X.length ≤ n then n - X.length else n) =
      numbered? (P ++ X ++ S) n := by
  split
  · next hd =>
    have hP : P.length < firstDifference (P ++ X ++ S) (P ++ S) := by
      rw [List.append_assoc]
      exact length_lt_firstDifference
    rw [numbered?_append_right (by omega),
      numbered?_append_right (by simp only [List.length_append]; omega)]
    congr 1
    simp only [List.length_append]
    omega
  · next hd => exact numbered?_of_lt_firstDifference (by omega)

end Numbered

/-! ## Texts before and after an edit -/

namespace Reference

variable {old new t : Text} {σ : Nat → Nat} {kept : Nat → Prop}

/-- The text `t` is `new` with other references. Where a reference of `new` names one of the lines
`kept` of the text `old`, it names in `t` a line of `new` with the same text. -/
def Follows (kept : Nat → Prop) (old new t : Text) : Prop :=
  ∃ ρ : Text → Text, pieces t = (pieces new).map (Piece.rename ρ) ∧
    ∀ digits ∈ runs new, ∀ n, line digits = .ok n → kept n → ∃ n', line (ρ digits) = .ok n' ∧
      Line.numbered? (Line.logical new) n' = Line.numbered? (Line.logical old) n

theorem follows_self (h : ∀ n, kept n →
    Line.numbered? (Line.logical new) n = Line.numbered? (Line.logical old) n) :
    Follows kept old new new := by
  refine ⟨id, ?_, fun digits _ n hn hk => ⟨n, hn, h n hk⟩⟩
  have hid : Piece.rename id = id := by
    funext p
    cases p <;> rfl
  rw [hid, List.map_id]

theorem follows_of_renumber {f : Int → Int} (hf : ∀ n : Nat, f n = σ n)
    (h : ∀ n, kept n →
      Line.numbered? (Line.logical new) (σ n) = Line.numbered? (Line.logical old) n)
    (ht : renumber f new = .ok t) : Follows kept old new t := by
  obtain ⟨rfl, hw⟩ := (renumber_eq_ok σ hf).1 ht
  refine ⟨renumbering σ, pieces_rewrite keepsRuns_renumbering new, fun digits hd n hn hk =>
    ⟨σ n, ?_, h n hk⟩⟩
  rw [line_eq_ok] at hn ⊢
  rw [natural?_renumbering (hw digits hd), hn]
  rfl

/-! ## Lengths of numbers -/

theorem length_ofNat_le {n k : Nat} (hk : 0 < k) (h : n < 10 ^ k) : (ofNat n).length ≤ k :=
  (Nat.length_toDigits_le_iff (by decide) hk).2 h

/-- A reference can be written with a number that is not much larger. -/
theorem writable_of_length {digits : Text} {k m : Nat} (hd : digits.all isDigit = true)
    (hlen : digits.length ≤ k) (hk : k < Literal.maxDigits) (hm : m ≤ 10 ^ k)
    (hσ : ∀ n, σ n ≤ n + m) : Writable σ digits := by
  have hn := Literal.natural?_eq_some (Nat.le_trans hlen (Nat.le_of_lt hk))
  refine ⟨_, hn, Nat.le_trans (length_ofNat_le (Nat.succ_pos k) ?_) hk⟩
  have hlt := Nat.lt_of_lt_of_le (Literal.natural?_lt hd hn) (Nat.pow_le_pow_right (by decide) hlen)
  calc σ (Literal.digitsValue (Literal.asciiDigits digits))
      ≤ Literal.digitsValue (Literal.asciiDigits digits) + m := hσ _
    _ < 10 ^ k + 10 ^ k := Nat.add_lt_add_of_lt_of_le hlt hm
    _ ≤ 10 ^ (k + 1) := by rw [Nat.pow_succ]; omega

/-- A reference can be written with a number that is no larger. -/
theorem writable_of_le {digits : Text} (hd : digits.all isDigit = true)
    (hlen : digits.length ≤ Literal.maxDigits) (hσ : ∀ n, σ n ≤ n) : Writable σ digits := by
  have hn := Literal.natural?_eq_some hlen
  refine ⟨_, hn, length_ofNat_le (by decide) ?_⟩
  calc σ (Literal.digitsValue (Literal.asciiDigits digits))
      ≤ Literal.digitsValue (Literal.asciiDigits digits) := hσ _
    _ < 10 ^ digits.length := Literal.natural?_lt hd hn
    _ ≤ 10 ^ Literal.maxDigits := Nat.pow_le_pow_right (by decide) hlen

theorem all_isDigit_of_mem_runs {digits : Text} (h : digits ∈ runs t) :
    digits.all isDigit = true := by
  induction t using pieces_induction with
  | nil => simp [runs, pieces] at h
  | run u r hne hu hr ih =>
    rw [runs_run hne hu hr] at h
    rcases List.mem_cons.1 h with rfl | h
    · exact hu
    · exact ih h
  | char c r hc ih =>
    rw [runs_cons hc] at h
    exact ih h

/-! ## The two kinds of edit -/

variable {P X Y S : List Text}

theorem adjust_of_lt (hold : Line.logical old = P ++ X ++ S) (hnew : Line.logical new = P ++ Y ++ S)
    (hlen : X.length < Y.length) : adjust old new =
      renumber (fun n => if (firstDifference (P ++ X ++ S) (P ++ Y ++ S) : Int) ≤ n then
        n + (Y.length - X.length : Nat) else n) new := by
  have hdelta : ((P ++ Y ++ S).length - (P ++ X ++ S).length : Int) =
      (Y.length - X.length : Nat) := by
    simp only [List.length_append]
    omega
  unfold adjust
  dsimp only
  rw [hold, hnew, hdelta, if_neg (by simp only [List.length_append]; omega),
    if_pos (by simp only [List.length_append]; omega), shiftForInsert, if_neg (by omega)]

theorem adjust_of_deleted (hold : Line.logical old = P ++ X ++ S)
    (hnew : Line.logical new = P ++ S) (hX : X ≠ []) : adjust old new =
      renumber (fun n => if (firstDifference (P ++ X ++ S) (P ++ S) : Int) + X.length ≤ n then
        n - X.length else n) new := by
  have hpos := List.length_pos_iff.2 hX
  have hdelta : ((P ++ X ++ S).length - (P ++ S).length : Int) = X.length := by
    simp only [List.length_append]
    omega
  unfold adjust
  dsimp only
  rw [hold, hnew, hdelta, if_neg (by simp only [List.length_append]; omega),
    if_neg (by simp only [List.length_append]; omega), shiftForDelete, if_neg (by omega)]

/-- **References move with their lines when a text grows.** Lines `Y` stand in place of lines `X`
and are no fewer. Then every reference to a line outside `X` names that line after renumbering, and
nothing else is changed. References of at most 4000 digits are renumbered in any text whose lines
can be counted with as many. -/
theorem adjust_grown (P X Y S : List Text) (hold : Line.logical old = P ++ X ++ S)
    (hnew : Line.logical new = P ++ Y ++ S) (hlen : X.length ≤ Y.length) :
    (∀ t, adjust old new = .ok t → Follows (fun n => (1 ≤ n ∧ n ≤ P.length) ∨
      (P.length + X.length < n ∧ n ≤ (Line.logical old).length)) old new t) ∧
    ((∀ digits ∈ runs new, digits.length ≤ 4000) → (Line.logical new).length ≤ 10 ^ 4000 →
      ∃ t, adjust old new = .ok t) := by
  have hkept {n : Nat} (hn : (1 ≤ n ∧ n ≤ P.length) ∨
      (P.length + X.length < n ∧ n ≤ (Line.logical old).length)) :
      n ≤ P.length ∨ P.length + X.length < n := hn.imp And.right And.left
  rcases Nat.lt_or_eq_of_le hlen with hlt | heq
  · rw [adjust_of_lt hold hnew hlt]
    generalize hd : firstDifference (P ++ X ++ S) (P ++ Y ++ S) = d
    have hf (n : Nat) : (if (d : Int) ≤ n then (n : Int) + (Y.length - X.length : Nat) else n) =
        ((if d ≤ n then n + (Y.length - X.length) else n : Nat) : Int) := by
      split <;> split <;> omega
    refine ⟨fun t ht => follows_of_renumber hf (fun n hn => ?_) ht, fun hdigits hsize => ?_⟩
    · rw [hold, hnew, ← hd]
      exact numbered?_grown (hkept hn) hlen
    · refine ⟨_, (renumber_eq_ok _ hf).2 ⟨rfl, fun digits hm => ?_⟩⟩
      rw [hnew] at hsize
      refine writable_of_length (m := Y.length - X.length) (all_isDigit_of_mem_runs hm)
        (hdigits digits hm) (by decide)
        (Nat.le_trans ?_ hsize) fun n => by split <;> omega
      simp only [List.length_append]
      omega
  · have hsame : adjust old new = .ok new := by
      unfold adjust
      rw [hold, hnew]
      exact if_pos (by simp only [List.length_append, heq])
    rw [hsame]
    refine ⟨fun t ht => ?_, fun _ _ => ⟨new, rfl⟩⟩
    cases ht
    refine follows_self fun n hn => ?_
    have := numbered?_grown (S := S) (hkept hn) hlen
    rwa [heq, Nat.sub_self, Nat.add_zero, ite_self, ← hold, ← hnew] at this

/-- A line is put in front of one with the same text, and the first difference lies behind both. -/
theorem adjust_grown_repeated :
    let old := "1 =\n\\1 =\n\\2 =".toList
    let new := "1 =\n1 =\n\\1 =\n\\2 =".toList
    let t := "1 =\n1 =\n\\1 =\n\\3 =".toList
    Line.logical old = [] ++ [] ++ ["1 =", "\\1 =", "\\2 ="].map String.toList ∧
      Line.logical new = [] ++ ["1 =".toList] ++ ["1 =", "\\1 =", "\\2 ="].map String.toList ∧
      adjust old new = .ok t ∧
        Follows (fun n => (1 ≤ n ∧ n ≤ 0) ∨ (0 + 0 < n ∧ n ≤ (Line.logical old).length)) old new t := by
  intro old new t
  have hold : Line.logical old = [] ++ [] ++ ["1 =", "\\1 =", "\\2 ="].map String.toList := by
    decide +kernel
  have hnew : Line.logical new =
      [] ++ ["1 =".toList] ++ ["1 =", "\\1 =", "\\2 ="].map String.toList := by decide +kernel
  have ht := eq_ok_of_toOption (show (adjust old new).toOption = some t by decide +kernel)
  exact ⟨hold, hnew, ht, (adjust_grown [] [] ["1 =".toList] _ hold hnew (by decide)).1 t ht⟩

/-- **References move with their lines when lines are deleted.** The lines `X` are taken out of a
text. Then every reference to a line outside the block that begins at the first difference, and is as
long as `X`, names that line after renumbering, and nothing else is changed. The block is the one
that was taken out if the line behind it is another than its first. -/
theorem adjust_shrunk (P X S : List Text) (hold : Line.logical old = P ++ X ++ S)
    (hnew : Line.logical new = P ++ S) (hX : X ≠ []) :
    (∀ t, adjust old new = .ok t → Follows (fun n => 1 ≤ n ∧
      (n < firstDifference (Line.logical old) (Line.logical new) ∨
        firstDifference (Line.logical old) (Line.logical new) + X.length ≤ n)) old new t) ∧
    (X.head? ≠ S.head? →
      firstDifference (Line.logical old) (Line.logical new) = P.length + 1) ∧
    ((∀ digits ∈ runs new, digits.length ≤ Literal.maxDigits) → ∃ t, adjust old new = .ok t) := by
  have hf (n : Nat) :
      (if (firstDifference (P ++ X ++ S) (P ++ S) : Int) + X.length ≤ n then (n : Int) - X.length
        else n) =
      ((if firstDifference (P ++ X ++ S) (P ++ S) + X.length ≤ n then n - X.length
        else n : Nat) : Int) := by
    split <;> split <;> omega
  rw [adjust_of_deleted hold hnew hX, hold, hnew]
  refine ⟨fun t ht => follows_of_renumber hf (fun n hn => ?_) ht, fun hhead => ?_, fun hdigits => ?_⟩
  · rw [hold, hnew]
    exact numbered?_shrunk hn.2
  · have hone : firstDifference (X ++ S) S = 1 := by
      obtain ⟨x, X, rfl⟩ := List.exists_cons_of_ne_nil hX
      exact firstDifference_eq_one hhead
    rw [List.append_assoc, firstDifference_append, hone]
  · refine ⟨_, (renumber_eq_ok _ hf).2 ⟨rfl, fun digits hm => ?_⟩⟩
    exact writable_of_le (all_isDigit_of_mem_runs hm) (hdigits digits hm) fun n => by
      split <;> omega

/-- The first of four lines is deleted, and the reference to the second moves. -/
theorem adjust_shrunk_first :
    let old := "1 =\n2 =\n5 =\n\\2 =".toList
    let new := "2 =\n5 =\n\\2 =".toList
    let t := "2 =\n5 =\n\\1 =".toList
    Line.logical old = [] ++ ["1 =".toList] ++ ["2 =", "5 =", "\\2 ="].map String.toList ∧
      Line.logical new = [] ++ ["2 =", "5 =", "\\2 ="].map String.toList ∧
        firstDifference (Line.logical old) (Line.logical new) = 1 ∧ adjust old new = .ok t ∧
          Follows (fun n => 1 ≤ n ∧
            (n < firstDifference (Line.logical old) (Line.logical new) ∨
              firstDifference (Line.logical old) (Line.logical new) + 1 ≤ n)) old new t := by
  intro old new t
  have hold : Line.logical old =
      [] ++ ["1 =".toList] ++ ["2 =", "5 =", "\\2 ="].map String.toList := by decide +kernel
  have hnew : Line.logical new = [] ++ ["2 =", "5 =", "\\2 ="].map String.toList := by
    decide +kernel
  have ht := eq_ok_of_toOption (show (adjust old new).toOption = some t by decide +kernel)
  obtain ⟨hfollows, hblock, -⟩ := adjust_shrunk [] ["1 =".toList] _ hold hnew (by decide)
  exact ⟨hold, hnew, hblock (by decide), ht, hfollows t ht⟩

-- Of two equal lines the first is deleted. The block is taken to begin behind it, so the reference
-- to the line that is left stays, and names the line behind that.
example : (adjust "1 =\n1 =\n5 =\n\\2 =".toList "1 =\n5 =\n\\2 =".toList).toOption =
    some "1 =\n5 =\n\\2 =".toList := by
  decide +kernel

end Reference

end Worksheet
