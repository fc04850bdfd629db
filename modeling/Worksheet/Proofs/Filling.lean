import Worksheet.Proofs.Amounts
import Worksheet.Proofs.Exchange
import Worksheet.Proofs.Shown

/-!
# Amounts in place of references

`Reference.fill d` is a text whose references have given way to the texts `d` of their digits.

**Theorem (`Token.scan_fill`).** In an expression that is read to its end, amounts in place of the
references are scanned as the amounts, and all around them as before.

Operands stand apart, so a reference is followed by the end, a blank or a sign, where every amount
ends (`EndsAmount`), and what stands in front of it ends with a sign that takes nothing more
(`scanFrom_append_of_symbol`). Pasted operators are read as before except for one: an `x` is no
multiplication in front of a minus sign, so none may stand in front of a reference that gives way to
a negative amount (`KeepsFactors`).
-/

namespace Worksheet

open Text

/-! ## Texts in place of references -/

/-- A piece with the text of its digits in place of a reference. -/
def Piece.filled (d : Text → Text) : Piece → Text
  | char c => [c]
  | reference digits => d digits

namespace Reference

/-- A text with the text of its digits in place of each reference. -/
def fill (d : Text → Text) (t : Text) : Text := (pieces t).flatMap (Piece.filled d)

variable {d : Text → Text} {t u a b : Text} {c : Char}

theorem fill_nil : fill d [] = [] := by
  simp [fill, pieces]

theorem fill_cons {r : Text} (h : c = '\\' → r.head?.any isDigit = false) :
    fill d (c :: r) = c :: fill d r := by
  rw [fill, pieces_char h]
  rfl

theorem fill_run {r : Text} (hne : u ≠ []) (hu : u.all isDigit = true)
    (hr : r.head?.any isDigit = false) : fill d ('\\' :: (u ++ r)) = d u ++ fill d r := by
  rw [fill, pieces_run hne hu hr]
  rfl

theorem fill_append (hb : b.head?.any isDigit = false) : fill d (a ++ b) = fill d a ++ fill d b := by
  rw [fill, pieces_append hb, List.flatMap_append]
  rfl

theorem fill_append_cons (hc : isDigit c = false) (hb : c ≠ '\\') :
    fill d (a ++ c :: b) = fill d a ++ c :: fill d b := by
  rw [fill_append (by simpa using hc), fill_cons fun h => absurd h hb]

/-- A part without backslashes stays. -/
theorem fill_append_of_notMem (ha : '\\' ∉ a) : fill d (a ++ b) = a ++ fill d b := by
  induction a with
  | nil => rfl
  | cons c a ih =>
    simp only [List.mem_cons, not_or] at ha
    rw [List.cons_append, fill_cons fun hc => absurd hc.symm ha.1, ih ha.2]
    rfl

theorem fill_of_notMem (h : '\\' ∉ t) : fill d t = t := by
  have := fill_append_of_notMem (d := d) (b := []) h
  rwa [List.append_nil, fill_nil, List.append_nil] at this

theorem fill_of_runs (h : runs t = []) : fill d t = t := by
  induction t using pieces_induction with
  | nil => exact fill_nil
  | run u r hne hu hr =>
    rw [runs_run hne hu hr] at h
    cases h
  | char c r hc ih =>
    rw [runs_cons hc] at h
    rw [fill_cons hc, ih h]

theorem head?_fill (h : t.head? ≠ some '\\') : (fill d t).head? = t.head? := by
  cases t with
  | nil => rw [fill_nil]
  | cons c r =>
    rw [fill_cons fun hc => absurd (congrArg some hc) h]
    rfl

theorem mem_of_mem_runs (h : u ∈ runs t) (hc : c ∈ u) : c ∈ t := by
  induction t using pieces_induction with
  | nil => simp [runs, pieces] at h
  | run v r hne hv hr ih =>
    rw [runs_run hne hv hr] at h
    rcases List.mem_cons.1 h with rfl | h
    · simp [hc]
    · simp [ih h]
  | char x r hx ih =>
    rw [runs_cons hx] at h
    exact List.mem_cons_of_mem _ (ih h)

/-- What stands for a reference: the text of its line, or the reference as written. -/
def written (value : Nat → Option Text) (digits : Text) : Text :=
  ((line digits).toOption.bind value).getD ('\\' :: digits)

/-- A run of digits names a line if it is not too long to be read. -/
theorem line_eq_ok_iff {digits : Text} :
    (∃ n, line digits = .ok n) ↔ digits.length ≤ Literal.maxDigits := by
  simp only [line_eq_ok, Literal.natural?]
  split <;> simp <;> omega

/-- References give way to the texts of their lines, if their digits are not too many to be read. -/
theorem substitute_eq_ok {value : Nat → Option Text} : substitute value t = .ok u ↔
    u = fill (written value) t ∧ ∀ digits ∈ runs t, digits.length ≤ Literal.maxDigits := by
  have hdigits : (∀ p ∈ pieces t, ∀ digits ∈ p.digits?, digits.length ≤ Literal.maxDigits) ↔
      ∀ digits ∈ runs t, digits.length ≤ Literal.maxDigits := by
    simp only [runs, List.mem_filterMap, Option.mem_def]
    constructor
    · rintro h digits ⟨p, hp, hd⟩
      exact h p hp digits hd
    · intro h p hp digits hd
      exact h digits ⟨p, hp, hd⟩
  unfold substitute
  rw [Result.bind_eq_ok, ← hdigits]
  simp only [Result.pure_eq_ok]
  rw [exists_congr fun ps => and_congr_left' (Result.mapM_eq_ok_iff (g := Piece.filled (written value))
    (p := fun p => ∀ digits ∈ p.digits?, digits.length ≤ Literal.maxDigits) fun p w => ?_)]
  · rw [fill, List.flatMap_def]
    constructor
    · rintro ⟨_, ⟨rfl, h⟩, rfl⟩
      exact ⟨rfl, h⟩
    · rintro ⟨rfl, h⟩
      exact ⟨_, ⟨rfl, h⟩, rfl⟩
  · cases p with
    | char c => simp [Piece.digits?, Piece.text, Piece.filled, pure, Except.pure, eq_comm]
    | reference digits =>
      simp only [Piece.digits?, Piece.text, Piece.filled, Result.bind_eq_ok, Result.pure_eq_ok, Option.mem_def,
        Option.some.injEq, forall_eq', ← line_eq_ok_iff]
      constructor
      · rintro ⟨n, hn, rfl⟩
        simp [written, hn, Except.toOption]
      · rintro ⟨rfl, n, hn⟩
        exact ⟨n, hn, by simp [written, hn, Except.toOption]⟩

end Reference

namespace Token

open Reference (fill fill_cons fill_run fill_append_of_notMem fill_of_notMem head?_fill runs)

/-! ## Amounts -/

/-- The text of a whole amount, and the tokens that it is read as. -/
inductive IsAmount : Text → List Token → Prop
  | number {n : Nat} : n ≤ 2 ^ 53 →
      IsAmount (Fixed.grouped (ofNat n)) [.number (Binary.ofNat n) false (Fixed.grouped (ofNat n))]
  | negative {n : Nat} : n ≤ 2 ^ 53 →
      IsAmount ('-' :: Fixed.grouped (ofNat n))
        [.symbol .minus, .number (Binary.ofNat n) false (Fixed.grouped (ofNat n))]
  | dollars {n : Nat} : n ≤ 2 ^ 53 →
      IsAmount ('$' :: (Fixed.grouped (ofNat n) ++ ".00".toList))
        [.currency (Binary.ofNat n) ('$' :: (Fixed.grouped (ofNat n) ++ ".00".toList))]

/-- A character of an amount. -/
def isAmountChar (c : Char) : Bool := isGrouped c || c == '.' || c == '$' || c == '-'

variable {c : Char} {t u r w y : Text} {ts us ws : List Token} {d : Text → Text}
  {τ : Nat → List Token}

namespace IsAmount

theorem all_isAmountChar (h : IsAmount w ws) : w.all isAmountChar = true := by
  have hgrouped (n : Nat) : (Fixed.grouped (ofNat n)).all isAmountChar = true := by
    refine List.all_eq_true.2 fun c hc => ?_
    simp [isAmountChar, List.all_eq_true.1 (all_isGrouped n) c hc]
  cases h with
  | number => exact hgrouped _
  | negative => simp [hgrouped, isAmountChar]
  | dollars =>
    rw [List.all_cons, List.all_append, hgrouped]
    decide

/-- An amount ends with a digit. -/
theorem exists_last (h : IsAmount w ws) : ∃ v c, w = v ++ [c] ∧ isAsciiDigit c = true := by
  have hgrouped (n : Nat) : ∃ v c, Fixed.grouped (ofNat n) = v ++ [c] ∧ isAsciiDigit c = true := by
    obtain ⟨v, c, hv⟩ := (List.eq_nil_or_concat' (ofNat n)).resolve_left (Literal.ofNat_ne_nil n)
    have hlast : (Fixed.grouped (ofNat n)).getLast? = some c := by
      rw [Fixed.getLast?_grouped, hv, List.getLast?_concat]
    obtain ⟨v', hv'⟩ := List.getLast?_eq_some_iff.1 hlast
    refine ⟨v', c, hv', List.all_eq_true.1 (Reference.ofNat_ascii n) c ?_⟩
    rw [hv]
    simp
  cases h with
  | @number n => exact hgrouped n
  | @negative n =>
    obtain ⟨v, c, hv, hc⟩ := hgrouped n
    exact ⟨'-' :: v, c, by rw [hv]; rfl, hc⟩
  | @dollars n => exact ⟨'$' :: (Fixed.grouped (ofNat n) ++ ".0".toList), '0', by simp, by decide⟩

theorem ne_nil (h : IsAmount w ws) : w ≠ [] := by
  obtain ⟨v, c, rfl, -⟩ := h.exists_last
  simp

theorem not_isBlank (h : IsAmount w ws) : ∀ c ∈ w, isBlank c = false := by
  intro c hc
  have hchar := List.all_eq_true.1 h.all_isAmountChar c hc
  simp only [isAmountChar, isGrouped, Bool.or_eq_true, beq_iff_eq] at hchar
  rcases hchar with (((hd | rfl) | rfl) | rfl) | rfl
  · exact not_isBlank_of_isDigit (isDigit_of_isAsciiDigit hd)
  all_goals decide

theorem head?_append_ne (h : IsAmount w ws) (hc : isAmountChar c = false) :
    (w ++ r).head? ≠ some c := by
  obtain ⟨x, v, rfl⟩ := List.exists_cons_of_ne_nil h.ne_nil
  have hx := List.all_eq_true.1 h.all_isAmountChar x (by simp)
  simp only [List.cons_append, List.head?_cons, ne_eq, Option.some.injEq]
  rintro rfl
  rw [hc] at hx
  cases hx

/-- In front of what ends an amount, it is scanned on its own. -/
theorem scanFrom_eq (h : IsAmount w ws) (hr : EndsAmount r) :
    scanFrom (w ++ r) = (scanFrom r).map (ws ++ ·) := by
  cases h with
  | number hmax => exact scanFrom_grouped hmax hr
  | @negative n hmax =>
    have hminus : Token.next '-' (Fixed.grouped (ofNat n) ++ r) =
        .ok (some (.symbol .minus), Fixed.grouped (ofNat n) ++ r) := Loose.next_operator rfl
    rw [List.cons_append, scanFrom_cons, hminus]
    dsimp only
    rw [scanFrom_grouped hmax hr]
    cases scanFrom r <;> rfl
  | dollars hmax => exact scanFrom_dollars hmax hr

end IsAmount

/-! ## Where tokens end -/

theorem numeral_append_of_ne_nil {point : Bool} (h : (numeral point u).2 ≠ []) :
    numeral point (u ++ y) = ((numeral point u).1, (numeral point u).2 ++ y) := by
  induction u generalizing point with
  | nil => exact absurd rfl h
  | cons c u ih =>
    rw [numeral] at h
    rw [List.cons_append, numeral, numeral]
    split
    · next hc =>
      rw [if_pos hc] at h
      simp only [ih h]
    · next hc =>
      rw [if_neg hc] at h
      split
      · next hp =>
        rw [if_pos hp] at h
        simp only [ih h]
      · rfl

theorem takeWhile_append_of_ne_nil {p : Char → Bool} (h : u.dropWhile p ≠ []) :
    (u ++ y).takeWhile p = u.takeWhile p ∧ (u ++ y).dropWhile p = u.dropWhile p ++ y := by
  have hhead : (u.dropWhile p ++ y).head?.any p = false := by
    obtain ⟨c, v, hv⟩ := List.exists_cons_of_ne_nil h
    have := head?_dropWhile_any (p := p) (a := u)
    rw [hv] at this ⊢
    exact this
  have hspan := span_append (List.all_takeWhile (p := p) (l := u)) hhead
  rwa [← List.append_assoc, List.takeWhile_append_dropWhile] at hspan

/-- A token is read as before with more text behind it, if something follows it already, or if it is
a sign and no equals sign comes next. -/
theorem next_append_of {token : Option Token} {rest : Text} (h : next c u = .ok (token, rest))
    (hrest : rest ≠ [] ∨ token.all isSymbol = true ∧ y.head? ≠ some '=') :
    next c (u ++ y) = .ok (token, rest ++ y) := by
  -- Where nothing follows, the token is none that goes on.
  have hmore {rest' : Text} (hr : rest' = rest) (ht : token.all isSymbol = false) : rest' ≠ [] := by
    rintro rfl
    rw [← hr, ht] at hrest
    exact hrest.elim (· rfl) fun h => Bool.noConfusion h.1
  have hequals {f g : Text → Result (Option Token × Text)}
      (hf : ∀ a, f a = .ok (token, rest) → f (a ++ y) = .ok (token, rest ++ y))
      (hg : ∀ a, g a = .ok (token, rest) → rest = a ∧ g (a ++ y) = .ok (token, rest ++ y)) :
      ((∃ a, u = '=' :: a ∧ f a = .ok (token, rest)) ∨
        u.head? ≠ some '=' ∧ g u = .ok (token, rest)) →
      ((∃ a, u ++ y = '=' :: a ∧ f a = .ok (token, rest ++ y)) ∨
        (u ++ y).head? ≠ some '=' ∧ g (u ++ y) = .ok (token, rest ++ y)) := by
    rintro (⟨a, rfl, ha⟩ | ⟨hhead, hu⟩)
    · exact .inl ⟨a ++ y, rfl, hf a ha⟩
    · obtain ⟨hend, hg⟩ := hg u hu
      refine .inr ⟨?_, hg⟩
      cases u with
      | nil => exact (hrest.resolve_left fun hne => hne hend).2
      | cons x u => exact hhead
  revert h
  unfold next
  split
  · intro h
    cases h
    rfl
  split
  · intro h
    obtain ⟨v, hv, h⟩ := Result.map_eq_ok.1 h
    have hne : (numeral (c == '.') u).2 ≠ [] := by
      intro hnil
      rw [hnil] at h
      cases h
      exact hmore rfl rfl rfl
    rw [numeral_append_of_ne_nil hne]
    dsimp only
    rw [hv]
    obtain ⟨x, a, ha⟩ := List.exists_cons_of_ne_nil hne
    rw [ha] at h ⊢
    by_cases hx : x = '%'
    · subst hx
      cases h
      rfl
    · obtain ⟨rfl, rfl⟩ : some (number v false (c :: (numeral (c == '.') u).1)) = token ∧
          x :: a = rest := by simpa [hx] using h
      simp [Except.map, hx]
  split
  · split
    · next hd =>
      intro h
      obtain ⟨v, hv, h⟩ := Result.map_eq_ok.1 h
      cases h
      have hne : u ≠ [] := by
        rintro rfl
        cases hd
      obtain ⟨x, a, rfl⟩ := List.exists_cons_of_ne_nil hne
      rw [if_pos (by simpa using hd), numeral_append_of_ne_nil (hmore rfl rfl), hv]
      rfl
    · intro h
      cases h
  split
  · dsimp only
    split
    · intro h
      cases h
    · next hd =>
      split
      · next n hn =>
        intro h
        cases h
        obtain ⟨htake, hdrop⟩ := takeWhile_append_of_ne_nil (y := y) (hmore rfl rfl)
        rw [htake, hdrop, if_neg hd, hn]
      · intro h
        cases h
  split
  · intro h
    cases h
    rfl
  split
  · intro h
    exact equals_iff.2 (hequals
      (f := fun r => .ok (some (symbol (if c == '>' then .greaterEq else .lessEq)), r))
      (g := fun r => .ok (some (symbol (if c == '>' then .greater else .less)), r))
      (fun a ha => by cases ha; rfl) (fun a ha => by cases ha; exact ⟨rfl, rfl⟩) (equals_iff.1 h))
  split
  · intro h
    exact equals_iff.2 (hequals (f := fun r => .ok (some (symbol .equal), r))
      (g := fun r => .ok (none, r)) (fun a ha => by cases ha; rfl)
      (fun a ha => by cases ha; exact ⟨rfl, rfl⟩) (equals_iff.1 h))
  split
  · intro h
    exact equals_iff.2 (hequals (f := fun r => .ok (some (symbol .notEqual), r))
      (g := fun _ => .error (.lex .bareBang)) (fun a ha => by cases ha; rfl)
      (fun a ha => by cases ha) (equals_iff.1 h))
  split
  · intro h
    cases h
    obtain ⟨htake, hdrop⟩ := takeWhile_append_of_ne_nil (y := y) (hmore rfl rfl)
    rw [htake, hdrop]
  · intro h
    cases h

/-- Behind a sign, a text is scanned on its own. -/
theorem scanFrom_append_of_symbol (h : scanFrom u = .ok us)
    (hlast : us.getLast?.all isSymbol = true) (hy : y.head? ≠ some '=') :
    scanFrom (u ++ y) = (scanFrom y).map (us ++ ·) := by
  induction hn : u.length using Nat.strongRecOn generalizing u us with
  | ind n ih =>
    cases u with
    | nil =>
      rw [scanFrom] at h
      cases h
      cases hs : scanFrom y <;> simp [hs, Except.map]
    | cons c r =>
      rw [scanFrom_cons] at h
      split at h
      · cases h
      · next token rest hnext =>
        obtain ⟨vs, hvs, rfl⟩ := Result.map_eq_ok.1 h
        have hlt : rest.length < n := by
          have := length_next_le hnext
          rw [← hn, List.length_cons]
          exact Nat.lt_succ_of_le this
        have hrest : rest ≠ [] ∨ token.all isSymbol = true ∧ y.head? ≠ some '=' := by
          by_cases hr : rest = []
          · rw [hr, scanFrom] at hvs
            cases hvs
            refine .inr ⟨?_, hy⟩
            cases token with
            | none => rfl
            | some t => simpa using hlast
          · exact .inl hr
        have hlast' : vs.getLast?.all isSymbol = true := by
          cases hv : vs.getLast? with
          | none => rfl
          | some x => rwa [List.getLast?_append, hv] at hlast
        rw [List.cons_append, scanFrom_cons, next_append_of hnext hrest]
        dsimp only
        rw [ih _ hlt hvs hlast' rfl]
        cases scanFrom y <;> simp [Except.map]

/-- An amount ends in front of a sign, a blank or the end, and no reference begins there. -/
theorem endsAmount_of_scanFrom (h : scanFrom r = .ok ts) (hhead : ts.head?.all isSymbol = true) :
    EndsAmount r ∧ r.head? ≠ some '\\' := by
  cases r with
  | nil => exact ⟨⟨rfl, nofun⟩, nofun⟩
  | cons c r =>
    rw [scanFrom_cons] at h
    split at h
    · cases h
    · next token rest hnext =>
      obtain ⟨vs, hvs, rfl⟩ := Result.map_eq_ok.1 h
      have htoken : token.all isSymbol = true := by
        cases token with
        | none => rfl
        | some t => exact hhead
      have hnumeral : (isAsciiDigit c || c == '.') = false := by
        refine Bool.eq_false_iff.2 ?_
        intro hc
        have hblank : isBlank c = false := by
          rcases Bool.or_eq_true_iff.1 hc with hc | hc
          · exact not_isBlank_of_isDigit (isDigit_of_isAsciiDigit hc)
          · rw [beq_iff_eq.1 hc]
            decide
        unfold next at hnext
        rw [if_neg (by simp [hblank]), if_pos hc] at hnext
        obtain ⟨v, -, hv⟩ := Result.map_eq_ok.1 hnext
        split at hv <;> cases hv <;> cases htoken
      have hcomma : c ≠ ',' := by
        rintro rfl
        cases hnext
      have hpercent : c ≠ '%' := by
        rintro rfl
        cases hnext
      have hbackslash : c ≠ '\\' := by
        rintro rfl
        rw [next_backslash] at hnext
        split at hnext
        · cases hnext
        · split at hnext <;> cases hnext
          cases htoken
      refine ⟨⟨?_, by simpa using hpercent⟩, by simpa using hbackslash⟩
      simpa [Loose.isNumeral, hcomma] using hnumeral

/-- **Amounts in place of references are scanned.** Where operands stand apart, amounts in place of
the references make the tokens of the amounts in place of the references. -/
theorem scanFrom_fill {t : Text} {ts : List Token} (h : scanFrom t = .ok ts)
    (hts : ts.IsChain Apart)
    (hd : ∀ u ∈ runs t, ∃ n, Literal.natural? u = some n ∧ IsAmount (d u) (τ n)) :
    scanFrom (fill d t) = .ok (ts.flatMap (exchange τ)) := by
  have hplain {u : Text} {us : List Token} (hu : '\\' ∉ u) (h : scanFrom u = .ok us) :
      us.flatMap (exchange τ) = us := by
    have hl := filterMap_line?_of_notMem h hu
    rw [List.filterMap_eq_nil_iff] at hl
    exact Expr.RefersTo.flatMap_exchange fun n t hm => nomatch hl _ hm
  by_cases ht : '\\' ∈ t
  · obtain ⟨u, r, rfl, hu⟩ := List.eq_append_cons_of_mem ht
    have hdigits := asciiDigits_of_scanFrom h
    rw [Reference.runs_append_of_notMem hu] at hd
    rw [scanFrom_append hu] at h
    obtain ⟨us, hus, h⟩ := Result.bind_eq_ok.1 h
    obtain ⟨vs, hvs, rfl⟩ := Result.map_eq_ok.1 h
    rcases Reference.pieces_cases ('\\' :: r) with he | ⟨v, r', hne, hv, hr, he⟩ | ⟨c, r', hc, he⟩
    · cases he
    · have hle : r'.length ≤ r.length := by
        rw [(List.cons.inj he).2, List.length_append]
        omega
      obtain rfl := (List.cons.inj he).2
      have hascii : v.all isAsciiDigit = true := List.all_eq_true.2 fun c hc =>
        hdigits c (by simp [hc]) (List.all_eq_true.1 hv c hc)
      rw [Reference.runs_run hne hv hr] at hd
      obtain ⟨n, hn, hamount⟩ := hd v (by simp)
      rw [scanFrom_run hne hascii hr, hn] at hvs
      obtain ⟨ws, hws, rfl⟩ := Result.map_eq_ok.1 hvs
      obtain ⟨-, hback, hbetween⟩ := List.isChain_append.1 hts
      obtain ⟨hnext, hchain⟩ := List.isChain_cons.1 hback
      have hlast : us.getLast?.all isSymbol = true := by
        cases hl : us.getLast? with
        | none => rfl
        | some x => exact (hbetween x hl _ rfl).resolve_right (by simp [isSymbol])
      have hhead : ws.head?.all isSymbol = true := by
        cases hh : ws.head? with
        | none => rfl
        | some x => exact (hnext x hh).resolve_left (by simp [isSymbol])
      obtain ⟨hend, hb⟩ := endsAmount_of_scanFrom hws hhead
      have hend' : EndsAmount (fill d r') := by rwa [EndsAmount, head?_fill hb]
      have hrest := scanFrom_fill hws hchain fun u hm => hd u (by simp [hm])
      rw [fill_append_of_notMem hu, fill_run hne hv hr,
        scanFrom_append_of_symbol hus hlast (hamount.head?_append_ne (by decide)),
        hamount.scanFrom_eq hend', hrest]
      simp [Except.map, exchange, hplain hu hus]
    · obtain ⟨rfl, rfl⟩ := List.cons.inj he
      rw [scanFrom_bareBackslash (hc rfl)] at hvs
      cases hvs
  · rw [fill_of_notMem ht, h, hplain ht h]
termination_by t.length
decreasing_by
  subst_vars
  simp only [List.length_append, List.length_cons]
  omega

/-! ## Pasted operators -/

theorem plainSign_of_isAmountChar (h : isAmountChar c = true) : plainSign c = c := by
  unfold plainSign
  split <;> first | rfl | exact absurd h (by decide)

/-- Whether a character may be a sign of multiplication. -/
def isCross (c : Char) : Bool := c == 'x' || c == 'X'

theorem isCross_of_isAmountChar (h : isAmountChar c = true) : isCross c = false := by
  refine Bool.eq_false_iff.2 fun hc => ?_
  simp only [isCross, Bool.or_eq_true, beq_iff_eq] at hc
  rcases hc with rfl | rfl <;> exact absurd h (by decide)

theorem not_isBlank_of_isAmountChar (h : isAmountChar c = true) : isBlank c = false := by
  simp only [isAmountChar, isGrouped, Bool.or_eq_true, beq_iff_eq] at h
  rcases h with (((h | rfl) | rfl) | rfl) | rfl
  · exact not_isBlank_of_isDigit (isDigit_of_isAsciiDigit h)
  all_goals decide

theorem IsAmount.map_plainSign (h : IsAmount w ws) : w.map plainSign = w :=
  (List.map_congr_left fun c hc =>
    plainSign_of_isAmountChar (List.all_eq_true.1 h.all_isAmountChar c hc)).trans (List.map_id' w)

/-- The typographic operators. -/
def operators : List Nat := [0xD7, 0xF7, 0x2212, 0x2013, 0x2014]

theorem operators_disjoint_letters : ∀ n ∈ operators, ∀ r ∈ alphabeticRanges.toList,
    n < r.1 ∨ r.2 < n := by decide +kernel

theorem plainSign_of_isLetter (h : isLetter c = true) : plainSign c = c := by
  by_contra hc
  have hmem : c.toNat ∈ operators := by
    revert hc
    unfold plainSign
    split <;> simp [operators]
  have hge : ∀ n ∈ operators, 128 ≤ n := by decide
  rw [not_isLetter_of_disjoint (hge _ hmem) (operators_disjoint_letters _ hmem)] at h
  cases h

theorem beginsFactor_plainSign (c : Char) : beginsFactor (plainSign c) = beginsFactor c := by
  by_cases hc : plainSign c = c
  · rw [hc]
  · have hletter : isLetter c = false := Bool.eq_false_iff.2 fun h => hc (plainSign_of_isLetter h)
    rw [beginsFactor, beginsFactor, hletter]
    revert hc
    unfold plainSign
    split
    case h_6 => exact fun hc => absurd rfl hc
    all_goals
      intro
      rfl

theorem isCross_plainSign (c : Char) : isCross (plainSign c) = isCross c := by
  unfold plainSign
  split <;> first | decide | rfl

/-- The next character begins a factor before signs are replaced when it does so behind. -/
theorem beginsFactor_map_plainSign :
    (nearest (t.map plainSign)).any beginsFactor = (nearest t).any beginsFactor := by
  induction t with
  | nil => rfl
  | cons c r ih =>
    rw [List.map_cons, nearest_cons, nearest_cons, isBlank_plainSign]
    split
    · exact ih
    · exact beginsFactor_plainSign c

/-- What stands behind an `x` begins a factor when it does so with the references filled. -/
def KeepsFactors (d : Text → Text) (t : Text) : Prop :=
  ∀ c r, c :: r <:+ t → isCross c = true →
    (nearest (fill d r)).any beginsFactor = (nearest r).any beginsFactor

theorem KeepsFactors.suffix (h : KeepsFactors d t) (hs : u <:+ t) : KeepsFactors d u :=
  fun c r hc => h c r (hc.trans hs)

theorem multiplySigns_of_notCross {before : Text} (hu : ∀ c ∈ u, isCross c = false) :
    multiplySigns before (u ++ r) = u ++ multiplySigns (u.reverse ++ before) r := by
  induction u generalizing before with
  | nil => rfl
  | cons c u ih =>
    obtain ⟨hc, hu⟩ := List.forall_mem_cons.1 hu
    have hc : (c == 'x' || c == 'X') = false := hc
    rw [List.cons_append, multiplySigns_cons, hc, ih hu]
    simp

theorem IsAmount.endsFactor (h : IsAmount w ws) (before : Text) :
    (nearest (w.reverse ++ before)).any endsFactor = true := by
  obtain ⟨v, c, rfl, hc⟩ := h.exists_last
  have hb := not_isBlank_of_isDigit (isDigit_of_isAsciiDigit hc)
  simp [nearest, hb, Token.endsFactor, hc]

/-- Amounts in place of references leave the pasted operators as they are. -/
theorem multiplySigns_fill {before before' : Text} {t : Text}
    (hd : ∀ u ∈ runs t, u.all isAsciiDigit = true ∧ ∃ ws, IsAmount (d u) ws)
    (hx : KeepsFactors d t)
    (hb : (nearest before').any endsFactor = (nearest before).any endsFactor) :
    multiplySigns before' ((fill d t).map plainSign) =
      fill d (multiplySigns before (t.map plainSign)) := by
  induction t using Reference.pieces_induction generalizing before before' with
  | nil => simp [Reference.fill_nil, multiplySigns]
  | run u r hne hu hr ih =>
    rw [Reference.runs_run hne hu hr] at hd
    obtain ⟨hascii, ws, hamount⟩ := hd u (by simp)
    have hsuffix : r <:+ '\\' :: (u ++ r) := (List.suffix_append u r).trans (List.suffix_cons _ _)
    have hbackslash {before r : Text} :
        multiplySigns before ('\\' :: r) = '\\' :: multiplySigns ('\\' :: before) r := rfl
    have hcross : ∀ c ∈ d u, isCross c = false := fun c hc =>
      isCross_of_isAmountChar (List.all_eq_true.1 hamount.all_isAmountChar c hc)
    rw [fill_run hne hu hr, List.map_append, hamount.map_plainSign,
      multiplySigns_of_notCross hcross, List.map_cons, List.map_append, map_plainSign_of_digits hu,
      show plainSign '\\' = '\\' by decide, hbackslash, multiplySigns_digits hu,
      fill_run hne hu (by rwa [head?_multiplySigns, head?_map_plainSign]),
      ih (fun v hv => hd v (by simp [hv])) (hx.suffix hsuffix)]
    rw [hamount.endsFactor, nearest_digits hne hascii]
  | char c r hc ih =>
    rw [Reference.runs_cons hc] at hd
    have hnext : (nearest (plainSign c :: before')).any endsFactor =
        (nearest (plainSign c :: before)).any endsFactor := by
      rw [nearest_cons, nearest_cons]
      split
      · exact hb
      · rfl
    have hsame : ((plainSign c == 'x' || plainSign c == 'X') &&
        (nearest before').any Token.endsFactor &&
          (nearest ((fill d r).map plainSign)).any beginsFactor) =
        ((plainSign c == 'x' || plainSign c == 'X') && (nearest before).any Token.endsFactor &&
          (nearest (r.map plainSign)).any beginsFactor) := by
      rw [hb, beginsFactor_map_plainSign, beginsFactor_map_plainSign]
      cases hcross : isCross c with
      | true => rw [hx c r (List.suffix_refl _) hcross]
      | false =>
        have hcross : (plainSign c == 'x' || plainSign c == 'X') = false :=
          (isCross_plainSign c).trans hcross
        rw [hcross]
        rfl
    rw [fill_cons hc, List.map_cons, List.map_cons, multiplySigns_cons, multiplySigns_cons, hsame,
      ih hd (hx.suffix (List.suffix_cons _ _)) hnext]
    refine (fill_cons fun hk => ?_).symm
    rw [head?_multiplySigns, head?_map_plainSign]
    split at hk
    · exact absurd hk (by decide)
    · exact hc (plainSign_eq_backslash.1 hk)

theorem normalize_fill (hd : ∀ u ∈ runs t, u.all isAsciiDigit = true ∧ ∃ ws, IsAmount (d u) ws)
    (hx : KeepsFactors d t) : normalize (fill d t) = fill d (normalize t) :=
  multiplySigns_fill hd hx rfl

/-- The tokens of an expression with amounts in place of its references. -/
theorem scan_fill (ht : Tight t) (ht' : Tight (fill d t)) (h : scan t = .ok ts)
    (hts : ts.IsChain Apart)
    (hd : ∀ u ∈ runs t, ∃ n, Literal.natural? u = some n ∧ IsAmount (d u) (τ n))
    (hx : KeepsFactors d t) : scan (fill d t) = .ok (ts.flatMap (exchange τ)) := by
  rw [scan, ht.trim_eq] at h
  rw [scan, ht'.trim_eq, normalize_fill _ hx]
  · exact scanFrom_fill h hts (by rwa [runs_normalize])
  · intro u hu
    obtain ⟨n, -, hamount⟩ := hd u hu
    rw [← runs_normalize] at hu
    have hascii := asciiDigits_of_scanFrom h
    exact ⟨List.all_eq_true.2 fun c hc => hascii c (Reference.mem_of_mem_runs hu hc)
      (List.all_eq_true.1 (Reference.all_isDigit_of_mem_runs hu) c hc), _, hamount⟩

end Token

end Worksheet
