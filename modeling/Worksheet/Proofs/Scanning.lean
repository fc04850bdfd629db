import Worksheet.Expr.Token
import Worksheet.Proofs.References
import Worksheet.Proofs.Result

/-!
# Scanning and references

A reference is the only token that begins with a backslash, and no other token goes past one
(`next_append`). So the scan of a text is that of the part in front of a backslash and that of the
rest (`scanFrom_append`), and the references among its tokens are those that a search for references
finds (`references_of_scan`).

The two read references in their own way: tokens have ASCII digits only, a search takes the digits
of any script. They agree wherever the scan succeeds, as no token begins with another digit.
-/

namespace Worksheet

open Text

namespace Token

/-- The line that a token refers to. -/
def line? : Token → Option Nat
  | reference n _ => some n
  | _ => none

variable {c : Char} {r u rest : Text}

/-! ## One token -/

/-- A comparison sign takes the equals sign behind it, if there is one. -/
theorem equals_iff {α : Type} {f g : Text → α} {x : α} :
    (match r with | '=' :: r => f r | r => g r) = x ↔
      (∃ a, r = '=' :: a ∧ f a = x) ∨ r.head? ≠ some '=' ∧ g r = x := by
  split
  · simp
  · next hne =>
    have hhead : r.head? ≠ some '=' := fun h => by
      obtain ⟨a, rfl⟩ := List.head?_eq_some_iff.1 h
      exact hne a rfl
    have hcons : ¬∃ a, r = '=' :: a ∧ f a = x := fun ⟨a, hr, _⟩ => hne a hr
    rw [or_iff_right hcons, and_iff_right hhead]

theorem numeral_append_backslash (point : Bool) (u r : Text) :
    numeral point (u ++ '\\' :: r) = ((numeral point u).1, (numeral point u).2 ++ '\\' :: r) := by
  induction u generalizing point with
  | nil => simp [numeral, show isAsciiDigit '\\' = false by decide]
  | cons c u ih =>
    rw [List.cons_append, numeral, numeral]
    split
    · simp only [ih]
    · split
      · simp only [ih]
      · rfl

/-- In front of a backslash, a token is read as at the end of the text. -/
theorem next_append (hc : c ≠ '\\') :
    next c (u ++ '\\' :: r) = (next c u).map fun p => (p.1, p.2 ++ '\\' :: r) := by
  have hw : continuesWord '\\' = false := by decide
  have hd : isAsciiDigit '\\' = false := by decide
  have hh {p : Char → Bool} (hp : p '\\' = false) :
      (u ++ '\\' :: r).head?.any p = u.head?.any p := by
    cases u with
    | nil => exact hp
    | cons _ _ => rfl
  unfold next
  split
  · rfl
  split
  · simp only [numeral_append_backslash]
    cases numeralValue (c :: (numeral (c == '.') u).1) with
    | error => rfl
    | ok v =>
      cases (numeral (c == '.') u).2 with
      | nil => rfl
      | cons d rest => by_cases hp : d = '%' <;> simp [Except.map, hp]
  split
  · rw [hh (by decide), numeral_append_backslash]
    split
    · cases numeralValue (numeral false u).1 <;> rfl
    · rfl
  have hb : ¬(c == '\\') = true := by simpa using hc
  rw [if_neg hb, if_neg hb]
  split
  · rfl
  split
  · cases u with
    | nil => rfl
    | cons d u => by_cases hp : d = '=' <;> simp [Except.map, hp]
  split
  · cases u with
    | nil => rfl
    | cons d u => by_cases hp : d = '=' <;> simp [Except.map, hp]
  split
  · cases u with
    | nil => rfl
    | cons d u => by_cases hp : d = '=' <;> simp [Except.map, hp]
  split
  · rw [takeWhile_append_of_head (by simpa using hw), dropWhile_append_of_head (by simpa using hw)]
    rfl
  · rfl

/-- Only a backslash begins a reference, and a token takes a part of what is in front of it. -/
theorem next_plain {token : Option Token} (hc : c ≠ '\\') (h : next c r = .ok (token, rest)) :
    token.bind line? = none ∧ rest <:+ r := by
  have hb : ¬(c == '\\') = true := by simpa using hc
  unfold next at h
  split at h
  · cases h
    exact ⟨rfl, List.suffix_refl _⟩
  split at h
  · obtain ⟨v, -, hv⟩ := Result.map_eq_ok.1 h
    have hs : (numeral (c == '.') r).2 <:+ r := ⟨_, numeral_append _ r⟩
    split at hv
    · next hr =>
      cases hv
      rw [hr] at hs
      exact ⟨rfl, (List.suffix_cons _ _).trans hs⟩
    · cases hv
      exact ⟨rfl, hs⟩
  split at h
  · split at h
    · obtain ⟨v, -, hv⟩ := Result.map_eq_ok.1 h
      cases hv
      exact ⟨rfl, _, numeral_append false r⟩
    · cases h
  split at h
  · cases h
    exact ⟨rfl, List.suffix_refl _⟩
  split at h
  · split at h <;> cases h
    · exact ⟨rfl, List.suffix_cons _ _⟩
    · exact ⟨rfl, List.suffix_refl _⟩
  split at h
  · split at h <;> cases h
    · exact ⟨rfl, List.suffix_cons _ _⟩
    · exact ⟨rfl, List.suffix_refl _⟩
  split at h
  · split at h <;> cases h
    exact ⟨rfl, List.suffix_cons _ _⟩
  split at h
  · cases h
    exact ⟨rfl, List.dropWhile_suffix _⟩
  · cases h

/-- A backslash takes the ASCII digits behind it. -/
theorem next_backslash : next '\\' r =
    if (r.takeWhile isAsciiDigit).isEmpty then .error (.lex .bareBackslash)
    else match Literal.natural? (r.takeWhile isAsciiDigit) with
      | some n =>
        .ok (some (.reference n ('\\' :: r.takeWhile isAsciiDigit)), r.dropWhile isAsciiDigit)
      | none => .error (.fault .badValue) := rfl

/-- A digit of another script begins no token. -/
theorem next_of_isDigit (hd : isDigit c = true) (ha : isAsciiDigit c = false) :
    next c r = .error (.lex (.unexpected c)) := by
  have hn := (exists_zero_of_isDigit hd ha).1
  have hne {d : Char} (h : d.toNat < 128) : (c == d) = false :=
    beq_eq_false_iff_ne.2 fun e => by
      rw [e] at hn
      omega
  have hs : Symbol.ofChar? c = none := by
    unfold Symbol.ofChar?
    split <;> first | rfl | exact absurd hn (by decide)
  unfold next
  simp only [not_isBlank_of_isDigit hd, ha, hne (d := '.') (by decide), hne (d := '$') (by decide),
    hne (d := '\\') (by decide), hs, hne (d := '<') (by decide), hne (d := '>') (by decide),
    hne (d := '=') (by decide), hne (d := '!') (by decide), not_isLetter_of_isDigit hd,
    Bool.or_self, Bool.false_eq_true, if_false]

/-! ## All tokens -/

theorem scanFrom_cons : scanFrom (c :: r) =
    match next c r with
    | .error e => .error e
    | .ok (token, rest) => (scanFrom rest).map fun ts => token.toList ++ ts := by
  rw [scanFrom]
  split <;> simp_all

theorem scanFrom_append {u r : Text} (hu : '\\' ∉ u) : scanFrom (u ++ '\\' :: r) =
    (scanFrom u).bind fun ts => (scanFrom ('\\' :: r)).map fun ts' => ts ++ ts' := by
  match u with
  | [] => 
    rw [List.nil_append]
    cases h : scanFrom ('\\' :: r) <;> simp [scanFrom, Except.bind, Except.map]
  | c :: u =>
    simp only [List.mem_cons, not_or] at hu
    rw [List.cons_append, scanFrom_cons, scanFrom_cons, next_append (Ne.symm hu.1)]
    cases h : next c u with
    | error e => rfl
    | ok p =>
      obtain ⟨token, rest⟩ := p
      have hs := (next_plain (Ne.symm hu.1) h).2
      have hr : '\\' ∉ rest := fun hm => hu.2 (hs.subset hm)
      simp only [Except.map]
      rw [scanFrom_append hr]
      cases scanFrom rest with
      | error => rfl
      | ok ts => cases scanFrom ('\\' :: r) <;> simp [Except.bind, Except.map]
termination_by u.length
decreasing_by
  have := hs.length_le
  simp at this ⊢
  omega

/-! ## References among tokens -/

theorem filterMap_line?_of_notMem {t : Text} {ts : List Token} (h : scanFrom t = .ok ts)
    (ht : '\\' ∉ t) : ts.filterMap line? = [] := by
  match t with
  | [] =>
    rw [scanFrom] at h
    cases h
    rfl
  | c :: r =>
    simp only [List.mem_cons, not_or] at ht
    rw [scanFrom_cons] at h
    split at h
    · cases h
    · next token rest hn =>
      obtain ⟨us, hus, rfl⟩ := Result.map_eq_ok.1 h
      obtain ⟨hl, hs⟩ := next_plain (Ne.symm ht.1) hn
      rw [List.filterMap_append, filterMap_line?_of_notMem hus fun hm => ht.2 (hs.subset hm),
        List.append_nil]
      cases token with
      | none => rfl
      | some token => simpa using hl
termination_by t.length
decreasing_by
  have := hs.length_le
  simp at this ⊢
  omega

/-- Where the scan goes on behind a reference, the reference ends at a character that is no digit of
any script. -/
theorem takeWhile_isAsciiDigit {r : Text} {ts : List Token}
    (h : scanFrom (r.dropWhile isAsciiDigit) = .ok ts) :
    r.takeWhile isAsciiDigit = r.takeWhile isDigit ∧
      r.dropWhile isAsciiDigit = r.dropWhile isDigit := by
  have hh : (r.dropWhile isAsciiDigit).head?.any isDigit = false := by
    have ha := head?_dropWhile_any (p := isAsciiDigit) (a := r)
    cases hr : r.dropWhile isAsciiDigit with
    | nil => rfl
    | cons c r' =>
      rw [hr] at h ha
      refine Bool.eq_false_iff.2 fun hd => ?_
      rw [scanFrom_cons, next_of_isDigit (by simpa using hd) (by simpa using ha)] at h
      cases h
  have hall : (r.takeWhile isAsciiDigit).all isDigit = true :=
    List.all_eq_true.2 fun c hc =>
      isDigit_of_isAsciiDigit (List.all_eq_true.1 List.all_takeWhile c hc)
  have hspan := span_append hall hh
  rw [List.takeWhile_append_dropWhile] at hspan
  exact ⟨hspan.1.symm, hspan.2.symm⟩

/-- The references among the tokens of a text are those that a search finds. -/
theorem references_of_scanFrom {t : Text} {ts : List Token} (h : scanFrom t = .ok ts) :
    (Reference.runs t).mapM Reference.line = .ok (ts.filterMap line?) := by
  by_cases ht : '\\' ∈ t
  · obtain ⟨u, r, rfl, hu⟩ := List.eq_append_cons_of_mem ht
    rw [scanFrom_append hu] at h
    obtain ⟨us, hus, h⟩ := Result.bind_eq_ok.1 h
    obtain ⟨vs, hvs, rfl⟩ := Result.map_eq_ok.1 h
    rw [scanFrom_cons, next_backslash] at hvs
    split at hvs
    · cases hvs
    · next token rest hn =>
      split at hn
      · cases hn
      · next hne =>
        cases hnat : Literal.natural? (r.takeWhile isAsciiDigit) with
        | none =>
          rw [hnat] at hn
          cases hn
        | some n =>
          rw [hnat] at hn
          cases hn
          obtain ⟨ws, hws, rfl⟩ := Result.map_eq_ok.1 hvs
          obtain ⟨htake, hdrop⟩ := takeWhile_isAsciiDigit hws
          rw [htake] at hne hnat
          have hr := references_of_scanFrom hws
          rw [hdrop] at hr
          have hrun := Reference.runs_run (u := r.takeWhile isDigit) (by simpa using hne)
            List.all_takeWhile (head?_dropWhile_any (a := r))
          rw [List.takeWhile_append_dropWhile] at hrun
          rw [Reference.runs_append_of_notMem hu, hrun, List.mapM_cons, hr, List.filterMap_append,
            filterMap_line?_of_notMem hus hu, Reference.line, hnat]
          rfl
  · rw [Reference.runs_eq_nil ht, filterMap_line?_of_notMem h ht]
    rfl
termination_by t.length
decreasing_by
  have := (List.dropWhile_suffix isAsciiDigit (l := r)).length_le
  subst_vars
  simp
  omega

/-! ## References and pasted operators -/

/-- A character that no reference holds. -/
def Plain (c : Char) : Prop := c ≠ '\\' ∧ isDigit c = false

/-- Two texts of which one becomes the other by exchanging characters that no reference holds. -/
inductive Respelled : Text → Text → Prop
  | nil : Respelled [] []
  | keep (c : Char) {r s : Text} : Respelled r s → Respelled (c :: r) (c :: s)
  | exchange {c d : Char} {r s : Text} : Plain c → Plain d → Respelled r s →
      Respelled (c :: r) (d :: s)

/-- Digits are kept. -/
theorem Respelled.append_left {u r t' : Text} (hu : u.all isDigit = true)
    (h : Respelled (u ++ r) t') : ∃ s, t' = u ++ s ∧ Respelled r s := by
  induction u generalizing t' with
  | nil => exact ⟨t', rfl, h⟩
  | cons c u ih =>
    simp only [List.all_cons, Bool.and_eq_true] at hu
    cases h with
    | keep _ h =>
      obtain ⟨s, rfl, hs⟩ := ih hu.2 h
      exact ⟨s, rfl, hs⟩
    | exchange hc =>
      rw [hc.2] at hu
      cases hu.1

theorem Respelled.head?_any {t t' : Text} (h : Respelled t t') :
    t'.head?.any isDigit = t.head?.any isDigit := by
  cases h with
  | nil => rfl
  | keep => rfl
  | exchange hc hd => simp [hc.2, hd.2]

theorem Respelled.mem {t t' : Text} (h : Respelled t t') {d : Char} (hd : isDigit d = true)
    (hm : d ∈ t) : d ∈ t' := by
  induction h with
  | nil => exact hm
  | keep c _ ih =>
    rcases List.mem_cons.1 hm with rfl | hm
    · exact List.mem_cons_self
    · exact List.mem_cons_of_mem _ (ih hm)
  | exchange hc _ _ ih =>
    rcases List.mem_cons.1 hm with rfl | hm
    · rw [hc.2] at hd
      cases hd
    · exact List.mem_cons_of_mem _ (ih hm)

theorem Respelled.runs_eq {t t' : Text} (h : Respelled t t') :
    Reference.runs t' = Reference.runs t := by
  induction t using Reference.pieces_induction generalizing t' with
  | nil => cases h; rfl
  | run u r hne hu hr ih =>
    cases h with
    | keep _ h =>
      obtain ⟨s, rfl, hs⟩ := h.append_left hu
      rw [Reference.runs_run hne hu hr, Reference.runs_run hne hu (hs.head?_any ▸ hr), ih hs]
    | exchange hc => exact absurd rfl hc.1
  | char c r hc ih =>
    cases h with
    | keep _ h =>
      rw [Reference.runs_cons hc, Reference.runs_cons fun e => h.head?_any ▸ hc e, ih h]
    | exchange _ hd h =>
      rw [Reference.runs_cons hc, Reference.runs_cons fun e => absurd e hd.1, ih h]

theorem respelled_plainSign (t : Text) : Respelled t (t.map plainSign) := by
  induction t with
  | nil => exact .nil
  | cons c r ih =>
    rw [List.map_cons]
    by_cases hc : plainSign c = c
    · rw [hc]
      exact .keep c ih
    · have hp : Plain c ∧ Plain (plainSign c) := by
        unfold plainSign at hc
        split at hc <;> first
          | exact absurd rfl hc
          | exact ⟨⟨by decide, by decide⟩, by decide, by decide⟩
      exact .exchange hp.1 hp.2 ih

theorem respelled_multiplySigns (before t : Text) : Respelled t (multiplySigns before t) := by
  induction t generalizing before with
  | nil => exact .nil
  | cons c r ih =>
    rw [multiplySigns]
    dsimp only
    split
    · next h =>
      refine .exchange ?_ ⟨by decide, by decide⟩ (ih _)
      simp only [Bool.and_eq_true, Bool.or_eq_true, beq_iff_eq] at h
      rcases h.1.1 with rfl | rfl <;> exact ⟨by decide, by decide⟩
    · exact .keep c (ih _)

theorem runs_normalize (t : Text) : Reference.runs (normalize t) = Reference.runs t :=
  (respelled_multiplySigns _ _).runs_eq.trans (respelled_plainSign t).runs_eq

/-- The references among the tokens of an expression are those that a search finds. -/
theorem references_of_scan {t : Text} {ts : List Token} (h : scan t = .ok ts) :
    Reference.findAll t = .ok (ts.filterMap line?) := by
  have hr := references_of_scanFrom h
  rwa [runs_normalize, Reference.runs_trim] at hr

end Token

end Worksheet
