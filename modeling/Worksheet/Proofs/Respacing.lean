import Worksheet.Proofs.Rescanning
import Worksheet.Proofs.Shown

/-!
# Tokens and spacing

No token holds a blank, and an operator is a token wherever it stands. So the tokens of a text stay
when a run of blanks becomes another one, or when blanks are set around an operator
(`Loose.scanFrom_eq`).

The sign that spacing gives blanks is an operator once pasted operators are replaced, as blanks
decide nothing about an `x` between two factors (`LooseBehind`, `rules_operator`). Spacing takes
digits of any script for digits; a text with others than ASCII digits has no tokens, whatever its
spacing (`toOption_scanFrom`).
-/

namespace Worksheet

open Text

namespace Token

variable {p : Char → Bool} {t t' u v r s : Text}

/-! ## Texts with other blanks -/

def isOperator (c : Char) : Bool := (Symbol.ofChar? c).isSome

/-- Texts that differ in the lengths of their runs of blanks, and in the blanks around operators. -/
inductive Loose : Text → Text → Prop
  | nil : Loose [] []
  | keep (c : Char) {r s : Text} : Loose r s → Loose (c :: r) (c :: s)
  | gap {u u' r s : Text} : u ≠ [] → u' ≠ [] → u.all isBlank = true → u'.all isBlank = true →
      Loose r s → Loose (u ++ r) (u' ++ s)
  | operator {c : Char} {u v u' v' r s : Text} : isOperator c = true → u.all isBlank = true →
      v.all isBlank = true → u'.all isBlank = true → v'.all isBlank = true → Loose r s →
      Loose (u ++ c :: (v ++ r)) (u' ++ c :: (v' ++ s))

/-- A class of characters that only longer tokens hold. -/
def Inner (p : Char → Bool) : Prop := ∀ c, isBlank c = true ∨ isOperator c = true → p c = false

theorem inner_of {p : Char → Bool} (hb : ∀ c, isBlank c = true → p c = false)
    (hs : ['+', '-', '*', '/', '^', '(', ')'].any p = false) : Inner p := by
  rintro c (hc | hc)
  · exact hb c hc
  · refine Bool.eq_false_iff.2 (List.any_eq_false.1 hs c ?_)
    unfold isOperator Symbol.ofChar? at hc
    split at hc <;> first | decide | cases hc

theorem inner_char {d : Char} (hb : isBlank d = false)
    (hd : d ∉ ['+', '-', '*', '/', '^', '(', ')']) : Inner (· == d) :=
  inner_of (fun c hc => beq_eq_false_iff_ne.2 fun e => by simp [← e, hc] at hb)
    (List.any_eq_false.2 fun c hc he => hd (beq_iff_eq.1 he ▸ hc))

theorem inner_isAsciiDigit : Inner isAsciiDigit :=
  inner_of (fun c hc => Bool.eq_false_iff.2 fun hd => by
    rw [not_isBlank_of_isDigit (isDigit_of_isAsciiDigit hd)] at hc
    cases hc) (by decide)

theorem inner_continuesWord : Inner continuesWord :=
  inner_of (fun c hc => by
    rw [continuesWord, not_isLetter_of_isBlank hc, inner_isAsciiDigit c (.inl hc), Bool.false_or,
      Bool.false_or, beq_eq_false_iff_ne]
    rintro rfl
    cases hc) (by decide)

theorem Inner.or {q : Char → Bool} (hp : Inner p) (hq : Inner q) : Inner fun c => p c || q c :=
  fun c hc => Bool.or_eq_false_iff.2 ⟨hp c hc, hq c hc⟩

namespace Loose

theorem head?_of_gap (hp : Inner p) (hu : u ≠ []) (hb : u.all isBlank = true) :
    (u ++ r).head?.any p = false := by
  obtain ⟨c, u, rfl⟩ := List.exists_cons_of_ne_nil hu
  exact hp c (.inl (List.all_eq_true.1 hb c List.mem_cons_self))

theorem head?_of_operator (hp : Inner p) {c : Char} (hc : isOperator c = true)
    (hb : u.all isBlank = true) : (u ++ c :: r).head?.any p = false := by
  cases u with
  | nil => exact hp c (.inr hc)
  | cons d u => exact hp d (.inl (List.all_eq_true.1 hb d List.mem_cons_self))

theorem head?_any (h : Loose t t') (hp : Inner p) : t'.head?.any p = t.head?.any p := by
  cases h with
  | nil => rfl
  | keep => rfl
  | gap hu hu' hb hb' => rw [head?_of_gap hp hu hb, head?_of_gap hp hu' hb']
  | operator hc hu _ hu' => rw [head?_of_operator hp hc hu, head?_of_operator hp hc hu']

theorem of_cons {c : Char} (h : Loose (c :: r) t') (hp : Inner p) (hc : p c = true) :
    ∃ s, t' = c :: s ∧ Loose r s := by
  have hhead : (c :: r).head?.any p = true := hc
  generalize hq : c :: r = q at h hhead
  cases h with
  | nil => cases hq
  | keep d h =>
    cases hq
    exact ⟨_, rfl, h⟩
  | gap hu _ hb => rw [head?_of_gap hp hu hb] at hhead; cases hhead
  | operator ho hb => rw [head?_of_operator hp ho hb] at hhead; cases hhead

/-- A token goes on with a given character in both texts, or in none. -/
theorem head_cases (h : Loose t t') {d : Char} (hd : Inner (· == d)) :
    (∃ r s, t = d :: r ∧ t' = d :: s ∧ Loose r s) ∨ (t.head? ≠ some d ∧ t'.head? ≠ some d) := by
  have hany {w : Text} : w.head?.any (· == d) = true ↔ w.head? = some d := by
    cases w <;> simp
  by_cases ht : t.head? = some d
  · obtain ⟨r, rfl⟩ := List.head?_eq_some_iff.1 ht
    obtain ⟨s, rfl, hs⟩ := h.of_cons hd (beq_self_eq_true d)
    exact .inl ⟨r, s, rfl, rfl, hs⟩
  · exact .inr ⟨ht, by rwa [Ne, ← hany, h.head?_any hd, hany]⟩

theorem span (h : Loose t t') (hp : Inner p) :
    t'.takeWhile p = t.takeWhile p ∧ Loose (t.dropWhile p) (t'.dropWhile p) := by
  have hstop {w : Text} (hw : w.head?.any p = false) : w.takeWhile p = [] ∧ w.dropWhile p = w := by
    cases w with
    | nil => exact ⟨rfl, rfl⟩
    | cons c w =>
      have hc : ¬p c = true := by simpa using hw
      exact ⟨List.takeWhile_cons_of_neg hc, List.dropWhile_cons_of_neg hc⟩
  have hboth {w w' : Text} (hw : w.head?.any p = false) (h : Loose w w') :
      w'.takeWhile p = w.takeWhile p ∧ Loose (w.dropWhile p) (w'.dropWhile p) := by
    obtain ⟨htake, hdrop⟩ := hstop hw
    obtain ⟨htake', hdrop'⟩ := hstop (w := w') (by rw [h.head?_any hp, hw])
    rw [htake, htake', hdrop, hdrop']
    exact ⟨rfl, h⟩
  induction h with
  | nil => exact ⟨rfl, .nil⟩
  | keep c h ih =>
    cases hc : p c with
    | true => simpa [List.takeWhile_cons, List.dropWhile_cons, hc] using ih
    | false => exact hboth hc (.keep c h)
  | gap hu hu' hb hb' h => exact hboth (head?_of_gap hp hu hb) (.gap hu hu' hb hb' h)
  | operator hc hu hv hu' hv' h =>
    exact hboth (head?_of_operator hp hc hu) (.operator hc hu hv hu' hv' h)

/-- The characters of a numeral. -/
def isNumeral (c : Char) : Bool := isAsciiDigit c || c == ',' || c == '.'

theorem inner_isNumeral : Inner isNumeral :=
  (inner_isAsciiDigit.or (inner_char (by decide) (by decide))).or
    (inner_char (by decide) (by decide))

theorem numeral_stop {point : Bool} (h : t.head?.any isNumeral = false) :
    numeral point t = ([], t) := by
  cases t with
  | nil => rfl
  | cons c t =>
    simp only [List.head?_cons, Option.any_some, isNumeral, Bool.or_eq_false_iff] at h
    simp [numeral, h]

theorem numeral (h : Loose t t') (point : Bool) :
    (numeral point t').1 = (numeral point t).1 ∧
      Loose (numeral point t).2 (numeral point t').2 := by
  have hboth {w w' : Text} {point : Bool} (hw : w.head?.any isNumeral = false) (h : Loose w w') :
      (Token.numeral point w').1 = (Token.numeral point w).1 ∧
        Loose (Token.numeral point w).2 (Token.numeral point w').2 := by
    rw [numeral_stop hw, numeral_stop (by rw [h.head?_any inner_isNumeral, hw])]
    exact ⟨rfl, h⟩
  induction h generalizing point with
  | nil => exact ⟨rfl, .nil⟩
  | keep c h ih =>
    rw [Token.numeral, Token.numeral]
    split
    · exact ⟨congrArg (c :: ·) (ih point).1, (ih point).2⟩
    · split
      · exact ⟨congrArg (c :: ·) (ih true).1, (ih true).2⟩
      · exact ⟨rfl, .keep c h⟩
  | gap hu hu' hb hb' h => exact hboth (head?_of_gap inner_isNumeral hu hb) (.gap hu hu' hb hb' h)
  | operator hc hu hv hu' hv' h =>
    exact hboth (head?_of_operator inner_isNumeral hc hu) (.operator hc hu hv hu' hv' h)

/-! ## Tokens -/

/-- The same token or none, with such texts behind it, or the same failure. -/
inductive Next : Result (Option Token × Text) → Result (Option Token × Text) → Prop
  | ok (token : Option Token) {r s : Text} : Loose r s → Next (.ok (token, r)) (.ok (token, s))
  | error (f : Failure) : Next (.error f) (.error f)

theorem next_map {α : Type} {x : Result α} {f g : α → Option Token × Text}
    (hf : ∀ a, (g a).1 = (f a).1 ∧ Loose (f a).2 (g a).2) : Next (x.map f) (x.map g) := by
  cases x with
  | error e => exact .error e
  | ok a =>
    obtain ⟨htoken, hrest⟩ := hf a
    show Next (.ok ((f a).1, (f a).2)) (.ok ((g a).1, (g a).2))
    rw [htoken]
    exact .ok _ hrest

theorem next_equals (f g : Text → Result (Option Token × Text))
    (hf : ∀ {a b}, Loose a b → Next (f a) (f b)) : Loose r s → Next (g r) (g s) →
    Next (match r with | '=' :: r => f r | r => g r)
      (match s with | '=' :: r => f r | r => g r) := by
  intro h hg
  rcases h.head_cases (inner_char (d := '=') (by decide) (by decide)) with
    ⟨a, b, rfl, rfl, hab⟩ | ⟨hr, hs⟩
  · exact hf hab
  · split
    · exact absurd rfl hr
    · split
      · exact absurd rfl hs
      · exact hg

theorem next (h : Loose r s) (c : Char) : Next (next c r) (next c s) := by
  unfold Token.next
  split
  · exact .ok none h
  split
  · obtain ⟨hn, hr⟩ := h.numeral (c == '.')
    dsimp only
    rw [hn]
    refine next_map fun v => ?_
    rcases hr.head_cases (inner_char (d := '%') (by decide) (by decide)) with
      ⟨a, b, ha, hb, hab⟩ | ⟨ha, hb⟩
    · rw [ha, hb]
      exact ⟨rfl, hab⟩
    · split
      · next he => exact absurd (by rw [he]; rfl) hb
      · split
        · next he => exact absurd (by rw [he]; rfl) ha
        · exact ⟨rfl, hr⟩
  split
  · obtain ⟨hn, hr⟩ := h.numeral false
    rw [h.head?_any (inner_isAsciiDigit.or (inner_char (by decide) (by decide))), hn]
    split
    · exact next_map fun v => ⟨rfl, hr⟩
    · exact .error _
  split
  · obtain ⟨htake, hdrop⟩ := h.span inner_isAsciiDigit
    rw [htake]
    dsimp only
    split
    · exact .error _
    · split
      · exact .ok _ hdrop
      · exact .error _
  split
  · exact .ok _ h
  split
  · exact next_equals
      (fun r => .ok (some (symbol (if c == '>' then .greaterEq else .lessEq)), r))
      (fun r => .ok (some (symbol (if c == '>' then .greater else .less)), r)) (.ok _) h (.ok _ h)
  split
  · exact next_equals (fun r => .ok (some (symbol .equal), r)) (fun r => .ok (none, r)) (.ok _)
      h (.ok _ h)
  split
  · exact next_equals (fun r => .ok (some (symbol .notEqual), r)) (fun _ => .error _) (.ok _)
      h (.error _)
  split
  · obtain ⟨htake, hdrop⟩ := h.span inner_continuesWord
    rw [htake]
    exact .ok _ hdrop
  · exact .error _

theorem scanFrom_blanks (hu : u.all isBlank = true) : scanFrom (u ++ r) = scanFrom r := by
  induction u with
  | nil => rfl
  | cons c u ih =>
    simp only [List.all_cons, Bool.and_eq_true] at hu
    have hnext : Token.next c (u ++ r) = .ok (none, u ++ r) := if_pos hu.1
    rw [List.cons_append, scanFrom_cons, hnext]
    dsimp only
    rw [ih hu.2]
    cases scanFrom r <;> rfl

theorem next_operator {c : Char} {symbol : Symbol} (hc : Symbol.ofChar? c = some symbol) :
    Token.next c r = .ok (some (.symbol symbol), r) := by
  unfold Symbol.ofChar? at hc
  split at hc <;> cases hc <;> rfl

theorem scanFrom_operator {c : Char} {symbol : Symbol} (hc : Symbol.ofChar? c = some symbol)
    (hu : u.all isBlank = true) (hv : v.all isBlank = true) : scanFrom (u ++ c :: (v ++ r)) =
      (scanFrom r).map fun ts => .symbol symbol :: ts := by
  rw [scanFrom_blanks hu, scanFrom_cons, next_operator hc]
  dsimp only
  rw [scanFrom_blanks hv]
  rfl

/-- The tokens are the same. -/
theorem scanFrom_eq (h : Loose t t') : scanFrom t' = scanFrom t := by
  induction hn : t.length using Nat.strongRecOn generalizing t t' with
  | ind n ih =>
    cases h with
    | nil => rfl
    | @keep c r s h =>
      rw [scanFrom_cons, scanFrom_cons]
      have hnext := h.next c
      generalize hr : Token.next c r = x at hnext
      generalize Token.next c s = y at hnext
      cases hnext with
      | error => rfl
      | ok token hrest =>
        have hle := length_next_le hr
        dsimp only at hle ⊢
        rw [ih _ (by rw [← hn, List.length_cons]; omega) hrest rfl]
    | @gap u u' r s hu hu' hb hb' h =>
      have hpos := List.length_pos_iff.2 hu
      rw [scanFrom_blanks hb, scanFrom_blanks hb',
        ih r.length (by rw [← hn, List.length_append]; omega) h rfl]
    | @operator c u v u' v' r s hc hu hv hu' hv' h =>
      obtain ⟨symbol, hsymbol⟩ := Option.isSome_iff_exists.1 hc
      rw [scanFrom_operator hsymbol hu hv, scanFrom_operator hsymbol hu' hv',
        ih r.length (by simp only [← hn, List.length_append, List.length_cons]; omega) h rfl]

end Loose

/-! ## Digits -/

/-- All digits are ASCII digits. -/
def AsciiDigits (t : Text) : Prop := ∀ c ∈ t, isDigit c = true → isAsciiDigit c = true

theorem AsciiDigits.append (ht : AsciiDigits t) (hu : AsciiDigits u) : AsciiDigits (t ++ u) :=
  fun c hc => (List.mem_append.1 hc).elim (ht c) (hu c)

theorem AsciiDigits.of_all (h : t.all p = true)
    (hp : ∀ c, p c = true → isDigit c = true → isAsciiDigit c = true) : AsciiDigits t :=
  fun c hc => hp c (List.all_eq_true.1 h c hc)

theorem all_numeral (point : Bool) (t : Text) : (numeral point t).1.all Loose.isNumeral = true := by
  induction t generalizing point with
  | nil => rfl
  | cons c t ih =>
    rw [numeral]
    split
    · next hc => simp only [List.all_cons, ih, Loose.isNumeral, hc, Bool.true_or, Bool.and_true]
    · split
      · next hc =>
        simp only [Bool.and_eq_true] at hc
        simp only [List.all_cons, ih, Loose.isNumeral, hc.1, Bool.or_true, Bool.and_true]
      · rfl

theorem asciiDigits_numeral (point : Bool) (t : Text) : AsciiDigits (numeral point t).1 :=
  .of_all (all_numeral point t) fun d hd hdigit => by
    simp only [Loose.isNumeral, Bool.or_eq_true, beq_iff_eq] at hd
    rcases hd with (hd | rfl) | rfl
    · exact hd
    · cases hdigit
    · cases hdigit

theorem asciiDigits_of_continuesWord {d : Char} (h : continuesWord d = true)
    (hd : isDigit d = true) : isAsciiDigit d = true := by
  rw [continuesWord, not_isLetter_of_isDigit hd, Bool.false_or, Bool.or_eq_true] at h
  rcases h with h | h
  · exact h
  · rw [beq_iff_eq.1 h] at hd
    cases hd

/-- What a token takes behind its first character holds no digits but ASCII digits. -/
theorem next_takes {c : Char} {token : Option Token} {rest : Text}
    (h : next c r = .ok (token, rest)) : ∃ w, r = w ++ rest ∧ AsciiDigits w := by
  have hnothing : ∃ w, r = w ++ r ∧ AsciiDigits w := ⟨[], rfl, nofun⟩
  have hnumeral (point : Bool) :
      ∃ w, r = w ++ (numeral point r).2 ∧ AsciiDigits w :=
    ⟨_, (numeral_append point r).symm, asciiDigits_numeral point r⟩
  have htake {q : Char → Bool} (hq : ∀ d, q d = true → isDigit d = true → isAsciiDigit d = true) :
      ∃ w, r = w ++ r.dropWhile q ∧ AsciiDigits w :=
    ⟨r.takeWhile q, List.takeWhile_append_dropWhile.symm, .of_all List.all_takeWhile hq⟩
  have hmark {d : Char} (hd : isDigit d = false) : AsciiDigits [d] := fun e he hde => by
    rw [List.mem_singleton.1 he, hd] at hde
    cases hde
  have hequals {f g : Text → Result (Option Token × Text)}
      (hf : ∀ a, f a = .ok (token, rest) → rest = a) (hg : g r = .ok (token, rest) → rest = r) :
      ((∃ a, r = '=' :: a ∧ f a = .ok (token, rest)) ∨
        r.head? ≠ some '=' ∧ g r = .ok (token, rest)) → ∃ w, r = w ++ rest ∧ AsciiDigits w := by
    rintro (⟨a, ha, h⟩ | ⟨-, h⟩)
    · exact ⟨['='], by rw [ha, hf a h]; rfl, hmark (by decide)⟩
    · exact ⟨[], by rw [hg h]; rfl, nofun⟩
  unfold next at h
  split at h
  · cases h
    exact hnothing
  split at h
  · obtain ⟨v, -, hv⟩ := Result.map_eq_ok.1 h
    obtain ⟨w, hw, hascii⟩ := hnumeral (c == '.')
    split at hv
    · next hp =>
      cases hv
      exact ⟨w ++ ['%'], by rw [List.append_assoc, hw, hp]; rfl, hascii.append (hmark (by decide))⟩
    · cases hv
      exact ⟨w, hw, hascii⟩
  split at h
  · split at h
    · obtain ⟨v, -, hv⟩ := Result.map_eq_ok.1 h
      cases hv
      exact hnumeral false
    · cases h
  split at h
  · dsimp only at h
    split at h
    · cases h
    · split at h
      · cases h
        exact htake fun _ hd _ => hd
      · cases h
  split at h
  · cases h
    exact hnothing
  split at h
  · exact hequals (f := fun r => .ok (some (symbol (if c == '>' then .greaterEq else .lessEq)), r))
      (g := fun r => .ok (some (symbol (if c == '>' then .greater else .less)), r))
      (fun a ha => by cases ha; rfl) (fun hr => by cases hr; rfl) (equals_iff.1 h)
  split at h
  · exact hequals (f := fun r => .ok (some (symbol .equal), r)) (g := fun r => .ok (none, r))
      (fun a ha => by cases ha; rfl) (fun hr => by cases hr; rfl) (equals_iff.1 h)
  split at h
  · exact hequals (f := fun r => .ok (some (symbol .notEqual), r))
      (g := fun _ => .error (.lex .bareBang)) (fun a ha => by cases ha; rfl) nofun (equals_iff.1 h)
  split at h
  · cases h
    exact htake fun _ => asciiDigits_of_continuesWord
  · cases h

/-- A text that has tokens has ASCII digits only. -/
theorem asciiDigits_of_scanFrom {ts : List Token} (h : scanFrom t = .ok ts) : AsciiDigits t := by
  induction hn : t.length using Nat.strongRecOn generalizing t ts with
  | ind n ih =>
    cases t with
    | nil => exact nofun
    | cons c r =>
      rw [scanFrom_cons] at h
      split at h
      · cases h
      · next token rest hnext =>
        obtain ⟨us, hus, -⟩ := Result.map_eq_ok.1 h
        obtain ⟨w, rfl, hascii⟩ := next_takes hnext
        have hlt : rest.length < n := by
          rw [← hn, List.length_cons, List.length_append]
          omega
        refine List.forall_mem_cons.2 ⟨fun hdigit => ?_, hascii.append (ih _ hlt hus rfl)⟩
        cases ha : isAsciiDigit c with
        | true => rfl
        | false =>
          rw [next_of_isDigit hdigit ha] at hnext
          cases hnext

/-! ## Pasted operators -/

variable {b b' : Text} {c : Char}

/-- What a sign is read as. -/
def signBetween (b : Text) (c : Char) (r : Text) : Char :=
  if (c == 'x' || c == 'X') && (nearest b).any endsFactor && (nearest r).any beginsFactor then '*'
  else c

theorem multiplySigns_sign :
    multiplySigns b (c :: r) = signBetween b c r :: multiplySigns (c :: b) r := rfl

/-- What stands in front of a text matters by its last character but blanks. -/
theorem multiplySigns_congr (h : nearest b' = nearest b) :
    multiplySigns b' t = multiplySigns b t := by
  induction t generalizing b b' with
  | nil => rfl
  | cons c t ih =>
    rw [multiplySigns_sign, multiplySigns_sign, signBetween, signBetween, h,
      ih (b := c :: b) (by rw [nearest_cons, nearest_cons, h])]

theorem nearest_blanks (hu : u.all isBlank = true) : nearest (u ++ t) = nearest t := by
  induction u with
  | nil => rfl
  | cons c u ih =>
    simp only [List.all_cons, Bool.and_eq_true] at hu
    rw [List.cons_append, nearest_cons, if_pos hu.1, ih hu.2]

theorem multiplySigns_blanks (hu : u.all isBlank = true) :
    multiplySigns b (u ++ t) = u ++ multiplySigns b t := by
  induction u with
  | nil => rfl
  | cons c u ih =>
    simp only [List.all_cons, Bool.and_eq_true] at hu
    have hsign : signBetween b c (u ++ t) = c := by
      have hx : (c == 'x' || c == 'X') = false := by
        simp only [Bool.or_eq_false_iff, beq_eq_false_iff_ne]
        constructor <;>
        · rintro rfl
          exact absurd hu.1 (by decide)
      rw [signBetween, hx]
      rfl
    rw [List.cons_append, multiplySigns_sign, hsign,
      multiplySigns_congr (b := b) (by rw [nearest_cons, if_pos hu.1]), ih hu.2]
    rfl

/-- Blanks around a sign decide nothing about it. -/
theorem multiplySigns_spaced (hu : u.all isBlank = true) (hv : v.all isBlank = true) :
    multiplySigns b (u ++ c :: (v ++ t)) =
      u ++ signBetween b c t :: (v ++ multiplySigns (c :: b) t) := by
  rw [multiplySigns_blanks hu, multiplySigns_sign, multiplySigns_blanks hv, signBetween, signBetween,
    nearest_blanks hv]

theorem map_plainSign_of_blanks (hu : u.all isBlank = true) : u.map plainSign = u := by
  have hid : ∀ c ∈ u, plainSign c = c := fun c hc => by
    have hb := List.all_eq_true.1 hu c hc
    unfold plainSign
    split <;> first | rfl | exact absurd hb (by decide)
  rw [List.map_congr_left hid, List.map_id']

/-! ## Replacing blanks -/

/-- Between `b` (reversed) and `r`, a text is exchanged for one with other blanks. -/
inductive Respaced (b r : Text) : Text → Text → Prop
  | gap {u u' : Text} : u ≠ [] → u' ≠ [] → u.all isBlank = true → u'.all isBlank = true →
      Respaced b r u u'
  | operator {c : Char} {u v p q : Text} : isBlank c = false → isDigit c = false →
      (AsciiDigits b → AsciiDigits r →
        isOperator (signBetween (b.map plainSign) (plainSign c) (r.map plainSign)) = true) →
      u.all isBlank = true → v.all isBlank = true → p.all isBlank = true →
      q.all isBlank = true → Respaced b r (u ++ c :: v) (p ++ c :: q)

theorem isBlank_plainSign (c : Char) : isBlank (plainSign c) = isBlank c := by
  unfold plainSign
  split <;> rfl

/-- What exchanging blanks keeps of the text behind `b` (reversed). -/
structure LooseBehind (b t t' : Text) : Prop where
  digits : ∀ c, isDigit c = true → (c ∈ t' ↔ c ∈ t)
  nearest_eq : nearest (t'.map plainSign) = nearest (t.map plainSign)
  loose : AsciiDigits b → AsciiDigits t → Loose (multiplySigns (b.map plainSign) (t.map plainSign))
    (multiplySigns (b.map plainSign) (t'.map plainSign))

namespace LooseBehind

theorem nil : LooseBehind b [] [] := ⟨fun _ _ => Iff.rfl, rfl, fun _ _ => .nil⟩

theorem cons (h : LooseBehind (c :: b) r s) : LooseBehind b (c :: r) (c :: s) where
  digits d hd := by rw [List.mem_cons, List.mem_cons, h.digits d hd]
  nearest_eq := by rw [List.map_cons, List.map_cons, nearest_cons, nearest_cons, h.nearest_eq]
  loose hb ht := by
    have hc : AsciiDigits (c :: b) := fun d hd => by
      rcases List.mem_cons.1 hd with rfl | hd
      · exact ht d List.mem_cons_self
      · exact hb d hd
    have hr : AsciiDigits r := fun d hd => ht d (List.mem_cons_of_mem _ hd)
    rw [List.map_cons, List.map_cons, multiplySigns_sign, multiplySigns_sign, signBetween,
      signBetween, h.nearest_eq]
    exact .keep _ (h.loose hc hr)

theorem prepend (w : Text) (h : LooseBehind (w.reverse ++ b) r s) :
    LooseBehind b (w ++ r) (w ++ s) := by
  induction w generalizing b with
  | nil => exact h
  | cons c w ih => exact (ih (by simpa using h)).cons

theorem notMem_of_blanks (hu : u.all isBlank = true) {d : Char} (hd : isDigit d = true) : d ∉ u :=
  fun hm => by
    have hb := List.all_eq_true.1 hu d hm
    rw [not_isBlank_of_isDigit hd] at hb
    cases hb

theorem append (hw : Respaced b r u u') (h : LooseBehind (u.reverse ++ b) r s) :
    LooseBehind b (u ++ r) (u' ++ s) := by
  have hascii (hb : AsciiDigits b) (ht : AsciiDigits (u ++ r)) :
      AsciiDigits (u.reverse ++ b) ∧ AsciiDigits r := by
    refine ⟨AsciiDigits.append (fun d hd => ?_) hb, fun d hd => ht d (List.mem_append_right _ hd)⟩
    exact ht d (List.mem_append_left _ (List.mem_reverse.1 hd))
  cases hw with
  | gap hu hu' hb hb' =>
    refine ⟨fun d hd => ?_, ?_, fun hbefore ht => ?_⟩
    · simp only [List.mem_append, notMem_of_blanks hb hd, notMem_of_blanks hb' hd, false_or,
        h.digits d hd]
    · rw [List.map_append, List.map_append, map_plainSign_of_blanks hb, map_plainSign_of_blanks hb',
        nearest_blanks hb, nearest_blanks hb', h.nearest_eq]
    · obtain ⟨hbehind, hr⟩ := hascii hbefore ht
      have hnear : nearest (b.map plainSign) = nearest ((u.reverse ++ b).map plainSign) := by
        have hrev : u.reverse.all isBlank = true := by rwa [List.all_reverse]
        rw [List.map_append, map_plainSign_of_blanks hrev, nearest_blanks hrev]
      rw [List.map_append, List.map_append, map_plainSign_of_blanks hb, map_plainSign_of_blanks hb',
        multiplySigns_blanks hb, multiplySigns_blanks hb', multiplySigns_congr hnear,
        multiplySigns_congr hnear]
      exact .gap hu hu' hb hb' (h.loose hbehind hr)
  | @operator c u v u' v' hc hd hop hu hv hu' hv' =>
    have hsplit {u v w : Text} : u ++ c :: v ++ w = u ++ c :: (v ++ w) := by simp
    have hmap {u v w : Text} (hu : u.all isBlank = true) (hv : v.all isBlank = true) :
        (u ++ c :: (v ++ w)).map plainSign = u ++ plainSign c :: (v ++ w.map plainSign) := by
      rw [List.map_append, List.map_cons, List.map_append, map_plainSign_of_blanks hu,
        map_plainSign_of_blanks hv]
    have hblank : ¬isBlank (plainSign c) = true := by rw [isBlank_plainSign, hc]; exact nofun
    refine ⟨fun d hdigit => ?_, ?_, fun hbefore ht => ?_⟩
    · have hne : d ≠ c := by
        rintro rfl
        rw [hd] at hdigit
        cases hdigit
      simp only [List.mem_append, List.mem_cons, hne, notMem_of_blanks hu hdigit,
        notMem_of_blanks hv hdigit, notMem_of_blanks hu' hdigit, notMem_of_blanks hv' hdigit,
        false_or, or_false, h.digits d hdigit]
    · rw [hsplit, hsplit, hmap hu hv, hmap hu' hv', nearest_blanks hu, nearest_blanks hu',
        nearest_cons, nearest_cons, if_neg hblank, if_neg hblank]
    · obtain ⟨hbehind, hr⟩ := hascii hbefore ht
      have hnear : nearest (plainSign c :: b.map plainSign) =
          nearest (((u ++ c :: v).reverse ++ b).map plainSign) := by
        have hrev : v.reverse.all isBlank = true := by rwa [List.all_reverse]
        rw [List.reverse_append, List.reverse_cons, List.append_assoc, List.append_assoc,
          List.map_append, map_plainSign_of_blanks hrev, nearest_blanks hrev]
        show _ = nearest (plainSign c :: _)
        rw [nearest_cons, nearest_cons, if_neg hblank, if_neg hblank]
      rw [hsplit, hsplit, hmap hu hv, hmap hu' hv', multiplySigns_spaced hu hv,
        multiplySigns_spaced hu' hv', multiplySigns_congr hnear, multiplySigns_congr hnear]
      have hsame : signBetween (b.map plainSign) (plainSign c) (s.map plainSign) =
          signBetween (b.map plainSign) (plainSign c) (r.map plainSign) := by
        rw [signBetween, signBetween, h.nearest_eq]
      rw [hsame]
      exact .operator (hop hbefore hr) hu hv hu' hv' (h.loose hbehind hr)

end LooseBehind

/-- Replacing that exchanges blanks. -/
theorem looseBehind_replaceAll {p : Pattern} {f : Match → Text} (t : Text)
    (h : ∀ b r m, m.text ≠ [] → p.matchAt ⟨b, m.text ++ r⟩ = some m → m.stop.after = r →
      Respaced b r m.text (f m)) : LooseBehind [] t (p.replaceAll f t) :=
  Pattern.replaceAll_induction (motive := LooseBehind) (fun _ => .nil) (fun _ _ _ _ hr => hr.cons)
    (fun b r _ m hne hm hs hr => hr.append (h b r m hne hm hs)) t

end Token

namespace Spacing

open Token Pattern

variable {t : Text} {rule : Rule}

/-! ## Setting blanks -/

theorem looseBehind_squeeze (t : Text) : LooseBehind [] (trim t) (squeeze t) :=
  looseBehind_replaceAll _ fun _ _ _ hne hm _ =>
    .gap hne (by simp) (List.all_eq_true.2 (matchAt_blanks hm)) (by decide)

/-- The sign of a rule is an operator, or becomes one between two factors. -/
theorem rules_operator : ∀ rule ∈ rules,
    (isBlank rule.sign = false ∧ isDigit rule.sign = false) ∧
      ((∀ b r, isOperator (signBetween b (plainSign rule.sign) r) = true) ∨
        rule = ⟨isOperandEnd, 'x', one isDigit⟩) := by
  have hoperator {c : Char} (hx : (c == 'x' || c == 'X') = false) (hc : isOperator c = true)
      (b r : Text) : isOperator (signBetween b c r) = true := by
    rw [signBetween, hx]
    exact hc
  intro rule hrule
  simp only [rules, List.mem_cons, List.not_mem_nil, or_false] at hrule
  rcases hrule with rfl | rfl | rfl | rfl | rfl | rfl | rfl | rfl
  case inr.inr.inl => exact ⟨by decide, .inr rfl⟩
  all_goals exact ⟨by decide, .inl (hoperator (by decide) (by decide))⟩

/-- Between the end of an operand and a digit, an `x` is a multiplication. -/
theorem isOperator_cross {b r : Text} {c d : Char} (hc : isOperandEnd c = true)
    (hd : isDigit d = true) (hb : AsciiDigits (c :: b)) (hr : AsciiDigits (d :: r)) :
    isOperator (signBetween ((c :: b).map plainSign) (plainSign 'x') ((d :: r).map plainSign)) =
      true := by
  have hfactor : plainSign c = c ∧ isBlank c = false ∧ endsFactor c = true := by
    simp only [isOperandEnd, Bool.or_eq_true, beq_iff_eq] at hc
    rcases hc with (hc | rfl) | rfl
    · refine ⟨plainSign_of_isDigit hc, not_isBlank_of_isDigit hc, ?_⟩
      rw [endsFactor, hb c List.mem_cons_self hc]
      rfl
    · decide
    · decide
  have hbegins : beginsFactor d = true := by
    rw [beginsFactor, hr d List.mem_cons_self hd]
    rfl
  have hnotBlank : ¬isBlank c = true := by simp [hfactor.2.1]
  have hnotBlank' : ¬isBlank d = true := by simp [not_isBlank_of_isDigit hd]
  rw [List.map_cons, List.map_cons, hfactor.1, plainSign_of_isDigit hd, signBetween, nearest_cons,
    nearest_cons, if_neg hnotBlank, if_neg hnotBlank', Option.any_some, Option.any_some, hfactor.2.2,
    hbegins]
  decide

/-! ## Tokens -/

theorem asciiDigits_of_toOption {ts : List Token}
    (h : (scanFrom (normalize t)).toOption = some ts) :
    AsciiDigits t := fun c hc hd =>
  asciiDigits_of_scanFrom (Result.eq_ok_of_toOption h) c
    ((respelled_multiplySigns _ _).mem hd ((respelled_plainSign t).mem hd hc)) hd

/-- Texts that differ in blanks have the same tokens, or both have none. -/
theorem toOption_scanFrom {t t' : Text} (h : LooseBehind [] t t') :
    (scanFrom (normalize t')).toOption = (scanFrom (normalize t)).toOption := by
  have hascii : AsciiDigits t → scanFrom (normalize t') = scanFrom (normalize t) :=
    fun ht => (h.loose nofun ht).scanFrom_eq
  cases hs : (scanFrom (normalize t)).toOption with
  | some ts => rw [hascii (asciiDigits_of_toOption hs), hs]
  | none =>
    cases hs' : (scanFrom (normalize t')).toOption with
    | none => rfl
    | some ts =>
      have ht : AsciiDigits t := fun c hc hd =>
        asciiDigits_of_toOption hs' c ((h.digits c hd).2 hc) hd
      rw [← hs', hascii ht, hs]

end Spacing

end Worksheet
