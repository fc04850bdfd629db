import Worksheet.Proofs.Copying
import Worksheet.Proofs.GroupedAmounts
import Worksheet.Proofs.ReadNumbers
import Worksheet.Proofs.ZoneNames

/-!
# Percentages in words and in formulas

A value can be changed by a percentage of itself in words, as in `increase V by P%` and
`V increased by P%`, and in a formula, as in `V + P%`.

**Theorem (`Percentage.answer_spoken`).** For all decimal numbers `V` and `P`, the text is the same
in either way. The same two numbers are read (`IsDecimal.real?_eq`, `IsDecimal.scanFrom_percent`),
the percent sign of the formula makes a hundredth of the second one, and the same operations are
done on them in the same order. Nothing is assumed about these operations.
-/

namespace Worksheet

open Text Result Literal Token

/-! ## Decimal numbers -/

theorem Literal.dropUnderscores_eq_self {t : Text} (h : '_' ∉ t) (digit : Bool) :
    dropUnderscores digit t = some t := by
  induction t generalizing digit with
  | nil => rfl
  | cons c t ih =>
    rw [List.mem_cons, not_or] at h
    rw [dropUnderscores, if_neg (Ne.symm h.1), ih h.2]
    · rfl
    · exact fun _ _ hc => absurd hc.symm h.1

/-- A decimal number without a sign: ASCII digits, one at least, with at most one point. -/
structure IsDecimal (t : Text) : Prop where
  chars : ∀ c ∈ t, isAsciiDigit c = true ∨ c = '.'
  point : t.count '.' ≤ 1
  digit : ∃ c ∈ t, isAsciiDigit c = true

namespace IsDecimal

variable {t r w z : Text}

/-- Either there is no point, or there are only digits on both sides of it. -/
theorem exists_eq (h : IsDecimal t) : (t ≠ [] ∧ t.all isAsciiDigit = true) ∨
    ∃ w z, t = w ++ '.' :: z ∧ w.all isAsciiDigit = true ∧ z.all isAsciiDigit = true ∧
      w ++ z ≠ [] := by
  obtain ⟨d, hd, hdigit⟩ := h.digit
  by_cases hpoint : '.' ∈ t
  · right
    obtain ⟨w, z, rfl⟩ := List.append_of_mem hpoint
    have hcount := h.point
    rw [List.count_append, List.count_cons_self] at hcount
    have hw : '.' ∉ w := List.count_eq_zero.1 (by omega)
    have hz : '.' ∉ z := List.count_eq_zero.1 (by omega)
    have hchars {u : Text} (hu : u ⊆ w ++ '.' :: z) (hp : '.' ∉ u) : u.all isAsciiDigit = true :=
      List.all_eq_true.2 fun c hc => (h.chars c (hu hc)).resolve_right fun he => hp (he ▸ hc)
    refine ⟨w, z, rfl, hchars (by simp) hw, hchars (by simp) hz, fun hnil => ?_⟩
    obtain ⟨rfl, rfl⟩ := List.append_eq_nil_iff.1 hnil
    obtain rfl := List.mem_singleton.1 hd
    cases hdigit
  · left
    refine ⟨List.ne_nil_of_mem hd, List.all_eq_true.2 fun c hc => ?_⟩
    exact (h.chars c hc).resolve_right fun he => hpoint (he ▸ hc)

theorem ne_nil (h : IsDecimal t) : t ≠ [] := by
  obtain ⟨c, hc, -⟩ := h.digit
  exact List.ne_nil_of_mem hc

/-- It is made up of characters that an amount may be shown with. -/
theorem all_isAmountChar (h : IsDecimal t) : t.all isAmountChar = true :=
  List.all_eq_true.2 fun c hc => by
    rcases h.chars c hc with hd | rfl
    · simp [isAmountChar, isGrouped, hd]
    · rfl

theorem all_isNumeric (h : IsDecimal t) : t.all Percentage.isNumeric = true :=
  List.all_eq_true.2 fun c hc => by
    rcases h.chars c hc with hd | rfl
    · exact Percentage.isNumeric_of_isDigit (isDigit_of_isAsciiDigit hd)
    · rfl

theorem ne_of_mem (h : IsDecimal t) {c d : Char} (hc : c ∈ t)
    (hd : Percentage.isNumeric d = false) : c ≠ d := by
  rintro rfl
  rw [List.all_eq_true.1 h.all_isNumeric c hc] at hd
  cases hd

/-- It is read as a decimal. -/
theorem exists_decimal (h : IsDecimal t) : ∃ d, decimal? t = some d := by
  refine Option.isSome_iff_exists.1 ?_
  rcases h.exists_eq with ⟨hne, hall⟩ | ⟨w, z, rfl, hw, hz, hne⟩
  · have hsplit : splitPoint t = (t, [], []) := by
      have h := splitPoint_digits (z := []) hall
      rwa [List.append_nil, show splitPoint [] = ([], [], []) from rfl, List.append_nil] at h
    rw [decimal?, hsplit]
    simp [hne, exponent?]
  · have hempty : (w.isEmpty && z.isEmpty) = false := by
      cases w <;> cases z <;> first | rfl | exact absurd rfl hne
    rw [decimal?, splitPoint_digits hw, Amount.splitPoint_places hz]
    simp [hempty, exponent?]

/-- A numeral that begins with it ends with it, if nothing that belongs to a numeral follows. -/
theorem numeral_eq (h : IsDecimal t) (hr : r.head?.any Loose.isNumeral = false) :
    numeral false (t ++ r) = (t, r) := by
  have hgrouped {u : Text} (hu : u.all isAsciiDigit = true) : u.all isGrouped = true :=
    List.all_eq_true.2 fun c hc => by simp [isGrouped, List.all_eq_true.1 hu c hc]
  rcases h.exists_eq with ⟨-, hall⟩ | ⟨w, z, rfl, hw, hz, -⟩
  · rw [numeral_grouped (hgrouped hall), Loose.numeral_stop hr, List.append_nil]
  · rw [List.append_assoc, List.cons_append, numeral_grouped (hgrouped hw), numeral,
      if_neg (by decide), if_pos (by decide), numeral_grouped (hgrouped hz),
      Loose.numeral_stop hr, List.append_nil]

/-- It is read as the double of the decimal. -/
theorem real?_eq (h : IsDecimal t) {d : Decimal} (hd : decimal? t = some d) :
    real? t = some d.toFloat := by
  have hpadding : trimBy isPadding t = t := trimBy_eq_self fun c hc => by
    rw [isPadding, not_isBlank_of_isAmountChar (List.all_eq_true.1 h.all_isAmountChar c hc),
      Bool.false_and]
  have hascii : asciiDigits t = t := by
    refine (List.map_congr_left fun c hc => ?_).trans (List.map_id t)
    rcases h.chars c hc with hdigit | rfl
    · exact (List.cons_eq_cons.1 (asciiDigits_of_digits (u := [c]) (by simpa using hdigit))).1
    · rfl
  have hunderscores : dropUnderscores false t = some t :=
    dropUnderscores_eq_self (fun hc => h.ne_of_mem hc (by decide) rfl) false
  have hsign : splitSign t = (false, t) := by
    unfold splitSign
    split
    · exact absurd rfl (h.ne_of_mem List.mem_cons_self (by decide))
    · exact absurd rfl (h.ne_of_mem List.mem_cons_self (by decide))
    · rfl
  have hname {l : Char} {w : Text} (hl : Percentage.isNumeric l = false) :
      (t.map Char.toLower == l :: w) = false := by
    obtain ⟨c, r, rfl⟩ := List.exists_cons_of_ne_nil h.ne_nil
    have hlower : c.toLower = c := by
      rcases h.chars c List.mem_cons_self with hc | rfl
      · exact toLower_plain.2.2 hc
      · rfl
    simp [hlower, h.ne_of_mem List.mem_cons_self hl]
  have hmagnitude : magnitude? t = some d.toFloat := by
    have hinf : (t.map Char.toLower == "inf".toList) = false := hname (by decide)
    have hinfinity : (t.map Char.toLower == "infinity".toList) = false := hname (by decide)
    have hnan : (t.map Char.toLower == "nan".toList) = false := hname (by decide)
    simp only [magnitude?, hinf, hinfinity, hnan, hd, Bool.or_self, Bool.false_eq_true, if_false,
      Option.map_some]
  rw [real?, hpadding, hascii, hunderscores]
  simp [hsign, hmagnitude]

/-! ## Its tokens -/

variable {d : Decimal}

theorem numeralValue_eq (h : IsDecimal t) (hd : decimal? t = some d) :
    numeralValue t = .ok d.toFloat := by
  have hcommas : t.filter (· != ',') = t :=
    List.filter_eq_self.2 fun c hc => bne_iff_ne.2 (h.ne_of_mem hc (by decide))
  rw [numeralValue, hcommas, hd]

theorem exists_cons (h : IsDecimal t) :
    ∃ c w, t = c :: w ∧ (isAsciiDigit c = true ∨ c = '.') := by
  obtain ⟨c, w, rfl⟩ := List.exists_cons_of_ne_nil h.ne_nil
  exact ⟨c, w, rfl, h.chars c List.mem_cons_self⟩

theorem scanFrom_number (h : IsDecimal t) (hd : decimal? t = some d) (hr : EndsAmount r) :
    scanFrom (t ++ r) = (scanFrom r).map fun ts => number d.toFloat false t :: ts := by
  have hvalue := h.numeralValue_eq hd
  have hnumeral := h.numeral_eq hr.1
  obtain ⟨c, w, rfl, hc⟩ := h.exists_cons
  exact Amount.scanFrom_of_numeral hc hnumeral hvalue hr

theorem scanFrom_percent (h : IsDecimal t) (hd : decimal? t = some d) :
    scanFrom (t ++ ['%']) = .ok [number (d.toFloat / 100) true (t ++ ['%'])] := by
  have hvalue := h.numeralValue_eq hd
  have hnumeral := h.numeral_eq (r := ['%']) rfl
  obtain ⟨c, w, rfl, hc⟩ := h.exists_cons
  obtain ⟨hblank, hfirst, hrest⟩ := Amount.numeral_tail hc hnumeral
  have hnext : next c (w ++ ['%']) =
      .ok (some (number (d.toFloat / 100) true (c :: w ++ ['%'])), []) := by
    unfold next
    rw [if_neg (by simp [hblank]), if_pos hfirst, hrest]
    dsimp only
    rw [hvalue]
    rfl
  rw [List.cons_append, scanFrom_cons, hnext]
  dsimp only
  rw [scanFrom.eq_def]
  rfl

end IsDecimal

namespace Percentage

open Pattern PhraseRule

variable {v p t : Text} {up : Bool}

/-- The value changed up or down by a percentage of itself. -/
def changed (up : Bool) (x y : Float) : Float :=
  if up then x * (1 + y / 100) else x * (1 - y / 100)

/-! ## The formula -/

/-- `V + P%`, or `V - P%`. -/
def formula (up : Bool) (v p : Text) : Text :=
  v ++ (if up then " + " else " - ").toList ++ p ++ ['%']

/-- A character that is the same in ASCII and is no sign of multiplication. -/
def isPlain (c : Char) : Bool := plainSign c == c && !isCross c

theorem all_isPlain_formula (hv : IsDecimal v) (hp : IsDecimal p) :
    (formula up v p).all isPlain = true := by
  have hdecimal {t : Text} (ht : IsDecimal t) : t.all isPlain = true :=
    List.all_eq_true.2 fun c hc => by
      have hamount := List.all_eq_true.1 ht.all_isAmountChar c hc
      simp [isPlain, plainSign_of_isAmountChar hamount, isCross_of_isAmountChar hamount]
  have hword : (if up then " + " else " - ").toList.all isPlain = true := by
    cases up <;> decide
  rw [formula, List.all_append, List.all_append, List.all_append, hdecimal hv, hdecimal hp, hword]
  rfl

theorem scan_formula {d k : Decimal} (hv : IsDecimal v) (hp : IsDecimal p)
    (hd : decimal? v = some d) (hk : decimal? p = some k) :
    scan (formula up v p) = .ok [
      Token.number d.toFloat false v,
      .symbol (if up then .plus else .minus),
      Token.number (k.toFloat / 100) true (p ++ ['%'])] := by
  have htight : Tight (formula up v p) := by
    obtain ⟨c, w, rfl, -⟩ := hv.exists_cons
    have hamount := List.all_eq_true.1 hv.all_isAmountChar c List.mem_cons_self
    refine ⟨by simpa [formula] using not_isBlank_of_isAmountChar hamount, ?_⟩
    rw [formula, List.getLast?_concat]
    rfl
  have hplain : ∀ c ∈ formula up v p, plainSign c = c ∧ isCross c = false := fun c hc => by
    simpa [isPlain] using List.all_eq_true.1 (all_isPlain_formula hv hp) c hc
  have hnormal : Token.normalize (formula up v p) = formula up v p := by
    have hcross : multiplySigns [] (formula up v p ++ []) = formula up v p ++ [] :=
      multiplySigns_of_notCross fun c hc => (hplain c hc).2
    rw [Token.normalize, List.map_congr_left fun c hc => (hplain c hc).1, List.map_id']
    rwa [List.append_nil] at hcross
  have hpieces : formula up v p =
      v ++ ([' '] ++ (if up then '+' else '-') :: ([' '] ++ (p ++ ['%']))) := by
    cases up <;> simp [formula]
  have hsymbol : Symbol.ofChar? (if up then '+' else '-') =
      some (if up then .plus else .minus) := by cases up <;> rfl
  rw [scan, htight.trim_eq, hnormal, hpieces, hv.scanFrom_number hd ⟨rfl, by simp⟩,
    Loose.scanFrom_operator hsymbol rfl rfl, hp.scanFrom_percent hk]
  rfl

/-- **The formula is worth the changed value**, whatever earlier lines there are. -/
theorem calculate_formula {d k : Decimal} (hv : IsDecimal v) (hp : IsDecimal p)
    (hd : decimal? v = some d) (hk : decimal? p = some k) (e : Earlier) :
    calculate e (formula up v p) = .ok {
      text := Amount.format (changed up d.toFloat k.toFloat) false
      value := some (changed up d.toFloat k.toFloat) } := by
  have hscan : scan (formula up v p) = _ := scan_formula hv hp hd hk
  rw [calculate, hscan, ok_bind, concernsCurrency_eq hscan, ok_bind]
  cases up <;> rfl

/-! ## The phrases -/

def verb (up : Bool) : String := if up then "increase" else "decrease"

/-- `increase V by P%` and `V increased by P%`, or the same with `decrease`. -/
def spoken (up : Bool) (v p : Text) : List Text := [
  (verb up).toList ++ ' ' :: v ++ " by ".toList ++ p ++ ['%'],
  v ++ ' ' :: (verb up).toList ++ "d by ".toList ++ p ++ ['%']]

/-- A phrase is answered by the rule that has its pattern. -/
theorem Phrase.run_of_plain {q : Phrase Figure} {f : Match → Result Text} {i : ℕ}
    {front back : List Pattern} (hq : q.Plain)
    (hrule : rules[i]? = some (onMatch (front ++ q.pattern :: back) f))
    (hfront : (patterns.take i).flatten ++ front ⊆ q.rivals) :
    ∃ m : Match, (∀ j, m.group? j = q.memory.lookup j) ∧ run rules q.text = (f m).map some := by
  obtain ⟨m, hm, hgroup⟩ := exists_search hq.fits
  rw [heard_of_plain hq] at hgroup
  obtain ⟨hbefore, hsame⟩ := List.append_subset.1 hfront
  have hanswer : onMatch (front ++ q.pattern :: back) f q.text q.text = (f m).map some := by
    rw [onMatch, List.findSome?_append,
      List.findSome?_eq_none_iff.2 fun p hp => search_rival (hsame hp), Option.none_or,
      List.findSome?_cons, hm]
  refine ⟨m, hgroup, ?_⟩
  rw [run_eq]
  exact firstAnswer_at (List.forall₂_take i (listens_patterns.imp fun _ _ => Listens.heeds))
    (fun ps hps p hp => search_rival (hbefore (List.mem_flatten.2 ⟨ps, hps, hp⟩))) hrule hanswer

/-- What the rule for increases makes of a match, or the rule for decreases. -/
def changeAnswer (up : Bool) (m : Match) : Result Text := do
  let value ← m.number 1
  let percent ← m.number 2
  return Amount.format (changed up value percent) false

theorem changeAnswer_eq {m : Match} {x y : Float} (hm : ∀ j, m.group? j = [(2, p), (1, v)].lookup j)
    (hx : real? v = some x) (hy : real? p = some y) :
    changeAnswer up m = .ok (Amount.format (changed up x y) false) := by
  have hv : m.number 1 = .ok x := by
    rw [Match.number, Match.group, hm, show [(2, p), (1, v)].lookup 1 = some v from rfl,
      Option.getD_some, hx]
  have hp : m.number 2 = .ok y := by
    rw [Match.number, Match.group, hm, show [(2, p), (1, v)].lookup 2 = some p from rfl,
      Option.getD_some, hy]
  rw [changeAnswer, hv, hp]
  rfl

section Figures

variable {v p : Figure} {x y : Float}

theorem text_changeBy : (Phrase.changeBy up v p).text =
    (verb up).toList ++ ' ' :: v.text ++ " by ".toList ++ p.text ++ ['%'] := by
  cases up <;>
    simp [Phrase.text, Phrase.fragments, Phrase.lead, Phrase.front, Phrase.rest, written_cons,
      written_nil, Fragment.text, verb]

theorem text_changedBy : (Phrase.changedBy up v p).text =
    v.text ++ ' ' :: (verb up).toList ++ "d by ".toList ++ p.text ++ ['%'] := by
  cases up <;>
    simp [Phrase.text, Phrase.fragments, Phrase.lead, Phrase.front, Phrase.rest, written_cons,
      written_nil, Fragment.text, verb]

/-- Both phrases are answered with the changed value. -/
theorem run_spoken (hv : v.Plain) (hp : p.Plain) (hx : real? v.text = some x)
    (hy : real? p.text = some y) : ∀ t ∈ spoken up v.text p.text,
      run rules t = .ok (some (Amount.format (changed up x y) false)) := by
  have hplain : ∀ z ∈ [v, p], z.Plain := by simp [hv, hp]
  have hrule (q : Phrase Figure) (front back : List Pattern)
      (hq : changeBy (verb up) = front ++ q.pattern :: back) : rules[if up then 3 else 2]? =
        some (onMatch (front ++ q.pattern :: back) (changeAnswer up)) := by
    rw [← hq]
    cases up <;> rfl
  intro t ht
  rcases List.mem_pair.1 ht with rfl | rfl
  · have hq := hrule (.changeBy up v p) [] [(Phrase.changedBy up v p).pattern] (by cases up <;> rfl)
    obtain ⟨m, hm, hrun⟩ := Phrase.run_of_plain (q := .changeBy up v p) hplain hq
      (by cases up <;> exact List.IsPrefix.subset ⟨_, rfl⟩)
    rw [← text_changeBy, hrun, changeAnswer_eq hm hx hy]
    rfl
  · have hq := hrule (.changedBy up v p) [(Phrase.changeBy up v p).pattern] [] (by cases up <;> rfl)
    obtain ⟨m, hm, hrun⟩ := Phrase.run_of_plain (q := .changedBy up v p) hplain hq
      (by cases up <;> exact List.IsPrefix.subset ⟨_, rfl⟩)
    rw [← text_changedBy, hrun, changeAnswer_eq hm hx hy]
    rfl

/-- What tells that an expression may be such a phrase. -/
def changeMarker (verb : String) : Pattern :=
  word verb ++ blanks ++ numeral ++ blanks ++ word "by" <|>
    numeral ++ blanks ++ word (verb ++ "d") ++ blanks ++ word "by"

theorem takesFirst_figure {w : Text} (hv : v.Plain) (hw : w.head?.any isNumeric = false) :
    numeral.TakesFirst v.text w := .many1 (Figure.all_isNumeric hv) v.ne_nil hw

/-- Both phrases are recognised for what they are. -/
theorem claims_spoken (hv : v.Plain) :
    ∀ t ∈ spoken up v.text p.text, claims t = true := by
  have hmarker : changeMarker (verb up) ∈ markers := by
    cases up <;> simp [markers, changeMarker, verb]
  have hclaims (q : Phrase Figure) {u w : Text} (hq : q.text = u ++ w)
      (hu : (changeMarker (verb up)).TakesFirst u w) : claims q.text = true := by
    obtain ⟨m, hm, -⟩ := hu.takes.exists_search
    have hlower : lower q.text = q.text := by
      rw [lower, lowerFrom_eq_self q.isSmall_text]
    rw [claims, hlower]
    refine List.any_eq_true.2 ⟨_, hmarker, ?_⟩
    rw [occurs, hq, hm]
    rfl
  intro t ht
  rcases List.mem_pair.1 ht with rfl | rfl
  · rw [← text_changeBy]
    refine hclaims _ (u := (verb up).toList ++ [' '] ++ v.text ++ [' '] ++ "by".toList)
      (w := ' ' :: (p.text ++ ['%'])) (by rw [text_changeBy]; simp) ?_
    exact .left (.seq (.seq (.seq (.seq (.word _) (.blank rfl (Phrase.head?_figure v)))
      (takesFirst_figure hv rfl)) (.blank rfl rfl)) (.word "by"))
  · rw [← text_changedBy]
    refine hclaims _ (u := v.text ++ [' '] ++ (verb up ++ "d").toList ++ [' '] ++ "by".toList)
      (w := ' ' :: (p.text ++ ['%'])) (by rw [text_changedBy]; simp) ?_
    have h : (numeral ++ blanks ++ word (verb up ++ "d") ++ blanks ++ word "by").TakesFirst
        (v.text ++ [' '] ++ (verb up ++ "d").toList ++ [' '] ++ "by".toList)
        (' ' :: (p.text ++ ['%'])) :=
      .seq (.seq (.seq (.seq (takesFirst_figure hv rfl) (.blank rfl (by cases up <;> rfl)))
        (.word _)) (.blank rfl rfl)) (.word "by")
    have hrespects : (word (verb up) ++ blanks ++ numeral ++ blanks ++ word "by").Respects
        inFigure '0' := by
      cases up <;>
        simp (disch := decide) [verb, numeral, blanks, respects_word, setsApart_isBlank,
          setsApart_isNumeric]
    -- The other form begins with a letter.
    obtain ⟨c, r, hr, hc⟩ := v.exists_cons
    rw [hr] at h ⊢
    exact .right (by cases up <;> rfl) (starts_of_respects hrespects (by cases up <;> decide)
      (inFigure_of_isNumeric hc)) h

end Figures

/-! ## They agree -/

/-- A decimal number as an amount of a phrase. -/
def figure (h : IsDecimal t) : Figure := .ofNumeric t h.ne_nil h.all_isNumeric

/-- **A change in words is the change in a formula.** For all decimal numbers, each of the phrases
is recognised and answered with the text that arithmetic has for the formula. -/
theorem answer_spoken (hv : IsDecimal v) (hp : IsDecimal p) (up : Bool) (s : Surroundings)
    (e : Earlier) : ∃ x y, real? v = some x ∧ real? p = some y ∧
      Evaluator.answer s e (formula up v p) .arithmetic = .ok (some {
        text := Amount.format (changed up x y) false, value := some (changed up x y) }) ∧
      ∀ t ∈ spoken up v p, Evaluator.claims .percentages t = true ∧
        Evaluator.answer s e t .percentages =
          .ok (some { text := Amount.format (changed up x y) false }) := by
  obtain ⟨d, hd⟩ := hv.exists_decimal
  obtain ⟨k, hk⟩ := hp.exists_decimal
  refine ⟨d.toFloat, k.toFloat, hv.real?_eq hd, hp.real?_eq hk, ?_, fun t ht => ⟨?_, ?_⟩⟩
  · rw [Evaluator.answer, calculate_formula hv hp hd hk]
    rfl
  · exact claims_spoken (v := figure hv) (p := figure hp) Figure.plain_ofNumeric t ht
  · have hrun := run_spoken (v := figure hv) (p := figure hp) Figure.plain_ofNumeric
      Figure.plain_ofNumeric (hv.real?_eq hd) (hp.real?_eq hk) t ht
    rw [Evaluator.answer, Evaluator.answerBy, hrun]
    rfl

/-- Eighty less half a percent. -/
theorem answer_spoken_half :
    let s : Surroundings := ⟨⟨0, none, false, by decide⟩, .fixed⟩
    IsDecimal "80".toList ∧ IsDecimal ".5".toList ∧
      (Evaluator.answer s [] "80 - .5%".toList .arithmetic).map (·.map (·.text)) =
        .ok (some "79.6".toList) ∧
      Evaluator.answer s [] "decrease 80 by .5%".toList .percentages =
        .ok (some { text := "79.6".toList }) ∧
      Evaluator.answer s [] "80 decreased by .5%".toList .percentages =
        .ok (some { text := "79.6".toList }) := by
  intro s
  have hv : IsDecimal "80".toList := ⟨by simp [isAsciiDigit], by decide, '8', by simp, by decide⟩
  have hp : IsDecimal ".5".toList := ⟨by simp [isAsciiDigit], by decide, '5', by simp, by decide⟩
  obtain ⟨x, y, hx, hy, hformula, hspoken⟩ := answer_spoken hv hp false s []
  have htext : Amount.format (changed false x y) false = "79.6".toList := by
    obtain rfl : 80 = x := Option.some.inj (hx ▸ by decide +kernel)
    obtain rfl : 0.5 = y := Option.some.inj (hy ▸ by decide +kernel)
    decide +kernel
  rw [htext] at hformula hspoken
  have hafter := (hspoken _ (List.mem_cons_of_mem _ List.mem_cons_self)).2
  refine ⟨hv, hp, ?_, (hspoken _ List.mem_cons_self).2, hafter⟩
  rw [show "80 - .5%".toList = formula false "80".toList ".5".toList from rfl, hformula]
  rfl

end Percentage

end Worksheet
