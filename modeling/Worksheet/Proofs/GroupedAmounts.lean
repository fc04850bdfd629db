import Worksheet.Proofs.Figures

/-!
# Phrases about percentages with grouped amounts

An evaluator is asked about percentages in seven ways (`Phrase`), with any amounts, any of them in
groups of three. The patterns take digits and points, and are searched for in the expression.

**The state of affairs.** An amount with words on both sides that belong to its pattern is
*enclosed*: a comma in it keeps the pattern from matching (`Phrase.exists_cut`). Of an amount at the
start of the pattern, what stands behind the last comma is heard, and of one at its end, what stands
in front of the first (`Phrase.heard`). A tip with a comma is passed over.

**How the proof goes.** What is heard is taken in the order of the pattern (`Phrase.takes`), behind
a comma that no pattern takes. No other pattern occurs in the outline of the phrase
(`Phrase.absent_rival`), but that of a share in the outline of `X is what % of Y`, where the percent
sign would have to follow a number. Two texts in which every pattern finds the same are answered the
same.

**Theorem (`Phrase.run_asWritten`).** A phrase is declined if there is a comma in an enclosed
amount, and else answered as the phrase that is heard, which is the phrase without commas only if it
has none.
-/

namespace Worksheet

open Text Pattern Result PhraseRule

namespace Percentage

/-! ## What the rules look for -/

def patterns : List (List Pattern) := [
  [shareOf], [whatPercent], changeBy "decrease", changeBy "increase", [percentChange], [tip],
  splitBill]

theorem listens_patterns : List.Forall₂ Listens rules patterns :=
  .cons ⟨_, rfl, fun _ _ h => by simp only [h.number]⟩ <|
  .cons ⟨_, rfl, fun _ _ h => by simp only [h.number]⟩ <|
  .cons ⟨_, rfl, fun _ _ h => by simp only [h.number]⟩ <|
  .cons ⟨_, rfl, fun _ _ h => by simp only [h.number]⟩ <|
  .cons ⟨_, rfl, fun _ _ h => by simp only [h.number]⟩ <|
  .cons ⟨_, rfl, fun _ _ h => by simp only [h.number]⟩ <|
  .cons ⟨_, rfl, fun _ _ h => by simp only [h.number, h.natural, h 3]⟩ .nil

theorem setsApart_isNumeric : SetsApart inFigure '0' isNumeric := .inl (by decide)

theorem setsApart_isDigit : SetsApart inFigure '0' isDigit := .inl (by decide)

theorem not_isBlank_of_inFigure {c : Char} (h : inFigure c = true) : isBlank c = false := by
  rw [inFigure, isNumeric, Bool.or_eq_true, Bool.or_eq_true] at h
  rcases h with (h | h) | h
  · exact not_isBlank_of_isDigit h
  · rw [beq_iff_eq.1 h]
    rfl
  · rw [beq_iff_eq.1 h]
    rfl

theorem setsApart_isBlank : SetsApart inFigure '0' isBlank := .inr fun _ => not_isBlank_of_inFigure

theorem respects_patterns : ∀ p ∈ patterns.flatten, p.Respects inFigure '0' := by
  simp (disch := decide) [patterns, shareOf, whatPercent, changeBy, percentChange, tip, splitBill,
    numeral, number, percent, dollar?, percentWord, withTip, ways, plural, blanks, blanks?, digits,
    char?, respects_word, respects_char, setsApart_isBlank, setsApart_isDigit, setsApart_isNumeric]

theorem avoids_patterns : ∀ p ∈ patterns.flatten, p.avoids ',' = true :=
  List.all_eq_true.1 (by decide +kernel)

/-- What may stand between the number of a share and `of`. -/
def isGap (c : Char) : Bool := isBlank c || c == '%'

theorem not_isGap_of_isNumeric {c : Char} (h : isNumeric c = true) : isGap c = false := by
  rw [isGap, Bool.or_eq_false_iff]
  refine ⟨not_isBlank_of_inFigure (inFigure_of_isNumeric h), beq_eq_false_iff_ne.2 ?_⟩
  rintro rfl
  exact absurd h (by decide)

/-- In a share, a number stands in front of `of`, with blanks and a percent sign between them. -/
theorem exists_of_spells_shareOf {w : Text} (h : shareOf.Spells w) : ∃ a n g e : Text,
    n ≠ [] ∧ n.all isNumeric = true ∧ g.all isGap = true ∧ w = a ++ n ++ g ++ 'o' :: e := by
  obtain ⟨_, v, ⟨_, d, ⟨_, b₃, ⟨_, f, ⟨_, b₂, ⟨_, c, ⟨_, b₁, ⟨a, n, -, hn, rfl⟩, hb₁, rfl⟩, hc,
    rfl⟩, hb₂, rfl⟩, hf, rfl⟩, -, rfl⟩, -, rfl⟩, -, rfl⟩ := h
  have hblanks {b : Text} {k : Nat} (hb : (Pattern.run isBlank k none true).Spells b) :
      b.all isGap = true := List.all_eq_true.2 fun e he => by
    rw [isGap, List.all_eq_true.1 hb.1 e he, Bool.true_or]
  have hsign : c.all isGap = true := by
    rcases hc with ⟨e, he, rfl⟩ | hc
    · rw [beq_iff_eq.1 he]
      rfl
    · rw [show c = [] from hc]
      rfl
  refine ⟨a, n, b₁ ++ c ++ b₂, 'f' :: (b₃ ++ d ++ v), List.length_pos_iff.1 hn.2.1, hn.1, ?_, ?_⟩
  · rw [List.all_append, List.all_append, hblanks hb₁, hsign, hblanks hb₂]
    rfl
  · rw [spells_word.1 hf, show "of".toList = 'o' :: ['f'] from rfl]
    simp only [List.append_assoc, List.cons_append, List.nil_append]

/-! ## Phrases in fragments -/

/-- A fragment of a phrase. -/
inductive Fragment where
  | word (w : String)
  | figure (x : Figure)
  | count (n : Text.Run isDigit)

namespace Fragment

def text : Fragment → Text
  | word w => w.toList
  | figure x => x.text
  | count n => n.text

/-- The fragment without its digits, points and commas. -/
def outline : Fragment → Text
  | word w => keep inFigure w.toList
  | figure _ | count _ => []

end Fragment

/-- The text of a phrase in fragments. -/
def written (ps : List Fragment) : Text := ps.flatMap Fragment.text

/-- The same in outline. -/
def outline (ps : List Fragment) : Text := ps.flatMap Fragment.outline

theorem written_nil : written [] = [] := rfl

theorem written_cons (f : Fragment) (fs : List Fragment) :
    written (f :: fs) = f.text ++ written fs := rfl

theorem keep_written (ps : List Fragment) : keep inFigure (written ps) = outline ps := by
  have hkeep (f : Fragment) : keep inFigure f.text = f.outline := by
    cases f with
    | word w => rfl
    | figure x => exact keep_of_all x.all
    | count n => exact keep_of_all (List.all_eq_true.2 fun c hc =>
        inFigure_of_isNumeric (isNumeric_of_isDigit (List.all_eq_true.1 n.all c hc)))
  induction ps with
  | nil => rfl
  | cons f ps ih =>
    rw [written, List.flatMap_cons, keep_append, hkeep, outline, List.flatMap_cons]
    exact congrArg (_ ++ ·) ih

/-- What may be asked about percentages. -/
inductive Phrase (α : Type) where
  /-- `what is P% of V`, or without the question. -/
  | share (asked : Bool) (percent value : α)
  /-- `X is what % of Y`. -/
  | ratio (part whole : α)
  /-- `increase V by P%`, or `decrease`. -/
  | changeBy (up : Bool) (value percent : α)
  /-- `V increased by P%`, or `decreased`. -/
  | changedBy (up : Bool) (value percent : α)
  /-- `percent change from A to B`. -/
  | change (old new : α)
  /-- `tip P% on $V`, or `P% tip on $V`. -/
  | tip (leading : Bool) (percent amount : α)
  /-- `split $V N ways`, or `$V split N ways`, and `with P% tip`. -/
  | split (leading : Bool) (amount : α) (ways : Text.Run isDigit) (tip : Option α)

namespace Phrase

variable {α β : Type}

def map (f : α → β) : Phrase α → Phrase β
  | share asked p v => share asked (f p) (f v)
  | ratio x y => ratio (f x) (f y)
  | changeBy up v p => changeBy up (f v) (f p)
  | changedBy up v p => changedBy up (f v) (f p)
  | change a b => change (f a) (f b)
  | tip leading p v => tip leading (f p) (f v)
  | split leading v n t => split leading (f v) n (t.map f)

/-- The amounts that the phrase has words in front of and behind, of which its pattern takes all. -/
def enclosed : Phrase α → List α
  | share _ _ _ | ratio _ _ | tip _ _ _ | split false _ _ _ => []
  | changeBy _ v p => [v, p]
  | changedBy _ _ p => [p]
  | change a _ => [a]
  | split true v _ _ => [v]

/-- All its amounts. -/
def amounts : Phrase α → List α
  | share _ x y | ratio x y | changeBy _ x y | changedBy _ x y | change x y | tip _ x y => [x, y]
  | split _ v _ t => v :: t.toList

/-- The words in front of the first amount. -/
def lead : Phrase α → String
  | share true _ _ => "what is "
  | changeBy true _ _ => "increase "
  | changeBy false _ _ => "decrease "
  | change _ _ => "percent change from "
  | tip true _ _ => "tip "
  | split true _ _ _ => "split $"
  | split false _ _ _ => "$"
  | share false _ _ | ratio _ _ | changedBy _ _ _ | tip false _ _ => ""

def front : Phrase α → α
  | share _ x _ | ratio x _ | changeBy _ x _ | changedBy _ x _ | change x _ | tip _ x _ => x
  | split _ x _ _ => x

/-- What follows the first amount. -/
def rest : Phrase Figure → List Fragment
  | share _ _ v => [.word "% of ", .figure v]
  | ratio _ y => [.word " is what % of ", .figure y]
  | changeBy _ _ p => [.word " by ", .figure p, .word "%"]
  | changedBy true _ p => [.word " increased by ", .figure p, .word "%"]
  | changedBy false _ p => [.word " decreased by ", .figure p, .word "%"]
  | change _ b => [.word " to ", .figure b]
  | tip true _ v => [.word "% on $", .figure v]
  | tip false _ v => [.word "% tip on $", .figure v]
  | split leading _ n t =>
    .word (if leading then " " else " split ") :: .count n :: .word " ways" ::
      match t with
      | none => []
      | some t => [.word " with ", .figure t, .word "% tip"]

def fragments (q : Phrase Figure) : List Fragment := .word q.lead :: .figure q.front :: q.rest

def text (q : Phrase Figure) : Text := written q.fragments

/-- The place of its pattern. -/
def rank : Phrase α → Nat
  | share _ _ _ => 0
  | ratio _ _ => 1
  | changeBy false _ _ => 2
  | changedBy false _ _ => 3
  | changeBy true _ _ => 4
  | changedBy true _ _ => 5
  | change _ _ => 6
  | tip _ _ _ => 7
  | split false _ _ _ => 8
  | split true _ _ _ => 9

/-- The pattern that it is recognised by. -/
def pattern (q : Phrase α) : Pattern := patterns.flatten.getD q.rank .nothing

/-- The other patterns. -/
def rivals (q : Phrase α) : List Pattern := patterns.flatten.eraseIdx q.rank

/-! ## What is heard -/

/-- The pattern may begin at the first amount. -/
def opens : Phrase α → Bool
  | share _ _ _ | ratio _ _ | changedBy _ _ _ | tip _ _ _ | split false _ _ _ => true
  | changeBy _ _ _ | change _ _ | split true _ _ _ => false

/-- What a pattern takes of the phrase, if it takes any of it. -/
def heard : Phrase Figure → Phrase Figure
  | share asked p v => share asked p.last v.first
  | ratio x y => ratio x.last y.first
  | changeBy up v p => changeBy up v p
  | changedBy up v p => changedBy up v.last p
  | change a b => change a b.first
  | tip leading p v => tip leading p.last v.first
  | split true v n t => split true v n (t.filter fun x => x.Plain)
  | split false v n t => split false v.last n (t.filter fun x => x.Plain)

/-- What the groups of its pattern remember, the latest first. -/
def memory : Phrase Figure → List (Nat × Text)
  | share _ x y | ratio x y | changeBy _ x y | changedBy _ x y | change x y | tip _ x y =>
    [(2, y.text), (1, x.text)]
  | split _ v n none => [(2, n.text), (1, v.text)]
  | split _ v n (some t) => [(3, t.text), (2, n.text), (1, v.text)]

/-- No amount has a comma. -/
def Plain (q : Phrase Figure) : Prop := ∀ x ∈ q.amounts, x.Plain

/-- No amount has a comma that has words in front of and behind it. -/
def Fits (q : Phrase Figure) : Prop := ∀ x ∈ q.enclosed, x.Plain

variable {q : Phrase Figure} {x y p v : Figure} {n : Text.Run isDigit} {l : String} {u w : Text}

theorem plain_heard (hq : q.Fits) : q.heard.Plain := by
  have htip (t : Option Figure) : ∀ x ∈ (t.filter fun x => decide x.Plain).toList, x.Plain := by
    intro x hx
    exact of_decide_eq_true (Option.filter_eq_some_iff.1 (Option.mem_toList.1 hx)).2
  cases q with
  | share asked p v => simp [Plain, heard, amounts, Figure.plain_first, Figure.plain_last]
  | ratio x y => simp [Plain, heard, amounts, Figure.plain_first, Figure.plain_last]
  | changeBy up v p => exact hq
  | changedBy up v p =>
    simpa [Plain, heard, amounts, Fits, enclosed, Figure.plain_last] using hq
  | change a b => simpa [Plain, heard, amounts, Fits, enclosed, Figure.plain_first] using hq
  | tip leading p v => simp [Plain, heard, amounts, Figure.plain_first, Figure.plain_last]
  | split leading v n t =>
    cases leading with
    | true => exact List.forall_mem_cons.2 ⟨hq v List.mem_cons_self, htip t⟩
    | false => exact List.forall_mem_cons.2 ⟨v.plain_last, htip t⟩

theorem enclosed_subset (q : Phrase α) : q.enclosed ⊆ q.amounts := by
  cases q with
  | split leading v n t => cases leading <;> simp [enclosed, amounts]
  | _ => simp [enclosed, amounts]

theorem Plain.fits (hq : q.Plain) : q.Fits := fun x hx => hq x (q.enclosed_subset hx)

/-- What is heard is the phrase without commas only if there are none. -/
theorem heard_eq_iff (q : Phrase Figure) : q.heard = q.map Figure.bare ↔ q.Plain := by
  have hbare (x : Figure) : x = x.bare ↔ x.Plain :=
    ⟨fun h => h ▸ x.plain_bare, fun h => (Figure.bare_of_plain h).symm⟩
  have htip (t : Option Figure) : (t.filter fun x => decide x.Plain) = t.map Figure.bare ↔
      ∀ x ∈ t, x.Plain := by
    cases t with
    | none => simp
    | some x =>
      by_cases hx : x.Plain
      · simp [hx, Figure.bare_of_plain hx]
      · simp [hx, hbare]
  cases q with
  | split leading v n t =>
    cases leading <;>
      simp [heard, map, Plain, amounts, htip, Figure.last_eq_bare_iff, hbare]
  | _ => simp [heard, map, Plain, amounts, Figure.first_eq_bare_iff, Figure.last_eq_bare_iff, hbare]

theorem map_eq_self {q : Phrase α} {f : α → α} (h : ∀ x ∈ q.amounts, f x = x) : q.map f = q := by
  cases q with
  | split leading v n t => cases t <;> simp_all [map, amounts]
  | _ => simp_all [map, amounts]

theorem heard_of_plain (hq : q.Plain) : q.heard = q :=
  (q.heard_eq_iff.2 hq).trans (map_eq_self fun x hx => Figure.bare_of_plain (hq x hx))

/-! ## No other rule recognises it -/

theorem absent_rival {r : Pattern} (hr : r ∈ q.rivals) :
    r.absent '0' (outline q.fragments) = true ∨ r = shareOf ∧ ∃ x y, q = ratio x y := by
  rcases q with ⟨_ | _, p, v⟩ | ⟨x, y⟩ | ⟨_ | _, v, p⟩ | ⟨_ | _, v, p⟩ | ⟨a, b⟩ | ⟨_ | _, p, v⟩ |
    ⟨_ | _, v, n, _ | t⟩
  case ratio =>
    rcases List.mem_cons.1 (show r ∈ shareOf :: patterns.flatten.drop 2 from hr) with rfl | hr
    · exact .inr ⟨rfl, x, y, rfl⟩
    · refine .inl (List.all_eq_true.1 ?_ r hr)
      simp only [fragments, lead, rest, outline, List.flatMap_cons, List.flatMap_nil,
        Fragment.outline]
      decide +kernel
  all_goals
    refine .inl (List.all_eq_true.1 ?_ r hr)
    simp only [rivals, rank, fragments, lead, rest, outline, List.flatMap_cons, List.flatMap_nil,
      Fragment.outline]
    decide +kernel

/-- In `X is what % of Y`, no number stands in front of the percent sign. -/
theorem not_shareOf_ratio (hw : shareOf.Spells w) : ¬w <:+: (ratio x y).text := by
  rintro ⟨s, t, h⟩
  obtain ⟨a, n, g, e, hne, hnumeric, hgap, rfl⟩ := exists_of_spells_shareOf hw
  have hleft : 'o' ∉ x.text ++ " is what".toList ++ " % ".toList := by
    rw [List.mem_append, List.mem_append, not_or, not_or]
    exact ⟨⟨x.notMem_text (by decide), by decide⟩, by decide⟩
  have hright : 'o' ∉ "f ".toList ++ y.text := by
    rw [List.mem_append, not_or]
    exact ⟨by decide, y.notMem_text (by decide)⟩
  have htext : (ratio x y).text =
      (x.text ++ " is what".toList ++ " % ".toList) ++ 'o' :: ("f ".toList ++ y.text) := by
    have hwords : " is what % of ".toList =
        " is what".toList ++ (" % ".toList ++ 'o' :: "f ".toList) := rfl
    show [] ++ (x.text ++ (" is what % of ".toList ++ (y.text ++ []))) = _
    rw [hwords]
    simp only [List.append_assoc, List.cons_append, List.append_nil, List.nil_append]
  have hcut : (x.text ++ " is what".toList ++ " % ".toList) ++ 'o' :: ("f ".toList ++ y.text) =
      (s ++ a ++ n ++ g) ++ 'o' :: (e ++ t) := by
    rw [← htext, ← h]
    simp only [List.append_assoc, List.cons_append]
  obtain ⟨hfront, -, -⟩ := (List.append_cons_inj_of_notMem hleft hright).1 hcut
  obtain ⟨hwhat, -⟩ := append_inj_of_getLast? hfront rfl hgap
    (getLast?_append_any (by decide) (by decide)) (getLast?_append_of_not hne fun c hc =>
      not_isGap_of_isNumeric (List.all_eq_true.1 hnumeric c hc))
  -- So the number would end in the last letter of `what`.
  have hend : (x.text ++ " is what".toList).getLast?.any (!isNumeric ·) = false := by
    rw [hwhat]
    refine getLast?_append_of_not hne fun c hc => ?_
    rw [List.all_eq_true.1 hnumeric c hc]
    rfl
  rw [List.getLast?_append_of_ne_nil _ (by decide)] at hend
  exact absurd hend (by decide)

theorem search_rival {r : Pattern} (hr : r ∈ q.rivals) : r.search q.text = none := by
  rcases absent_rival hr with habsent | ⟨rfl, x, y, rfl⟩
  · refine search_eq_none_of_outline (respects_patterns r (List.mem_of_mem_eraseIdx hr)) ?_
    rwa [text, keep_written]
  · exact search_eq_none fun _ => not_shareOf_ratio

/-! ## It is recognised if it fits -/

/-- What fails in front of a digit fails in front of a figure. -/
theorem fails_figure {r : Pattern} (hr : r.Respects inFigure '0') (hn : r.nullable = false)
    (hs : r.starts '0' = false) (x : Figure) : r.Fails (x.text ++ w) := by
  refine .of_respects hr hn hs ?_
  obtain ⟨c, t, ht, hc⟩ := x.exists_cons
  rw [ht]
  exact inFigure_of_isNumeric hc

theorem head?_figure (x : Figure) : (x.text ++ w).head?.any isBlank = false := by
  obtain ⟨c, t, ht, hc⟩ := x.exists_cons
  rw [ht]
  exact not_isBlank_of_inFigure (inFigure_of_isNumeric hc)

theorem head?_count (n : Text.Run isDigit) : (n.text ++ w).head?.any isBlank = false := by
  obtain ⟨c, t, ht⟩ := List.exists_cons_of_ne_nil n.ne
  rw [ht]
  exact not_isBlank_of_isDigit (List.all_eq_true.1 n.all c (by rw [ht]; exact List.mem_cons_self))

theorem takes_number (k : Nat) (hx : x.Plain) (hw : w.head?.any isNumeric = false) :
    (number k).Takes x.text w [(k, x.text)] :=
  .group k (.many1 (Figure.all_isNumeric hx) x.ne_nil hw)

theorem takes_share (hl : l = "what is " ∨ l = "") (hp : p.Plain) (hv : v.Plain)
    (hw : w.head?.any isNumeric = false) :
    shareOf.Takes (written [.word l, .figure p, .word "% of ", .figure v]) w
      [(2, v.text), (1, p.text)] := by
  have hlead {w : Text} : (opt (word "what" ++ blanks ++ word "is" ++ blanks)).TakesFirst l.toList
      (p.text ++ w) := by
    rcases hl with rfl | rfl
    · exact .opt (.seq (.seq (.seq (.word "what") (.blank rfl rfl)) (.word "is"))
        (.blank rfl (head?_figure p)))
    · exact .skip (fails_figure
        (by simp (disch := decide) [respects_word, blanks, setsApart_isBlank]) rfl rfl p)
  have hdollar : dollar?.TakesFirst [] (v.text ++ w) :=
    .skip (fails_figure (respects_char (by decide)) rfl rfl v)
  have h : shareOf.Takes (l.toList ++ p.text ++ [] ++ ['%'] ++ [' '] ++ "of".toList ++ [' '] ++
      [] ++ v.text) w ([(2, v.text)] ++ [(1, p.text)]) :=
    .seq (.before (.before (.before (.before (.before (.before (.after hlead
      (takes_number 1 hp rfl)) (.noBlanks rfl)) (.opt (.char '%'))) (.blank rfl rfl)) (.word "of"))
      (.blank rfl (head?_figure v))) hdollar) (takes_number 2 hv hw)
  simp only [List.append_assoc] at h
  simp only [written_cons, written_nil, Fragment.text, List.append_nil]
  exact h

theorem takes_ratio (hx : x.Plain) (hy : y.Plain) (hw : w.head?.any isNumeric = false) :
    whatPercent.Takes (written [.word "", .figure x, .word " is what % of ", .figure y]) w
      [(2, y.text), (1, x.text)] := by
  have h : whatPercent.Takes (x.text ++ [' '] ++ "is".toList ++ [' '] ++ "what".toList ++ [' '] ++
      ['%'] ++ [' '] ++ "of".toList ++ [' '] ++ y.text) w ([(2, y.text)] ++ [(1, x.text)]) :=
    .seq (.before (.before (.before (.before (.before (.before (.before (.before (.before
      (takes_number 1 hx rfl) (.blank rfl rfl)) (.word "is")) (.blank rfl rfl)) (.word "what"))
      (.blank rfl rfl)) (.left (.char '%'))) (.blank rfl rfl)) (.word "of"))
      (.blank rfl (head?_figure y))) (takes_number 2 hy hw)
  simp only [List.append_assoc] at h
  simp only [written_cons, written_nil, Fragment.text, List.append_nil]
  exact h

theorem takesFirst_percent : percent.TakesFirst ['%'] w := .seq (.noBlanks rfl) (.char '%')

theorem takes_changeBy (verb : String) (hl : l.toList = verb.toList ++ [' ']) (hv : v.Plain)
    (hp : p.Plain) :
    (word verb ++ blanks ++ number 1 ++ blanks ++ word "by" ++ blanks ++ number 2 ++ percent).Takes
      (written [.word l, .figure v, .word " by ", .figure p, .word "%"]) w
      [(2, p.text), (1, v.text)] := by
  have h : (word verb ++ blanks ++ number 1 ++ blanks ++ word "by" ++ blanks ++ number 2 ++
      percent).Takes (verb.toList ++ [' '] ++ v.text ++ [' '] ++ "by".toList ++ [' '] ++ p.text ++
        ['%']) w ([(2, p.text)] ++ [(1, v.text)]) :=
    .before (.seq (.before (.before (.before (.after (.seq (.word verb) (.blank rfl
      (head?_figure v))) (takes_number 1 hv rfl)) (.blank rfl rfl)) (.word "by")) (.blank rfl
      (head?_figure p))) (takes_number 2 hp rfl)) takesFirst_percent
  rw [← hl] at h
  simp only [List.append_assoc] at h
  simp only [written_cons, written_nil, Fragment.text, List.append_nil]
  exact h

theorem takes_changedBy (verb : String) {m : String}
    (hm : m.toList = [' '] ++ verb.toList ++ " by ".toList)
    (hverb : ∀ w, (verb.toList ++ w).head?.any isBlank = false) (hv : v.Plain) (hp : p.Plain) :
    (number 1 ++ blanks ++ word verb ++ blanks ++ word "by" ++ blanks ++ number 2 ++ percent).Takes
      (written [.word "", .figure v, .word m, .figure p, .word "%"]) w
      [(2, p.text), (1, v.text)] := by
  have h : (number 1 ++ blanks ++ word verb ++ blanks ++ word "by" ++ blanks ++ number 2 ++
      percent).Takes (v.text ++ [' '] ++ verb.toList ++ [' '] ++ "by".toList ++ [' '] ++ p.text ++
        ['%']) w ([(2, p.text)] ++ [(1, v.text)]) :=
    .before (.seq (.before (.before (.before (.before (.before (takes_number 1 hv rfl)
      (.blank rfl (hverb _))) (.word verb)) (.blank rfl rfl)) (.word "by")) (.blank rfl
      (head?_figure p))) (takes_number 2 hp rfl)) takesFirst_percent
  simp only [List.append_assoc] at h
  simp only [written_cons, written_nil, Fragment.text, List.append_nil, hm, List.append_assoc]
  exact h

theorem takes_change (hx : x.Plain) (hy : y.Plain) (hw : w.head?.any isNumeric = false) :
    percentChange.Takes
      (written [.word "percent change from ", .figure x, .word " to ", .figure y]) w
      [(2, y.text), (1, x.text)] := by
  have hage {w : Text} : (opt (Pattern.word "age")).TakesFirst [] ([' '] ++ w) := .skip (.word rfl)
  have h : percentChange.Takes ("percent".toList ++ [] ++ [' '] ++ "change".toList ++ [' '] ++
      ("from".toList ++ [' ']) ++ x.text ++ [' '] ++ "to".toList ++ [' '] ++ y.text) w
      ([(2, y.text)] ++ [(1, x.text)]) :=
    .seq (.before (.before (.before (.after (.seq (.seq (.seq (.seq (.seq (.word "percent") hage)
      (.blank rfl rfl)) (.word "change")) (.blank rfl rfl)) (.opt (.seq (.word "from") (.blank rfl
      (head?_figure x))))) (takes_number 1 hx rfl)) (.blank rfl rfl)) (.word "to")) (.blank rfl
      (head?_figure y))) (takes_number 2 hy hw)
  simp only [List.append_assoc] at h
  simp only [written_cons, written_nil, Fragment.text, List.append_nil]
  exact h

theorem takes_tip {m : String} (hl : l = "tip " ∨ l = "") (hm : m = "% tip on $" ∨ m = "% on $")
    (hp : p.Plain) (hv : v.Plain) (hw : w.head?.any isNumeric = false) :
    Percentage.tip.Takes (written [.word l, .figure p, .word m, .figure v]) w
      [(2, v.text), (1, p.text)] := by
  obtain ⟨i, hi, hm⟩ : ∃ i : Text, (i = "tip ".toList ∨ i = []) ∧
      m.toList = ['%'] ++ [' '] ++ i ++ "on".toList ++ [' '] ++ ['$'] := by
    rcases hm with rfl | rfl
    · exact ⟨_, .inl rfl, rfl⟩
    · exact ⟨_, .inr rfl, rfl⟩
  have hlead {w : Text} : (opt (word "tip" ++ blanks)).TakesFirst l.toList (p.text ++ w) := by
    rcases hl with rfl | rfl
    · exact .opt (.seq (.word "tip") (.blank rfl (head?_figure p)))
    · exact .skip (fails_figure
        (by simp (disch := decide) [respects_word, blanks, setsApart_isBlank]) rfl rfl p)
  have hmiddle {w : Text} : (opt (word "tip" ++ blanks)).TakesFirst i ("on".toList ++ w) := by
    rcases hi with rfl | rfl
    · exact .opt (.seq (.word "tip") (.blank rfl rfl))
    · exact .skip (.seq (.word rfl))
  have hblank {w : Text} : blanks?.TakesFirst [' '] (i ++ ("on".toList ++ w)) := by
    refine .run rfl (Nat.zero_le _) nofun (.inl ?_)
    rcases hi with rfl | rfl <;> rfl
  have h : Percentage.tip.Takes (l.toList ++ p.text ++ ['%'] ++ [' '] ++ i ++ "on".toList ++
      [' '] ++ ['$'] ++ v.text) w ([(2, v.text)] ++ [(1, p.text)]) :=
    .seq (.before (.before (.before (.before (.before (.before (.after hlead
      (takes_number 1 hp rfl)) takesFirst_percent) hblank) hmiddle) (.word "on")) (.blank rfl rfl))
      (.opt (.char '$'))) (takes_number 2 hv hw)
  simp only [List.append_assoc] at h
  simp only [written_cons, written_nil, Fragment.text, List.append_nil, hm, List.append_assoc]
  exact h

/-- What is not read of a bill if it is not as it should be. -/
def tipPart : Pattern :=
  blanks ++ word "with" ++ blanks ++ number 3 ++ percent ++ blanks? ++ word "tip"

theorem takes_withTip (hx : x.Plain) :
    withTip.Takes (written [.word " with ", .figure x, .word "% tip"]) w [(3, x.text)] := by
  have h : tipPart.Takes ([' '] ++ "with".toList ++ [' '] ++ x.text ++ ['%'] ++ [' '] ++
      "tip".toList) w [(3, x.text)] :=
    .before (.before (.before (.after (.seq (.seq (.blank rfl rfl) (.word "with")) (.blank rfl
      (head?_figure x))) (takes_number 3 hx rfl)) takesFirst_percent)
      (.run rfl (Nat.zero_le _) nofun (.inl rfl))) (.word "tip")
  simp only [List.append_assoc] at h
  simp only [written_cons, written_nil, Fragment.text, List.append_nil]
  exact h.opt

theorem takes_ways (n : Text.Run isDigit) :
    ways.Takes (n.text ++ ([' '] ++ "ways".toList)) w [(2, n.text)] := by
  have h : ways.Takes (n.text ++ [' '] ++ "ways".toList) w [(2, n.text)] :=
    .before (.before (.group 2 (.ofRun n rfl)) (.blank rfl rfl))
      (.seq (.word "way") (.opt (.char 's')))
  rwa [List.append_assoc] at h

variable {fs : List Fragment} {m : List (Nat × Text)}

theorem takes_split (hl : l = "$" ∨ l = "") (hv : v.Plain) (ht : withTip.Takes (written fs) w m) :
    (dollar? ++ number 1 ++ blanks ++ word "split" ++ blanks ++ ways ++ withTip).Takes
      (written (.word l :: .figure v :: .word " split " :: .count n :: .word " ways" :: fs)) w
      (m ++ [(2, n.text), (1, v.text)]) := by
  have hlead {w : Text} : dollar?.TakesFirst l.toList (v.text ++ w) := by
    rcases hl with rfl | rfl
    · exact .opt (.char '$')
    · exact .skip (fails_figure (respects_char (by decide)) rfl rfl v)
  have h : (dollar? ++ number 1 ++ blanks ++ word "split" ++ blanks ++ ways ++ withTip).Takes
      (l.toList ++ v.text ++ [' '] ++ "split".toList ++ [' '] ++
        (n.text ++ ([' '] ++ "ways".toList)) ++ written fs) w (m ++ ([(2, n.text)] ++ [(1, v.text)])) :=
    .seq (.seq (.before (.before (.before (.after hlead (takes_number 1 hv rfl)) (.blank rfl rfl))
      (.word "split")) (.blank rfl (by rw [List.append_assoc]; exact head?_count n)))
      (takes_ways n)) ht
  simp only [List.append_assoc] at h
  simp only [written_cons, Fragment.text]
  exact h

theorem takes_splitFirst (hv : v.Plain) (ht : withTip.Takes (written fs) w m) :
    (word "split" ++ blanks ++ dollar? ++ number 1 ++ blanks ++ ways ++ withTip).Takes
      (written (.word "split $" :: .figure v :: .word " " :: .count n :: .word " ways" :: fs)) w
      (m ++ [(2, n.text), (1, v.text)]) := by
  have h : (word "split" ++ blanks ++ dollar? ++ number 1 ++ blanks ++ ways ++ withTip).Takes
      ("split".toList ++ [' '] ++ ['$'] ++ v.text ++ [' '] ++
        (n.text ++ ([' '] ++ "ways".toList)) ++ written fs) w (m ++ ([(2, n.text)] ++ [(1, v.text)])) :=
    .seq (.seq (.before (.after (.seq (.seq (.word "split") (.blank rfl rfl)) (.opt (.char '$')))
      (takes_number 1 hv rfl)) (.blank rfl (by rw [List.append_assoc]; exact head?_count n)))
      (takes_ways n)) ht
  simp only [List.append_assoc] at h
  simp only [written_cons, Fragment.text]
  exact h

/-- A bill that is split without a tip. -/
def Tipless : Phrase Figure → Prop
  | split _ _ _ none => True
  | _ => False

/-- A phrase without commas is taken whole, and if its pattern may begin at the first amount, so is
what stands behind the words in front of it. -/
theorem takes (hq : q.Plain) (hl : l = q.lead ∨ q.opens = true ∧ l = "")
    (hw : w.head?.any isNumeric = false) (htip : q.Tipless → tipPart.Fails w) :
    q.pattern.Takes (written (.word l :: .figure q.front :: q.rest)) w q.memory := by
  have htwo {x y : Figure} (h : ∀ z ∈ [x, y], z.Plain) : x.Plain ∧ y.Plain := by simpa using h
  rcases q with ⟨asked, x, y⟩ | ⟨x, y⟩ | ⟨up, x, y⟩ | ⟨up, x, y⟩ | ⟨x, y⟩ | ⟨leading, x, y⟩ |
    ⟨leading, x, n, t⟩
  case share =>
    obtain ⟨hx, hy⟩ := htwo hq
    refine takes_share ?_ hx hy hw
    cases asked with
    | true => exact hl.imp_right And.right
    | false => exact .inr (hl.elim id And.right)
  case ratio =>
    obtain ⟨hx, hy⟩ := htwo hq
    obtain rfl : l = "" := hl.elim id And.right
    exact takes_ratio hx hy hw
  case changeBy =>
    obtain ⟨hx, hy⟩ := htwo hq
    obtain rfl := hl.resolve_right fun h => nomatch h.1
    cases up with
    | true => exact takes_changeBy (l := "increase ") "increase" rfl hx hy
    | false => exact takes_changeBy (l := "decrease ") "decrease" rfl hx hy
  case changedBy =>
    obtain ⟨hx, hy⟩ := htwo hq
    cases up with
    | true =>
      obtain rfl : l = "" := hl.elim id And.right
      exact takes_changedBy ("increase" ++ "d") rfl (fun _ => rfl) hx hy
    | false =>
      obtain rfl : l = "" := hl.elim id And.right
      exact takes_changedBy ("decrease" ++ "d") rfl (fun _ => rfl) hx hy
  case change =>
    obtain ⟨hx, hy⟩ := htwo hq
    obtain rfl := hl.resolve_right fun h => nomatch h.1
    exact takes_change hx hy hw
  case tip =>
    obtain ⟨hx, hy⟩ := htwo hq
    cases leading with
    | true => exact takes_tip (hl.imp_right And.right) (.inr rfl) hx hy hw
    | false => exact takes_tip (.inr (hl.elim id And.right)) (.inl rfl) hx hy hw
  case split =>
    have hx : x.Plain := hq x List.mem_cons_self
    have hsplit (fs : List Fragment) {m : List (Nat × Text)} (ht : withTip.Takes (written fs) w m) :
        (split leading x n t).pattern.Takes (written (.word l :: .figure x ::
          .word (if leading then " " else " split ") :: .count n :: .word " ways" :: fs)) w
          (m ++ [(2, n.text), (1, x.text)]) := by
      cases leading with
      | true =>
        obtain rfl := hl.resolve_right fun h => nomatch h.1
        exact takes_splitFirst hx ht
      | false => exact takes_split (hl.imp_right And.right) hx ht
    cases t with
    | none => exact hsplit [] (TakesFirst.skip (htip trivial)).takes
    | some t => exact hsplit _ (takes_withTip (hq t (by simp [amounts])))

theorem heard_facts (q : Phrase Figure) :
    q.heard.rank = q.rank ∧ q.heard.lead = q.lead ∧ q.heard.opens = q.opens ∧
      q.heard.front = if q.opens then q.front.last else q.front := by
  rcases q with ⟨_ | _, p, v⟩ | ⟨x, y⟩ | ⟨_ | _, v, p⟩ | ⟨_ | _, v, p⟩ | ⟨a, b⟩ | ⟨_ | _, p, v⟩ |
    ⟨_ | _, v, n, t⟩ <;> exact ⟨rfl, rfl, rfl, rfl⟩

theorem pattern_heard (q : Phrase Figure) : q.heard.pattern = q.pattern := by
  rw [pattern, q.heard_facts.1]
  rfl

/-- What is not heard of the rest of a phrase is no part of its numbers. -/
theorem exists_rest (q : Phrase Figure) : ∃ w, written q.rest = written q.heard.rest ++ w ∧
    w.head?.any isNumeric = false ∧ (q.heard.Tipless → tipPart.Fails w) := by
  have hfirst (m : String) (x : Figure) : ∃ w, written [.word m, .figure x] =
      written [.word m, .figure x.first] ++ w ∧ w.head?.any isNumeric = false := by
    obtain ⟨w, hw, hhead⟩ := x.exists_first
    refine ⟨w, ?_, hhead⟩
    simp only [written_cons, written_nil, Fragment.text, List.append_nil, List.append_assoc]
    rw [hw]
  have hother {q : Phrase Figure} (hq : ¬q.heard.Tipless)
      (h : ∃ w, written q.rest = written q.heard.rest ++ w ∧ w.head?.any isNumeric = false) :
      ∃ w, written q.rest = written q.heard.rest ++ w ∧ w.head?.any isNumeric = false ∧
        (q.heard.Tipless → tipPart.Fails w) := by
    obtain ⟨w, hw, hhead⟩ := h
    exact ⟨w, hw, hhead, fun h => absurd h hq⟩
  cases q with
  | share asked p v => exact hother id (hfirst "% of " v)
  | ratio x y => exact hother id (hfirst " is what % of " y)
  | changeBy up v p => exact hother id ⟨[], (List.append_nil _).symm, rfl⟩
  | changedBy up v p =>
    cases up <;> exact hother id ⟨[], (List.append_nil _).symm, rfl⟩
  | change a b => exact hother id (hfirst " to " b)
  | tip leading p v =>
    cases leading with
    | true => exact hother id (hfirst "% on $" v)
    | false => exact hother id (hfirst "% tip on $" v)
  | split leading v n t =>
    have hrest (v' : Figure) : ∃ w, written (split leading v n t).rest =
        written (split leading v' n (t.filter fun x => x.Plain)).rest ++ w ∧
        w.head?.any isNumeric = false ∧
          ((split leading v' n (t.filter fun x => x.Plain)).Tipless → tipPart.Fails w) := by
      cases t with
      | none => exact ⟨[], (List.append_nil _).symm, rfl, fun _ => .of_head rfl rfl⟩
      | some t =>
        rw [Option.filter_some]
        by_cases ht : t.Plain
        · rw [if_pos (decide_eq_true ht)]
          exact ⟨[], (List.append_nil _).symm, rfl, fun h => nomatch h⟩
        · rw [if_neg (by simpa using ht)]
          refine ⟨written [.word " with ", .figure t, .word "% tip"], ?_, rfl, fun _ => ?_⟩
          · simp only [rest, written_cons, written_nil, List.append_nil, List.append_assoc]
          · obtain ⟨z, hall, hz⟩ := t.exists_last ht
            have htext : written [.word " with ", .figure t, .word "% tip"] =
                (" with ".toList ++ z) ++ ',' :: (t.last.text ++ "% tip".toList) := by
              simp only [written_cons, written_nil, Fragment.text, List.append_nil, hz,
                List.append_assoc, List.cons_append]
            have hkeep : keep inFigure (" with ".toList ++ z) = keep inFigure " with ".toList := by
              rw [keep_append " with ".toList, keep_of_all hall, List.append_nil]
            have hrespects : tipPart.Respects inFigure '0' := by
              simp (disch := decide) [tipPart, respects_word, respects_char, blanks, blanks?,
                number, numeral, percent, setsApart_isBlank, setsApart_isNumeric]
            rw [htext]
            refine .of_cut hrespects rfl ?_
            rw [hkeep]
            decide +kernel
    cases leading with
    | true => exact hrest v
    | false => exact hrest v.last

theorem getElem?_rank (q : Phrase α) : patterns.flatten[q.rank]? = some q.pattern := by
  have hrank : q.rank < patterns.flatten.length := by
    show q.rank < 10
    rcases q with ⟨_, _, _⟩ | ⟨_, _⟩ | ⟨_ | _, _, _⟩ | ⟨_ | _, _, _⟩ | ⟨_, _⟩ | ⟨_, _, _⟩ |
      ⟨_ | _, _, _, _⟩ <;> simp [rank]
  rw [pattern, List.getD_eq_getElem?_getD, List.getElem?_eq_getElem hrank, Option.getD_some]

theorem pattern_mem (q : Phrase α) : q.pattern ∈ patterns.flatten :=
  List.mem_of_getElem? q.getElem?_rank

/-- No pattern takes the words in front of the first amount alone. -/
theorem absent_lead (hq : q.opens = true) :
    q.pattern.absent '0' (keep inFigure q.lead.toList) = true := by
  rcases q with ⟨_ | _, p, v⟩ | ⟨x, y⟩ | ⟨up, v, p⟩ | ⟨up, v, p⟩ | ⟨a, b⟩ | ⟨_ | _, p, v⟩ |
    ⟨_ | _, v, n, t⟩
  case changeBy | change | split.true => cases hq
  case changedBy => cases up <;> simp only [pattern, rank, lead] <;> decide +kernel
  all_goals
    simp only [pattern, rank, lead]
    decide +kernel

theorem front_mem_enclosed (hq : q.opens = false) : q.front ∈ q.enclosed := by
  cases q with
  | split leading v n t =>
    cases leading with
    | true => exact List.mem_cons_self
    | false => cases hq
  | changeBy | change => exact List.mem_cons_self
  | _ => cases hq

/-- **A phrase that fits is found**, and what is heard of it is remembered. -/
theorem exists_search (hq : q.Fits) :
    ∃ m, q.pattern.search q.text = some m ∧ ∀ i, m.group? i = q.heard.memory.lookup i := by
  obtain ⟨-, hlead, hopens, hfront⟩ := q.heard_facts
  obtain ⟨w, hrest, hw, htip⟩ := q.exists_rest
  have htakes {l : String} (hl : l = q.lead ∨ q.opens = true ∧ l = "") :
      q.pattern.Takes (written (.word l :: .figure q.heard.front :: q.heard.rest)) w
        q.heard.memory := by
    rw [← hlead, ← hopens] at hl
    exact q.pattern_heard ▸ takes (plain_heard hq) hl hw htip
  have htext : q.text = q.lead.toList ++ (q.front.text ++ (written q.heard.rest ++ w)) := by
    rw [text, fragments, written_cons, written_cons, hrest]
    rfl
  by_cases hplain : q.front.Plain
  · have hsame : q.heard.front = q.front := by
      rw [hfront]
      split
      · exact Figure.last_of_plain hplain
      · rfl
    have h := (htakes (.inl rfl)).exists_search
    rw [hsame] at h
    rw [htext]
    simpa only [written_cons, Fragment.text, List.append_assoc] using h
  · have hopens : q.opens = true := by
      by_contra h
      exact hplain (hq _ (front_mem_enclosed (Bool.eq_false_iff.2 h)))
    rw [if_pos hopens] at hfront
    obtain ⟨z, hall, hz⟩ := q.front.exists_last hplain
    have hkeep : keep inFigure (q.lead.toList ++ z) = keep inFigure q.lead.toList := by
      rw [keep_append, keep_of_all hall, List.append_nil]
    have h := (htakes (.inr ⟨hopens, rfl⟩)).exists_search_behind (c := ',')
      (z := q.lead.toList ++ z) (avoids_patterns _ q.pattern_mem) fun _ => not_spells_of_outline
        (respects_patterns _ q.pattern_mem) (by rw [hkeep]; exact absent_lead hopens)
    rw [hfront] at h
    rw [htext, hz]
    simpa only [written_cons, Fragment.text, String.toList_empty, List.nil_append,
      List.append_assoc, List.cons_append] using h

/-! ## It is not recognised if it does not fit -/

/-- A comma cuts a phrase in two. -/
theorem search_eq_none_of_comma {r : Pattern} {before after : List Fragment}
    (hr : r ∈ patterns.flatten) (hx : ¬x.Plain) (hbefore : r.absent '0' (outline before) = true)
    (hafter : r.absent '0' (outline after) = true) :
    r.search (written (before ++ .figure x :: after)) = none := by
  obtain ⟨z, hall, hz⟩ := x.exists_last hx
  have htext : written (before ++ .figure x :: after) =
      (written before ++ z) ++ ',' :: (x.last.text ++ written after) := by
    rw [written, List.flatMap_append, List.flatMap_cons, Fragment.text, hz]
    simp only [List.append_assoc, List.cons_append]
    rfl
  have hrespects := respects_patterns r hr
  rw [htext]
  refine search_cut_eq_none (avoids_patterns r hr) (fun _ => not_spells_of_outline hrespects ?_)
    fun _ => not_spells_of_outline hrespects ?_
  · rwa [keep_append, keep_of_all hall, List.append_nil, keep_written]
  · rwa [keep_append, keep_of_all x.last.all, List.nil_append, keep_written]

/-- What an enclosed amount cuts a phrase into is not recognised. -/
theorem exists_cut (hx : x ∈ q.enclosed) : ∃ before after,
    q.fragments = before ++ .figure x :: after ∧ q.pattern.absent '0' (outline before) = true ∧
      q.pattern.absent '0' (outline after) = true := by
  rcases q with ⟨asked, p, v⟩ | ⟨a, b⟩ | ⟨up, v, p⟩ | ⟨up, v, p⟩ | ⟨a, b⟩ | ⟨leading, p, v⟩ |
    ⟨_ | _, v, n, t⟩
  case share | ratio | tip | split.false => cases hx
  case changeBy =>
    rcases List.mem_pair.1 hx with rfl | rfl
    · refine ⟨[_], _, rfl, ?_⟩
      cases up <;>
        simp only [pattern, rank, lead, rest, outline, List.flatMap_cons, List.flatMap_nil,
          Fragment.outline] <;> decide +kernel
    · refine ⟨[_, _, _], _, rfl, ?_⟩
      cases up <;>
        simp only [pattern, rank, lead, outline, List.flatMap_cons, List.flatMap_nil,
          Fragment.outline] <;> decide +kernel
  case changedBy =>
    obtain rfl := List.mem_singleton.1 hx
    cases up with
    | true =>
      refine ⟨[_, _, _], _, rfl, ?_⟩
      simp only [pattern, rank, lead, outline, List.flatMap_cons, List.flatMap_nil,
        Fragment.outline]
      decide +kernel
    | false =>
      refine ⟨[_, _, _], _, rfl, ?_⟩
      simp only [pattern, rank, lead, outline, List.flatMap_cons, List.flatMap_nil,
        Fragment.outline]
      decide +kernel
  case change =>
    obtain rfl := List.mem_singleton.1 hx
    refine ⟨[_], _, rfl, ?_⟩
    simp only [pattern, rank, lead, rest, outline, List.flatMap_cons, List.flatMap_nil,
      Fragment.outline]
    decide +kernel
  case split.true =>
    obtain rfl := List.mem_singleton.1 hx
    refine ⟨[_], _, rfl, ?_⟩
    cases t <;>
      simp only [pattern, rank, lead, rest, outline, List.flatMap_cons, List.flatMap_nil,
        Fragment.outline] <;> decide +kernel

/-- **A phrase that does not fit is not found.** -/
theorem search_eq_none_of_not_fits (hq : ¬q.Fits) : q.pattern.search q.text = none := by
  obtain ⟨x, hx, hplain⟩ : ∃ x ∈ q.enclosed, ¬x.Plain := by simpa [Fits] using hq
  obtain ⟨before, after, hcut, hbefore, hafter⟩ := exists_cut hx
  rw [text, hcut]
  exact search_eq_none_of_comma q.pattern_mem hplain hbefore hafter

/-! ## The answer -/

theorem isSmall_text (q : Phrase Figure) : ∀ c ∈ q.text, IsSmall c := by
  have hfigure {c : Char} (hc : inFigure c = true) : IsSmall c := by
    rw [inFigure, isNumeric, Bool.or_eq_true, Bool.or_eq_true] at hc
    rcases hc with (hc | hc) | hc
    · exact isSmall_of_isDigit hc
    · rw [beq_iff_eq.1 hc]
      exact ⟨by decide +kernel, by decide⟩
    · rw [beq_iff_eq.1 hc]
      exact ⟨by decide +kernel, by decide⟩
  have houtline : ∀ c ∈ outline q.fragments, IsSmall c := by
    refine isSmall_of_all ?_
    rcases q with ⟨_ | _, p, v⟩ | ⟨x, y⟩ | ⟨_ | _, v, p⟩ | ⟨_ | _, v, p⟩ | ⟨a, b⟩ | ⟨_ | _, p, v⟩ |
      ⟨_ | _, v, n, _ | t⟩ <;>
      simp only [fragments, lead, rest, outline, List.flatMap_cons, List.flatMap_nil,
        Fragment.outline] <;> decide +kernel
  intro c hc
  cases hd : inFigure c with
  | true => exact hfigure hd
  | false =>
    refine houtline c ?_
    rw [← keep_written]
    exact List.mem_filter.2 ⟨hc, by rw [hd]; rfl⟩

theorem tight_text (q : Phrase Figure) : Tight q.text := by
  have hhead {l : Text} (hl : l.head?.any isBlank = false) :
      (l ++ (q.front.text ++ written q.rest)).head?.any isBlank = false := by
    cases l with
    | nil => exact head?_figure q.front
    | cons c l => exact hl
  have hlast (fs : List Fragment) {f : Fragment} (hne : f.text ≠ [])
      (hf : f.text.getLast?.any isBlank = false) :
      (written (fs ++ [f])).getLast?.any isBlank = false := by
    rw [written, List.flatMap_append, List.flatMap_singleton]
    exact getLast?_append_any hne hf
  have hfigure (fs : List Fragment) (x : Figure) :
      (written (fs ++ [.figure x])).getLast?.any isBlank = false := by
    refine hlast fs x.ne_nil ?_
    obtain ⟨t, c, ht, hc⟩ := x.exists_concat
    rw [Fragment.text, ht, List.getLast?_concat]
    exact not_isBlank_of_inFigure (inFigure_of_isNumeric hc)
  constructor
  · refine hhead ?_
    rcases q with ⟨_ | _, p, v⟩ | ⟨x, y⟩ | ⟨_ | _, v, p⟩ | ⟨_ | _, v, p⟩ | ⟨a, b⟩ | ⟨_ | _, p, v⟩ |
      ⟨_ | _, v, n, t⟩ <;> simp only [Fragment.text, lead] <;> decide
  · rcases q with ⟨_, p, v⟩ | ⟨x, y⟩ | ⟨_, v, p⟩ | ⟨_ | _, v, p⟩ | ⟨a, b⟩ | ⟨_ | _, p, v⟩ |
      ⟨_, v, n, _ | t⟩
    case share | tip.false | tip.true => exact hfigure [_, _, _] v
    case ratio => exact hfigure [_, _, _] y
    case change => exact hfigure [_, _, _] b
    case changeBy | changedBy.false | changedBy.true =>
      exact hlast [_, _, _, _] (f := .word "%") (by decide) (by decide)
    case split.none => exact hlast [_, _, _, _] (f := .word " ways") (by decide) (by decide)
    case split.some =>
      exact hlast [_, _, _, _, _, _, _] (f := .word "% tip") (by decide) (by decide)

theorem run_eq (q : Phrase Figure) : run rules q.text = firstAnswer rules q.text q.text :=
  run_eq_firstAnswer q.tight_text q.isSmall_text

/-- A phrase that fits is answered as what is heard of it. -/
theorem run_of_fits (hq : q.Fits) : run rules q.text = run rules q.heard.text := by
  rw [run_eq, run_eq]
  refine firstAnswer_congr listens_patterns fun ps hps r hr => ?_
  have hmem : r ∈ patterns.flatten := List.mem_flatten.2 ⟨ps, hps, hr⟩
  rcases eq_or_mem_eraseIdx q.getElem?_rank hmem with rfl | hrival
  · obtain ⟨m, hm, hgroup⟩ := exists_search hq
    obtain ⟨m', hm', hgroup'⟩ := exists_search (plain_heard hq).fits
    rw [heard_of_plain (plain_heard hq)] at hgroup'
    rw [hm, ← q.pattern_heard, hm']
    exact .some fun i => by rw [hgroup, hgroup']
  · have hheard : r ∈ q.heard.rivals := by
      rw [rivals, q.heard_facts.1]
      exact hrival
    rw [search_rival hrival, search_rival hheard]
    exact .none

/-- A phrase that does not fit is not recognised. -/
theorem run_of_not_fits (hq : ¬q.Fits) : run rules q.text = .ok none := by
  rw [run_eq]
  refine firstAnswer_eq_none (listens_patterns.imp fun _ _ => Listens.heeds) fun ps hps r hr => ?_
  have hmem : r ∈ patterns.flatten := List.mem_flatten.2 ⟨ps, hps, hr⟩
  rcases eq_or_mem_eraseIdx q.getElem?_rank hmem with rfl | hrival
  · exact search_eq_none_of_not_fits hq
  · exact search_rival hrival

/-! ## Amounts as results are shown -/

variable {γ : Type}

theorem enclosed_map (f : α → β) (q : Phrase α) : (q.map f).enclosed = q.enclosed.map f := by
  cases q with
  | split leading v n t => cases leading <;> rfl
  | _ => rfl

theorem amounts_map (f : α → β) (q : Phrase α) : (q.map f).amounts = q.amounts.map f := by
  cases q with
  | split leading v n t => cases t <;> rfl
  | _ => rfl

theorem map_map (f : α → β) (g : β → γ) (q : Phrase α) : (q.map f).map g = q.map (g ∘ f) := by
  cases q with
  | split leading v n t => cases t <;> rfl
  | _ => rfl

/-- The phrase as it is written. -/
def asWritten (q : Phrase Quantity) : Phrase Figure := q.map Quantity.figure

/-- The phrase with the same amounts, none of them in groups. -/
def ungrouped (q : Phrase Quantity) : Phrase Quantity := q.map Quantity.ungrouped

theorem map_bare_asWritten (q : Phrase Quantity) :
    q.asWritten.map Figure.bare = q.ungrouped.asWritten := by
  rw [asWritten, asWritten, ungrouped, map_map, map_map]
  exact congrArg (fun f => q.map f) (funext Quantity.bare_figure)

/-- **What commas do to a phrase.** For any amounts, any of them in groups: if an amount with words
on both sides is written with a comma, the phrase is declined. Else it is answered as the phrase
that is heard, of whose amounts the first groups or the last are left. That is the phrase without
commas if and only if there are none. -/
theorem run_asWritten (q : Phrase Quantity) :
    ((∃ x ∈ q.enclosed, ',' ∈ x.text) ∧ run rules q.asWritten.text = .ok none ∨
      (∀ x ∈ q.enclosed, ',' ∉ x.text) ∧
        run rules q.asWritten.text = run rules q.asWritten.heard.text) ∧
    (q.asWritten.heard = q.ungrouped.asWritten ↔ ∀ x ∈ q.amounts, ',' ∉ x.text) := by
  have hfits : q.asWritten.Fits ↔ ∀ x ∈ q.enclosed, ',' ∉ x.text := by
    rw [Fits, asWritten, enclosed_map, List.forall_mem_map]
    rfl
  constructor
  · by_cases hq : q.asWritten.Fits
    · exact .inr ⟨hfits.1 hq, run_of_fits hq⟩
    · refine .inl ⟨?_, run_of_not_fits hq⟩
      rw [hfits] at hq
      simpa using hq
  · rw [← map_bare_asWritten, heard_eq_iff, Plain, asWritten, amounts_map, List.forall_mem_map]
    rfl

/-- Of a share of a thousand, a share of one is heard. -/
example : (share false ⟨"10".toList, rfl, rfl, rfl⟩ ⟨"1,000".toList, rfl, rfl, rfl⟩).heard.text =
    "10% of 1".toList := by decide +kernel

end Phrase

end Percentage

end Worksheet
