import Worksheet.Proofs.Literals
import Worksheet.Proofs.Resolution
import Worksheet.Proofs.UnmarkedDates

/-!
# Evaluating a rendered document

**Theorem (`Document.evaluate_render`).** A document that has been evaluated and rendered is
rendered the same when it is evaluated again, if setting blanks did not change what its expressions
mean.

A rendered line is read back: it is cut at the equals sign behind the expression, as the shown
expression has none of its own (`Spacing.Rereadable`), its comment is found again, as no result
holds a comment mark (`unmarked_evaluate`), and the lines of a long result are output lines, which
do not count (`Line.lines_render`). So the second run evaluates the shown expressions, line by line
and behind the same outcomes (`evaluateFrom_counted`).

Blanks are not always cosmetic: phrases are recognised by them, and what is shown may be recognised
where what was typed is not. `Cosmetic` says what is asked of an expression. Expressions without
literals that are left to arithmetic have the same tokens (`Spacing.toOption_scan_format`), and so
the same answer (`toOption_calculate_format`).
-/

namespace Worksheet

open Text Reference Result Spacing

variable {s : Surroundings} {e : Earlier} {expr : Text} {last : LineError}

/-! ## Blanks that change nothing -/

/-- The evaluators that are asked before arithmetic. -/
def phrases : List Evaluator := [.subnets, .dates, .percentages, .units]

theorem settle_answerFrom_arithmetic :
    settle (answerFrom s e expr last [.arithmetic]) = settle (calculate e expr) := by
  have hclaims : Evaluator.claims .arithmetic expr = true := rfl
  have hanswer : Evaluator.answer s e expr .arithmetic = (calculate e expr).map some := rfl
  rw [answerFrom, if_pos hclaims, hanswer]
  rcases calculate e expr with (l | f) | a <;> rfl

/-- Arithmetic has the same answer to what is shown of an expression, or none to both. -/
theorem toOption_calculate_format (h : Unmixed expr) :
    (calculate e (format expr)).toOption = (calculate e expr).toOption := by
  have hscan := toOption_scan_format h
  have hnone {t : Text} (ht : (Token.scan t).toOption = none) : (calculate e t).toOption = none := by
    obtain ⟨err, herr⟩ := exists_eq_error ht
    rw [calculate, herr]
    rfl
  cases hs : (Token.scan expr).toOption with
  | none => rw [hnone hs, hnone (hscan.trans hs)]
  | some ts =>
    have hts := eq_ok_of_toOption hs
    have hts' := eq_ok_of_toOption (hscan.trans hs)
    have hcurrency : concernsCurrency e (format expr) ts = concernsCurrency e expr ts := by
      rw [concernsCurrency, concernsCurrency, refersToCurrency, refersToCurrency,
        Token.references_of_scan hts, Token.references_of_scan hts']
    rw [calculate, calculate, hts, hts', ok_bind, ok_bind, hcurrency]

/-- What an expression is answered with is what phrases make of it, or else its value. -/
theorem toOption_evaluate : (evaluate s Evaluator.all e expr).toOption =
    (heard s e phrases expr).toOption.bind fun o => o.or (calculate e expr).toOption := by
  have hsettle {α : Type} (x : Result α) : (settle x).toOption.join = x.toOption := by
    rcases x with (_ | _) | _ <;> rfl
  have harithmetic : heard s e [.arithmetic] expr = settle (calculate e expr) :=
    settle_answerFrom_arithmetic
  have hall : heard s e Evaluator.all expr = heard s e phrases expr >>= fun o =>
      o.elim (settle (calculate e expr)) fun a => .ok (some a) := by
    rw [← harithmetic]
    exact heard_append phrases [.arithmetic]
  rw [evaluate, ← hsettle, ← heard, hall]
  rcases heard s e phrases expr with f | (_ | a)
  · rfl
  · exact hsettle (calculate e expr)
  · rfl

/-- Blanks are set once, the line that shows the expression counts, and the expression means what it
meant: it holds no literals and no phrase, or it has the same answer. -/
structure Cosmetic (s : Surroundings) (e : Earlier) (expr : Text) : Prop where
  stable : format (format expr) = format expr
  counted : Line.isOutput (format expr ++ [' ']) = false
  same : (protectedLiteral.findAll (squeeze expr) = [] ∧
      ∀ ev ∈ phrases, Passes s e expr ev ∧ Passes s e (format expr) ev) ∨
    settle (evaluate s Evaluator.all e (format expr)) = settle (evaluate s Evaluator.all e expr)

/-- An expression that is shown as it was typed. -/
theorem Cosmetic.of_format_eq (h : format expr = expr)
    (hcounted : Line.isOutput (expr ++ [' ']) = false) : Cosmetic s e expr where
  stable := by rw [h, h]
  counted := by rwa [h]
  same := .inr (by rw [h])

/-- An expression without literals that only arithmetic is asked about. -/
theorem Cosmetic.of_not_claims (hstable : format (format expr) = format expr)
    (hcounted : Line.isOutput (format expr ++ [' ']) = false)
    (hliterals : protectedLiteral.findAll (squeeze expr) = [])
    (hclaims : ∀ ev ∈ phrases, ev.claims expr = false ∧ ev.claims (format expr) = false) :
    Cosmetic s e expr where
  stable := hstable
  counted := hcounted
  same := .inl ⟨hliterals, fun ev hev =>
    ⟨passes_of_not_claims (hclaims ev hev).1, passes_of_not_claims (hclaims ev hev).2⟩⟩

/-- What is shown of an expression has its answer, where both come to an end. -/
theorem Cosmetic.answer_eq (h : Cosmetic s e expr) {o o' : Option Answer}
    (ho : settle (evaluate s Evaluator.all e expr) = .ok o)
    (ho' : settle (evaluate s Evaluator.all e (format expr)) = .ok o') : o' = o := by
  rcases h.same with ⟨hl, hp⟩ | hsame
  · have hpassed {t : Text} {o : Option Answer} (hp : ∀ ev ∈ phrases, Passes s e t ev)
        (ho : settle (evaluate s Evaluator.all e t) = .ok o) : heard s e phrases t = .ok none := by
      refine (heard_of_passes hp).resolve_right ?_
      rintro ⟨f, hf⟩
      have ho : heard s e (phrases ++ [.arithmetic]) t = .ok o := ho
      rw [heard_append, hf] at ho
      cases ho
    rw [← toOption_of_settle ho, ← toOption_of_settle ho', toOption_evaluate, toOption_evaluate,
      hpassed (fun ev hev => (hp ev hev).1) ho, hpassed (fun ev hev => (hp ev hev).2) ho',
      toOption_calculate_format (.of_literals (literals_eq_nil hl))]
  · rw [ho, ho'] at hsame
    exact Except.ok.inj hsame

/-! ## Lines of a rendered result -/

namespace Line

variable {shown text comment a w : Text}

theorem split_append_sep (sep : Char) (p q : Text) :
    split sep (p ++ sep :: q) = split sep p ++ split sep q := by
  induction p with
  | nil => simp [split]
  | cons c p ih =>
    rw [List.cons_append, split, split, ih]
    split
    · rfl
    · cases hs : split sep p with
      | nil => exact absurd hs (split_ne_nil sep p)
      | cons r rs => rfl

theorem lines_unlines {ps : List Text} (hne : ps ≠ []) :
    lines (unlines ps) = ps.flatMap lines := by
  induction ps with
  | nil => exact absurd rfl hne
  | cons p ps ih =>
    cases ps with
    | nil => simp [join]
    | cons q ps =>
      have hjoin : unlines (p :: q :: ps) = p ++ '\n' :: unlines (q :: ps) := by simp [join]
      rw [hjoin, lines, split_append_sep, List.flatMap_cons, ← ih (by simp)]

theorem trimRight_cons {c : Char} (hc : isBlank c = false) (t : Text) :
    trimRight (c :: t) = c :: trimRight t := by
  have hlast : ([c].dropWhile isBlank) = [c] := List.dropWhile_cons_of_neg (by simp [hc])
  rw [trimRight, trimRightBy, List.reverse_cons, List.dropWhile_append, hlast]
  split
  · next h => simp [trimRightBy, List.isEmpty_iff.1 h]
  · simp [trimRightBy]

theorem trimRight_trimRight (t : Text) : trimRight (trimRight t) = trimRight t := by
  show ((t.reverse.dropWhile isBlank).reverse.reverse.dropWhile isBlank).reverse = _
  rw [List.reverse_reverse, dropWhile_of_head? head?_dropWhile_any]
  rfl

/-- A comment as it is cut off a line. -/
def IsComment (comment : Text) : Prop := comment = [] ∨ ∃ b, comment = '#' :: trimRight b

theorem isComment_splitComment (l : Text) : IsComment (splitComment l).2 := by
  unfold splitComment
  split
  · exact .inl rfl
  · next a b _ => exact .inr ⟨b, trimRight_cons (by decide) b⟩

/-- A comment is found again behind what holds no comment mark. -/
theorem splitComment_tail (ha : '#' ∉ a) (hc : IsComment comment) :
    ∃ b, b.all isBlank = true ∧ b.head? ≠ some '=' ∧
      splitComment (a ++ Document.commentTail comment) = (a ++ b, comment) := by
  rcases hc with rfl | ⟨c, rfl⟩
  · refine ⟨[], rfl, nofun, ?_⟩
    have htail : Document.commentTail [] = [] := rfl
    rw [htail, List.append_nil, splitComment, cutAt_eq_none.2 ha]
  · refine ⟨[' '], by decide, by decide, ?_⟩
    have htail : a ++ Document.commentTail ('#' :: trimRight c) =
        (a ++ [' ']) ++ '#' :: trimRight c := by simp [Document.commentTail]
    have hmark : '#' ∉ a ++ [' '] := by simpa using ha
    rw [htail, splitComment, cutAt_append_cons hmark]
    simp only [trimRight_cons (show isBlank '#' = false by decide), trimRight_trimRight]

/-- What stands between the equals sign and the comment of a rendered line. -/
def resultPart (text : Text) : Text := if text.contains '\n' then [] else ' ' :: text

/-- The line with the equals sign. -/
def firstLine (shown text comment : Text) : Text :=
  shown ++ ' ' :: '=' :: resultPart text ++ Document.commentTail comment

theorem unlines_cons (p : Text) (ps : List Text) :
    unlines (p :: ps) = p ++ ps.flatMap fun q => '\n' :: q := by
  induction ps generalizing p with
  | nil => simp [join]
  | cons q ps ih =>
    have hjoin : unlines (p :: q :: ps) = p ++ '\n' :: unlines (q :: ps) := by simp [join]
    rw [hjoin, ih q, List.flatMap_cons, List.cons_append]

/-- Below the line with the equals sign there are output lines only. -/
theorem lines_render (text : Text) (hshown : '\n' ∉ shown) (hcomment : '\n' ∉ comment) :
    ∃ rest, lines (render shown text comment) = firstLine shown text comment :: rest ∧
      ∀ l ∈ rest, isOutput l = true := by
  have htail : '\n' ∉ Document.commentTail comment := by
    unfold Document.commentTail
    split <;> simp [hcomment]
  by_cases hn : text.contains '\n' = true
  · have hpart : resultPart text = [] := if_pos hn
    have hrender : render shown text comment =
        unlines (firstLine shown text comment :: (lines text).map (outputMark ++ ·)) := by
      rw [render, if_pos hn, unlines_cons, firstLine, hpart, List.flatMap_map]
      simp [Document.commentTail]
    refine ⟨(lines text).map (outputMark ++ ·), ?_, ?_⟩
    · rw [hrender, lines, split_join (by simp)]
      intro l hl
      rcases List.mem_cons.1 hl with rfl | hl
      · simp [firstLine, hpart, hshown, htail]
      · obtain ⟨q, hq, rfl⟩ := List.mem_map.1 hl
        simp [outputMark, not_mem_of_mem_split hq]
    · intro l hl
      obtain ⟨q, -, rfl⟩ := List.mem_map.1 hl
      rfl
  · have hpart : resultPart text = ' ' :: text := if_neg hn
    have hrender : render shown text comment = firstLine shown text comment := by
      rw [render, if_neg hn, firstLine, hpart]
      simp [Document.commentTail]
    refine ⟨[], ?_, by simp⟩
    rw [hrender, lines, split_of_notMem]
    have htext : '\n' ∉ text := by simpa using hn
    simp [firstLine, hpart, hshown, htail, htext]

/-- A rendered line counts if its expression does not begin like an output line. -/
theorem isOutput_firstLine (h : Rereadable shown) :
    isOutput (firstLine shown text comment) = isOutput (shown ++ [' ']) := by
  obtain ⟨c, r, rfl⟩ := List.exists_cons_of_ne_nil h.ne_nil
  have hc : ¬isBlank c = true := by simpa [Tight] using h.tight.1
  have hleft (w : Text) : trimLeft (c :: w) = c :: w := List.dropWhile_cons_of_neg hc
  unfold isOutput firstLine
  simp only [List.append_assoc, List.cons_append, hleft]
  cases r with
  | nil => rfl
  | cons d r => rfl

theorem trim_cons {c : Char} (hc : isBlank c = false) (t : Text) :
    trim (c :: t) = c :: trimRight t := by
  show trimRight ((c :: t).dropWhile isBlank) = _
  rw [List.dropWhile_cons_of_neg (by simp [hc]), trimRight_cons hc]

theorem trim_append_blank (h : Tight shown) : trim (shown ++ [' ']) = shown := by
  have hright (t : Text) : trimRight (t ++ [' ']) = trimRight t := by
    show ((t ++ [' ']).reverse.dropWhile isBlank).reverse = _
    rw [List.reverse_append]
    rfl
  cases shown with
  | nil => rfl
  | cons c t =>
    have hc : isBlank c = false := h.1
    rw [List.cons_append, trim_cons hc, hright, ← trim_cons hc, h.trim_eq]

theorem cutResult_equals (hw : w.head? ≠ some '=') :
    cutResult (' ' :: '=' :: w) = some ([' '], w) := by
  have hb : ¬(opensComparison ' ' && ('=' :: w).head? == some '=') = true := by
    simp [opensComparison]
  have he : ¬(opensComparison '=' && w.head? == some '=') = true := by simp [hw]
  rw [cutResult_cons, if_neg hb, if_neg (by decide), cutResult_cons, if_neg he, if_pos rfl]
  rfl

/-- A line is cut behind the expression that it shows. -/
theorem cutResult_shown (h : Rereadable shown) (hw : w.head? ≠ some '=') :
    cutResult (shown ++ ' ' :: '=' :: w) = some (shown ++ [' '], w) := by
  rw [cutResult_append_of_head (by simp), h.uncut, cutResult_equals hw]
  rfl

/-- The expression and the comment of a rendered line. -/
theorem expressionOf_firstLine (h : Rereadable shown) (ht : Unmarked text)
    (hc : IsComment comment) :
    Document.expressionOf? (firstLine shown text comment) = some (shown, comment) := by
  have hpart : Unmarked (resultPart text) ∧ (resultPart text).head? ≠ some '=' := by
    unfold resultPart
    split
    · exact ⟨.nil, nofun⟩
    · exact ⟨by simpa using ht, by simp⟩
  have hmark : Unmarked (shown ++ ' ' :: '=' :: resultPart text) := by
    simp [show Unmarked shown from h.uncommented, hpart.1]
  obtain ⟨b, hblank, hb, hsplit⟩ := splitComment_tail hmark hc
  have hremark : isRemark (firstLine shown text comment) = false := by
    obtain ⟨c, r, rfl⟩ := List.exists_cons_of_ne_nil h.ne_nil
    have hne : c ≠ '#' := fun he => h.uncommented (he ▸ List.mem_cons_self)
    rw [isRemark, firstLine, List.cons_append, List.cons_append, trim_cons h.tight.1]
    simpa using hne
  have hhead : (resultPart text ++ b).head? ≠ some '=' := by
    cases hr : resultPart text with
    | nil => exact hb
    | cons c r =>
      rw [hr] at hpart
      exact hpart.2
  rw [expressionOf_eq, hremark, firstLine, hsplit]
  dsimp only
  rw [List.append_assoc, List.cons_append, List.cons_append, cutResult_shown h hhead,
    Option.bind_some, trim_append_blank h.tight]
  simp [h.ne_nil]

end Line

/-! ## Evaluating again -/

namespace Document

variable {l comment : Text} {ls : List Text} {r r' : EvaluatedLine} {es es' : List EvaluatedLine}
  {n : Nat}

theorem comment_of_expressionOf (h : expressionOf? l = some (expr, comment)) :
    comment = (Line.splitComment l).2 := (cutResult_of_expressionOf h).1

theorem tight_of_expressionOf (h : expressionOf? l = some (expr, comment)) : Tight expr := by
  obtain ⟨-, -, a, b, -, rfl⟩ := cutResult_of_expressionOf h
  exact tight_trim a

/-- A comment, and the expression in front of it, are those of one line. -/
theorem expressionOf_spec (h : expressionOf? l = some (expr, comment)) (hl : '\n' ∉ l) :
    Rereadable expr ∧ Line.IsComment comment ∧ '\n' ∉ comment := by
  have hcomment := comment_of_expressionOf h
  refine ⟨.of_expressionOf h hl, hcomment ▸ Line.isComment_splitComment l, fun hm => hl ?_⟩
  rw [hcomment, Line.splitComment] at hm
  split at hm
  · cases hm
  · next a b hcut =>
    rw [cutAt_append hcut]
    refine List.mem_append_right _ ?_
    rw [← trimRight_append ('#' :: b)]
    exact List.mem_append_left _ hm

/-- The line that shows an answer, or that there is none. -/
def lineOf (shown comment : Text) : Option Answer → EvaluatedLine
  | some a => ⟨Line.render shown a.text comment, a.outcome⟩
  | none => ⟨Line.render shown errorText comment, {}⟩

theorem evaluateLine_eq_ok (hx : expressionOf? l = some (expr, comment)) :
    evaluateLine s false e l = .ok r ↔ ∃ o,
      settle (Worksheet.evaluate s Evaluator.all e expr) = .ok o ∧
        r = lineOf (format expr) comment o := by
  rw [evaluateLine, hx]
  dsimp only
  rcases Worksheet.evaluate s Evaluator.all e expr with (err | f) | a
  · simp [settle, lineOf, eq_comm]
  · simp [settle]
  · simp [settle, lineOf, eq_comm]

/-- A rendered line is evaluated like the line that was typed. -/
theorem evaluateLine_render (hnow : s.now.Unmarked) (he : e.Unmarked) (hl : '\n' ∉ l)
    (hout : Line.isOutput l = false) (h : evaluateLine s false e l = .ok r)
    (hc : ∀ expr comment, expressionOf? l = some (expr, comment) → Cosmetic s e expr) :
    (e ++ [r.outcome]).Unmarked ∧ ∃ first, Line.counted (lines r.output) = [first] ∧
      ∀ r', evaluateLine s false e first = .ok r' → r' = r := by
  cases hx : expressionOf? l with
  | none =>
    have hr : r = ⟨l, {}⟩ := by
      rw [evaluateLine, hx] at h
      exact (Except.ok.inj h).symm
    subst hr
    refine ⟨he.append (by simp), l, ?_, fun r' h' => ?_⟩
    · rw [lines, split_of_notMem hl]
      simp [Line.counted, hout]
    · rw [h] at h'
      exact (Except.ok.inj h').symm
  | some p =>
    obtain ⟨expr, comment⟩ := p
    obtain ⟨hread, hcomment, hsingle⟩ := expressionOf_spec hx hl
    have hcosmetic := hc expr comment hx
    obtain ⟨o, ho, rfl⟩ := (evaluateLine_eq_ok hx).1 h
    -- The text that is shown behind the equals sign.
    obtain ⟨text, htext, hunmarked, hbehind⟩ : ∃ text,
        (lineOf (format expr) comment o).output = Line.render (format expr) text comment ∧
          Unmarked text ∧ (e ++ [(lineOf (format expr) comment o).outcome]).Unmarked := by
      cases o with
      | none => exact ⟨errorText, rfl, by decide, he.append (by simp [lineOf])⟩
      | some a =>
        exact ⟨a.text, rfl, unmarked_evaluate hnow he hread.uncommented (eq_ok_of_settle ho)⟩
    refine ⟨hbehind, Line.firstLine (format expr) text comment, ?_, fun r' h' => ?_⟩
    · obtain ⟨rest, hrest, houtput⟩ := Line.lines_render text hread.format.single hsingle
      rw [htext, hrest, Line.counted, List.filter_cons_of_pos, List.filter_eq_nil_iff.2]
      · intro l hl
        simp [houtput l hl]
      · rw [Line.isOutput_firstLine hread.format, hcosmetic.counted]
        rfl
    · have hfirst := Line.expressionOf_firstLine hread.format hunmarked hcomment
      obtain ⟨o', ho', rfl⟩ := (evaluateLine_eq_ok hfirst).1 h'
      rw [hcosmetic.answer_eq ho ho', hcosmetic.stable]

/-- The lines of a rendered document are evaluated like those that were typed. -/
theorem evaluateFrom_counted (hnow : s.now.Unmarked) (hn : 0 < n) (he : e.Unmarked)
    (hls : ∀ l ∈ ls, '\n' ∉ l ∧ Line.isOutput l = false) (h : evaluateFrom s 0 n e ls = .ok es)
    (hc : ∀ i l expr comment, ls[i]? = some l → expressionOf? l = some (expr, comment) →
      Cosmetic s (e ++ (es.take i).map (·.outcome)) expr)
    (h' : evaluateFrom s 0 n e (Line.counted (es.flatMap fun r => lines r.output)) = .ok es') :
    es' = es := by
  induction ls generalizing n e es es' with
  | nil =>
    cases h
    cases h'
    rfl
  | cons l ls ih =>
    obtain ⟨r, rs, hr, hrs, rfl⟩ := evaluateFrom_cons.1 h
    obtain ⟨⟨hl, hout⟩, hls⟩ := List.forall_mem_cons.1 hls
    have hactive : ((0 : Int) == n) = false := by
      rw [beq_eq_false_iff_ne]
      omega
    rw [hactive] at hr
    obtain ⟨hbehind, first, hfirst, hsame⟩ := evaluateLine_render hnow he hl hout hr
      fun expr comment hx => by simpa using hc 0 l expr comment rfl hx
    have hcounted : Line.counted ((r :: rs).flatMap fun r => lines r.output) =
        first :: Line.counted (rs.flatMap fun r => lines r.output) := by
      rw [List.flatMap_cons, Line.counted, List.filter_append]
      show Line.counted (lines r.output) ++ _ = _
      rw [hfirst]
      rfl
    rw [hcounted] at h'
    obtain ⟨r', rs', hr', hrs', rfl⟩ := evaluateFrom_cons.1 h'
    rw [hactive] at hr'
    obtain rfl := hsame r' hr'
    rw [ih (Nat.succ_pos n) hbehind hls hrs (fun i m expr comment hm hx => ?_) hrs']
    simpa using hc (i + 1) m expr comment hm hx

/-- **Evaluating again changes nothing.** A document of single lines that is evaluated, rendered and
cut into lines is rendered the same when it is evaluated once more, if setting blanks is cosmetic
for each of its expressions. The names of the clock's zone must be without the mark of a
comment. -/
theorem evaluate_render (hnow : s.now.Unmarked) (hls : ∀ l ∈ ls, '\n' ∉ l)
    (h : evaluate s 0 ls = .ok es) (h' : evaluate s 0 (lines (render es)) = .ok es')
    (hc : ∀ i l expr comment, (Line.counted ls)[i]? = some l →
      expressionOf? l = some (expr, comment) → Cosmetic s ((es.take i).map (·.outcome)) expr) :
    render es' = render es := by
  cases es with
  | nil =>
    cases h'
    rfl
  | cons r rs =>
    have hlines : lines (render (r :: rs)) = (r :: rs).flatMap fun r => lines r.output := by
      rw [render, Line.lines_unlines (by simp), List.flatMap_map]
    rw [evaluate, hlines] at h'
    rw [evaluateFrom_counted hnow Nat.one_pos (by simp [Earlier.Unmarked]) (fun l hl => ?_) h
      (fun i l expr comment hl hx => by simpa using hc i l expr comment hl hx) h']
    obtain ⟨hl, hout⟩ := List.mem_filter.1 hl
    exact ⟨hls l hl, by simpa using hout⟩

/-- A product is set with blanks, a sum refers to it, and the facts about a block stand below their
line. -/
theorem evaluate_render_block :
    let s : Surroundings := ⟨⟨0, some Zone.utc, false, by decide⟩, .fixed⟩
    let ls := ["2*3 = # rows", "\\1+4 =", "10.0.0.0/30 ="].map String.toList
    s.now.Unmarked ∧ (∀ l ∈ ls, '\n' ∉ l) ∧ ∃ es es', evaluate s 0 ls = .ok es ∧
      evaluate s 0 (lines (render es)) = .ok es' ∧ render es' = render es := by
  intro s ls
  have hnow : s.now.Unmarked := fun z hz => by
    cases hz
    exact Zone.unmarked_utc
  have hsingle : ∀ l ∈ ls, '\n' ∉ l := by decide
  obtain ⟨es, h⟩ := exists_eq_ok (show (evaluate s 0 ls).toOption.isSome = true by decide +kernel)
  have hrender : (evaluate s 0 ls).toOption.map (fun es =>
      ((evaluate s 0 (lines (render es))).toOption.isSome, es.map (·.outcome.dateTime))) =
        some (true, [none, none, none]) := by decide +kernel
  rw [h] at hrender
  obtain ⟨hagain, hdates⟩ := Prod.mk.inj (Option.some.inj hrender)
  obtain ⟨es', h'⟩ := exists_eq_ok hagain
  have hexpr : (Line.counted ls).map expressionOf? = [
      some ("2*3".toList, "# rows".toList), some ("\\1+4".toList, []),
      some ("10.0.0.0/30".toList, [])] := by decide +kernel
  refine ⟨hnow, hsingle, es, es', h, h', evaluate_render hnow hsingle h h'
    fun i l expr comment hl hx => ?_⟩
  have hm : ((Line.counted ls).map expressionOf?)[i]? = some (some (expr, comment)) := by
    rw [List.getElem?_map, hl, Option.map_some, hx]
  rw [hexpr] at hm
  match i, hm with
  | 0, hm =>
    cases hm
    exact .of_not_claims (by decide +kernel) (by decide +kernel) (by decide +kernel)
      (by decide +kernel)
  | 1, hm =>
    cases hm
    have hclaims : ∀ ev ∈ [Evaluator.subnets, .percentages, .units],
        ev.claims "\\1+4".toList = false ∧ ev.claims "\\1 + 4".toList = false := by decide +kernel
    have hformat : format "\\1+4".toList = "\\1 + 4".toList := by decide +kernel
    have hseen : (Earlier.seen ((es.take 1).map (·.outcome)) 1).dateTime = none := by
      cases es with
      | nil => rfl
      | cons r rs => exact (List.cons.inj hdates).1
    have hruns : runs "\\1+4".toList = ["1".toList] := by cbv
    have hruns' : runs "\\1 + 4".toList = ["1".toList] := by cbv
    refine ⟨by decide +kernel, by decide +kernel, .inl ⟨by decide +kernel, fun ev hev => ?_⟩⟩
    rw [hformat]
    cases ev with
    | dates =>
      exact ⟨passes_dates (hruns ▸ List.mem_cons_self) rfl hseen,
        passes_dates (hruns' ▸ List.mem_cons_self) rfl hseen⟩
    | subnets | percentages | units =>
      exact ⟨passes_of_not_claims (hclaims _ (by simp)).1,
        passes_of_not_claims (hclaims _ (by simp)).2⟩
    | arithmetic => exact absurd hev (by decide)
  | 2, hm =>
    cases hm
    exact .of_format_eq (by decide +kernel) (by decide +kernel)

-- The words of a phrase are one blank apart in what is shown, so it is recognised there.
example :
    let s : Surroundings := ⟨⟨0, some Zone.utc, false, by decide⟩, .fixed⟩
    let again (t : Option Text) := t.bind fun t => (evaluate s 0 (lines t)).toOption.map render
    let first := again (some "prefix  for 255.255.255.0 =".toList)
    again first ≠ first := by
  decide +kernel

end Document

end Worksheet
