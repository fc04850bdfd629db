import Worksheet.Proofs.FilledLines

/-!
# Results that can stand in a line

**Theorem (`Document.inline_display`).** What stands for references to a line is a text of one line
that begins with no mark, as long as the names of the clock's zone do not break a line. It begins
with a character of a number in any case (`Document.head_display`).

Numbers are made of few characters (`Amount.isShown`). Dates are told by numbers, names of zones,
and words that the expression has in its one line, so an invariant of the lines in front carries the
dates through a document.
-/

namespace Worksheet

open Text Result

theorem Inline.cons {c : Char} {t : Text} (hc : opensLine c = false) (ht : '\n' ∉ t) :
    Inline (c :: t) := by
  refine ⟨List.cons_ne_nil _ _, hc, fun hm => ?_⟩
  rcases List.mem_cons.1 hm with rfl | hm
  · cases hc
  · exact ht hm

/-! ## Numbers -/

namespace Amount

/-- A character of a number that is shown. -/
def isShown (c : Char) : Bool := isAsciiDigit c || ",.$-Nainf".toList.contains c

theorem opensLine_of_isShown {c : Char} (h : isShown c = true) : opensLine c = false := by
  rw [isShown, Bool.or_eq_true, List.contains_iff_mem] at h
  rcases h with hd | hc
  · have hopens : (c == '>') = false ∧ (c == '=') = false := by
      constructor <;> (rw [beq_eq_false_iff_ne]; rintro rfl; cases hd)
    rw [opensLine, not_isBlank_of_isDigit (isDigit_of_isAsciiDigit hd), hopens.1, hopens.2]
    rfl
  · fin_cases hc <;> rfl

/-- A text of one line that begins with a character of a number. -/
structure Leads (t : Text) : Prop where
  head : t.head?.any isShown = true
  single : '\n' ∉ t

theorem Leads.inline {t : Text} (h : Leads t) : Inline t := by
  cases t with
  | nil => cases h.head
  | cons c t => exact ⟨List.cons_ne_nil _ _, opensLine_of_isShown h.head, h.single⟩

theorem head_append {a b : Text} (h : a.head?.any isShown = true) :
    (a ++ b).head?.any isShown = true := by
  cases a with
  | nil => cases h
  | cons c a => exact h

theorem Leads.append {a b : Text} (h : Leads a) (hb : '\n' ∉ b) : Leads (a ++ b) :=
  ⟨head_append h.head, fun hm => (List.mem_append.1 hm).elim h.single hb⟩

theorem Leads.cons {c : Char} {t : Text} (hc : isShown c = true) (ht : '\n' ∉ t) :
    Leads (c :: t) := by
  refine ⟨hc, fun hm => ?_⟩
  rcases List.mem_cons.1 hm with rfl | hm
  · cases hc
  · exact ht hm

theorem leads_join {ps : List Text} (hne : ps ≠ []) (h : ∀ p ∈ ps, Leads p) :
    Leads (join [' '] ps) := by
  induction ps with
  | nil => exact absurd rfl hne
  | cons p ps ih =>
    obtain ⟨hp, hps⟩ := List.forall_mem_cons.1 h
    cases ps with
    | nil => exact hp
    | cons q ps =>
      rw [join, List.append_assoc]
      exact hp.append (by simp [(ih (List.cons_ne_nil q ps) hps).single])

theorem leads_of_all {t : Text} (hne : t ≠ []) (h : t.all isShown = true) : Leads t := by
  obtain ⟨c, w, rfl⟩ := List.exists_cons_of_ne_nil hne
  exact ⟨List.all_eq_true.1 h c List.mem_cons_self, fun hm => by cases List.all_eq_true.1 h _ hm⟩

theorem all_isShown_ofNat (n : Nat) : (ofNat n).all isShown = true :=
  List.all_eq_true.2 fun c hc => by simp [isShown, List.all_eq_true.1 (Reference.ofNat_ascii n) c hc]

theorem all_isShown_padLeft (k n : Nat) : (padLeft '0' k (ofNat n)).all isShown = true := by
  rw [padLeft, List.all_append, all_isShown_ofNat, Bool.and_true, List.all_replicate]
  simp [show isShown '0' = true from rfl]

theorem all_isShown_grouped (n : Nat) : (Fixed.grouped (ofNat n)).all isShown = true :=
  Fixed.all_grouped rfl (all_isShown_ofNat n)

theorem grouped_ne_nil (n : Nat) : Fixed.grouped (ofNat n) ≠ [] := by
  obtain ⟨c, w, hw, -⟩ := Token.exists_grouped n
  simp [hw]

theorem leads_ofNat (n : Nat) : Leads (ofNat n) :=
  leads_of_all (Literal.ofNat_ne_nil n) (all_isShown_ofNat n)

/-- What is shown for a number is shown with a sign in front of it. -/
theorem leads_signed {t : Text} (hne : t ≠ []) (h : t.all isShown = true) (negative : Bool) :
    Leads (if negative then '-' :: t else t) := by
  split
  · exact leads_of_all (List.cons_ne_nil _ _) (by rw [List.all_cons, h]; rfl)
  · exact leads_of_all hne h

/-- The characters of a number that is shown. -/
theorem format_shown (x : Float) (isCurrency : Bool) :
    format x isCurrency ≠ [] ∧ (format x isCurrency).all isShown = true := by
  have hplain (n : Nat) : plainDigits n ≠ [] ∧ (plainDigits n).all isShown = true := by
    have hplaces : (trimZeros (Fixed.fractionDigits 10 n)).all isShown = true :=
      List.all_eq_true.2 fun c hc => List.all_eq_true.1 (all_isShown_padLeft 10 _) c
        (trimRightBy_subset _ _ hc)
    unfold plainDigits
    dsimp only
    generalize trimZeros (Fixed.fractionDigits 10 n) = places at hplaces
    cases places with
    | nil => exact ⟨grouped_ne_nil _, all_isShown_grouped _⟩
    | cons c places =>
      rw [List.all_append, all_isShown_grouped, List.all_cons, hplaces]
      exact ⟨by simp [grouped_ne_nil], rfl⟩
  have hcents (whole cents : Nat) :
      (Fixed.grouped (ofNat whole) ++ '.' :: padLeft '0' 2 (ofNat cents)).all isShown = true := by
    rw [List.all_append, all_isShown_grouped, List.all_cons, all_isShown_padLeft]
    rfl
  unfold format
  split
  · decide
  · split
    · unfold currency
      dsimp only
      split
      · exact ⟨by simp, by rw [List.all_append, hcents]; rfl⟩
      · exact ⟨by simp, by rw [List.all_cons, hcents]; rfl⟩
    · unfold plain
      dsimp only
      split
      · exact ⟨List.cons_ne_nil _ _, by rw [List.all_cons, (hplain _).2]; rfl⟩
      · exact hplain _

theorem leads_format (x : Float) (isCurrency : Bool) : Leads (format x isCurrency) :=
  leads_of_all (format_shown x isCurrency).1 (format_shown x isCurrency).2

theorem leads_fixed (group : Bool) (places : Nat) (x : Float) :
    Leads (Fixed.ofFloat group places x) := by
  have hdigits (n : Nat) : Fixed.digits group places n ≠ [] ∧
      (Fixed.digits group places n).all isShown = true := by
    have hwhole : (if group then Fixed.grouped (ofNat (n / Nat.pow 10 places))
        else ofNat (n / Nat.pow 10 places)) ≠ [] ∧
        (if group then Fixed.grouped (ofNat (n / Nat.pow 10 places))
          else ofNat (n / Nat.pow 10 places)).all isShown = true := by
      split
      · exact ⟨grouped_ne_nil _, all_isShown_grouped _⟩
      · exact ⟨Literal.ofNat_ne_nil _, all_isShown_ofNat _⟩
    unfold Fixed.digits
    dsimp only
    split
    · exact hwhole
    · rw [List.all_append, hwhole.2, List.all_cons, Fixed.fractionDigits, all_isShown_padLeft]
      exact ⟨by simp, rfl⟩
  unfold Fixed.ofFloat
  split
  · exact leads_signed (hdigits _).1 (hdigits _).2 _
  · repeat' split
    all_goals exact leads_of_all (by decide) (by decide)

end Amount

/-! ## Dates -/

theorem newline_notMem_padLeft (k n : Nat) : '\n' ∉ padLeft '0' k (ofNat n) := fun hm => by
  cases List.all_eq_true.1 (Amount.all_isShown_padLeft k n) _ hm

theorem Moment.leads_formatDate (m : Moment) : Amount.Leads m.formatDate := by
  unfold formatDate
  dsimp only
  rw [List.append_assoc]
  exact (Amount.leads_ofNat _).append (by simp [twoDigits, newline_notMem_padLeft])

theorem Moment.head_format (m : Moment) : m.format.head?.any Amount.isShown = true := by
  unfold format
  simp only [List.append_assoc]
  exact Amount.head_append m.leads_formatDate.head

theorem Moment.leads_format {now m : Moment} (hm : Placed now m)
    (hnow : ∀ z ∈ now.zone, z.Lacks '\n') : Amount.Leads m.format := by
  have hname : '\n' ∉ m.zoneName := by
    unfold zoneName period?
    cases hz : m.zone with
    | none => exact List.not_mem_nil
    | some z => exact (hm z hz).lacks hnow rfl _ _ _
  unfold format
  simp only [List.append_assoc]
  exact m.leads_formatDate.append (by simp [twoDigits, newline_notMem_padLeft, hname])

theorem Span.leads_format (s : Span) : Amount.Leads s.format := by
  have hcounted (n : Nat) {unit : String} (hu : '\n' ∉ unit.toList) :
      Amount.Leads (counted n unit) := by
    unfold counted
    rw [List.append_assoc]
    refine (Amount.leads_ofNat n).append ?_
    split <;> simp [hu]
  have hpart {n : Nat} {t p : Text} (ht : Amount.Leads t) (hp : p ∈ if n = 0 then [] else [t]) :
      Amount.Leads p := by
    split at hp
    · cases hp
    · rwa [List.mem_singleton.1 hp]
  have hparts {ps : List Text} (h : ∀ p ∈ ps, Amount.Leads p) :
      Amount.Leads (if ps.isEmpty then "0 min".toList else Text.join [' '] ps) := by
    split
    · exact .cons (by decide) (by decide)
    · next hne => exact Amount.leads_join (by simpa using hne) h
  refine hparts fun p hp => ?_
  simp only [List.mem_append] at hp
  rcases hp with ((((hp | hp) | hp) | hp) | hp) | hp
  case inr => exact hpart ((Amount.leads_ofNat _).append (by decide)) hp
  all_goals exact hpart (hcounted _ (by decide)) hp

theorem Duration.leads_format (d : Duration) : Amount.Leads d.format := by
  have hseconds (x : Float) : Amount.Leads (formatSeconds x) := by
    unfold formatSeconds
    dsimp only
    split
    · split
      · rw [List.append_assoc, List.append_assoc]
        refine (Amount.leads_ofNat _).append ?_
        simp [(Amount.leads_fixed false 1 _).single]
      · exact (Amount.leads_ofNat _).append (by decide)
    · repeat' split
      all_goals exact (Amount.leads_fixed _ _ _).append (by decide)
  unfold Duration.format
  split
  · exact .cons (by decide) (hseconds _).single
  · exact hseconds _

namespace Calendar.Told

variable {now : Moment} {expr t : Text}

/-- What an answer about dates tells begins with a character of a number. -/
theorem head (h : Told now expr t) : t.head?.any Amount.isShown = true := by
  cases h with
  | moment m _ => exact m.head_format
  | date m => exact m.leads_formatDate.head
  | amount x _ _ => exact Amount.head_append (Amount.leads_fixed _ _ x).head
  | span s => exact s.leads_format.head
  | days n => exact Amount.head_append (Amount.leads_fixed _ _ _).head
  | duration d => exact d.leads_format.head

/-- It is of one line, if the expression is. -/
theorem inline (h : Told now expr t) (hnow : ∀ z ∈ now.zone, z.Lacks '\n') (hx : '\n' ∉ expr) :
    Inline t := by
  cases h with
  | moment m hm => exact (Moment.leads_format hm hnow).inline
  | date m => exact m.leads_formatDate.inline
  | amount x unit hu =>
    exact ((Amount.leads_fixed _ _ _).append (by simpa using fun hm => hx (hu hm))).inline
  | span s => exact s.leads_format.inline
  | days n => exact ((Amount.leads_fixed _ _ _).append (by decide)).inline
  | duration d => exact d.leads_format.inline

end Calendar.Told

/-! ## Lines -/

variable {s : Surroundings} {e : Earlier} {expr : Text} {a : Answer}

/-- The dates that lines leave are of one line. -/
def Earlier.Dated (e : Earlier) : Prop := ∀ o ∈ e, ∀ t ∈ o.dateTime, Inline t

theorem Earlier.Dated.append (h : e.Dated) {o : Outcome} (ho : ∀ t ∈ o.dateTime, Inline t) :
    (e ++ [o]).Dated := fun o' ho' => by
  rcases List.mem_append.1 ho' with hm | hm
  · exact h o' hm
  · rwa [List.mem_singleton.1 hm]

/-- The answer to an expression of one line leaves a date of one line, or none. -/
theorem Earlier.Dated.evaluate (he : e.Dated) (hnow : ∀ z ∈ s.now.zone, z.Lacks '\n')
    (hx : '\n' ∉ expr) {evs : List Evaluator} (h : Worksheet.evaluate s evs e expr = .ok a) :
    (e ++ [a.outcome]).Dated := by
  obtain ⟨ev, -, -, hev⟩ := exists_of_answerFrom h
  refine he.append fun t ht => ?_
  obtain ⟨-, u, hu, hrun⟩ := of_dateTime hev ht
  have hsingle : '\n' ∉ u := Reference.notMem_replaceM
    (Earlier.yields_dateTime fun o ho t ht => (he o ho t ht).single) hx hu
  exact (Calendar.told_run hrun).inline hnow fun hm => hsingle (trim_subset u hm)

namespace Document

variable {active : Int} {n : Nat} {l : Text} {ls : List Text} {r : EvaluatedLine}
  {es : List EvaluatedLine}

theorem dated_evaluateLine {isActive : Bool} (hnow : ∀ z ∈ s.now.zone, z.Lacks '\n') (he : e.Dated)
    (hl : '\n' ∉ l) (h : evaluateLine s isActive e l = .ok r) : Earlier.Dated (e ++ [r.outcome]) := by
  have hnone : Earlier.Dated (e ++ [({} : Outcome)]) := he.append (by simp)
  unfold evaluateLine at h
  split at h
  · cases h
    exact hnone
  · next hx =>
    dsimp only at h
    split at h
    · next ha =>
      cases h
      exact he.evaluate hnow (expressionOf_spec hx hl).1.single ha
    · cases h
      exact hnone
    · cases h

theorem dated_evaluateFrom (hnow : ∀ z ∈ s.now.zone, z.Lacks '\n') (he : e.Dated)
    (hls : ∀ l ∈ ls, '\n' ∉ l) (h : evaluateFrom s active n e ls = .ok es) :
    Earlier.Dated (e ++ es.map (·.outcome)) := by
  induction ls generalizing n e es with
  | nil =>
    cases h
    rwa [List.map_nil, List.append_nil]
  | cons l ls ih =>
    obtain ⟨hl, hls⟩ := List.forall_mem_cons.1 hls
    obtain ⟨x, xs, hx, hxs, rfl⟩ := evaluateFrom_cons.1 h
    have := ih (dated_evaluateLine hnow he hl hx) hls hxs
    rwa [List.append_assoc] at this

theorem head_evaluateLine {isActive : Bool} (h : evaluateLine s isActive e l = .ok r) {t : Text}
    (ht : r.outcome.dateTime = some t) : t.head?.any Amount.isShown = true := by
  unfold evaluateLine at h
  split at h
  · cases h
    cases ht
  · dsimp only at h
    split at h
    · next ha =>
      cases h
      obtain ⟨ev, -, -, hev⟩ := exists_of_answerFrom ha
      obtain ⟨-, u, -, hrun⟩ := of_dateTime hev ht
      exact (Calendar.told_run hrun).head
    · cases h
      cases ht
    · cases h

theorem head_evaluateFrom (h : evaluateFrom s active n e ls = .ok es) :
    ∀ r ∈ es, ∀ t ∈ r.outcome.dateTime, t.head?.any Amount.isShown = true := by
  induction ls generalizing n e es with
  | nil =>
    cases h
    exact fun r hr => by cases hr
  | cons l ls ih =>
    obtain ⟨x, xs, hx, hxs, rfl⟩ := evaluateFrom_cons.1 h
    exact List.forall_mem_cons.2 ⟨fun t ht => head_evaluateLine hx ht, ih hxs⟩

/-- What stands for references is an amount or a date. -/
theorem display_cases {o : Outcome} {w : Text} (h : o.display? = some w) :
    (∃ x, w = Amount.format x o.isCurrency) ∨ o.dateTime = some w := by
  unfold Outcome.display? at h
  split at h
  · next x _ =>
    cases h
    exact .inl ⟨x, rfl⟩
  · obtain ⟨t, ht, h⟩ := Option.bind_eq_some_iff.1 h
    split at h
    · cases h
    · cases h
      exact .inr ht

/-- An outcome that is seen and has a date is that of a line. -/
theorem exists_of_seen {t : Text}
    (h : (Earlier.seen (es.map (·.outcome)) n).dateTime = some t) :
    ∃ r ∈ es, r.outcome.dateTime = some t := by
  rcases Earlier.seen_mem (e := es.map (·.outcome)) (n := n) with hseen | hm
  · rw [hseen] at h
    cases h
  · obtain ⟨r, hr, hseen⟩ := List.mem_map.1 hm
    exact ⟨r, hr, hseen ▸ h⟩

/-- What stands for references to a line of a document is of one line. -/
theorem inline_display (hnow : ∀ z ∈ s.now.zone, z.Lacks '\n') (hls : ∀ l ∈ ls, '\n' ∉ l)
    (h : evaluate s active ls = .ok es) {w : Text}
    (hw : (Earlier.seen (es.map (·.outcome)) n).display? = some w) : Inline w := by
  rcases display_cases hw with ⟨x, rfl⟩ | ht
  · exact (Amount.leads_format _ _).inline
  · obtain ⟨r, hr, hr'⟩ := exists_of_seen ht
    have hdated : Earlier.Dated (es.map (·.outcome)) := dated_evaluateFrom (e := []) hnow
      (fun _ ho => by cases ho) (fun l hl => hls l (List.mem_filter.1 hl).1) h
    exact hdated _ (List.mem_map_of_mem hr) _ hr'

/-- What stands for references to a line begins with a character of a number. -/
theorem head_display (h : evaluate s active ls = .ok es) {w : Text}
    (hw : (Earlier.seen (es.map (·.outcome)) n).display? = some w) :
    w.head?.any Amount.isShown = true := by
  rcases display_cases hw with ⟨x, rfl⟩ | ht
  · exact (Amount.leads_format _ _).head
  · obtain ⟨r, hr, ht⟩ := exists_of_seen ht
    exact head_evaluateFrom h r hr _ ht

end Document

end Worksheet
