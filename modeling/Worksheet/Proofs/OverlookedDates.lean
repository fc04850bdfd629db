import Worksheet.Proofs.Formats
import Worksheet.Proofs.OverlookedSubnets

/-!
# Answers about dates that the first look overlooks

The first look finds a date by its numbers, so it misses a date that names its month and one whose
numbers are short, unless there is a keyword. It also misses a unit in which a letter beyond ASCII
stands for an `s` or an `i`. All else that the rules answer is claimed (`claims_or_overlooked`).

Every rule reads some part of the expression as a moment, or takes one for a unit. So the proof goes
by parts: what is claimed of a part is claimed of the whole (`claims_of_part`), and a part that is
read is claimed by a word, by an `am` or `pm`, or it is a date (`settled_of_ofText?`).
-/

namespace Worksheet

open Text Result Pattern

/-! ## What a format reads -/

namespace FormatPart

variable {p : FormatPart} {u : Text}

theorem steady_digitIn {lo hi : Char} (hlo : '0' ≤ lo) (hhi : hi ≤ '9') :
    (digitIn lo hi).Within fun c => isSteady c = true := fun c hc => by
  rw [Bool.and_eq_true, decide_eq_true_eq, decide_eq_true_eq] at hc
  refine isSteady_iff.2 (.inl (isDigit_of_isAsciiDigit ?_))
  rw [isAsciiDigit, Bool.and_eq_true, decide_eq_true_eq, decide_eq_true_eq]
  exact ⟨Char.le_trans hlo hc.1, Char.le_trans hc.2 hhi⟩

/-- The parts of a time that are numbers, and the marks between them, are steady. -/
theorem steady_body (h : p ∈ [hour, minute, second, mark ':']) :
    p.body.Within fun c => isSteady c = true := by
  have hdigit : digit.Within fun c => isSteady c = true := fun _ hc => isSteady_iff.2 (.inl hc)
  have hchar {c : Char} (hc : isSteady c = true) := steady_char hc
  have hsixty : sixty.Within fun c => isSteady c = true :=
    ⟨⟨steady_digitIn (by decide) (by decide), hdigit⟩, hdigit⟩
  simp only [List.mem_cons, List.not_mem_nil, or_false] at h
  rcases h with rfl | rfl | rfl | rfl
  · exact ⟨⟨hchar rfl, steady_digitIn (by decide) (by decide)⟩,
      ⟨steady_digitIn (by decide) (by decide), hdigit⟩, hdigit⟩
  · exact hsixty
  · exact ⟨⟨hchar rfl, steady_digitIn (by decide) (by decide)⟩, hsixty⟩
  · exact hchar rfl

end FormatPart

namespace Format

variable {f : Format} {p : FormatPart} {t : Text}

/-- A format spells what it reads. -/
theorem spells_of_read? (h : (f.read? t).isSome = true) : f.pattern.Spells t := by
  obtain ⟨r, h⟩ := Option.isSome_iff_exists.1 h
  obtain ⟨m, hm, hright⟩ := matchStart_of_read? h
  obtain ⟨w, hw, ht⟩ := spells_of_matchStart hm
  rwa [ht, hright, List.append_nil]

theorem needs_of_mem (h : p ∈ f) : f.pattern.Needs p.body := by
  induction f with
  | nil => cases h
  | cons q f ih =>
    rcases List.mem_cons.1 h with rfl | h
    · exact .left (.group _ .self)
    · exact .right (ih h)

theorem steady_pattern {q : Char → Prop} (h : ∀ p ∈ f, p.body.Within q) : f.pattern.Within q := by
  induction f with
  | nil => trivial
  | cons p f ih =>
    exact ⟨h p List.mem_cons_self, ih fun p' hp => h p' (List.mem_cons_of_mem p hp)⟩

end Format

namespace Calendar

variable {now m : Moment} {zone : Option Zone} {expr t u a : Text}

/-! ## What is claimed of a part -/

theorem claims_iff : claims expr = true ↔ (∃ k ∈ keywords, k <:+: lower expr) ∨
    (∃ p ∈ datePatterns, p.occurs expr = true) ∨ '\\' ∈ expr := by
  simp only [claims, Bool.or_eq_true, List.any_eq_true, occursIn_iff, List.contains_iff_mem,
    or_assoc]

theorem sigmaless_keywords : ∀ k ∈ keywords, Sigmaless k := by decide

theorem testless_datePatterns : ∀ p ∈ datePatterns, p.testless = true :=
  List.all_eq_true.1 (show datePatterns.all Pattern.testless = true from rfl)

theorem steady_datePatterns : ∀ p ∈ datePatterns, p.Within fun c => isSteady c = true := by
  have hmark {c : Char} (h : isSteady c = true) := steady_char h
  have hdigits {n m : Nat} := steady_times (n := n) (m := m)
  intro p hp
  simp only [datePatterns, List.mem_cons, List.not_mem_nil, or_false] at hp
  rcases hp with rfl | rfl | rfl
  · exact ⟨⟨⟨⟨hdigits, hmark rfl⟩, hdigits⟩, hmark rfl⟩, hdigits⟩
  · exact ⟨⟨⟨⟨hdigits, hmark rfl⟩, hdigits⟩, hmark rfl⟩, hdigits⟩
  · exact ⟨⟨hdigits, hmark rfl⟩, hdigits⟩

/-- A part of the expression, or of its lower case. -/
def Part (expr u : Text) : Prop := u <:+: expr ∨ u <:+: lower expr

theorem Part.trans {v : Text} (h : Part expr u) (hv : v <:+: u) : Part expr v :=
  h.imp hv.trans hv.trans

/-- What is claimed of a part is claimed of the whole. -/
theorem claims_of_part (h : Part expr u) (hu : claims u = true) : claims expr = true := by
  have hsteady {w : Text} (hw : w.all isSteady = true) (hwu : w <:+: u) : w <:+: expr :=
    h.elim hwu.trans fun h => infix_of_infix_lower hw (hwu.trans h)
  rcases claims_iff.1 hu with ⟨k, hk, hku⟩ | ⟨p, hp, hocc⟩ | hbackslash
  · refine claims_iff.2 (.inl ⟨k, hk, ?_⟩)
    rcases h with h | h
    · exact infix_lower_mono (sigmaless_keywords k hk) h hku
    · rw [lower_eq_self h] at hku
      exact hku.trans h
  · obtain ⟨w, hw, hwu⟩ := exists_spells_of_occurs hocc
    have hall : w.all isSteady = true :=
      List.all_eq_true.2 (hw.within (steady_datePatterns p hp))
    exact claims_iff.2 (.inr (.inl ⟨p, hp, (occurs_iff (testless_datePatterns p hp)).2
      ⟨w, hw, hsteady hall hwu⟩⟩))
  · rw [← List.singleton_infix_iff] at hbackslash
    exact claims_iff.2 (.inr (.inr (List.singleton_infix_iff _ _ |>.1 (hsteady rfl hbackslash))))

/-! ## What is overlooked -/

/-- A date, or a time without `am` and `pm`. -/
def isDated (t : Text) : Bool :=
  (Format.dates ++ [Format.time, Format.timeSeconds]).any fun f => (f.read? t).isSome

/-- A day and a month without a year. -/
def isDayOfMonth (u : Text) : Bool :=
  ((Moment.nameAndDay? u).bind fun p => Moment.monthOfName? p.1).isSome

/-- Expressions that the rules may answer though the first look does not claim them. -/
inductive Overlooked (expr : Text) : Prop
  /-- A part is a date or time, but no date pattern occurs: the month has its name, or a number has
  fewer digits than the patterns want. -/
  | date {u : Text} : Part expr u → isDated u = true → datePatterns.all (!·.occurs expr) = true →
    Overlooked expr
  /-- Days are counted from or to a day without a year. -/
  | day {u : Text} : Part expr u → isDayOfMonth u = true → " - ".toList <:+: lower expr →
    Overlooked expr
  /-- A unit has a letter that is not its own. -/
  | unit {u : Text} : u <:+: expr → (unit 1).Spells u → (∃ c ∈ u, c ∈ oddLetters) →
    Overlooked expr

/-- The expression is claimed or overlooked. -/
def Settled (expr : Text) : Prop := claims expr = true ∨ Overlooked expr

/-! ## Reading a moment -/

theorem claims_of_keyword {k : Text} (hk : k ∈ keywords) (h : k <:+: lower t) : claims t = true :=
  claims_iff.2 (.inl ⟨k, hk, h⟩)

theorem claims_of_now (h : Moment.isNow (lower t) = true) : claims t = true := by
  rw [Moment.isNow, Bool.or_eq_true, beq_iff_eq, beq_iff_eq] at h
  refine claims_of_keyword (k := "now".toList) (by decide) ?_
  rcases h with h | h
  · rw [h]
  · rw [h]
    decide

theorem claims_of_dayWord (h : Moment.isDayWord (lower t) = true) : claims t = true := by
  rw [Moment.isDayWord, List.any_eq_true] at h
  obtain ⟨w, hw, h⟩ := h
  have hkeyword : ∀ w ∈ Moment.dayWords, ∃ k ∈ keywords, k <:+: w.toList := by decide
  obtain ⟨k, hk, hkw⟩ := hkeyword w hw
  exact claims_of_keyword hk (beq_iff_eq.1 h ▸ hkw)

/-- Where a part is a date, the expression is claimed by its date patterns or overlooked. -/
theorem settled_of_read? {f : Format} (hpart : Part expr u)
    (hf : f ∈ Format.dates ++ [Format.time, Format.timeSeconds]) (hr : (f.read? u).isSome = true) :
    Settled expr := by
  by_cases hp : ∃ p ∈ datePatterns, p.occurs expr = true
  · exact .inl (claims_iff.2 (.inr (.inl hp)))
  · refine .inr (.date hpart (List.any_eq_true.2 ⟨f, hf, hr⟩) (List.all_eq_true.2 fun p hp' => ?_))
    rw [Bool.eq_false_iff.2 fun hocc => hp ⟨p, hp', hocc⟩]
    rfl

/-- Where the lower case of a part is a time, the expression is claimed or overlooked. -/
theorem settled_of_time {f : Format} (hf : f ∈ Format.times) (hpart : Part expr u)
    (hr : (f.read? (lower u)).isSome = true) : Settled expr := by
  have hspells := Format.spells_of_read? hr
  have hforms : ∀ f ∈ Format.times, FormatPart.half ∈ f ∨
      f ∈ [Format.time, Format.timeSeconds] ∧
        ∀ p ∈ f, p ∈ [FormatPart.hour, .minute, .second, .mark ':'] := by decide
  rcases hforms f hf with hhalf | ⟨hplain, hparts⟩
  · -- Lower case does not change the word, so it stands in the lower case of the text.
    obtain ⟨w, hw, hwu⟩ := (Format.needs_of_mem hhalf).exists_spells hspells
    refine .inl (claims_of_part hpart ?_)
    have hlow : lower (lower u) = lower u := lower_eq_self (List.infix_refl _)
    rcases hw with hw | hw
    · refine claims_of_keyword (k := "am".toList) (by decide) ?_
      exact hlow ▸ infix_lower_of_anyCase (by decide) hw hwu
    · refine claims_of_keyword (k := "pm".toList) (by decide) ?_
      exact hlow ▸ infix_lower_of_anyCase (by decide) hw hwu
  · have hsteady : (lower u).all isSteady = true := by
      refine List.all_eq_true.2 (hspells.within (Format.steady_pattern fun p hp => ?_))
      exact FormatPart.steady_body (hparts p hp)
    have hsame : lower u <:+: u := infix_of_infix_lower hsteady (List.infix_refl _)
    exact settled_of_read? (hpart.trans hsame) (List.mem_append_right _ hplain) hr

theorem settled_of_ofPlainText? (hpart : Part expr u)
    (h : Moment.ofPlainText? now zone u = .ok (some m)) : Settled expr := by
  unfold Moment.ofPlainText? at h
  dsimp only at h
  split at h
  · next hnow => exact .inl (claims_of_part hpart (claims_of_now hnow))
  split at h
  · next hday => exact .inl (claims_of_part hpart (claims_of_dayWord hday))
  split at h
  · next r hr =>
    obtain ⟨f, hf, hr⟩ := List.exists_of_findSome?_eq_some hr
    exact settled_of_read? hpart (List.mem_append_left _ hf) (Option.isSome_iff_exists.2 ⟨r, hr⟩)
  split at h
  · next r hr =>
    obtain ⟨f, hf, hr⟩ := List.exists_of_findSome?_eq_some hr
    exact settled_of_time hf hpart (Option.isSome_iff_exists.2 ⟨r, hr⟩)
  · cases h

theorem splitZone_part (zone : Option Zone) (t : Text) :
    (Moment.splitZone zone t).2 <:+: t := by
  unfold Moment.splitZone
  split
  · next head tail hcut =>
    split
    · exact cutAtLast_part hcut
    · exact List.infix_refl t
  · exact List.infix_refl t

/-- Where a part is read as a moment, the expression is claimed or overlooked. -/
theorem settled_of_ofText? (hpart : Part expr u)
    (h : Moment.ofText? now zone u = .ok (some m)) : Settled expr :=
  settled_of_ofPlainText? (hpart.trans ((splitZone_part _ _).trans (trim_part u))) h

theorem settled_of_ofPartialText? (hpart : u <:+: lower expr) (hdash : " - ".toList <:+: lower expr)
    (h : Moment.ofPartialText? now u = .ok (some m)) : Settled expr := by
  have htrim : trim u <:+: lower expr := (trim_part u).trans hpart
  unfold Moment.ofPartialText? at h
  rw [lower_eq_self htrim] at h
  dsimp only at h
  split at h
  · exact settled_of_ofText? (.inr htrim) h
  · next month day hname =>
    refine .inr (.day (.inr htrim) ?_ hdash)
    obtain ⟨p, hp, hmonth⟩ := Option.bind_eq_some_iff.1 hname
    obtain ⟨month', hmonth, -⟩ := Option.map_eq_some_iff.1 hmonth
    rw [isDayOfMonth, hp]
    exact Option.isSome_iff_exists.2 ⟨month', hmonth⟩

/-! ## Rules -/

theorem settled_of_unit {w : Text} {k : Nat} (hw : (unit k).Spells w) (h : w <:+: expr) :
    Settled expr := by
  obtain ⟨p, hp, hspells⟩ := exists_of_spells_firstOf hw
  obtain ⟨l, hl, rfl⟩ := List.mem_map.1 hp
  obtain ⟨u, v, hu, -, rfl⟩ := hspells
  have hkeyword : ∀ l ∈ ["second", "sec", "minute", "min", "hour", "hr", "day", "week", "month",
      "year", "yr"], l.toList ∈ keywords ∧ l.toList.all Char.isLower = true ∧
        Sigmaless l.toList := by decide
  obtain ⟨hk, hlower, hsigma⟩ := hkeyword l hl
  rcases small_of_anyCase hlower hu with hsmall | ⟨⟨c, hc, hodd⟩, -⟩
  · refine .inl (claims_of_keyword hk ?_)
    rw [infix_lower_iff hsigma, ← hsmall]
    exact infix_flatMap ((List.prefix_append u v).isInfix.trans h)
  · exact .inr (.unit h hw ⟨c, List.mem_append_left v hc, hodd⟩)

theorem exists_of_onWhole {p : Pattern} {f : Match → Result (Option Text)} {low : Text}
    (h : onWhole p f expr low = .ok (some a)) :
    ∃ m, p.matchStart expr = some m ∧ f m = .ok (some a) := by
  unfold onWhole at h
  split at h
  · next m hm => exact ⟨m, hm, h⟩
  · cases h

theorem exists_of_retold {t source target : Text} (h : retold now t source target = .ok (some a)) :
    ∃ zone m, Moment.ofText? now zone t = .ok (some m) := by
  unfold retold at h
  split at h
  · next source target hs ht =>
    obtain ⟨m, hm, h⟩ := bind_eq_ok.1 h
    cases m with
    | none => cases h
    | some m => exact ⟨some source, m, hm⟩
  · cases h

theorem settled_of_spanAt {ms : List Match} (hms : ∀ m ∈ ms, m.left <:+: expr)
    (h : spanAt now ms = .ok (some a)) : Settled expr := by
  induction ms with
  | nil => cases h
  | cons m ms ih =>
    rw [spanAt] at h
    obtain ⟨x, hx, h⟩ := bind_eq_ok.1 h
    obtain ⟨y, hy, h⟩ := bind_eq_ok.1 h
    cases x with
    | some x => exact settled_of_ofText? (.inl (hms m List.mem_cons_self)) hx
    | none => exact ih (fun m' hm => hms m' (List.mem_cons_of_mem m hm)) h

theorem settled_of_rangeAt {ws : List Text} (hws : ∀ w ∈ ws, w ∈ rangeWords)
    (h : rangeAt now (lower expr) ws = .ok (some a)) : Settled expr := by
  have hword : ∀ w ∈ rangeWords, (∃ k ∈ keywords, k <:+: w) ∨ w = " - ".toList := by decide
  induction ws with
  | nil => cases h
  | cons w ws ih =>
    have hagain := ih fun w' hw => hws w' (List.mem_cons_of_mem w hw)
    rw [rangeAt] at h
    split at h
    · exact hagain h
    · exact hagain h
    · next x y _ hcut =>
      have hlow := cutAtPhrase_append hcut
      have hw : w <:+: lower expr := ⟨x, y, by rw [hlow, List.append_assoc]⟩
      rcases hword w (hws w List.mem_cons_self) with ⟨k, hk, hkw⟩ | rfl
      · exact .inl (claims_of_keyword hk (hkw.trans hw))
      · obtain ⟨start, hstart, h⟩ := bind_eq_ok.1 h
        obtain ⟨stop, hstop, h⟩ := bind_eq_ok.1 h
        cases start with
        | none => cases h
        | some start =>
          refine settled_of_ofPartialText? ?_ hw hstart
          rw [hlow]
          exact (List.prefix_append _ _).isInfix

/-- An expression that a rule about dates answers is claimed or overlooked. -/
theorem settled_of_rule {rule : PhraseRule} (hrule : rule ∈ rules now)
    (h : rule expr (lower expr) = .ok (some a)) : Settled expr := by
  have hread {x : Result (Option Moment)} {f : Option Moment → Result (Option Text)}
      (hnone : f none = .ok none) (h : x >>= f = .ok (some a)) : ∃ m, x = .ok (some m) := by
    obtain ⟨m, hm, h⟩ := bind_eq_ok.1 h
    cases m with
    | none =>
      rw [hnone] at h
      cases h
    | some m => exact ⟨m, hm⟩
  have hunit {p : Pattern} {m : Match} (hneeds : p.Needs (unit 2))
      (hm : p.matchStart expr = some m) : Settled expr := by
    obtain ⟨u, hu, hpart⟩ := hneeds.exists_of_matchStart hm
    exact settled_of_unit hu hpart
  simp only [rules, List.mem_cons, List.not_mem_nil, or_false] at hrule
  rcases hrule with rfl | rfl | rfl | rfl | rfl | rfl | rfl | rfl | rfl | rfl
  · -- now elsewhere
    obtain ⟨m, hm, -⟩ := exists_of_onWhole h
    have hneeds : nowIn.Needs (anyCase "now") := .left (.left (.left (.left .self)))
    obtain ⟨u, hu, hpart⟩ := hneeds.exists_of_matchStart hm
    refine .inl (claims_of_keyword (k := "now".toList) (by decide) ?_)
    exact infix_lower_of_anyCase (by decide) hu hpart
  · -- now here
    unfold nowHere at h
    split at h
    · next hnow => exact .inl (claims_of_now hnow)
    split at h
    · next hday => exact .inl (claims_of_dayWord hday)
    · cases h
  · -- a time elsewhere
    obtain ⟨m, hm, h⟩ := exists_of_onWhole h
    obtain ⟨zone, x, hx⟩ := exists_of_retold h
    exact settled_of_ofText? (.inl ((trim_part _).trans (group_part hm 1))) hx
  · -- a duration in another unit
    obtain ⟨m, hm, -⟩ := exists_of_onWhole h
    exact hunit (.left (.left (.left (.right .self)))) hm
  · -- a moved date
    obtain ⟨m, hm, h⟩ := exists_of_onWhole h
    obtain ⟨x, hx⟩ := hread rfl h
    exact settled_of_ofText? (.inl (group_part hm 1)) hx
  · -- a span
    exact settled_of_spanAt (fun m hm => (sides_of_mem_findAll hm).1) h
  · -- a moment elsewhere
    obtain ⟨m, hm, h⟩ := exists_of_onWhole h
    obtain ⟨zone, x, hx⟩ := exists_of_retold h
    exact settled_of_ofText? (.inl (group_part hm 1)) hx
  · -- a range of days
    exact settled_of_rangeAt (fun w hw => hw) h
  · -- a multiple of a duration
    unfold multiple at h
    cases hfirst : numberTimesDuration.matchStart expr with
    | some m => exact hunit (.left (.right .self)) hfirst
    | none =>
      cases hsecond : durationTimesNumber.matchStart expr with
      | some m => exact hunit (.left (.left (.left (.right .self)))) hsecond
      | none =>
        rw [hfirst, hsecond] at h
        cases h
  · -- a moment by itself
    obtain ⟨x, hx⟩ := hread rfl h
    exact settled_of_ofText? (.inl (List.infix_refl expr)) hx

/-- An expression that the rules about dates answer is claimed, or it is overlooked without the
blanks around it. -/
theorem claims_or_overlooked (h : PhraseRule.run (rules now) expr = .ok (some a)) :
    claims expr = true ∨ Overlooked (trim expr) := by
  obtain ⟨rule, hrule, h⟩ := PhraseRule.exists_of_run h
  exact (settled_of_rule hrule h).imp_left (claims_of_part (.inl (trim_part expr)))

end Calendar

end Worksheet
