import Worksheet.Proofs.Passing
import Worksheet.Proofs.Tellings

/-!
# Answers about dates without a comment mark

A moment is told with the name of a period of its zone. The zones of the table have names without a
comment mark, so it comes down to the zone of the clock. A rule about dates takes nothing over from
its expression but a word for a unit.
-/

namespace Worksheet

open Text Result

/-! ## Moments -/

/-- No period has a name with a comment mark. -/
def Zone.Unmarked (z : Zone) : Prop :=
  ∀ year t fold, Worksheet.Unmarked (z.atWall year t fold).name.toList

theorem Zone.unmarked_utc : Unmarked utc := fun _ _ _ =>
  show Worksheet.Unmarked "UTC".toList by decide

namespace Moment

variable {now m : Moment}

/-- The zone of a moment, if it has one, has names without a comment mark. -/
def Unmarked (m : Moment) : Prop := ∀ z ∈ m.zone, z.Unmarked

theorem Unmarked.zoneName (h : m.Unmarked) : Worksheet.Unmarked m.zoneName := by
  unfold Moment.zoneName period?
  cases hz : m.zone with
  | none => exact .nil
  | some z => exact h z hz _ _ _

theorem unmarked_formatDate (m : Moment) : Worksheet.Unmarked m.formatDate := by
  simp [formatDate, twoDigits, Unmarked.padLeft]

theorem Unmarked.format (h : m.Unmarked) : Worksheet.Unmarked m.format := by
  simp [Moment.format, twoDigits, unmarked_formatDate, h.zoneName]

theorem Unmarked.of_placed (h : now.Unmarked) (hm : Placed now m) : m.Unmarked :=
  fun z hz => (hm z hz).lacks h rfl

end Moment

/-! ## Durations and spans -/

@[simp] theorem Duration.unmarked_format (d : Duration) : Unmarked d.format := by
  have hseconds (x : Float) : Unmarked (formatSeconds x) := by
    unfold formatSeconds
    dsimp only
    repeat' split
    all_goals simp
  unfold Duration.format
  split
  · simp [hseconds]
  · exact hseconds _

@[simp] theorem Span.unmarked_counted (n : Nat) {unit : String} (h : Unmarked unit.toList) :
    Unmarked (counted n unit) := by
  unfold counted
  split <;> simp [h]

@[simp] theorem Span.unmarked_format (s : Span) : Unmarked s.format := by
  have hjoin {ps : List Text} (h : ∀ p ∈ ps, Unmarked p) :
      Unmarked (if ps.isEmpty then "0 min".toList else Text.join [' '] ps) := by
    split
    · decide
    · exact .join (by decide) h
  have hpart {n : Nat} {t p : Text} (ht : Unmarked t) (hp : p ∈ if n = 0 then [] else [t]) :
      Unmarked p := by
    split at hp
    · cases hp
    · rwa [List.mem_singleton.1 hp]
  refine hjoin fun p hp => ?_
  simp only [List.mem_append] at hp
  rcases hp with ((((hp | hp) | hp) | hp) | hp) | hp
  all_goals exact hpart (by simp) hp

/-! ## Rules -/

namespace Calendar

variable {now : Moment} {expr t : Text}

theorem Told.unmarked (h : Told now expr t) (hnow : now.Unmarked) (hx : Unmarked expr) :
    Unmarked t := by
  cases h with
  | moment m hm => exact (hnow.of_placed hm).format
  | date m => exact m.unmarked_formatDate
  | amount x unit hu => simpa [formatAmount] using hx.subset hu
  | span s => exact s.unmarked_format
  | days n => simp [formatDays]
  | duration d => exact d.unmarked_format

theorem keepsUnmarked_rules (h : now.Unmarked) : ∀ rule ∈ rules now, rule.KeepsUnmarked :=
  fun rule hrule _ low hx a ha t ht => (told_rules rule hrule low a ha t ht).unmarked h hx

end Calendar

/-! ## Evaluators -/

/-- The dates that lines in front leave are without a comment mark. -/
def Earlier.Unmarked (e : Earlier) : Prop := ∀ o ∈ e, ∀ t ∈ o.dateTime, Worksheet.Unmarked t

theorem Earlier.Unmarked.append {e : Earlier} (h : e.Unmarked) {o : Outcome}
    (ho : ∀ t ∈ o.dateTime, Worksheet.Unmarked t) : (e ++ [o]).Unmarked := fun o' ho' => by
  rcases List.mem_append.1 ho' with hm | hm
  · exact h o' hm
  · rwa [List.mem_singleton.1 hm]

/-- A character of a text with references replaced is one of the text, or of what replaces them. -/
theorem Reference.notMem_replaceM {f : Nat → Result Text} {t u : Text} {c : Char}
    (hf : ∀ n, Yields (c ∉ ·) (f n)) (ht : c ∉ t) (h : replaceM f t = .ok u) : c ∉ u := by
  obtain ⟨ps, hps, hu⟩ := bind_eq_ok.1 h
  cases hu
  intro hm
  obtain ⟨v, hv, hc⟩ := List.mem_flatten.1 hm
  obtain ⟨p, hp, hfp⟩ := exists_of_mem_mapM hps hv
  cases p with
  | char x =>
    cases hfp
    rw [List.mem_singleton] at hc
    subst hc
    refine ht ?_
    rw [← flatten_pieces t]
    exact List.mem_flatMap.2 ⟨_, hp, List.mem_singleton.2 rfl⟩
  | reference digits =>
    obtain ⟨n, -, hn⟩ := bind_eq_ok.1 hfp
    exact hf n v hn hc

theorem Earlier.yields_dateTime {P : Text → Prop} {e : Earlier} (h : ∀ o ∈ e, ∀ t ∈ o.dateTime, P t)
    (n : Nat) : Yields P (e.dateTime n) := by
  unfold Earlier.dateTime
  split
  · next c t ht =>
    obtain ⟨o, ho, hd⟩ := Option.bind_eq_some_iff.1 ht
    unfold Earlier.line? at ho
    split at ho
    · cases ho
    · exact yields_ok.2 (h o (List.mem_of_getElem? ho) _ hd)
  · simp

variable {s : Surroundings} {e : Earlier} {expr : Text} {a : Answer}

theorem unmarked_answerBy {rules : List PhraseRule} (h : ∀ rule ∈ rules, rule.KeepsUnmarked)
    (hx : Unmarked expr) (ha : Evaluator.answerBy rules expr = .ok (some a)) : Unmarked a.text := by
  obtain ⟨t, ht, ha⟩ := bind_eq_ok.1 ha
  obtain ⟨u, rfl, rfl⟩ := Option.map_eq_some_iff.1 (Except.ok.inj ha)
  exact PhraseRule.unmarked_run h hx _ ht u rfl

/-- The answers of evaluators hold no comment mark. -/
theorem unmarked_answer (hnow : s.now.Unmarked) (he : e.Unmarked) (hx : Unmarked expr)
    {ev : Evaluator} (h : ev.answer s e expr = .ok (some a)) : Unmarked a.text := by
  cases ev with
  | subnets => exact unmarked_answerBy Subnet.keepsUnmarked_rules hx h
  | dates =>
    obtain ⟨t, ht, h⟩ := bind_eq_ok.1 h
    obtain ⟨u, hu, h⟩ := bind_eq_ok.1 h
    obtain ⟨v, rfl, rfl⟩ := Option.map_eq_some_iff.1 (Except.ok.inj h)
    exact PhraseRule.unmarked_run (Calendar.keepsUnmarked_rules hnow)
      (Reference.notMem_replaceM (Earlier.yields_dateTime he) hx ht) _ hu v rfl
  | percentages => exact unmarked_answerBy Percentage.keepsUnmarked_rules hx h
  | units =>
    refine unmarked_answerBy (fun rule hrule => ?_) hx h
    simp only [List.mem_cons, List.not_mem_nil, or_false] at hrule
    rcases hrule with rfl | rfl
    · exact Currency.keepsUnmarked_convert s.rates
    · exact Measure.keepsUnmarked_convertPhrase
  | arithmetic =>
    obtain ⟨b, hb, h⟩ := map_eq_ok.1 h
    cases h
    obtain ⟨ts, -, hb⟩ := bind_eq_ok.1 hb
    obtain ⟨c, -, hb⟩ := bind_eq_ok.1 hb
    obtain ⟨x, -, hb⟩ := bind_eq_ok.1 hb
    cases hb
    dsimp only
    split
    · unfold Amount.formatTruth
      split <;> decide
    · simp

/-- An answer that leaves a date leaves its text, which a rule about dates gives. -/
theorem of_dateTime {ev : Evaluator} {t : Text} (h : ev.answer s e expr = .ok (some a))
    (ht : a.dateTime = some t) : t = a.text ∧ ∃ u, Reference.replaceM e.dateTime expr = .ok u ∧
      PhraseRule.run (Calendar.rules s.now) u = .ok (some t) := by
  have hby {rules : List PhraseRule} (h : Evaluator.answerBy rules expr = .ok (some a)) :
      a.dateTime = none := by
    obtain ⟨t, -, h⟩ := bind_eq_ok.1 h
    obtain ⟨u, -, rfl⟩ := Option.map_eq_some_iff.1 (Except.ok.inj h)
    rfl
  cases ev with
  | subnets | percentages | units =>
    rw [hby h] at ht
    cases ht
  | dates =>
    obtain ⟨u, hu, h⟩ := bind_eq_ok.1 h
    obtain ⟨v, hv, h⟩ := bind_eq_ok.1 h
    obtain ⟨w, rfl, rfl⟩ := Option.map_eq_some_iff.1 (Except.ok.inj h)
    cases ht
    exact ⟨rfl, u, hu, hv⟩
  | arithmetic =>
    obtain ⟨b, hb, h⟩ := map_eq_ok.1 h
    cases h
    obtain ⟨ts, -, hb⟩ := bind_eq_ok.1 hb
    obtain ⟨c, -, hb⟩ := bind_eq_ok.1 hb
    obtain ⟨x, -, hb⟩ := bind_eq_ok.1 hb
    cases hb
    cases ht

/-- The answer to an expression without a comment mark is without one, and so is what it leaves. -/
theorem unmarked_evaluate (hnow : s.now.Unmarked) (he : e.Unmarked) (hx : Unmarked expr)
    {evs : List Evaluator} (h : evaluate s evs e expr = .ok a) :
    Unmarked a.text ∧ (e ++ [a.outcome]).Unmarked := by
  obtain ⟨ev, -, -, hev⟩ := exists_of_answerFrom h
  have ha := unmarked_answer hnow he hx hev
  exact ⟨ha, he.append fun t ht => (of_dateTime hev ht).1 ▸ ha⟩

end Worksheet
