import Worksheet.Proofs.Locality

/-!
# Evaluators that pass an expression on

An evaluator that is not asked about an expression, or has no answer to it, does not matter to those
behind it: its failures are passed over (`heard_skip`). Only a fault ends the search. So evaluators
in a row are those in front, and those behind where these have no answer (`heard_append`).
-/

namespace Worksheet

open Result

variable {s : Surroundings} {e e' : Earlier} {expr : Text} {last last' : LineError}

/-- An evaluator is not asked about an expression, or has no answer to it. -/
def Passes (s : Surroundings) (e : Earlier) (expr : Text) (ev : Evaluator) : Prop :=
  ev.claims expr = true → ∀ a, ev.answer s e expr ≠ .ok (some a)

theorem passes_of_not_claims {ev : Evaluator} (h : ev.claims expr = false) : Passes s e expr ev :=
  fun hc => absurd hc (by simp [h])

/-- An answer comes from an evaluator that was asked. -/
theorem exists_of_answerFrom {evs : List Evaluator} {a : Answer}
    (h : answerFrom s e expr last evs = .ok a) :
    ∃ ev ∈ evs, ev.claims expr = true ∧ ev.answer s e expr = .ok (some a) := by
  have hlater {ev : Evaluator} {evs : List Evaluator}
      (h : ∃ ev ∈ evs, ev.claims expr = true ∧ ev.answer s e expr = .ok (some a)) :
      ∃ ev' ∈ ev :: evs, ev'.claims expr = true ∧ ev'.answer s e expr = .ok (some a) := by
    obtain ⟨ev', hev, h⟩ := h
    exact ⟨ev', List.mem_cons_of_mem _ hev, h⟩
  induction evs generalizing last with
  | nil => cases h
  | cons ev evs ih =>
    rw [answerFrom] at h
    split at h
    · next hc =>
      split at h
      · next hb =>
        cases h
        exact ⟨ev, List.mem_cons_self, hc, hb⟩
      · exact hlater (ih h)
      · exact hlater (ih h)
      · cases h
    · exact hlater (ih h)

/-- What all evaluators pass on has no answer. -/
theorem answerFrom_ne_ok {evs : List Evaluator} (h : ∀ ev ∈ evs, Passes s e expr ev) (a : Answer) :
    answerFrom s e expr last evs ≠ .ok a := by
  intro ha
  obtain ⟨ev, hev, hc, ha⟩ := exists_of_answerFrom ha
  exact h ev hev hc a ha

theorem settle_answerFrom_last {evs : List Evaluator} :
    settle (answerFrom s e expr last' evs) = settle (answerFrom s e expr last evs) := by
  have hid {α : Type} (x : Except Fault (Option α)) : x.map (Option.map id) = x := by
    rcases x with _ | _ | _ <;> rfl
  rw [← hid (settle (answerFrom s e expr last' evs)), ← hid (settle (answerFrom s e expr last evs))]
  exact settle_answerFrom_congr (fun _ _ => rfl) fun _ _ => rfl

/-! ## Evaluators in a row -/

/-- What evaluators make of an expression; that they fail counts as no answer. -/
def heard (s : Surroundings) (e : Earlier) (evs : List Evaluator) (expr : Text) :
    Except Fault (Option Answer) :=
  settle (answerFrom s e expr (.phrase (.notUnderstood expr)) evs)

/-- Those behind are asked where those in front have no answer. -/
theorem heard_append (pre post : List Evaluator) : heard s e (pre ++ post) expr =
    heard s e pre expr >>= fun o => o.elim (heard s e post expr) fun a => .ok (some a) := by
  unfold heard
  generalize LineError.phrase (.notUnderstood expr) = first
  have hrun (last : LineError) : settle (answerFrom s e expr last (pre ++ post)) =
      settle (answerFrom s e expr last pre) >>= fun o =>
        o.elim (settle (answerFrom s e expr first post)) fun a => .ok (some a) := by
    induction pre generalizing last with
    | nil => exact settle_answerFrom_last
    | cons ev pre ih =>
      rw [List.cons_append, answerFrom, answerFrom]
      split
      · rcases ev.answer s e expr with (l | f) | (_ | a)
        · exact ih l
        · rfl
        · exact ih last
        · rfl
      · exact ih last
  exact hrun first

/-- Evaluators that pass an expression on have no answer to it, or end in a fault. -/
theorem heard_of_passes {evs : List Evaluator} (h : ∀ ev ∈ evs, Passes s e expr ev) :
    heard s e evs expr = .ok none ∨ ∃ f, heard s e evs expr = .error f := by
  rcases hrun : heard s e evs expr with f | (_ | a)
  · exact .inr ⟨f, rfl⟩
  · exact .inl rfl
  · exact absurd (eq_ok_of_settle hrun) (answerFrom_ne_ok h a)

theorem heard_of_not_claims {evs : List Evaluator} (h : ∀ ev ∈ evs, ev.claims expr = false) :
    heard s e evs expr = .ok none := by
  induction evs with
  | nil => rfl
  | cons ev evs ih =>
    obtain ⟨hev, hevs⟩ := List.forall_mem_cons.1 h
    rw [heard, answerFrom, if_neg (by simp [hev])]
    exact ih hevs

/-- Where evaluators come to an end, those that pass the expression on do not matter. -/
theorem heard_skip {mid : List Evaluator} (pre post : List Evaluator) {o : Option Answer}
    (hp : ∀ ev ∈ mid, Passes s e expr ev) (h : heard s e (pre ++ (mid ++ post)) expr = .ok o) :
    heard s e (pre ++ post) expr = .ok o := by
  rw [heard_append] at h ⊢
  rcases hpre : heard s e pre expr with f | (_ | a) <;> rw [hpre] at h
  · exact h
  · have h : heard s e (mid ++ post) expr = .ok o := h
    rw [heard_append] at h
    rcases heard_of_passes hp with hmid | ⟨f, hmid⟩ <;> rw [hmid] at h
    · exact h
    · cases h
  · exact h

end Worksheet
