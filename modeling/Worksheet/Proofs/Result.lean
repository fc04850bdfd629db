import Mathlib
import Worksheet.Failure

/-!
# Results step by step

When a computation that may fail has an answer, each of its steps has one; when it fails, one of
its steps is the first to fail. To a document it does not matter why a line has no answer, only that
it is the line's failure and no fault: `settle` is a result as a document sees it.
-/

namespace Worksheet

namespace Result

variable {ε α β γ : Type} {x : Except ε α} {f : α → Except ε β} {b : β} {e : ε}

@[simp] theorem ok_bind (a : α) (f : α → Except ε β) : (.ok a >>= f) = f a := rfl

theorem bind_eq_ok : x >>= f = .ok b ↔ ∃ a, x = .ok a ∧ f a = .ok b := by
  cases x with
  | error e => simp [bind, Except.bind]
  | ok a => simp [bind, Except.bind]

theorem bind_eq_error : x >>= f = .error e ↔ x = .error e ∨ ∃ a, x = .ok a ∧ f a = .error e := by
  cases x with
  | error e => simp [bind, Except.bind]
  | ok a => simp [bind, Except.bind]

theorem map_eq_ok {g : α → β} : g <$> x = .ok b ↔ ∃ a, x = .ok a ∧ g a = b := by
  cases x with
  | error e => simp [Functor.map, Except.map]
  | ok a => simp [Functor.map, Except.map]

theorem pure_eq_ok {a a' : α} : (pure a : Except ε α) = .ok a' ↔ a = a' := by
  simp [pure, Except.pure]

/-- All of a list have an answer when each of them has. -/
theorem mapM_eq_ok {l : List α} {f : α → Except ε β} {bs : List β} :
    l.mapM f = .ok bs ↔ l.map f = bs.map .ok := by
  induction l generalizing bs with
  | nil => cases bs <;> simp [pure, Except.pure]
  | cons a l ih =>
    rw [List.mapM_cons]
    simp only [bind_eq_ok, pure_eq_ok, ih]
    cases bs with
    | nil => simp
    | cons b bs =>
      simp only [List.map_cons, List.cons.injEq]
      constructor
      · rintro ⟨_, hb, _, hbs, rfl, rfl⟩
        exact ⟨hb, hbs⟩
      · rintro ⟨hb, hbs⟩
        exact ⟨b, hb, bs, hbs, rfl, rfl⟩

/-- A list is mapped to `g`, where each element has the answer `g` under a condition. -/
theorem mapM_eq_ok_iff {l : List α} {f : α → Except ε β} {g : α → β} {p : α → Prop}
    (h : ∀ a b, f a = .ok b ↔ b = g a ∧ p a) {bs : List β} :
    l.mapM f = .ok bs ↔ bs = l.map g ∧ ∀ a ∈ l, p a := by
  induction l generalizing bs with
  | nil =>
    rw [List.mapM_nil, pure_eq_ok]
    simp [eq_comm]
  | cons a l ih =>
    rw [List.mapM_cons]
    simp only [bind_eq_ok, pure_eq_ok, h, ih, List.map_cons, List.forall_mem_cons]
    constructor
    · rintro ⟨_, ⟨rfl, ha⟩, _, ⟨rfl, hl⟩, rfl⟩
      exact ⟨rfl, ha, hl⟩
    · rintro ⟨rfl, ha, hl⟩
      exact ⟨_, ⟨rfl, ha⟩, _, ⟨rfl, hl⟩, rfl⟩

theorem eq_map_of_mapM {l : List α} {f : α → Except ε β} {g : α → β} {bs : List β}
    (hf : ∀ a b, f a = .ok b → b = g a) (h : l.mapM f = .ok bs) : bs = l.map g := by
  induction l generalizing bs with
  | nil => exact (pure_eq_ok.1 h).symm
  | cons a l ih =>
    rw [List.mapM_cons] at h
    obtain ⟨b, hb, h⟩ := bind_eq_ok.1 h
    obtain ⟨bs, hbs, h⟩ := bind_eq_ok.1 h
    rw [← pure_eq_ok.1 h, hf a b hb, ih hbs, List.map_cons]

theorem exists_of_mem_mapM {l : List α} {f : α → Except ε β} {bs : List β} {b : β}
    (h : l.mapM f = .ok bs) (hb : b ∈ bs) : ∃ a ∈ l, f a = .ok b := by
  have hm : Except.ok b ∈ l.map f := mapM_eq_ok.1 h ▸ List.mem_map_of_mem hb
  exact List.mem_map.1 hm

theorem exists_of_mem_of_mapM {l : List α} {f : α → Except ε β} {bs : List β} {a : α}
    (h : l.mapM f = .ok bs) (ha : a ∈ l) : ∃ b ∈ bs, f a = .ok b := by
  have hm : f a ∈ bs.map .ok := mapM_eq_ok.1 h ▸ List.mem_map_of_mem ha
  obtain ⟨b, hb, he⟩ := List.mem_map.1 hm
  exact ⟨b, hb, he.symm⟩

theorem mem_of_mapM {l : List α} {f : α → Except ε β} {bs : List β} {a : α} {b : β}
    (h : l.mapM f = .ok bs) (ha : a ∈ l) (hb : f a = .ok b) : b ∈ bs := by
  obtain ⟨b', hm, hb'⟩ := exists_of_mem_of_mapM h ha
  rw [hb] at hb'
  exact Except.ok.inj hb' ▸ hm

theorem map_bind {g : β → Except ε γ} {k : α → β} : x.map k >>= g = x >>= fun a => g (k a) := by
  cases x <;> rfl

theorem eq_ok_of_toOption {a : α} (h : x.toOption = some a) : x = .ok a := by
  cases x with
  | error => cases h
  | ok b => exact congrArg Except.ok (Option.some.inj h)

theorem exists_eq_error (h : x.toOption = none) : ∃ e, x = .error e := by
  cases x with
  | error e => exact ⟨e, rfl⟩
  | ok => cases h

theorem exists_eq_ok (h : x.toOption.isSome = true) : ∃ a, x = .ok a := by
  cases x with
  | error => cases h
  | ok a => exact ⟨a, rfl⟩

/-! ## What a document sees -/

/-- A result in which all failures of the line count as one. -/
def settle (x : Result α) : Except Fault (Option α) :=
  match x with
  | .ok a => .ok (some a)
  | .error (.line _) => .ok none
  | .error (.fault f) => .error f

theorem eq_ok_of_settle {x : Result α} {a : α} (h : settle x = .ok (some a)) : x = .ok a := by
  rcases x with (l | f) | b <;> cases h
  rfl

theorem toOption_of_settle {x : Result α} {o : Option α} (h : settle x = .ok o) :
    x.toOption = o := by
  rcases x with (l | f) | b <;> cases h <;> rfl

theorem settle_bind_congr {x y : Result α} {f g : α → Result β} (h : x.settle = y.settle)
    (hf : ∀ a, x = .ok a → (f a).settle = (g a).settle) :
    (x >>= f).settle = (y >>= g).settle := by
  match x, y, h with
  | .ok a, .ok _, h =>
    cases h
    exact hf a rfl
  | .error (.line _), .error (.line _), _ => rfl
  | .error (.fault _), .error (.fault _), h =>
    cases h
    rfl

theorem settle_map_congr {x y : Result α} {g : α → β} (h : x.settle = y.settle) :
    settle (x.map g) = settle (y.map g) :=
  settle_bind_congr (f := fun a => pure (g a)) (g := fun a => pure (g a)) h fun _ _ => rfl

theorem settle_mapM_congr {l : List α} {f g : α → Result β}
    (h : ∀ a ∈ l, settle (g a) = settle (f a)) : settle (l.mapM g) = settle (l.mapM f) := by
  induction l with
  | nil => rfl
  | cons a l ih =>
    rw [List.mapM_cons, List.mapM_cons]
    refine settle_bind_congr (h a (by simp)) fun b _ => ?_
    exact settle_bind_congr (ih fun a ha => h a (by simp [ha])) fun _ _ => rfl

theorem settle_mapError {x y : Except ε α} {f : ε → LineError} (h : x.toOption = y.toOption) :
    settle (x.mapError fun e => .line (f e)) = settle (y.mapError fun e => .line (f e)) := by
  cases x <;> cases y <;> cases h <;> rfl

/-! ## Faults -/

/-- Whether a computation ends in a fault. -/
def Faults (x : Result α) : Prop := ∃ f, x = .error (.fault f)

@[simp] theorem not_faults_ok (a : α) : ¬Faults (.ok a) := nofun

@[simp] theorem not_faults_pure (a : α) : ¬Faults (pure a) := nofun

@[simp] theorem not_faults_line (e : LineError) : ¬Faults (.error (.line e) : Result α) := nofun

@[simp] theorem faults_fault (f : Fault) : Faults (.error (.fault f) : Result α) := ⟨f, rfl⟩

/-- A computation faults in its first step, or behind it. -/
theorem faults_bind {x : Result α} {f : α → Result β} :
    Faults (x >>= f) ↔ Faults x ∨ ∃ a, x = .ok a ∧ Faults (f a) := by
  unfold Faults
  simp only [bind_eq_error, exists_or]
  exact or_congr Iff.rfl ⟨fun ⟨e, a, hx, hf⟩ => ⟨a, hx, e, hf⟩, fun ⟨a, hx, e, hf⟩ => ⟨e, a, hx, hf⟩⟩

@[simp] theorem faults_map {x : Result α} {g : α → β} : Faults (g <$> x) ↔ Faults x := by
  rcases x with (_ | _) | _ <;> simp [Functor.map, Except.map]

/-- A list faults at the first element that has no answer, if that one faults. -/
theorem faults_mapM {l : List α} {f : α → Result β} : Faults (l.mapM f) ↔
    ∃ before a after, l = before ++ a :: after ∧ (∀ b ∈ before, ∃ c, f b = .ok c) ∧ Faults (f a) := by
  induction l with
  | nil => exact iff_of_false (not_faults_pure _) fun ⟨_, _, _, h, _⟩ => by simp at h
  | cons x l ih =>
    rw [List.mapM_cons, faults_bind]
    constructor
    · rintro (h | ⟨b, hb, h⟩)
      · exact ⟨[], x, l, rfl, nofun, h⟩
      · rw [faults_bind, ih] at h
        rcases h with ⟨before, a, after, rfl, hbefore, ha⟩ | ⟨_, -, h⟩
        · exact ⟨x :: before, a, after, rfl, List.forall_mem_cons.2 ⟨⟨b, hb⟩, hbefore⟩, ha⟩
        · exact absurd h (not_faults_pure _)
    · rintro ⟨_ | ⟨y, before⟩, a, after, hl, hbefore, ha⟩
      · cases hl
        exact .inl ha
      · cases hl
        obtain ⟨⟨b, hb⟩, hbefore⟩ := List.forall_mem_cons.1 hbefore
        exact .inr ⟨b, hb, faults_bind.2 (.inl (ih.2 ⟨before, a, after, rfl, hbefore, ha⟩))⟩

/-! ## What a computation gives -/

/-- All that a computation gives satisfies `P`. -/
def Yields (P : α → Prop) (x : Result α) : Prop := ∀ a, x = .ok a → P a

section

variable {P : β → Prop}

@[simp] theorem yields_ok {b : β} : Yields P (.ok b) ↔ P b :=
  ⟨fun h => h b rfl, fun h _ hb => by cases hb; exact h⟩

@[simp] theorem yields_pure {b : β} : Yields P (pure b) ↔ P b := yields_ok

@[simp] theorem yields_error (e : Failure) : Yields P (.error e) := nofun

@[simp] theorem yields_bind {x : Result α} {f : α → Result β} :
    Yields P (x >>= f) ↔ ∀ a, x = .ok a → Yields P (f a) := by
  unfold Yields
  simp only [bind_eq_ok]
  exact ⟨fun h a ha b hb => h b ⟨a, ha, hb⟩, fun h b ⟨a, ha, hb⟩ => h a ha b hb⟩

@[simp] theorem yields_map {x : Result α} {g : α → β} :
    Yields P (g <$> x) ↔ ∀ a, x = .ok a → P (g a) := by
  cases x <;> simp [Functor.map, Except.map]

end

end Result

end Worksheet
