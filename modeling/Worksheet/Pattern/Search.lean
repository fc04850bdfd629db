import Worksheet.Pattern.Basic

/-!
# Matching and searching

A match is the first one in the order of preference that the pattern states: leftmost start first,
then choices and runs in their order. `Pattern.exec` tries a pattern at a place and hands every
outcome, best first, to what must follow, until that succeeds.

`pieces` cuts a text into the matches of a pattern and the characters between them; `flatten_pieces`
says that no character is lost.
-/

namespace Worksheet

/-- A place in a text: the characters before it, nearest first, and the characters after it. -/
structure Cursor where
  before : Text
  after : Text

namespace Cursor

def start (t : Text) : Cursor := ⟨[], t⟩

/-- The text between a place and a later one. -/
def upTo (a b : Cursor) : Text := a.after.take (a.after.length - b.after.length)

theorem upTo_eq {a b : Cursor} {w : Text} (h : a.after = w ++ b.after) : a.upTo b = w := by
  rw [upTo, h, List.length_append, Nat.add_sub_cancel, List.take_left]

/-- Moves over a run of `s`, at most `most` characters in all, of which `n` are behind. -/
def climb (s : Char → Bool) (most : Option Nat) : Nat → Text → Text → Nat × Cursor
  | n, b, [] => (n, ⟨b, []⟩)
  | n, b, c :: r =>
    if s c && most != some n then climb s most (n + 1) (c :: b) r else (n, ⟨b, c :: r⟩)

end Cursor

/-- The places between which groups matched, the latest first. -/
abbrev Groups := List (Nat × Cursor × Cursor)

/-- A match, with what its groups remember. -/
structure Match where
  start : Cursor
  stop : Cursor
  groups : Groups

namespace Match

/-- What group `k` matched, none if it took no part. -/
def group? (m : Match) (k : Nat) : Option Text := (m.groups.lookup k).map fun (a, b) => a.upTo b

/-- What group `k` matched, empty if it took no part. -/
def group (m : Match) (k : Nat) : Text := (m.group? k).getD []

/-- The matched text. -/
def text (m : Match) : Text := m.start.upTo m.stop

/-- What stands in front of the match. -/
def left (m : Match) : Text := m.start.before.reverse

/-- What stands behind the match. -/
def right (m : Match) : Text := m.stop.after

def length (m : Match) : Nat := m.start.after.length - m.stop.after.length

end Match

namespace Pattern

abbrev Outcome := Option (Cursor × Groups)

/-- Tries `k` at a place, then one character further back, for `n` characters. -/
def descend (k : Cursor → Outcome) : Nat → Cursor → Outcome
  | 0, c => k c
  | n + 1, c =>
    match k c with
    | some r => some r
    | none =>
      match c.before with
      | [] => none
      | x :: b => descend k n ⟨b, x :: c.after⟩

/-- Tries `k` at a place, then one character of `s` further on, between `least` and `most`
characters in all. -/
def creep (s : Char → Bool) (least : Nat) (most : Option Nat) (k : Cursor → Outcome) :
    Nat → Text → Text → Outcome
  | n, b, [] => if least ≤ n then k ⟨b, []⟩ else none
  | n, b, c :: r =>
    let next := fun (_ : Unit) =>
      if s c && most != some n then creep s least most k (n + 1) (c :: b) r else none
    if least ≤ n then
      match k ⟨b, c :: r⟩ with
      | some o => some o
      | none => next ()
    else next ()

/-- Matches the pattern at a place and goes on with `k`. -/
def exec : Pattern → Cursor → Groups → (Cursor → Groups → Outcome) → Outcome
  | nothing, c, g, k => k c g
  | one s, c, g, k =>
    match c.after with
    | [] => none
    | x :: r => if s x then k ⟨x :: c.before, r⟩ g else none
  | run s least most true, c, g, k =>
    let (n, top) := Cursor.climb s most 0 c.before c.after
    if least ≤ n then descend (k · g) (n - least) top else none
  | run s least most false, c, g, k => creep s least most (k · g) 0 c.before c.after
  | seq p q, c, g, k => p.exec c g fun c g => q.exec c g k
  | either p q, c, g, k =>
    match p.exec c g k with
    | some r => some r
    | none => q.exec c g k
  | group i p, c, g, k => p.exec c g fun c' g' => k c' ((i, c, c') :: g')
  | atStart, c, g, k => if c.before.isEmpty then k c g else none
  | atEnd, c, g, k => if c.after.isEmpty || c.after == ['\n'] then k c g else none
  | atWordEdge, c, g, k =>
    if c.before.head?.any Text.isWord != c.after.head?.any Text.isWord then k c g else none
  | behind s, c, g, k => if c.before.head?.any s then k c g else none
  | ahead p, c, g, k => if (p.exec c g fun c g => some (c, g)).isSome then k c g else none

/-- The preferred match at a place. -/
def matchAt (p : Pattern) (c : Cursor) : Option Match :=
  (p.exec c [] fun c g => some (c, g)).map fun (stop, g) => ⟨c, stop, g⟩

/-- Whether a text holds the characters that every match needs. Where it does not, no match is
tried. -/
def feasible : Pattern → Text → Bool
  | one s, t => t.any s
  | run s least _ _, t => least == 0 || t.any s
  | seq p q, t => p.feasible t && q.feasible t
  | either p q, t => p.feasible t || q.feasible t
  | group _ p, t => p.feasible t
  | _, _ => true

/-- The preferred match at the start of a text. -/
def matchStart (p : Pattern) (t : Text) : Option Match :=
  if p.feasible t then p.matchAt (.start t) else none

def searchFrom (p : Pattern) (before : Text) : Text → Option Match
  | [] => p.matchAt ⟨before, []⟩
  | c :: r =>
    match p.matchAt ⟨before, c :: r⟩ with
    | some m => some m
    | none => searchFrom p (c :: before) r

/-- The leftmost match. -/
def search (p : Pattern) (t : Text) : Option Match :=
  if p.feasible t then p.searchFrom [] t else none

def occurs (p : Pattern) (t : Text) : Bool := (p.search t).isSome

/-! ## Cutting a text at its matches -/

/-- A character outside all matches, or a match. -/
inductive Piece where
  | plain (c : Char)
  | found (m : Match)

/-- The pieces of a text of which `skip` characters belong to the last match. A match of nothing is
passed over. -/
def piecesFrom (p : Pattern) : Nat → Text → Text → List Piece
  | _, _, [] => []
  | skip + 1, b, c :: r => piecesFrom p skip (c :: b) r
  | 0, b, c :: r =>
    match p.matchAt ⟨b, c :: r⟩ with
    | some m =>
      if m.length = 0 then .plain c :: piecesFrom p 0 (c :: b) r
      else .found m :: piecesFrom p (m.length - 1) (c :: b) r
    | none => .plain c :: piecesFrom p 0 (c :: b) r

def pieces (p : Pattern) (t : Text) : List Piece := p.piecesFrom 0 [] t

/-- The text that a piece was cut from. -/
def Piece.text : Piece → Text
  | .plain c => [c]
  | .found m => m.text

/-- The matches from left to right, none overlapping the one before it. -/
def findAll (p : Pattern) (t : Text) : List Match :=
  (p.pieces t).filterMap fun
    | .plain _ => none
    | .found m => some m

/-- A text with every match replaced. -/
def replaceAll (p : Pattern) (f : Match → Text) (t : Text) : Text :=
  (p.pieces t).flatMap fun
    | .plain c => [c]
    | .found m => f m

/-! ## What a match takes

Matching goes forward: what is tried behind a pattern stands at the same place or further on, and
between the two stands a text that the pattern spells.
-/

/-- The text is one that the pattern can take. Runs keep their bounds, and tests take nothing. -/
def Spells : Pattern → Text → Prop
  | one s, w => ∃ x, s x = true ∧ w = [x]
  | run s least most _, w => w.all s = true ∧ least ≤ w.length ∧ ∀ n ∈ most, w.length ≤ n
  | seq p q, w => ∃ u v, p.Spells u ∧ q.Spells v ∧ w = u ++ v
  | either p q, w => p.Spells w ∨ q.Spells w
  | group _ p, w => p.Spells w
  | nothing, w | atStart, w | atEnd, w | atWordEdge, w | behind _, w | ahead _, w => w = []

/-- The groups of a pattern, with their numbers. -/
def groups : Pattern → List (Nat × Pattern)
  | seq p q | either p q => p.groups ++ q.groups
  | group i p => (i, p) :: p.groups
  | nothing | one _ | run _ _ _ _ | atStart | atEnd | atWordEdge | behind _ | ahead _ => []

/-- A group of the pattern remembers a part of the text that it spells. -/
def Remembers (p : Pattern) (t : Text) (e : Nat × Cursor × Cursor) : Prop :=
  e.2.1.after <:+ t ∧ ∃ q w, (e.1, q) ∈ p.groups ∧ q.Spells w ∧ e.2.1.after = w ++ e.2.2.after

/-- The pattern leads over `w` from one place to another, and adds what its groups remember. -/
structure Leads (p : Pattern) (w : Text) (c c' : Cursor) (g g' : Groups) : Prop where
  spells : p.Spells w
  after : c.after = w ++ c'.after
  before : c'.before = w.reverse ++ c.before
  groups : ∀ e ∈ g', e ∈ g ∨ p.Remembers c.after e

theorem Remembers.mono {p q : Pattern} {t u : Text} {e : Nat × Cursor × Cursor}
    (h : p.Remembers t e) (hp : ∀ x ∈ p.groups, x ∈ q.groups) (ht : t <:+ u) : q.Remembers u e := by
  obtain ⟨hstart, r, w, hr, hw⟩ := h
  exact ⟨hstart.trans ht, r, w, hp _ hr, hw⟩

theorem Leads.stay {p : Pattern} {c : Cursor} {g : Groups} (h : p.Spells []) :
    p.Leads [] c c g g := ⟨h, rfl, rfl, fun _ => .inl⟩

/-- A run goes over characters of its class, no more than its bound allows. -/
theorem climb_eq {s : Char → Bool} {most : Option Nat} {n : Nat} {b a : Text} :
    ∃ m ≤ a.length, Cursor.climb s most n b a = (n + m, ⟨(a.take m).reverse ++ b, a.drop m⟩) ∧
      (a.take m).all s ∧ ∀ w ∈ most, n ≤ w → n + m ≤ w := by
  induction a generalizing n b with
  | nil => exact ⟨0, by simp [Cursor.climb]⟩
  | cons c r ih =>
    rw [Cursor.climb]
    split
    · next h =>
      obtain ⟨m, hl, hm, hs, hmost⟩ := @ih (n + 1) (c :: b)
      simp only [Bool.and_eq_true, bne_iff_ne, ne_eq] at h
      refine ⟨m + 1, by simpa, by rw [hm]; simp; omega, by simp [h.1, hs], fun w hw hn => ?_⟩
      have hne : w ≠ n := fun e => h.2 (e ▸ hw)
      have := hmost w hw (by omega)
      omega
    · exact ⟨0, by simp⟩

theorem descend_eq_some {k : Cursor → Outcome} {n m : Nat} {b a : Text} {o : Cursor × Groups}
    (hm : m ≤ a.length) (hn : n ≤ m)
    (h : descend k n ⟨(a.take m).reverse ++ b, a.drop m⟩ = some o) :
    ∃ j, m - n ≤ j ∧ j ≤ m ∧ k ⟨(a.take j).reverse ++ b, a.drop j⟩ = some o := by
  induction n generalizing m with
  | zero => exact ⟨m, by omega, by omega, by simpa [descend] using h⟩
  | succ n ih =>
    rw [descend] at h
    split at h
    · next r hk => exact ⟨m, by omega, by omega, by rw [hk]; exact h⟩
    · match m, hm, hn with
      | m + 1, hm, hn =>
        have ht : (a.take (m + 1)).reverse ++ b = a[m] :: ((a.take m).reverse ++ b) := by
          rw [List.take_succ_eq_append_getElem (show m < a.length by omega), List.reverse_append]
          rfl
        rw [ht] at h
        simp only at h
        rw [← List.drop_eq_getElem_cons (show m < a.length by omega)] at h
        obtain ⟨j, h₁, h₂, h₃⟩ := ih (by omega) (by omega) h
        exact ⟨j, by omega, by omega, h₃⟩

theorem creep_eq_some {s : Char → Bool} {least : Nat} {most : Option Nat} {k : Cursor → Outcome}
    {n : Nat} {b a : Text} {o : Cursor × Groups} (h : creep s least most k n b a = some o) :
    ∃ j ≤ a.length, least ≤ n + j ∧ (a.take j).all s ∧ (∀ w ∈ most, n ≤ w → n + j ≤ w) ∧
      k ⟨(a.take j).reverse ++ b, a.drop j⟩ = some o := by
  induction a generalizing n b with
  | nil =>
    rw [creep] at h
    split at h
    · exact ⟨0, by simp, by simpa, by simp, by simp, by simpa using h⟩
    · simp at h
  | cons c r ih =>
    have further :
        (if (s c && most != some n) = true then creep s least most k (n + 1) (c :: b) r
          else none) = some o →
        ∃ j ≤ (c :: r).length, least ≤ n + j ∧ ((c :: r).take j).all s ∧
          (∀ w ∈ most, n ≤ w → n + j ≤ w) ∧
          k ⟨((c :: r).take j).reverse ++ b, (c :: r).drop j⟩ = some o := by
      intro h
      split at h
      · next hs =>
        obtain ⟨j, hj, h₁, h₂, hmost, h₃⟩ := ih h
        simp only [Bool.and_eq_true, bne_iff_ne, ne_eq] at hs
        refine ⟨j + 1, by simpa, by omega, by simp [hs.1, h₂], fun w hw hn => ?_, by simpa using h₃⟩
        have hne : w ≠ n := fun e => hs.2 (e ▸ hw)
        have := hmost w hw (by omega)
        omega
      · simp at h
    rw [creep] at h
    split at h
    · next hl =>
      split at h
      · next r' hk => exact ⟨0, by simp, by simpa, by simp, by simp, by simpa [hk] using h⟩
      · exact further h
    · exact further h

/-- Behind a pattern, a match goes on where the pattern leads. -/
theorem exec_eq_some {p : Pattern} {c : Cursor} {g : Groups} {k : Cursor → Groups → Outcome}
    {o : Cursor × Groups} (h : p.exec c g k = some o) :
    ∃ w c' g', p.Leads w c c' g g' ∧ k c' g' = some o := by
  induction p generalizing c g k with
  | nothing => exact ⟨[], c, g, .stay rfl, h⟩
  | one s =>
    rw [exec] at h
    split at h
    · cases h
    · next x r hc =>
      split at h
      · next hs => exact ⟨[x], ⟨x :: c.before, r⟩, g, ⟨⟨x, hs, rfl⟩, hc, rfl, fun _ => .inl⟩, h⟩
      · cases h
  | run s least most long =>
    have hrun {j : Nat} (hj : j ≤ c.after.length) (hl : least ≤ j)
        (hs : (c.after.take j).all s = true) (hm : ∀ n ∈ most, j ≤ n) :
        (run s least most long).Leads (c.after.take j) c
          ⟨(c.after.take j).reverse ++ c.before, c.after.drop j⟩ g g := by
      refine ⟨⟨hs, ?_⟩, (List.take_append_drop j _).symm, rfl, fun _ => .inl⟩
      rw [List.length_take, Nat.min_eq_left hj]
      exact ⟨hl, hm⟩
    cases long with
    | true =>
      rw [exec] at h
      obtain ⟨i, hi, he, hs, hmost⟩ := @climb_eq s most 0 c.before c.after
      simp only [he, Nat.zero_add] at h hmost
      split at h
      · obtain ⟨j, hj, hji, hk⟩ := descend_eq_some hi (Nat.sub_le i least) h
        refine ⟨_, _, g, hrun (j := j) (by omega) (by omega) ?_ fun n hn => ?_, hk⟩
        · rw [List.all_eq_true] at hs ⊢
          exact fun x hx => hs x (List.take_subset_take_left _ hji hx)
        · exact Nat.le_trans hji (hmost n hn (Nat.zero_le n))
      · cases h
    | false =>
      rw [exec] at h
      obtain ⟨j, hj, hl, hs, hmost, hk⟩ := creep_eq_some h
      rw [Nat.zero_add] at hl
      exact ⟨_, _, g, hrun hj hl hs fun n hn => by simpa using hmost n hn (Nat.zero_le n), hk⟩
  | seq p q ihp ihq =>
    rw [exec] at h
    obtain ⟨u, c₁, g₁, hu, h⟩ := ihp h
    obtain ⟨v, c₂, g₂, hv, h⟩ := ihq h
    refine ⟨u ++ v, c₂, g₂, ⟨⟨u, v, hu.spells, hv.spells, rfl⟩, ?_, ?_, fun e he => ?_⟩, h⟩
    · rw [hu.after, hv.after, List.append_assoc]
    · rw [hv.before, hu.before, List.reverse_append, List.append_assoc]
    · rcases hv.groups e he with he | he
      · exact (hu.groups e he).imp_right
          (·.mono (fun _ hx => List.mem_append_left _ hx) (List.suffix_refl _))
      · exact .inr (he.mono (fun _ hx => List.mem_append_right _ hx)
          (hu.after ▸ List.suffix_append u _))
  | either p q ihp ihq =>
    rw [exec] at h
    split at h
    · next hx =>
      obtain ⟨w, c', g', hw, h⟩ := ihp (hx.trans h)
      exact ⟨w, c', g', ⟨.inl hw.spells, hw.after, hw.before, fun e he => (hw.groups e he).imp_right
        (·.mono (fun _ hx => List.mem_append_left _ hx) (List.suffix_refl _))⟩, h⟩
    · obtain ⟨w, c', g', hw, h⟩ := ihq h
      exact ⟨w, c', g', ⟨.inr hw.spells, hw.after, hw.before, fun e he => (hw.groups e he).imp_right
        (·.mono (fun _ hx => List.mem_append_right _ hx) (List.suffix_refl _))⟩, h⟩
  | group i p ih =>
    rw [exec] at h
    obtain ⟨w, c', g', hw, h⟩ := ih h
    refine ⟨w, c', _, ⟨hw.spells, hw.after, hw.before, List.forall_mem_cons.2 ⟨.inr ?_,
      fun e he => (hw.groups e he).imp_right
        (·.mono (fun _ => List.mem_cons_of_mem _) (List.suffix_refl _))⟩⟩, h⟩
    exact ⟨List.suffix_refl _, p, w, List.mem_cons_self, hw.spells, hw.after⟩
  | atStart | atEnd | atWordEdge | behind s | ahead p =>
    rw [exec] at h
    split at h
    · exact ⟨[], c, g, .stay rfl, h⟩
    · cases h

/-- A pattern leads over what it matches. -/
theorem leads_of_matchAt {p : Pattern} {c : Cursor} {m : Match} (h : p.matchAt c = some m) :
    p.Leads m.text c m.stop [] m.groups := by
  obtain ⟨⟨stop, g⟩, ho, rfl⟩ := Option.map_eq_some_iff.1 h
  obtain ⟨w, c', g', hw, hk⟩ := exec_eq_some ho
  cases hk
  rwa [show (Match.mk c stop g).text = w from Cursor.upTo_eq hw.after]

/-- What a group of a match holds, a group of the pattern spells, and it is a part of the text. -/
theorem group_of_matchAt {p : Pattern} {c : Cursor} {m : Match} (h : p.matchAt c = some m)
    (i : Nat) : m.group i = [] ∨
      ∃ q, (i, q) ∈ p.groups ∧ q.Spells (m.group i) ∧ m.group i <:+: c.after := by
  unfold Match.group Match.group?
  cases hl : m.groups.lookup i with
  | none => exact .inl rfl
  | some e =>
    obtain ⟨a, b⟩ := e
    obtain ⟨l₁, l₂, hl, -⟩ := List.lookup_eq_some_iff.1 hl
    have he := (leads_of_matchAt h).groups (i, a, b) (by simp [hl])
    obtain ⟨hstart, q, w, hq, hw, hafter⟩ := he.resolve_left List.not_mem_nil
    have hpart : w <:+: c.after := (List.IsPrefix.isInfix ⟨_, hafter.symm⟩).trans hstart.isInfix
    dsimp only [Option.map_some, Option.getD_some]
    rw [Cursor.upTo_eq hafter]
    exact .inr ⟨q, hq, hw, hpart⟩

/-! ## What a match needs -/

theorem feasible_of_suffix {p : Pattern} {t u : Text} (h : t <:+ u) (hp : p.feasible t = true) :
    p.feasible u = true := by
  have mono : ∀ s : Char → Bool, t.any s = true → u.any s = true := by
    intro s hs
    rw [List.any_eq_true] at hs ⊢
    obtain ⟨x, hx, hs⟩ := hs
    exact ⟨x, h.subset hx, hs⟩
  induction p with
  | one s => exact mono s hp
  | run s least most long =>
    simp only [feasible, Bool.or_eq_true] at hp ⊢
    exact hp.imp_right (mono s)
  | seq p q ihp ihq =>
    simp only [feasible, Bool.and_eq_true] at hp ⊢
    exact ⟨ihp hp.1, ihq hp.2⟩
  | either p q ihp ihq =>
    simp only [feasible, Bool.or_eq_true] at hp ⊢
    exact hp.imp ihp ihq
  | group i p ih => exact ih hp
  | _ => rfl

/-- A text that a pattern spells has the characters that a match needs. -/
theorem Spells.feasible {p : Pattern} {w : Text} (h : p.Spells w) (r : Text) :
    p.feasible (w ++ r) = true := by
  induction p generalizing w r with
  | one s =>
    obtain ⟨x, hs, rfl⟩ := h
    simp [Pattern.feasible, hs]
  | run s least most long =>
    cases w with
    | nil =>
      have hl : least = 0 := Nat.le_zero.1 h.2.1
      simp [Pattern.feasible, hl]
    | cons x w =>
      have hx := List.all_eq_true.1 h.1 x List.mem_cons_self
      simp [Pattern.feasible, hx]
  | seq p q ihp ihq =>
    obtain ⟨u, v, hu, hv, rfl⟩ := h
    rw [Pattern.feasible, List.append_assoc, ihp hu]
    exact feasible_of_suffix (List.suffix_append u _) (ihq hv r)
  | either p q ihp ihq =>
    rw [Pattern.feasible, Bool.or_eq_true]
    exact h.imp (ihp · r) (ihq · r)
  | group i p ih => exact ih h r
  | _ => rfl

theorem matchAt_eq_none {p : Pattern} {c : Cursor} (h : p.feasible c.after = false) :
    p.matchAt c = none := by
  rw [matchAt, Option.map_eq_none_iff, Option.eq_none_iff_forall_ne_some]
  intro o ho
  obtain ⟨w, c', g', hw, -⟩ := exec_eq_some ho
  rw [hw.after, hw.spells.feasible] at h
  cases h

theorem searchFrom_eq_none {p : Pattern} {t : Text} (h : p.feasible t = false) (b : Text) :
    p.searchFrom b t = none := by
  induction t generalizing b with
  | nil => exact matchAt_eq_none h
  | cons c r ih =>
    have hr : p.feasible r = false :=
      Bool.eq_false_iff.2 fun e => by simp [feasible_of_suffix (List.suffix_cons c r) e] at h
    rw [searchFrom, matchAt_eq_none h]
    exact ih hr (c :: b)

/-- The test for what a match needs spares work and changes nothing. -/
theorem matchStart_eq_matchAt (p : Pattern) (t : Text) : p.matchStart t = p.matchAt (.start t) := by
  rw [matchStart]
  split
  · rfl
  · next h => exact (matchAt_eq_none (Bool.eq_false_iff.2 h)).symm

theorem spells_of_matchStart {p : Pattern} {t : Text} {m : Match} (h : p.matchStart t = some m) :
    ∃ w, p.Spells w ∧ t = w ++ m.right :=
  have hm := leads_of_matchAt ((matchStart_eq_matchAt p t).symm.trans h)
  ⟨m.text, hm.spells, hm.after⟩

/-- What a group of a match holds is a part of the text. -/
theorem group_part {p : Pattern} {t : Text} {m : Match} (h : p.matchStart t = some m) (i : Nat) :
    m.group i <:+: t := by
  rcases group_of_matchAt ((matchStart_eq_matchAt p t).symm.trans h) i with he | ⟨-, -, -, hpart⟩
  · rw [he]
    exact List.nil_infix
  · exact hpart

theorem search_eq_searchFrom (p : Pattern) (t : Text) : p.search t = p.searchFrom [] t := by
  rw [search]
  split
  · rfl
  · next h => exact (searchFrom_eq_none (Bool.eq_false_iff.2 h) []).symm

/-- A search succeeds if there is a match somewhere. -/
theorem searchFrom_isSome {p : Pattern} {b t : Text} : (p.searchFrom b t).isSome = true ↔
    ∃ z s, t = z ++ s ∧ (p.matchAt ⟨z.reverse ++ b, s⟩).isSome = true := by
  induction t generalizing b with
  | nil =>
    refine ⟨fun h => ⟨[], [], rfl, h⟩, ?_⟩
    rintro ⟨z, s, hz, h⟩
    obtain ⟨rfl, rfl⟩ := List.append_eq_nil_iff.1 hz.symm
    exact h
  | cons c t ih =>
    rw [searchFrom]
    cases hm : p.matchAt ⟨b, c :: t⟩ with
    | some m => exact ⟨fun _ => ⟨[], c :: t, rfl, by simp [hm]⟩, fun _ => rfl⟩
    | none =>
      refine ih.trans ⟨?_, ?_⟩
      · rintro ⟨z, s, rfl, h⟩
        exact ⟨c :: z, s, rfl, by simpa using h⟩
      · rintro ⟨z, s, hz, h⟩
        cases z with
        | nil =>
          rw [List.nil_append] at hz
          simp [← hz, hm] at h
        | cons d z =>
          obtain ⟨rfl, rfl⟩ := List.cons.inj hz
          exact ⟨z, s, rfl, by simpa using h⟩

/-- Where a pattern occurs, the text has a part that it spells. -/
theorem exists_spells_of_occurs {p : Pattern} {t : Text} (h : p.occurs t = true) :
    ∃ w, p.Spells w ∧ w <:+: t := by
  rw [occurs, search_eq_searchFrom, searchFrom_isSome] at h
  obtain ⟨z, s, rfl, h⟩ := h
  obtain ⟨m, hm⟩ := Option.isSome_iff_exists.1 h
  have hm := leads_of_matchAt hm
  have hs : s = m.text ++ m.right := hm.after
  exact ⟨m.text, hm.spells, z, m.right, by rw [hs, List.append_assoc]⟩

/-! ## Nothing is lost -/

theorem start_matchAt {p : Pattern} {c : Cursor} {m : Match} (h : p.matchAt c = some m) :
    m.start = c := by
  simp only [matchAt, Option.map_eq_some_iff] at h
  obtain ⟨o, -, rfl⟩ := h
  rfl

theorem flatten_piecesFrom (p : Pattern) (skip : Nat) (b t : Text) :
    (p.piecesFrom skip b t).flatMap Piece.text = t.drop skip := by
  induction t generalizing skip b with
  | nil => simp [piecesFrom]
  | cons c r ih =>
    match skip with
    | skip + 1 => simp [piecesFrom, ih]
    | 0 =>
      rw [piecesFrom]
      split
      · next m hm =>
        have hs := start_matchAt hm
        split
        · simp [Piece.text, ih]
        · next hl =>
          obtain ⟨n, hn⟩ := Nat.exists_eq_succ_of_ne_zero hl
          have ht : m.text = (c :: r).take m.length := by
            simp [Match.text, Cursor.upTo, Match.length, hs]
          simp [Piece.text, ih, ht, hn]
      · simp [Piece.text, ih]

theorem flatten_pieces (p : Pattern) (t : Text) : (p.pieces t).flatMap Piece.text = t :=
  flatten_piecesFrom p 0 [] t

end Pattern

end Worksheet
