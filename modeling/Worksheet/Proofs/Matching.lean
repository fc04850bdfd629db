import Mathlib
import Worksheet.Pattern.Search

/-!
# Matching in front of a backslash

Most patterns match no backslash, so what they match lies between two of them, and what stands
behind the next backslash does not matter to them. `exec_alike` says so for two places: they have
the same text in front of them up to a backslash or the end, and what lies behind them differs at
most further back than one character.

The theorem is proved along the pattern. Matching hands places on to what must follow, so it speaks
of any two continuations that agree at all such pairs of places.
-/

namespace Worksheet

open Text

namespace Pattern

/-! ## What a pattern can begin with -/

/-- Whether a pattern may match the empty text. -/
def nullable : Pattern → Bool
  | one _ => false
  | run _ least _ _ => least == 0
  | seq p q => p.nullable && q.nullable
  | either p q => p.nullable || q.nullable
  | group _ p => p.nullable
  | nothing | atStart | atEnd | atWordEdge | behind _ | ahead _ => true

/-- Whether a match may begin with `x`. -/
def starts (x : Char) : Pattern → Bool
  | one s | run s _ _ _ => s x
  | seq p q => p.starts x || (p.nullable && q.starts x)
  | either p q => p.starts x || q.starts x
  | group _ p => p.starts x
  | nothing | atStart | atEnd | atWordEdge | behind _ | ahead _ => false

/-- What a pattern spells is empty, or it begins with a character that it can begin with. -/
theorem Spells.cases_head {p : Pattern} {w : Text} (h : p.Spells w) :
    (w = [] ∧ p.nullable = true) ∨ ∃ x r, w = x :: r ∧ p.starts x = true := by
  induction p generalizing w with
  | one s =>
    obtain ⟨x, hs, rfl⟩ := h
    exact .inr ⟨x, [], rfl, hs⟩
  | run s least most long =>
    cases w with
    | nil => exact .inl ⟨rfl, beq_iff_eq.2 (Nat.le_zero.1 h.2.1)⟩
    | cons x w => exact .inr ⟨x, w, rfl, List.all_eq_true.1 h.1 x List.mem_cons_self⟩
  | seq p q ihp ihq =>
    obtain ⟨u, v, hu, hv, rfl⟩ := h
    rcases ihp hu with ⟨rfl, hp⟩ | ⟨x, r, rfl, hp⟩
    · rcases ihq hv with ⟨rfl, hq⟩ | ⟨x, r, rfl, hq⟩
      · exact .inl ⟨rfl, by simp [nullable, hp, hq]⟩
      · exact .inr ⟨x, r, rfl, by simp [starts, hp, hq]⟩
    · exact .inr ⟨x, r ++ v, rfl, by simp [starts, hp]⟩
  | either p q ihp ihq =>
    rcases h with h | h
    · rcases ihp h with ⟨rfl, hn⟩ | ⟨x, r, rfl, hs⟩
      · exact .inl ⟨rfl, by simp [nullable, hn]⟩
      · exact .inr ⟨x, r, rfl, by simp [starts, hs]⟩
    · rcases ihq h with ⟨rfl, hn⟩ | ⟨x, r, rfl, hs⟩
      · exact .inl ⟨rfl, by simp [nullable, hn]⟩
      · exact .inr ⟨x, r, rfl, by simp [starts, hs]⟩
  | group i p ih => exact ih h
  | nothing | atStart | atEnd | atWordEdge | behind s | ahead p => exact .inl ⟨h, rfl⟩

/-- A match is empty, or it begins with a character that its pattern can begin with. -/
theorem starts_of_exec {p : Pattern} {c : Cursor} {g : Groups} {k : Cursor → Groups → Outcome}
    {o : Cursor × Groups} (h : p.exec c g k = some o) :
    (p.nullable = true ∧ ∃ g', k c g' = some o) ∨
      ∃ x r, c.after = x :: r ∧ p.starts x = true := by
  obtain ⟨w, c', g', hw, hk⟩ := exec_eq_some h
  rcases hw.spells.cases_head with ⟨rfl, hn⟩ | ⟨x, r, rfl, hs⟩
  · have hsame : c' = c := by
      obtain ⟨b, t⟩ := c
      obtain ⟨b', t'⟩ := c'
      rw [show t = t' from hw.after, show b' = b from hw.before]
    exact .inl ⟨hn, g', hsame ▸ hk⟩
  · exact .inr ⟨x, r ++ c'.after, hw.after, hs⟩

/-! ## Places that are alike -/

/-- Whether no match holds the character `x` or looks behind itself. -/
def avoids (x : Char) : Pattern → Bool
  | one s | run s _ _ _ => !s x
  | seq p q | either p q => p.avoids x && q.avoids x
  | group _ p => p.avoids x
  | nothing | atStart | atEnd | atWordEdge => true
  | behind _ | ahead _ => false

/-- Two texts end here or go on with a backslash. -/
def Stops (w w' : Text) : Prop := (w = [] ∧ w' = []) ∨ ∃ r r', w = '\\' :: r ∧ w' = '\\' :: r'

/-- Two texts, told from their ends, are both empty or not, and both end in a word or not. -/
structure Edge (x x' : Text) : Prop where
  isEmpty_eq : x.isEmpty = x'.isEmpty
  word_eq : x.head?.any isWord = x'.head?.any isWord

variable {α : Type} {view : Nat → Text → α}

/-- What groups remember, told by `view`. -/
def seen (view : Nat → Text → α) (g : Groups) : List (Nat × α) :=
  g.map fun (i, a, b) => (i, view i (a.upTo b))

/-- What an outcome remembers. -/
def told (view : Nat → Text → α) (o : Outcome) : Option (List (Nat × α)) :=
  o.map fun (_, g) => seen view g

/-- Outcomes that tell the same both succeed, or both fail. -/
theorem both_of_map_eq {β γ : Type} {f : β → γ} {o o' : Option β} (h : o.map f = o'.map f) :
    (∃ r r', o = some r ∧ o' = some r') ∨ (o = none ∧ o' = none) := by
  cases o with
  | none => exact .inr ⟨rfl, Option.map_eq_none_iff.1 h.symm⟩
  | some r =>
    obtain ⟨r', hr, -⟩ := Option.map_eq_some_iff.1 h.symm
    exact .inl ⟨r, r', rfl, hr⟩

variable {x x' w w' : Text}

theorem Edge.append (h : Edge x x') (v : Text) : Edge (v ++ x) (v ++ x') := by
  cases v with
  | nil => exact h
  | cons c v => exact ⟨rfl, rfl⟩

theorem Stops.head?_eq (h : Stops w w') (u : Text) : (u ++ w).head? = (u ++ w').head? := by
  cases u with
  | nil => rcases h with ⟨rfl, rfl⟩ | ⟨r, r', rfl, rfl⟩ <;> rfl
  | cons c u => rfl

/-- A text ends in both cases or in none. -/
theorem Stops.atEnd_eq (h : Stops w w') {u : Text} (hu : '\\' ∉ u) :
    ((u ++ w).isEmpty || u ++ w == ['\n']) = ((u ++ w').isEmpty || u ++ w' == ['\n']) := by
  rcases h with ⟨rfl, rfl⟩ | ⟨r, r', rfl, rfl⟩
  · rfl
  · have h (s : Text) : ((u ++ '\\' :: s).isEmpty || u ++ '\\' :: s == ['\n']) = false := by
      match u, hu with
      | [], _ => rfl
      | [c], _ => simp
      | _ :: _ :: _, _ => simp
    rw [h, h]

/-- The text between two places in front of a backslash. -/
theorem upTo_append {b b' u v w : Text} :
    Cursor.upTo ⟨b, u ++ w⟩ ⟨b', v ++ w⟩ = u.take (u.length - v.length) := by
  unfold Cursor.upTo
  simp only [List.length_append]
  rw [List.take_append]
  have h : u.length + w.length - (v.length + w.length) = u.length - v.length := by omega
  rw [h, Nat.sub_eq_zero_of_le (Nat.sub_le _ _), List.take_zero, List.append_nil]

theorem Stops.head?_any (h : Stops w w') {s : Char → Bool} (hs : s '\\' = false) :
    w.head?.any s = false ∧ w'.head?.any s = false := by
  rcases h with ⟨rfl, rfl⟩ | ⟨r, r', rfl, rfl⟩
  · exact ⟨rfl, rfl⟩
  · exact ⟨hs, hs⟩

/-- How far a run goes does not depend on what is in front of it or behind its end. -/
theorem climb_append (s : Char → Bool) (most : Option Nat) (n : Nat) (u : Text) :
    ∃ m ≤ u.length, ∀ b w : Text, w.head?.any s = false →
      Cursor.climb s most n b (u ++ w) = (n + m, ⟨(u.take m).reverse ++ b, u.drop m ++ w⟩) := by
  induction u generalizing n with
  | nil =>
    refine ⟨0, Nat.le_refl _, fun b w hw => ?_⟩
    cases w with
    | nil => rfl
    | cons c w =>
      rw [List.head?_cons, Option.any_some] at hw
      rw [List.nil_append, Cursor.climb, hw]
      rfl
  | cons c u ih =>
    by_cases hc : (s c && most != some n) = true
    · obtain ⟨m, hm, h⟩ := ih (n + 1)
      refine ⟨m + 1, Nat.succ_le_succ hm, fun b w hw => ?_⟩
      rw [List.cons_append, Cursor.climb, if_pos hc, h (c :: b) w hw]
      simp only [List.take_succ_cons, List.drop_succ_cons, List.reverse_cons, List.append_assoc,
        List.singleton_append, Nat.add_assoc, Nat.add_comm 1 m]
    · refine ⟨0, Nat.zero_le _, fun b w _ => ?_⟩
      rw [List.cons_append, Cursor.climb, if_neg hc]
      rfl

section Runs

variable {u : Text} {k k' : Cursor → Outcome}

/-- What follows a run agrees if it agrees at all places that the run comes by. -/
theorem descend_alike {n m : Nat} (hm : m ≤ u.length) (hn : n ≤ m)
    (hk : ∀ j ≤ m, told view (k ⟨(u.take j).reverse ++ x, u.drop j ++ w⟩) =
      told view (k' ⟨(u.take j).reverse ++ x', u.drop j ++ w'⟩)) :
    told view (descend k n ⟨(u.take m).reverse ++ x, u.drop m ++ w⟩) =
      told view (descend k' n ⟨(u.take m).reverse ++ x', u.drop m ++ w'⟩) := by
  induction n generalizing m with
  | zero => exact hk m (Nat.le_refl m)
  | succ n ih =>
    have h := hk m (Nat.le_refl m)
    obtain ⟨m, rfl⟩ : ∃ j, m = j + 1 := ⟨m - 1, by omega⟩
    have ht : (u.take (m + 1)).reverse = u[m] :: (u.take m).reverse := by
      rw [List.take_succ_eq_append_getElem (show m < u.length by omega), List.reverse_append]
      rfl
    have hd : u.drop m = u[m] :: u.drop (m + 1) := List.drop_eq_getElem_cons (by omega)
    have ih := ih (m := m) (by omega) (by omega) fun j hj => hk j (by omega)
    rw [hd] at ih
    rw [ht] at h ⊢
    rw [descend, descend]
    generalize k _ = o at h ⊢
    generalize k' _ = o' at h ⊢
    rcases both_of_map_eq h with ⟨r, r', rfl, rfl⟩ | ⟨rfl, rfl⟩
    · exact h
    · exact ih

theorem creep_alike {s : Char → Bool} {least : Nat} {most : Option Nat} {n : Nat}
    (hs : s '\\' = false) (hw : Stops w w')
    (hk : ∀ z u₁, u = z ++ u₁ → told view (k ⟨z.reverse ++ x, u₁ ++ w⟩) =
      told view (k' ⟨z.reverse ++ x', u₁ ++ w'⟩)) :
    told view (creep s least most k n x (u ++ w)) =
      told view (creep s least most k' n x' (u ++ w')) := by
  induction u generalizing n x x' with
  | nil =>
    have hstop {k : Cursor → Outcome} {x r : Text} :
        creep s least most k n x ('\\' :: r) = if least ≤ n then k ⟨x, '\\' :: r⟩ else none := by
      rw [creep]
      split
      · cases k ⟨x, '\\' :: r⟩ <;> simp [hs]
      · simp [hs]
    have h := hk [] [] rfl
    rcases hw with ⟨rfl, rfl⟩ | ⟨r, r', rfl, rfl⟩
    · rw [List.nil_append, creep, creep]
      split
      · exact h
      · rfl
    · rw [List.nil_append, List.nil_append, hstop, hstop]
      split
      · exact h
      · rfl
  | cons c u ih =>
    have hnext : told view (if (s c && most != some n) = true then
          creep s least most k (n + 1) (c :: x) (u ++ w) else none) =
        told view (if (s c && most != some n) = true then
          creep s least most k' (n + 1) (c :: x') (u ++ w') else none) := by
      split
      · refine ih fun z u₁ hu => ?_
        have h := hk (c :: z) u₁ (by rw [hu, List.cons_append])
        rwa [List.reverse_cons, List.append_assoc, List.append_assoc] at h
      · rfl
    have h := hk [] (c :: u) rfl
    rw [List.reverse_nil, List.nil_append, List.nil_append] at h
    rw [List.cons_append, List.cons_append, creep, creep]
    split
    · rw [List.cons_append, List.cons_append] at h
      generalize k _ = o at h ⊢
      generalize k' _ = o' at h ⊢
      rcases both_of_map_eq h with ⟨r, r', rfl, rfl⟩ | ⟨rfl, rfl⟩
      · exact h
      · exact hnext
    · exact hnext

end Runs

/-- **Theorem (`exec_alike`).** A match that holds no backslash does not depend on what stands behind
the next one, nor on what stands further back than one character. -/
theorem exec_alike {p : Pattern} (hp : p.avoids '\\' = true) (hw : Stops w w') {u : Text}
    {g g' : Groups} {k k' : Cursor → Groups → Outcome} (hx : Edge x x') (hu : '\\' ∉ u)
    (hg : seen view g = seen view g')
    (hk : ∀ z u₁ g g', u = z ++ u₁ → seen view g = seen view g' →
      told view (k ⟨z.reverse ++ x, u₁ ++ w⟩ g) = told view (k' ⟨z.reverse ++ x', u₁ ++ w'⟩ g')) :
    told view (p.exec ⟨x, u ++ w⟩ g k) = told view (p.exec ⟨x', u ++ w'⟩ g' k') := by
  have hstay := hk [] u g g' rfl hg
  simp only [List.reverse_nil, List.nil_append] at hstay
  induction p generalizing u x x' g g' k k' with
  | nothing => exact hstay
  | one s =>
    rw [exec, exec]
    cases u with
    | nil =>
      rw [avoids, Bool.not_eq_true'] at hp
      rcases hw with ⟨rfl, rfl⟩ | ⟨r, r', rfl, rfl⟩
      · rfl
      · simp [hp]
    | cons c u =>
      simp only [List.cons_append]
      split
      · exact hk [c] u g g' rfl hg
      · rfl
  | run s least most long =>
    rw [avoids, Bool.not_eq_true'] at hp
    cases long with
    | true =>
      obtain ⟨hw₁, hw₂⟩ := hw.head?_any hp
      obtain ⟨m, hm, hclimb⟩ := climb_append s most 0 u
      rw [exec, exec, hclimb x w hw₁, hclimb x' w' hw₂]
      simp only [Nat.zero_add]
      split
      · refine descend_alike hm (Nat.sub_le m least) fun j hj => ?_
        exact hk (u.take j) (u.drop j) g g' (List.take_append_drop j u).symm hg
      · rfl
    | false =>
      rw [exec, exec]
      exact creep_alike hp hw fun z u₁ hz => hk z u₁ g g' hz hg
  | seq p q ihp ihq =>
    rw [avoids, Bool.and_eq_true] at hp
    rw [exec, exec]
    -- Behind `p`, the places are alike again, so `q` goes on with the same claim.
    have hq : ∀ z u₁ g g', u = z ++ u₁ → seen view g = seen view g' →
        told view (q.exec ⟨z.reverse ++ x, u₁ ++ w⟩ g k) =
          told view (q.exec ⟨z.reverse ++ x', u₁ ++ w'⟩ g' k') := by
      intro z u₁ g g' hz hg
      have hk' : ∀ z₁ u₂ g g', u₁ = z₁ ++ u₂ → seen view g = seen view g' →
          told view (k ⟨z₁.reverse ++ (z.reverse ++ x), u₂ ++ w⟩ g) =
            told view (k' ⟨z₁.reverse ++ (z.reverse ++ x'), u₂ ++ w'⟩ g') := by
        intro z₁ u₂ g g' hz₁ hg
        have h := hk (z ++ z₁) u₂ g g' (by rw [hz, hz₁, List.append_assoc]) hg
        rwa [List.reverse_append, List.append_assoc, List.append_assoc] at h
      have hu₁ : '\\' ∉ u₁ := fun hm => hu (by rw [hz]; exact List.mem_append_right z hm)
      exact ihq hp.2 (hx.append _) hu₁ hg hk' (hk' [] u₁ g g' rfl hg)
    exact ihp hp.1 hx hu hg hq (hq [] u g g' rfl hg)
  | either p q ihp ihq =>
    rw [avoids, Bool.and_eq_true] at hp
    have h₁ := ihp hp.1 hx hu hg hk hstay
    have h₂ := ihq hp.2 hx hu hg hk hstay
    rw [exec, exec]
    generalize p.exec _ g k = o at h₁ ⊢
    generalize p.exec _ g' k' = o' at h₁ ⊢
    rcases both_of_map_eq h₁ with ⟨r, r', rfl, rfl⟩ | ⟨rfl, rfl⟩
    · exact h₁
    · exact h₂
  | group i p ih =>
    rw [exec, exec]
    have hadd : ∀ z u₁ g g', u = z ++ u₁ → seen view g = seen view g' →
        told view (k ⟨z.reverse ++ x, u₁ ++ w⟩ ((i, ⟨x, u ++ w⟩, ⟨z.reverse ++ x, u₁ ++ w⟩) :: g)) =
          told view (k' ⟨z.reverse ++ x', u₁ ++ w'⟩
            ((i, ⟨x', u ++ w'⟩, ⟨z.reverse ++ x', u₁ ++ w'⟩) :: g')) := by
      intro z u₁ g g' hz hg
      refine hk z u₁ _ _ hz ?_
      unfold seen at hg ⊢
      rw [List.map_cons, List.map_cons, hg]
      simp only [upTo_append]
    exact ih hp hx hu hg hadd (hadd [] u g g' rfl hg)
  | atStart =>
    rw [exec, exec, hx.isEmpty_eq]
    split
    · exact hstay
    · rfl
  | atEnd =>
    rw [exec, exec, hw.atEnd_eq hu]
    split
    · exact hstay
    · rfl
  | atWordEdge =>
    rw [exec, exec, hx.word_eq, hw.head?_eq u]
    split
    · exact hstay
    · rfl
  | behind s => cases hp
  | ahead p => cases hp

/-- What a match remembers. -/
def found (view : Nat → Text → α) (m : Option Match) : Option (List (Nat × α)) :=
  m.map fun m => seen view m.groups

theorem found_matchAt (p : Pattern) (c : Cursor) :
    found view (p.matchAt c) = told view (p.exec c [] fun c g => some (c, g)) := by
  rw [found, matchAt, Option.map_map]
  rfl

theorem matchAt_alike {p : Pattern} (hp : p.avoids '\\' = true) (hw : Stops w w') {u : Text}
    (hx : Edge x x') (hu : '\\' ∉ u) :
    found view (p.matchAt ⟨x, u ++ w⟩) = found view (p.matchAt ⟨x', u ++ w'⟩) := by
  rw [found_matchAt, found_matchAt]
  exact exec_alike hp hw hx hu rfl fun _ _ _ _ _ hg => congrArg some hg

end Pattern

end Worksheet
