import Mathlib
import Worksheet.Pattern.Search

/-!
# How long a match is

A pattern whose runs are all bounded matches no more characters than it can hold (`width`). So what
a group remembers is as short as its pattern (`length_group_le`). Every match holds as many
characters as its pattern asks for (`leastWidth`).
-/

namespace Worksheet

namespace Pattern

/-- The most characters that a match can hold, none if there is no bound. -/
def width : Pattern → Option Nat
  | one _ => some 1
  | run _ _ most _ => most
  | seq p q => do return (← p.width) + (← q.width)
  | either p q => do return max (← p.width) (← q.width)
  | group _ p => p.width
  | nothing | atStart | atEnd | atWordEdge | behind _ | ahead _ => some 0

/-- Whether all groups with the number `j` hold at most `n` characters. -/
def confines (j n : Nat) : Pattern → Bool
  | seq p q | either p q => p.confines j n && q.confines j n
  | group i p => (i != j || p.width.any (· ≤ n)) && p.confines j n
  | nothing | one _ | run _ _ _ _ | atStart | atEnd | atWordEdge | behind _ | ahead _ => true

variable {p q : Pattern} {c : Cursor} {m : Match} {j n : Nat} {t w : Text}

/-- What a pattern spells is at most as long as it can hold. -/
theorem Spells.length_le (h : p.Spells w) (hn : p.width = some n) : w.length ≤ n := by
  induction p generalizing w n with
  | one s =>
    obtain ⟨x, -, rfl⟩ := h
    cases hn
    exact Nat.le_refl 1
  | run s least most long => exact h.2.2 n hn
  | seq p q ihp ihq =>
    obtain ⟨u, v, hu, hv, rfl⟩ := h
    obtain ⟨n₁, h₁, hn⟩ := Option.bind_eq_some_iff.1 hn
    obtain ⟨n₂, h₂, hn⟩ := Option.bind_eq_some_iff.1 hn
    cases hn
    rw [List.length_append]
    exact Nat.add_le_add (ihp hu h₁) (ihq hv h₂)
  | either p q ihp ihq =>
    obtain ⟨n₁, h₁, hn⟩ := Option.bind_eq_some_iff.1 hn
    obtain ⟨n₂, h₂, hn⟩ := Option.bind_eq_some_iff.1 hn
    cases hn
    rcases h with h | h
    · exact Nat.le_trans (ihp h h₁) (Nat.le_max_left _ _)
    · exact Nat.le_trans (ihq h h₂) (Nat.le_max_right _ _)
  | group i p ih => exact ih h hn
  | nothing | atStart | atEnd | atWordEdge | behind s | ahead p =>
    rw [show w = [] from h]
    exact Nat.zero_le n

/-- The fewest characters that a match can hold. -/
def leastWidth : Pattern → Nat
  | one _ => 1
  | run _ least _ _ => least
  | seq p q => p.leastWidth + q.leastWidth
  | either p q => min p.leastWidth q.leastWidth
  | group _ p => p.leastWidth
  | nothing | atStart | atEnd | atWordEdge | behind _ | ahead _ => 0

theorem Spells.leastWidth_le (h : p.Spells w) : p.leastWidth ≤ w.length := by
  induction p generalizing w with
  | one s =>
    obtain ⟨x, -, rfl⟩ := h
    exact Nat.le_refl 1
  | run s least most long => exact h.2.1
  | seq p q ihp ihq =>
    obtain ⟨u, v, hu, hv, rfl⟩ := h
    rw [List.length_append]
    exact Nat.add_le_add (ihp hu) (ihq hv)
  | either p q ihp ihq =>
    rcases h with h | h
    · exact Nat.le_trans (Nat.min_le_left _ _) (ihp h)
    · exact Nat.le_trans (Nat.min_le_right _ _) (ihq h)
  | group i p ih => exact ih h
  | nothing | atStart | atEnd | atWordEdge | behind s | ahead p => exact Nat.zero_le _

theorem width_of_confines (hp : p.confines j n = true) (hq : (j, q) ∈ p.groups) :
    ∃ w ≤ n, q.width = some w := by
  induction p with
  | seq p p' ih ih' | either p p' ih ih' =>
    rw [confines, Bool.and_eq_true] at hp
    exact (List.mem_append.1 hq).elim (ih hp.1) (ih' hp.2)
  | group i p ih =>
    rw [confines, Bool.and_eq_true, Bool.or_eq_true, bne_iff_ne] at hp
    rcases List.mem_cons.1 hq with he | hq
    · cases he
      obtain ⟨w, hw, hn⟩ := (Option.any_eq_true _ _).1 (hp.1.resolve_left fun h => h rfl)
      exact ⟨w, of_decide_eq_true hn, hw⟩
    · exact ih hp.2 hq
  | _ => cases hq

theorem length_group_le_of_matchAt (hp : p.confines j n = true) (h : p.matchAt c = some m) :
    (m.group j).length ≤ n := by
  rcases group_of_matchAt h j with he | ⟨q, hq, hw, -⟩
  · rw [he]
    exact Nat.zero_le n
  · obtain ⟨w, hwn, hwidth⟩ := width_of_confines hp hq
    exact Nat.le_trans (hw.length_le hwidth) hwn

/-- A group remembers no more characters than it can hold. -/
theorem length_group_le (hp : p.confines j n = true) (h : p.search t = some m) :
    (m.group j).length ≤ n := by
  rw [search_eq_searchFrom] at h
  generalize ([] : Text) = b at h
  induction t generalizing b with
  | nil => exact length_group_le_of_matchAt hp h
  | cons x r ih =>
    rw [searchFrom] at h
    split at h
    · next hm => exact length_group_le_of_matchAt hp (hm.trans h)
    · exact ih _ h

end Pattern

end Worksheet
