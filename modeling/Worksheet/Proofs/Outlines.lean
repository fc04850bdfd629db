import Worksheet.Proofs.Formats
import Worksheet.Proofs.Spellings

/-!
# Patterns and texts in outline

A phrase with a number in it is any of very many texts, but without its digits it is one text, and so
is a pattern without the digits that it takes. **Theorem (`not_spells_of_outline`).** If the outline
of a pattern does not occur in the outline of a text, the pattern takes no part of the text. As both
outlines are known, that is found out by trying.

A character that a pattern does not take cuts the text: what is taken lies on one side of it
(`search_cut_eq_none`).
-/

namespace Worksheet

open Text

namespace Text

variable {u u' v v' w : Text} {x : Char} {s : Char → Bool}

/-! ## The parts of a text -/

theorem prefix_of_prefix_cut (h : w <+: u ++ x :: v) (hx : x ∉ w) : w <+: u := by
  induction u generalizing w with
  | nil =>
    cases w with
    | nil => exact List.nil_prefix
    | cons y w =>
      obtain ⟨rfl, -⟩ := List.cons_prefix_cons.1 h
      exact absurd List.mem_cons_self hx
  | cons c u ih =>
    cases w with
    | nil => exact List.nil_prefix
    | cons y w =>
      obtain ⟨rfl, hw⟩ := List.cons_prefix_cons.1 h
      exact List.cons_prefix_cons.2 ⟨rfl, ih hw (mt (List.mem_cons_of_mem y) hx)⟩

/-- A part of a text that holds no `x` lies on one side of every `x`. -/
theorem infix_of_infix_cut (h : w <:+: u ++ x :: v) (hx : x ∉ w) : w <:+: u ∨ w <:+: v := by
  induction u with
  | nil =>
    rcases List.infix_cons_iff.1 h with h | h
    · exact .inl (prefix_of_prefix_cut (u := []) h hx).isInfix
    · exact .inr h
  | cons c u ih =>
    rcases List.infix_cons_iff.1 h with h | h
    · exact .inl (prefix_of_prefix_cut (u := c :: u) h hx).isInfix
    · exact (ih h).imp_left fun hu => hu.trans (List.suffix_cons c u).isInfix

/-! ## The ends of a text -/

/-- Runs of a class at the start of a text are the same, if something else stands behind them. -/
theorem append_inj_of_head (h : u ++ v = u' ++ v') (hu : u.all s = true) (hu' : u'.all s = true)
    (hv : v.head?.any s = false) (hv' : v'.head?.any s = false) : u = u' ∧ v = v' := by
  have hhead {x y : Text} (hx : x.all s = true) (hy : y.head?.any s = false) :
      (x ++ y).takeWhile s = x := by
    rw [takeWhile_append_of_head hy]
    exact List.takeWhile_eq_self_iff.2 (List.all_eq_true.1 hx)
  have hsame : u = u' := by rw [← hhead hu hv, h, hhead hu' hv']
  subst hsame
  exact ⟨rfl, List.append_cancel_left h⟩

/-- Runs of a class at the end of a text are the same, if something else stands in front of them. -/
theorem append_inj_of_getLast? (h : u ++ v = u' ++ v') (hv : v.all s = true)
    (hv' : v'.all s = true) (hu : u.getLast?.any s = false) (hu' : u'.getLast?.any s = false) :
    u = u' ∧ v = v' := by
  have hreverse : v.reverse ++ u.reverse = v'.reverse ++ u'.reverse := by
    rw [← List.reverse_append, h, List.reverse_append]
  obtain ⟨h₁, h₂⟩ := append_inj_of_head hreverse (by rwa [List.all_reverse])
    (by rwa [List.all_reverse]) (by rwa [List.head?_reverse]) (by rwa [List.head?_reverse])
  exact ⟨List.reverse_inj.1 h₂, List.reverse_inj.1 h₁⟩

theorem getLast?_append_any (hne : v ≠ []) (hv : v.getLast?.any s = false) :
    (u ++ v).getLast?.any s = false := by rwa [List.getLast?_append_of_ne_nil u hne]

theorem getLast?_append_of_not (hne : v ≠ []) (hv : ∀ c ∈ v, s c = false) :
    (u ++ v).getLast?.any s = false := by
  refine getLast?_append_any hne ?_
  rw [List.getLast?_eq_some_getLast hne, Option.any_some]
  exact hv _ (List.getLast_mem hne)

end Text

namespace Pattern

variable {p q : Pattern} {d s : Char → Bool} {probe x : Char} {t u v w : Text}

/-! ## Outlines -/

/-- The pattern without the characters that are left out, of which `probe` is one. Tests are left out
too. -/
def outline (probe : Char) : Pattern → Pattern
  | one s => if s probe then opt (one s) else one s
  | run s least most _ => run s (if s probe then 0 else least) most true
  | seq p q => seq (p.outline probe) (q.outline probe)
  | either p q => either (p.outline probe) (q.outline probe)
  | group _ p => p.outline probe
  | nothing | atStart | atEnd | atWordEdge | behind _ | ahead _ => nothing

/-- Of a class that does not hold `probe`, none is left out. -/
def SetsApart (d : Char → Bool) (probe : Char) (s : Char → Bool) : Prop :=
  s probe = true ∨ ∀ c, d c = true → s c = false

/-- Every class of the pattern holds `probe`, or none of it is left out. -/
def Respects (d : Char → Bool) (probe : Char) : Pattern → Prop
  | one s | run s _ _ _ => SetsApart d probe s
  | seq p q | either p q => p.Respects d probe ∧ q.Respects d probe
  | group _ p => p.Respects d probe
  | nothing | atStart | atEnd | atWordEdge | behind _ | ahead _ => True

/-- A text without the characters that are left out. -/
abbrev keep (d : Char → Bool) (t : Text) : Text := t.filter fun c => !d c

theorem keep_append (u v : Text) : keep d (u ++ v) = keep d u ++ keep d v := List.filter_append u v

theorem keep_of_all (h : t.all d = true) : keep d t = [] := by
  rw [List.filter_eq_nil_iff]
  intro c hc
  simp [List.all_eq_true.1 h c hc]

theorem testless_outline (p : Pattern) : (p.outline probe).testless = true := by
  induction p with
  | one s =>
    rw [outline]
    split <;> rfl
  | seq p q ihp ihq | either p q ihp ihq => simp [outline, testless, ihp, ihq]
  | group i p ih => exact ih
  | run s | nothing | atStart | atEnd | atWordEdge | behind s | ahead p => rfl

/-- What a pattern spells, its outline spells in outline. -/
theorem Spells.outline (hp : p.Respects d probe) (h : p.Spells w) :
    (p.outline probe).Spells (keep d w) := by
  induction p generalizing w with
  | one s =>
    obtain ⟨c, hs, rfl⟩ := h
    rw [Pattern.outline]
    by_cases hc : d c = true
    · have hprobe : s probe = true := hp.resolve_right fun h => by simp [h c hc] at hs
      rw [if_pos hprobe, keep, List.filter_cons_of_neg (by simp [hc])]
      exact .inr rfl
    · rw [keep, List.filter_cons_of_pos (by simp [hc])]
      split
      · exact .inl ⟨c, hs, rfl⟩
      · exact ⟨c, hs, rfl⟩
  | run s least most long =>
    obtain ⟨hs, hl, hm⟩ := h
    have hlen : (keep d w).length ≤ w.length := List.length_filter_le _ _
    refine ⟨?_, ?_, fun n hn => Nat.le_trans hlen (hm n hn)⟩
    · rw [List.all_eq_true] at hs ⊢
      exact fun c hc => hs c (List.mem_of_mem_filter hc)
    · split
      · exact Nat.zero_le _
      · next hprobe =>
        have hall : keep d w = w := by
          rw [keep, List.filter_eq_self]
          intro c hc
          rw [Bool.not_eq_true', ← Bool.not_eq_true]
          intro hd
          have hno := hp.resolve_left hprobe c hd
          rw [List.all_eq_true.1 hs c hc] at hno
          cases hno
        rwa [hall]
  | seq p q ihp ihq =>
    obtain ⟨u, v, hu, hv, rfl⟩ := h
    exact ⟨_, _, ihp hp.1 hu, ihq hp.2 hv, List.filter_append _ _⟩
  | either p q ihp ihq => exact h.imp (ihp hp.1) (ihq hp.2)
  | group i p ih => exact ih hp h
  | nothing | atStart | atEnd | atWordEdge | behind s | ahead p =>
    obtain rfl : w = [] := h
    rfl

/-- A pattern that does not take `probe` takes nothing that is left out. -/
theorem not_of_respects (hp : p.Respects d probe) (ha : p.avoids probe = true) (h : p.Spells w) :
    ∀ c ∈ w, d c = false := by
  have hclass {s : Char → Bool} (hs : SetsApart d probe s) (ha : (!s probe) = true) {c : Char}
      (hc : s c = true) : d c = false := by
    rw [Bool.not_eq_true'] at ha
    rw [← Bool.not_eq_true]
    intro hd
    have hno := (hs.resolve_left (Bool.eq_false_iff.1 ha)) c hd
    rw [hc] at hno
    cases hno
  induction p generalizing w with
  | one s =>
    obtain ⟨c, hs, rfl⟩ := h
    intro x hx
    rw [List.mem_singleton.1 hx]
    exact hclass hp ha hs
  | run s least most long => exact fun c hc => hclass hp ha (List.all_eq_true.1 h.1 c hc)
  | seq p q ihp ihq =>
    obtain ⟨u, v, hu, hv, rfl⟩ := h
    rw [avoids, Bool.and_eq_true] at ha
    exact List.forall_mem_append.2 ⟨ihp hp.1 ha.1 hu, ihq hp.2 ha.2 hv⟩
  | either p q ihp ihq =>
    rw [avoids, Bool.and_eq_true] at ha
    exact h.elim (ihp hp.1 ha.1) (ihq hp.2 ha.2)
  | group i p ih => exact ih hp ha h
  | nothing | atStart | atEnd | atWordEdge | behind s | ahead p =>
    rw [show w = [] from h]
    exact fun _ hc => absurd hc List.not_mem_nil

/-- A piece that is not empty and takes nothing that is left out ends in nothing that is left
out. -/
theorem getLast?_of_spells (hp : p.Respects d probe) (ha : p.avoids probe = true)
    (hn : p.nullable = false) (h : p.Spells v) : (u ++ v).getLast?.any d = false := by
  refine getLast?_append_of_not ?_ (not_of_respects hp ha h)
  rintro rfl
  rcases h.cases_head with ⟨-, hnull⟩ | ⟨_, _, hcons, -⟩
  · rw [hn] at hnull
    cases hnull
  · cases hcons

/-- A pattern that cannot begin with `probe` begins with nothing that is left out. -/
theorem starts_of_respects (hp : p.Respects d probe) (h : p.starts probe = false) (hx : d x = true) :
    p.starts x = false := by
  induction p with
  | one s | run s least most long =>
    exact (hp.resolve_left (Bool.eq_false_iff.1 h)) x hx
  | seq p q ihp ihq =>
    rw [starts, Bool.or_eq_false_iff, Bool.and_eq_false_iff] at h ⊢
    exact ⟨ihp hp.1 h.1, h.2.imp_right (ihq hp.2)⟩
  | either p q ihp ihq =>
    rw [starts, Bool.or_eq_false_iff] at h ⊢
    exact ⟨ihp hp.1 h.1, ihq hp.2 h.2⟩
  | group i p ih => exact ih hp h
  | nothing | atStart | atEnd | atWordEdge | behind s | ahead p => rfl

/-- Whether a pattern does not occur in a text, as far as the outlines of the two tell. -/
def absent (probe : Char) (outlined : Text) (p : Pattern) : Bool :=
  !(p.outline probe).occurs outlined

/-- A pattern takes no part of a text in whose outline its own does not occur. -/
theorem not_spells_of_outline (hp : p.Respects d probe) (h : p.absent probe (keep d t) = true)
    (hw : p.Spells w) : ¬w <:+: t := fun hwt => by
  have hoccurs : (p.outline probe).occurs (keep d t) = true :=
    (occurs_iff (testless_outline p)).2 ⟨_, hw.outline hp, hwt.filter _⟩
  rw [absent, hoccurs] at h
  cases h

theorem search_eq_none (h : ∀ w, p.Spells w → ¬w <:+: t) : p.search t = none := by
  rw [← Option.not_isSome_iff_eq_none]
  intro hs
  obtain ⟨w, hw, hwt⟩ := exists_spells_of_occurs hs
  exact h w hw hwt

theorem search_eq_none_of_outline (hp : p.Respects d probe) (h : p.absent probe (keep d t) = true) :
    p.search t = none := search_eq_none fun _ => not_spells_of_outline hp h

/-- A pattern that does not take `x`, and no part of the text on either side of an `x`, is not found
in the whole. -/
theorem search_cut_eq_none (hx : p.avoids x = true) (hu : ∀ w, p.Spells w → ¬w <:+: u)
    (hv : ∀ w, p.Spells w → ¬w <:+: v) : p.search (u ++ x :: v) = none :=
  search_eq_none fun w hw hwt =>
    (infix_of_infix_cut hwt (notMem_of_spells hx hw)).elim (hu w hw) (hv w hw)

/-! ## Outlines of composite patterns -/

@[simp] theorem respects_append :
    (p ++ q).Respects d probe ↔ p.Respects d probe ∧ q.Respects d probe := Iff.rfl

@[simp] theorem respects_either :
    (either p q).Respects d probe ↔ p.Respects d probe ∧ q.Respects d probe := Iff.rfl

@[simp] theorem respects_orElse :
    (p <|> q).Respects d probe ↔ p.Respects d probe ∧ q.Respects d probe := Iff.rfl

@[simp] theorem respects_group (i : Nat) :
    (group i p).Respects d probe ↔ p.Respects d probe := Iff.rfl

@[simp] theorem respects_opt : (opt p).Respects d probe ↔ p.Respects d probe :=
  and_iff_left trivial

@[simp] theorem respects_atStart : atStart.Respects d probe := trivial

@[simp] theorem respects_atEnd : atEnd.Respects d probe := trivial

@[simp] theorem respects_atWordEdge : atWordEdge.Respects d probe := trivial

@[simp] theorem respects_many1 : (many1 s).Respects d probe ↔ SetsApart d probe s := Iff.rfl

@[simp] theorem respects_many : (many s).Respects d probe ↔ SetsApart d probe s := Iff.rfl

@[simp] theorem respects_times (least most : Nat) :
    (times s least most).Respects d probe ↔ SetsApart d probe s := Iff.rfl

theorem respects_char (h : d x = false) : (char x).Respects d probe :=
  .inr fun c hc => beq_eq_false_iff_ne.2 fun he => by simp [← he, hc] at h

theorem respects_word {l : String} (h : l.toList.all (fun c => !d c) = true) :
    (word l).Respects d probe := by
  rw [word]
  generalize l.toList = l at h
  induction l with
  | nil => trivial
  | cons c l ih =>
    rw [List.all_cons, Bool.and_eq_true, Bool.not_eq_true'] at h
    exact ⟨respects_char h.1, ih h.2⟩

end Pattern

end Worksheet
