import Worksheet.Proofs.Matching
import Worksheet.Proofs.Rewriting

/-!
# Searching a text with other references

A phrase may begin with the digits of a reference, as in `\3 % of 20`. Most patterns cannot begin
with a digit; of those that can, some take the digits of the reference as part of a numeral and go
on behind it. `firm` tells both kinds from the rest, and for them a search has the same outcome
whatever the references are (`search_rewrite`).

Only ASCII digits are looked at, so that `firm` can be computed.
-/

namespace Worksheet

open Text

namespace Pattern

/-! ## Patterns that begin with no digit -/

def asciiDigits : Text := "0123456789".toList

theorem mem_asciiDigits {c : Char} (h : isAsciiDigit c = true) : c ∈ asciiDigits := by
  have hn := toNat_of_isAsciiDigit h
  rw [← Char.ofNat_toNat c]
  generalize c.toNat = n at hn
  obtain ⟨i, hi, rfl⟩ : ∃ i < 10, n = 48 + i := ⟨n - 48, by omega, by omega⟩
  revert i
  decide +kernel

theorem of_all_asciiDigits {s : Char → Bool} (hs : asciiDigits.all s = true) {c : Char}
    (h : isAsciiDigit c = true) : s c = true :=
  List.all_eq_true.1 hs c (mem_asciiDigits h)

/-- Whether no match begins with an ASCII digit and none is empty. -/
def clear (p : Pattern) : Bool := !p.nullable && asciiDigits.all fun c => !p.starts c

/-- Whether a digit makes the pattern match nothing and go on. -/
def skips : Pattern → Bool
  | either p nothing => p.clear
  | _ => false

variable {b a r : Text} {c : Char} {g : Groups} {k : Cursor → Groups → Outcome}

theorem exec_eq_none {p : Pattern} (hn : p.nullable = false) (hs : p.starts c = false) :
    p.exec ⟨b, c :: r⟩ g k = none := by
  refine Option.eq_none_iff_forall_ne_some.2 fun o h => ?_
  rcases starts_of_exec h with ⟨hp, -⟩ | ⟨d, r', hd, hp⟩
  · rw [hn] at hp
    cases hp
  · cases hd
    rw [hs] at hp
    cases hp

theorem exec_of_clear {p : Pattern} (h : p.clear = true) (hc : isAsciiDigit c = true) :
    p.exec ⟨b, c :: r⟩ g k = none := by
  rw [clear, Bool.and_eq_true, Bool.not_eq_true'] at h
  exact exec_eq_none h.1 (by simpa using of_all_asciiDigits h.2 hc)

/-- What avoids a character does not begin with it. -/
theorem starts_of_avoids {p : Pattern} (h : p.avoids c = true) : p.starts c = false := by
  induction p with
  | one s | run s => simpa [avoids, starts] using h
  | seq p q ihp ihq | either p q ihp ihq =>
    rw [avoids, Bool.and_eq_true] at h
    simp [starts, ihp h.1, ihq h.2]
  | group i p ih => exact ih h
  | nothing | atStart | atEnd | atWordEdge | behind s | ahead p => rfl

theorem exec_skips {p q : Pattern} (h : p.skips = true) (hc : isAsciiDigit c = true) :
    (seq p q).exec ⟨b, c :: r⟩ g k = q.exec ⟨b, c :: r⟩ g k := by
  match p, h with
  | either p nothing, h =>
    rw [skips] at h
    rw [exec, exec, exec_of_clear h hc]
    rfl

/-! ## Patterns that begin with a numeral -/

/-- Whether a digit makes the pattern take the whole run of digits. What comes next must not begin
with a digit, or it could take a part. Groups that begin with the digits are those in `loose`. -/
def passes (loose : Nat → Bool) : Pattern → Bool
  | run s least most long => asciiDigits.all s && least ≤ 1 && most.isNone && long
  | seq p q =>
    (p.passes loose && asciiDigits.all fun c => !q.starts c) || (p.skips && q.passes loose)
  | group i p => loose i && p.passes loose
  | _ => false

/-- Whether the pattern matches at a digit behind a backslash as it does at any other digits. -/
def firm (loose : Nat → Bool) : Pattern → Bool
  | seq p q =>
    (seq p q).clear || p.firm loose || (p.passes loose && q.clear) || (p.skips && q.firm loose)
  | either p q => p.firm loose && q.firm loose
  | group i p => p.clear || (loose i && p.firm loose)
  | atStart => true
  | p => p.clear

/-- Whether a search for the pattern takes no notice of what the references of a text are. -/
def blind (loose : Nat → Bool) (p : Pattern) : Bool :=
  p.avoids '\\' && !p.nullable && p.firm loose

/-- Two runs of ASCII digits, neither of them empty. -/
structure Numerals (u u' : Text) : Prop where
  ne : u ≠ []
  ne' : u' ≠ []
  digits : u.all isAsciiDigit = true
  digits' : u'.all isAsciiDigit = true

theorem Numerals.edge {u u' : Text} (h : Numerals u u') (x x' : Text) :
    Edge (u.reverse ++ x) (u'.reverse ++ x') := by
  have hlast {u x : Text} (hne : u ≠ []) (hu : u.all isAsciiDigit = true) :
      (u.reverse ++ x).isEmpty = false ∧ (u.reverse ++ x).head?.any isWord = true := by
    obtain ⟨c, s, hs⟩ := List.exists_cons_of_ne_nil (by simpa using hne : u.reverse ≠ [])
    have hc : isDigit c = true := isDigit_of_isAsciiDigit
      (List.all_eq_true.1 hu c (List.mem_reverse.1 (by rw [hs]; exact List.mem_cons_self)))
    rw [hs]
    exact ⟨rfl, by simp [isWord, hc]⟩
  obtain ⟨h₁, h₂⟩ := hlast (x := x) h.ne h.digits
  obtain ⟨h₁', h₂'⟩ := hlast (x := x') h.ne' h.digits'
  exact ⟨h₁.trans h₁'.symm, h₂.trans h₂'.symm⟩

/-- `k` has no way on from a place in front of a digit of `u`. -/
def Deaf (u x a : Text) (k : Cursor → Outcome) : Prop :=
  ∀ z c r, u = z ++ c :: r → k ⟨z.reverse ++ x, c :: (r ++ a)⟩ = none

theorem Deaf.descend_eq {u x : Text} {k : Cursor → Outcome} {n : Nat} (hk : Deaf u x a k)
    (hn : n ≤ u.length) : descend k n ⟨u.reverse ++ x, a⟩ = k ⟨u.reverse ++ x, a⟩ := by
  have hnone {n : Nat} {z : Text} {c : Char} {r : Text} (hz : u = z ++ c :: r)
      (hn : n ≤ z.length) : descend k n ⟨z.reverse ++ x, c :: (r ++ a)⟩ = none := by
    induction n generalizing z c r with
    | zero => exact hk z c r hz
    | succ n ih =>
      have hne : z ≠ [] := by
        rintro rfl
        simp at hn
      obtain ⟨z, d, rfl⟩ : ∃ y d, z = y ++ [d] := ⟨_, _, (List.dropLast_concat_getLast hne).symm⟩
      rw [descend, hk _ c r hz, List.reverse_append]
      exact ih (c := d) (r := c :: r) (by rw [hz, List.append_assoc]; rfl) (by simpa using hn)
  cases n with
  | zero => rfl
  | succ n =>
    have hne : u ≠ [] := by
      rintro rfl
      simp at hn
    obtain ⟨z, d, rfl⟩ : ∃ y d, u = y ++ [d] := ⟨_, _, (List.dropLast_concat_getLast hne).symm⟩
    rw [descend, List.reverse_append]
    have hback : descend k n ⟨z.reverse ++ x, d :: a⟩ = none :=
      hnone (r := []) rfl (by simpa using hn)
    cases hz : k ⟨[d].reverse ++ z.reverse ++ x, a⟩ with
    | none => exact hback
    | some o => rfl

section Behind

variable {α : Type} {view : Nat → Text → α} {u u' v w w' x x' : Text}

/-- The continuations agree at all places behind the digits and in front of a backslash. -/
def AlikeBehind (view : Nat → Text → α) (u u' v w w' x x' : Text)
    (k k' : Cursor → Groups → Outcome) : Prop :=
  ∀ z r g g', v = z ++ r → seen view g = seen view g' →
    told view (k ⟨z.reverse ++ (u.reverse ++ x), r ++ w⟩ g) =
      told view (k' ⟨z.reverse ++ (u'.reverse ++ x'), r ++ w'⟩ g')

theorem climb_all {s : Char → Bool} {n : Nat} (hu : u.all s = true) :
    Cursor.climb s none n x (u ++ a) = Cursor.climb s none (n + u.length) (u.reverse ++ x) a := by
  induction u generalizing n x with
  | nil => rfl
  | cons c u ih =>
    rw [List.all_cons, Bool.and_eq_true] at hu
    rw [List.cons_append, Cursor.climb, if_pos (by rw [hu.1]; rfl), ih hu.2, List.length_cons,
      List.reverse_cons, List.append_assoc, Nat.add_assoc, Nat.add_comm 1]
    rfl

/-- A run without a limit takes its class. -/
theorem climb_span {s : Char → Bool} {n : Nat} : Cursor.climb s none n x a =
    (n + (a.takeWhile s).length, ⟨(a.takeWhile s).reverse ++ x, a.dropWhile s⟩) := by
  induction a generalizing n x with
  | nil => rfl
  | cons c a ih =>
    rw [Cursor.climb]
    by_cases hc : s c = true
    · rw [if_pos (by rw [hc]; rfl), ih, List.takeWhile_cons_of_pos hc,
        List.dropWhile_cons_of_pos hc, List.length_cons, List.reverse_cons, List.append_assoc,
        Nat.add_assoc, Nat.add_comm 1]
      rfl
    · rw [if_neg (by simp [hc]), List.takeWhile_cons_of_neg hc, List.dropWhile_cons_of_neg hc]
      rfl

/-- Going back over a run that took digits and more, only the places behind the digits count. -/
theorem descend_behind {n n' : Nat} {y r : Text} {k k' : Cursor → Outcome}
    (hk : ∀ s z, y = s.reverse ++ z →
      told view (k ⟨z ++ (u.reverse ++ x), s ++ (r ++ w)⟩) =
        told view (k' ⟨z ++ (u'.reverse ++ x'), s ++ (r ++ w')⟩))
    (hd : Deaf u x (y.reverse ++ (r ++ w)) k) (hd' : Deaf u' x' (y.reverse ++ (r ++ w')) k')
    (hn : y.length ≤ n ∧ n ≤ y.length + u.length)
    (hn' : y.length ≤ n' ∧ n' ≤ y.length + u'.length) :
    told view (descend k n ⟨y ++ (u.reverse ++ x), r ++ w⟩) =
      told view (descend k' n' ⟨y ++ (u'.reverse ++ x'), r ++ w'⟩) := by
  have h := hk [] y rfl
  induction y generalizing n n' r with
  | nil =>
    simp only [List.reverse_nil, List.nil_append, List.length_nil, Nat.zero_add] at *
    rw [hd.descend_eq hn.2, hd'.descend_eq hn'.2]
    exact h
  | cons c y ih =>
    rw [List.length_cons] at hn hn'
    rw [List.reverse_cons, List.append_assoc] at hd hd'
    obtain ⟨n, rfl⟩ : ∃ m, n = m + 1 := ⟨n - 1, by omega⟩
    obtain ⟨n', rfl⟩ : ∃ m, n' = m + 1 := ⟨n' - 1, by omega⟩
    have hk' (s z : Text) (hy : y = s.reverse ++ z) :
        told view (k ⟨z ++ (u.reverse ++ x), s ++ (c :: r ++ w)⟩) =
          told view (k' ⟨z ++ (u'.reverse ++ x'), s ++ (c :: r ++ w')⟩) := by
      have h := hk (s ++ [c]) z (by rw [hy, List.reverse_append]; rfl)
      rwa [List.append_assoc, List.append_assoc] at h
    have ih := @ih n n' (c :: r) hk' hd hd' (by omega) (by omega) (hk' [] y rfl)
    rw [List.cons_append, List.cons_append, descend, descend]
    simp only [List.nil_append, List.cons_append] at h
    generalize k _ = o at h ⊢
    generalize k' _ = o' at h ⊢
    rcases both_of_map_eq h with ⟨r, r', rfl, rfl⟩ | ⟨rfl, rfl⟩
    · exact h
    · exact ih

/-- Groups in `loose` are told apart by `view` no further than to the digits they begin with. -/
def Indifferent (view : Nat → Text → α) (loose : Nat → Bool) : Prop :=
  ∀ i, loose i = true → ∀ u u' z : Text, Numerals u u' → view i (u ++ z) = view i (u' ++ z)

theorem upTo_behind {z r : Text} {b : Text} :
    Cursor.upTo ⟨x, u ++ (z ++ r ++ w)⟩ ⟨b, r ++ w⟩ = u ++ z := by
  rw [← List.append_assoc, ← List.append_assoc, upTo_append, List.length_append,
    Nat.add_sub_cancel, List.take_left]

theorem AlikeBehind.group {loose : Nat → Bool} {k k' : Cursor → Groups → Outcome} {i : Nat}
    (hk : AlikeBehind view u u' v w w' x x' k k') (hview : Indifferent view loose)
    (hu : Numerals u u') (hi : loose i = true) :
    AlikeBehind view u u' v w w' x x' (fun c g => k c ((i, ⟨x, u ++ (v ++ w)⟩, c) :: g))
      fun c g => k' c ((i, ⟨x', u' ++ (v ++ w')⟩, c) :: g) := by
  intro z r g g' hz hg
  refine hk z r _ _ hz ?_
  subst hz
  unfold seen at hg ⊢
  rw [List.map_cons, List.map_cons, hg]
  simp only [upTo_behind, hview i hi u u' z hu]

/-- What stands behind the digits matches alike, whatever the digits are. -/
theorem AlikeBehind.exec {q : Pattern} {k k' : Cursor → Groups → Outcome}
    (hk : AlikeBehind view u u' v w w' x x' k k') (hq : q.avoids '\\' = true)
    (hu : Numerals u u') (hv : '\\' ∉ v) (hw : Stops w w') :
    AlikeBehind view u u' v w w' x x' (fun c g => q.exec c g k) fun c g => q.exec c g k' := by
  intro z r g g' hz hg
  have hr : '\\' ∉ r := fun hm => hv (by rw [hz]; exact List.mem_append_right z hm)
  refine exec_alike hq hw ((hu.edge x x').append _) hr hg fun z₁ r₁ g g' hr hg => ?_
  have h := hk (z ++ z₁) r₁ g g' (by rw [hz, hr, List.append_assoc]) hg
  rwa [List.reverse_append, List.append_assoc, List.append_assoc] at h

/-- What cannot begin with a digit has no way on from one, unless it is empty. -/
theorem Deaf.exec {q : Pattern} {k : Cursor → Groups → Outcome} (hk : ∀ g, Deaf u x a (k · g))
    (hu : u.all isAsciiDigit = true) (hq : asciiDigits.all (fun c => !q.starts c) = true)
    (g : Groups) : Deaf u x a fun c => q.exec c g k := by
  intro z c r hz
  refine Option.eq_none_iff_forall_ne_some.2 fun o h => ?_
  rcases starts_of_exec h with ⟨-, g', h⟩ | ⟨d, r', hd, hs⟩
  · cases (hk g' z c r hz).symm.trans h
  · cases hd
    have hc := of_all_asciiDigits hq (List.all_eq_true.1 hu c (by rw [hz]; simp))
    rw [hs] at hc
    cases hc

theorem exec_passes {p : Pattern} {loose : Nat → Bool} (hview : Indifferent view loose)
    (hu : Numerals u u') (hv : '\\' ∉ v) (hw : Stops w w') (ha : p.avoids '\\' = true)
    (hp : p.passes loose = true) {g g' : Groups} {k k' : Cursor → Groups → Outcome}
    (hg : seen view g = seen view g') (hd : ∀ g, Deaf u x (v ++ w) (k · g))
    (hd' : ∀ g, Deaf u' x' (v ++ w') (k' · g)) (hk : AlikeBehind view u u' v w w' x x' k k') :
    told view (p.exec ⟨x, u ++ (v ++ w)⟩ g k) = told view (p.exec ⟨x', u' ++ (v ++ w')⟩ g' k') := by
  induction p generalizing g g' k k' with
  | run s least most long =>
    rw [passes, Bool.and_eq_true, Bool.and_eq_true, Bool.and_eq_true, decide_eq_true_eq,
      Option.isNone_iff_eq_none] at hp
    obtain ⟨⟨⟨hs, hl⟩, rfl⟩, rfl⟩ := hp
    rw [avoids, Bool.not_eq_true'] at ha
    have hall {u : Text} (hu : u.all isAsciiDigit = true) : u.all s = true :=
      List.all_eq_true.2 fun c hc => of_all_asciiDigits hs (List.all_eq_true.1 hu c hc)
    have hlen := List.length_pos_iff.2 hu.ne
    have hlen' := List.length_pos_iff.2 hu.ne'
    obtain ⟨hw₁, hw₂⟩ := hw.head?_any ha
    rw [exec, exec, climb_all (hall hu.digits), climb_all (hall hu.digits'), climb_span, climb_span,
      takeWhile_append_of_head hw₁, takeWhile_append_of_head hw₂, dropWhile_append_of_head hw₁,
      dropWhile_append_of_head hw₂]
    have hcut := List.takeWhile_append_dropWhile (p := s) (l := v)
    generalize v.takeWhile s = y at hcut ⊢
    generalize v.dropWhile s = r at hcut ⊢
    subst hcut
    simp only
    rw [if_pos (by omega), if_pos (by omega)]
    refine descend_behind (fun z t hz => ?_) ?_ ?_ ?_ ?_
    · have hy : y = t.reverse ++ z := by
        rw [← List.reverse_reverse y, hz, List.reverse_append, List.reverse_reverse]
      have h := hk t.reverse (z ++ r) g g' (by rw [hy, List.append_assoc]) hg
      rwa [List.reverse_reverse, List.append_assoc, List.append_assoc] at h
    · simpa using hd g
    · simpa using hd' g'
    · rw [List.length_reverse]
      omega
    · rw [List.length_reverse]
      omega
  | seq p q ihp ihq =>
    rw [avoids, Bool.and_eq_true] at ha
    rw [passes, Bool.or_eq_true, Bool.and_eq_true, Bool.and_eq_true] at hp
    rcases hp with ⟨hp, hq⟩ | ⟨hp, hq⟩
    · rw [exec, exec]
      exact ihp ha.1 hp hg (Deaf.exec hd hu.digits hq) (Deaf.exec hd' hu.digits' hq)
        (hk.exec ha.2 hu hv hw)
    · obtain ⟨c, r, rfl⟩ := List.exists_cons_of_ne_nil hu.ne
      obtain ⟨c', r', rfl⟩ := List.exists_cons_of_ne_nil hu.ne'
      have hc := List.all_eq_true.1 hu.digits c List.mem_cons_self
      have hc' := List.all_eq_true.1 hu.digits' c' List.mem_cons_self
      refine (congrArg (told view) (exec_skips hp hc)).trans ?_
      refine Eq.trans ?_ (congrArg (told view) (exec_skips hp hc')).symm
      exact ihq ha.2 hq hg hd hd' hk
  | group i p ih =>
    rw [passes, Bool.and_eq_true] at hp
    rw [exec, exec]
    exact ih ha hp.2 hg (fun g z c r hz => hd _ z c r hz) (fun g z c r hz => hd' _ z c r hz)
      (hk.group hview hu hp.1)
  | _ => cases hp

theorem exec_firm {p : Pattern} {loose : Nat → Bool} (hview : Indifferent view loose)
    (hu : Numerals u u') (hv : '\\' ∉ v) (hw : Stops w w') (hx : x ≠ []) (hx' : x' ≠ [])
    (ha : p.avoids '\\' = true) (hp : p.firm loose = true) {g g' : Groups}
    {k k' : Cursor → Groups → Outcome} (hg : seen view g = seen view g')
    (hk : AlikeBehind view u u' v w w' x x' k k') :
    told view (p.exec ⟨x, u ++ (v ++ w)⟩ g k) = told view (p.exec ⟨x', u' ++ (v ++ w')⟩ g' k') := by
  obtain ⟨c, r, hcr⟩ := List.exists_cons_of_ne_nil hu.ne
  obtain ⟨c', r', hcr'⟩ := List.exists_cons_of_ne_nil hu.ne'
  have hc := List.all_eq_true.1 hu.digits c (by rw [hcr]; exact List.mem_cons_self)
  have hc' := List.all_eq_true.1 hu.digits' c' (by rw [hcr']; exact List.mem_cons_self)
  have hclear {p : Pattern} (hp : p.clear = true) {g g' : Groups}
      {k k' : Cursor → Groups → Outcome} : told view (p.exec ⟨x, u ++ (v ++ w)⟩ g k) =
        told view (p.exec ⟨x', u' ++ (v ++ w')⟩ g' k') := by
    rw [hcr, hcr', List.cons_append, List.cons_append, exec_of_clear hp hc, exec_of_clear hp hc']
  induction p generalizing g g' k k' with
  | seq p q ihp ihq =>
    have ha' := ha
    rw [avoids, Bool.and_eq_true] at ha
    rw [firm, Bool.or_eq_true, Bool.or_eq_true, Bool.or_eq_true, Bool.and_eq_true,
      Bool.and_eq_true] at hp
    rcases hp with ((hp | hp) | ⟨hp, hq⟩) | ⟨hp, hq⟩
    · exact hclear hp
    · rw [exec, exec]
      exact ihp ha.1 hp hg (hk.exec ha.2 hu hv hw)
    · have hdeaf {u x a : Text} {k : Cursor → Groups → Outcome} (hu : u.all isAsciiDigit = true)
          (g : Groups) : Deaf u x a fun c => q.exec c g k := fun z c r hz =>
        exec_of_clear hq (List.all_eq_true.1 hu c (by rw [hz]; simp))
      rw [exec, exec]
      exact exec_passes hview hu hv hw ha.1 hp hg (hdeaf hu.digits) (hdeaf hu.digits')
        (hk.exec ha.2 hu hv hw)
    · have hskip := ihq ha.2 hq hg hk
      rw [hcr, hcr', List.cons_append, List.cons_append] at hskip ⊢
      rw [exec_skips hp hc, exec_skips hp hc']
      exact hskip
  | either p q ihp ihq =>
    rw [avoids, Bool.and_eq_true] at ha
    rw [firm, Bool.and_eq_true] at hp
    have h₁ := ihp ha.1 hp.1 hg hk
    have h₂ := ihq ha.2 hp.2 hg hk
    rw [exec, exec]
    generalize p.exec _ g k = o at h₁ ⊢
    generalize p.exec _ g' k' = o' at h₁ ⊢
    rcases both_of_map_eq h₁ with ⟨r, r', rfl, rfl⟩ | ⟨rfl, rfl⟩
    · exact h₁
    · exact h₂
  | group i p ih =>
    rw [firm, Bool.or_eq_true, Bool.and_eq_true] at hp
    rcases hp with hp | hp
    · rw [exec, exec]
      exact hclear hp
    · rw [exec, exec]
      exact ih ha hp.2 hg (hk.group hview hu hp.1)
  | atStart =>
    obtain ⟨d, s, rfl⟩ := List.exists_cons_of_ne_nil hx
    obtain ⟨d', s', rfl⟩ := List.exists_cons_of_ne_nil hx'
    rfl
  | nothing | one | run | atEnd | atWordEdge | behind | ahead => exact hclear hp

end Behind

/-! ## Searching -/

section Search

open Reference

variable {α : Type} {view : Nat → Text → α} {loose : Nat → Bool} {ρ : Text → Text} {x x' : Text}

/-- Up to the first backslash, the rewritten text is the text. -/
theorem exists_stops (ρ : Text → Text) (t : Text) : ∃ u w, '\\' ∉ u ∧ t = u ++ w ∧
    rewrite ρ t = u ++ rewrite ρ w ∧ Stops w (rewrite ρ w) := by
  by_cases ht : '\\' ∈ t
  · obtain ⟨u, r, rfl, hu⟩ := List.eq_append_cons_of_mem ht
    exact ⟨u, _, hu, rfl, rewrite_append_of_notMem hu,
      .inr ⟨r, _, rfl, exists_rewrite_cons.choose_spec⟩⟩
  · exact ⟨t, [], ht, (List.append_nil t).symm, by rw [rewrite_nil, rewrite_of_notMem ht]; simp,
      .inl ⟨rfl, rewrite_nil⟩⟩

/-- Places at which nothing matches are passed over. -/
theorem searchFrom_append {p : Pattern} {u a : Text}
    (h : ∀ z s, u = z ++ s → s ≠ [] → p.matchAt ⟨z.reverse ++ x, s ++ a⟩ = none) :
    p.searchFrom x (u ++ a) = p.searchFrom (u.reverse ++ x) a := by
  induction u generalizing x with
  | nil => rfl
  | cons c u ih =>
    have hc := h [] (c :: u) rfl (by simp)
    rw [List.cons_append] at hc ⊢
    rw [List.reverse_cons, List.append_assoc, searchFrom,
      show p.matchAt ⟨x, c :: (u ++ a)⟩ = none from hc]
    refine ih fun z s hz hs => ?_
    have := h (c :: z) s (by rw [hz]; rfl) hs
    rwa [List.reverse_cons, List.append_assoc] at this

theorem matchAt_backslash {p : Pattern} (ha : p.avoids '\\' = true) (hn : p.nullable = false)
    {b r : Text} : p.matchAt ⟨b, '\\' :: r⟩ = none := by
  rw [matchAt, exec_eq_none hn (starts_of_avoids ha)]
  rfl

theorem searchFrom_rewrite {p : Pattern} (hρ : KeepsRuns ρ) (hρa : KeepsAscii ρ)
    (ha : p.avoids '\\' = true) (hn : p.nullable = false) (hf : p.firm loose = true)
    (hview : Indifferent view loose) (hx : Edge x x') (t : Text)
    (ht : ∀ digits ∈ runs t, digits.all isAsciiDigit = true) :
    found view (p.searchFrom x t) = found view (p.searchFrom x' (rewrite ρ t)) := by
  induction t using Reference.pieces_induction generalizing x x' with
  | nil =>
    rw [rewrite_nil]
    exact matchAt_alike (u := []) ha (.inl ⟨rfl, rfl⟩) hx List.not_mem_nil
  | char c r hc ih =>
    have hr : ∀ digits ∈ runs r, digits.all isAsciiDigit = true := fun digits hd =>
      ht digits (by rwa [runs, pieces_char hc])
    have ih := ih (show Edge (c :: x) (c :: x') from ⟨rfl, rfl⟩) hr
    rw [rewrite_cons hc, searchFrom, searchFrom]
    by_cases hb : c = '\\'
    · rw [hb, matchAt_backslash ha hn, matchAt_backslash ha hn, ← hb]
      exact ih
    · obtain ⟨u, w, hu, htu, hru, hw⟩ := exists_stops ρ r
      have h : found view (p.matchAt ⟨x, c :: r⟩) =
          found view (p.matchAt ⟨x', c :: rewrite ρ r⟩) := by
        rw [hru]
        conv => lhs; rw [htu]
        exact matchAt_alike (u := c :: u) ha hw hx (by simp [hu, Ne.symm hb])
      generalize p.matchAt ⟨x, c :: r⟩ = m at h ⊢
      generalize p.matchAt ⟨x', c :: rewrite ρ r⟩ = m' at h ⊢
      rcases both_of_map_eq h with ⟨m, m', rfl, rfl⟩ | ⟨rfl, rfl⟩
      · exact h
      · exact ih
  | run u r hne hu hr ih =>
    rw [runs_run hne hu hr] at ht
    have hua := ht u List.mem_cons_self
    have ih (y y' : Text) (hy : Edge y y') :=
      ih hy fun digits hd => ht digits (List.mem_cons_of_mem u hd)
    obtain ⟨v, w, hv, htv, hrv, hw⟩ := exists_stops ρ r
    have hvr : Numerals u (ρ u) := ⟨hne, (hρ u).1, hua, hρa u⟩
    -- All places in the old and the new digits are alike, so all have a match or none has.
    have hsame {s s' y y' a a' : Text} (hs : Numerals s s') (hy : y ≠ []) (hy' : y' ≠ [])
        {w w' : Text} (hw : Stops w w') (haw : a = v ++ w) (haw' : a' = v ++ w') :
        found view (p.matchAt ⟨y, s ++ a⟩) = found view (p.matchAt ⟨y', s' ++ a'⟩) := by
      rw [found_matchAt, found_matchAt, haw, haw']
      exact exec_firm hview hs hv hw hy hy' ha hf rfl fun _ _ _ _ _ hg => congrArg some hg
    have hskip {s y a w : Text} (hs : s ≠ []) (hsa : s.all isAsciiDigit = true)
        (hwr : Stops w w) (haw : a = v ++ w)
        (hm : p.matchAt ⟨'\\' :: y, s ++ a⟩ = none) :
        p.searchFrom ('\\' :: y) (s ++ a) = p.searchFrom (s.reverse ++ '\\' :: y) a := by
      refine searchFrom_append fun z s' hz hs' => ?_
      have hs'a : s'.all isAsciiDigit = true := by
        rw [hz, List.all_append, Bool.and_eq_true] at hsa
        exact hsa.2
      have hne : z.reverse ++ '\\' :: y ≠ [] := by simp
      have h := hsame ⟨hs, hs', hsa, hs'a⟩ (List.cons_ne_nil '\\' y) hne hwr haw haw
      rw [hm] at h
      simpa [found] using h.symm
    have hrefl : Stops w w ∧ Stops (rewrite ρ w) (rewrite ρ w) := by
      rcases hw with ⟨h, h'⟩ | ⟨s, s', h, h'⟩
      · exact ⟨.inl ⟨h, h⟩, .inl ⟨h', h'⟩⟩
      · exact ⟨.inr ⟨s, s, h, h⟩, .inr ⟨s', s', h', h'⟩⟩
    have h := hsame hvr (List.cons_ne_nil '\\' x) (List.cons_ne_nil '\\' x') hw htv hrv
    rw [rewrite_run hne hu hr, searchFrom, searchFrom, matchAt_backslash ha hn,
      matchAt_backslash ha hn]
    show found view (p.searchFrom ('\\' :: x) (u ++ r)) =
      found view (p.searchFrom ('\\' :: x') (ρ u ++ rewrite ρ r))
    cases hm : p.matchAt ⟨'\\' :: x, u ++ r⟩ with
    | none =>
      have hm' : p.matchAt ⟨'\\' :: x', ρ u ++ rewrite ρ r⟩ = none := by
        rw [hm] at h
        simpa [found] using h.symm
      rw [hskip hne hua hrefl.1 htv hm, hskip (hρ u).1 (hρa u) hrefl.2 hrv hm']
      exact ih _ _ (hvr.edge _ _)
    | some m =>
      have hfirst {s y a : Text} (hs : s ≠ []) {m : Match}
          (hm : p.matchAt ⟨y, s ++ a⟩ = some m) : p.searchFrom y (s ++ a) = some m := by
        obtain ⟨c, s, rfl⟩ := List.exists_cons_of_ne_nil hs
        rw [List.cons_append] at hm ⊢
        rw [searchFrom, hm]
      cases hm' : p.matchAt ⟨'\\' :: x', ρ u ++ rewrite ρ r⟩ with
      | none => simp [hm, hm', found] at h
      | some m' =>
        rw [hfirst hne hm, hfirst (hρ u).1 hm']
        rwa [hm, hm'] at h

/-- **Theorem (`search_rewrite`).** A search for a blind pattern has the same outcome whatever the
references are. -/
theorem search_rewrite {p : Pattern} (hρ : KeepsRuns ρ) (hρa : KeepsAscii ρ)
    (hp : p.blind loose = true) (hview : Indifferent view loose) {t : Text}
    (ht : ∀ digits ∈ runs t, digits.all isAsciiDigit = true) :
    found view (p.search (rewrite ρ t)) = found view (p.search t) := by
  rw [blind, Bool.and_eq_true, Bool.and_eq_true, Bool.not_eq_true'] at hp
  rw [search_eq_searchFrom, search_eq_searchFrom]
  exact (searchFrom_rewrite hρ hρa hp.1.1 hp.1.2 hp.2 hview ⟨rfl, rfl⟩ t ht).symm

theorem occurs_rewrite {p : Pattern} (hρ : KeepsRuns ρ) (hρa : KeepsAscii ρ)
    (hp : p.blind (fun _ => true) = true) {t : Text}
    (ht : ∀ digits ∈ runs t, digits.all isAsciiDigit = true) :
    p.occurs (rewrite ρ t) = p.occurs t := by
  have hview : Indifferent (fun _ _ => ()) fun _ => true := fun _ _ _ _ _ _ => rfl
  have h := congrArg Option.isSome (search_rewrite hρ hρa hp hview ht)
  rw [occurs, occurs]
  simpa only [found, Option.isSome_map] using h

end Search

end Pattern

end Worksheet
