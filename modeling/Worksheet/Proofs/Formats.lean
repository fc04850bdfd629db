import Worksheet.Calendar.Reading
import Worksheet.Proofs.Claiming
import Worksheet.Proofs.Matching

/-!
# Texts of a format

A format reads a text only if the text has as many of each mark as the format
(`Format.count_of_read?`): no other part of a format takes one. That tells most formats apart.

Where each part takes its own piece of a text first, the format reads the pieces
(`Format.exists_matchStart`). Numbers of two digits are such pieces, whatever stands behind them, as
each part prefers two digits to one.
-/

namespace Worksheet

open Text

namespace Pattern

variable {p q : Pattern} {s : Char → Bool} {c d : Char} {u v w : Text}

/-! ## Pieces that a pattern prefers -/

/-- In front of `w`, the pattern takes `u` first: what must follow it is tried behind `u`. -/
def TakesFirst (p : Pattern) (u w : Text) : Prop :=
  ∀ x g (k : Cursor → Groups → Outcome) o,
    k ⟨u.reverse ++ x, w⟩ g = some o → p.exec ⟨x, u ++ w⟩ g k = some o

namespace TakesFirst

theorem one (h : s c = true) : (Pattern.one s).TakesFirst [c] w := by
  intro x g k o ho
  simpa [exec, h] using ho

theorem seq (hp : p.TakesFirst u (v ++ w)) (hq : q.TakesFirst v w) :
    (p ++ q).TakesFirst (u ++ v) w := by
  intro x g k o ho
  rw [List.append_assoc]
  refine hp x g _ o (hq _ g k o ?_)
  rwa [List.reverse_append, List.append_assoc] at ho

/-- Two characters, one after the other. -/
theorem two {s' : Char → Bool} (hc : s c = true) (hd : s' d = true) :
    (Pattern.one s ++ Pattern.one s').TakesFirst [c, d] w :=
  seq (u := [c]) (v := [d]) (one hc) (one hd)

theorem left (h : p.TakesFirst u w) : (p <|> q).TakesFirst u w := by
  intro x g k o ho
  show exec (either p q) _ _ _ = _
  rw [exec, h x g k o ho]

/-- What cannot begin with the first character is passed over. -/
theorem right (hn : p.nullable = false) (hs : p.starts c = false) (h : q.TakesFirst (c :: u) w) :
    (p <|> q).TakesFirst (c :: u) w := by
  intro x g k o ho
  have hnone : p.exec ⟨x, c :: u ++ w⟩ g k = none := by
    refine Option.eq_none_iff_forall_ne_some.2 fun r hr => ?_
    rcases starts_of_exec hr with ⟨hnull, -⟩ | ⟨d, r', hd, hstart⟩
    · rw [hn] at hnull
      cases hnull
    · cases hd
      rw [hs] at hstart
      cases hstart
  show exec (either p q) _ _ _ = _
  rw [exec, hnone]
  exact h x g k o ho

/-- A blank in front of something else. -/
theorem blank (hc : isBlank c = true) (hw : w.head?.any isBlank = false) :
    blanks.TakesFirst [c] w := by
  intro x g k o ho
  have hclimb : Cursor.climb isBlank none 0 x (c :: w) = (1, ⟨c :: x, w⟩) := by
    rw [Cursor.climb, if_pos (by simp [hc])]
    cases w with
    | nil => rfl
    | cons d w => rw [Cursor.climb, if_neg (by simpa using hw)]
  show exec (run isBlank 1 none true) _ _ _ = _
  rw [exec]
  dsimp only [List.cons_append, List.nil_append]
  rw [hclimb]
  exact ho

end TakesFirst

/-- No text that a pattern spells holds a character that it avoids. -/
theorem notMem_of_spells (hp : p.avoids c = true) (h : p.Spells w) : c ∉ w := by
  induction p generalizing w with
  | one s =>
    obtain ⟨x, hx, rfl⟩ := h
    rw [List.mem_singleton]
    rintro rfl
    simp [avoids, hx] at hp
  | run s least most long =>
    intro hm
    simp [avoids, List.all_eq_true.1 h.1 c hm] at hp
  | seq p q ihp ihq =>
    obtain ⟨u, v, hu, hv, rfl⟩ := h
    rw [avoids, Bool.and_eq_true] at hp
    rw [List.mem_append, not_or]
    exact ⟨ihp hp.1 hu, ihq hp.2 hv⟩
  | either p q ihp ihq =>
    rw [avoids, Bool.and_eq_true] at hp
    exact h.elim (ihp hp.1) (ihq hp.2)
  | group i p ih => exact ih hp h
  | nothing | atStart | atEnd | atWordEdge | behind | ahead =>
    rw [show w = [] from h]
    exact List.not_mem_nil

end Pattern

open Pattern

/-! ## Marks -/

namespace FormatPart

/-- The marks of formats. -/
def marks : List Char := [':', ',', '/', '-']

variable {p : FormatPart} {c : Char} {u w : Text}

/-- Only a mark takes one. -/
theorem count_of_spells (hc : c ∈ marks) (h : p.body.Spells u) :
    u.count c = if p = mark c then 1 else 0 := by
  have hother (hp : marks.all (fun c => p.body.avoids c && p != mark c) = true) :
      u.count c = if p = mark c then 1 else 0 := by
    obtain ⟨havoids, hne⟩ := Bool.and_eq_true_iff.1 (List.all_eq_true.1 hp c hc)
    rw [if_neg (bne_iff_ne.1 hne)]
    exact List.count_eq_zero.2 (notMem_of_spells havoids h)
  cases p with
  | mark d =>
    obtain ⟨x, hx, rfl⟩ := h
    obtain rfl := beq_iff_eq.1 hx
    by_cases hd : x = c
    · subst hd
      simp
    · rw [List.count_singleton, if_neg (by simpa using hd),
        if_neg fun h => hd (FormatPart.mark.inj h)]
  | _ => exact hother (by decide)

/-! ## Numbers of two digits -/

/-- The digits of a class. -/
theorem digitIn_digitChar : ∀ lo < 10, ∀ hi < 10, ∀ d < 10, lo ≤ d → d ≤ hi →
    (Nat.digitChar lo ≤ Nat.digitChar d && Nat.digitChar d ≤ Nat.digitChar hi) = true := by
  decide

theorem isDigit_digitChar : ∀ d < 10, isDigit (Nat.digitChar d) = true := by decide

theorem twoDigits_eq : ∀ n < 100,
    Moment.twoDigits n = [Nat.digitChar (n / 10), Nat.digitChar (n % 10)] := by
  decide

variable {n : Nat}

theorem takesFirst_fromOne (hn : 1 ≤ n) (hn' : n < 10) :
    fromOne.TakesFirst ['0', Nat.digitChar n] w :=
  .left (.two rfl (digitIn_digitChar 1 (by omega) 9 (by omega) n hn' hn (by omega)))

theorem takesFirst_month (hn : 1 ≤ n) (hn' : n ≤ 12) :
    month.body.TakesFirst (Moment.twoDigits n) w := by
  rw [twoDigits_eq n (by omega)]
  rcases Nat.lt_or_ge n 10 with hlt | hge
  · rw [Nat.div_eq_of_lt hlt, Nat.mod_eq_of_lt hlt]
    exact .right rfl rfl (takesFirst_fromOne hn hlt)
  · rw [show n / 10 = 1 by omega]
    exact .left (.two rfl (digitIn_digitChar 0 (by omega) 2 (by omega) (n % 10) (by omega)
      (by omega) (by omega)))

theorem takesFirst_day (hn : 1 ≤ n) (hn' : n ≤ 31) :
    day.body.TakesFirst (Moment.twoDigits n) w := by
  rw [twoDigits_eq n (by omega)]
  rcases Nat.lt_or_ge n 10 with hlt | hge
  · rw [Nat.div_eq_of_lt hlt, Nat.mod_eq_of_lt hlt]
    exact .right rfl rfl (.right rfl rfl (.left (takesFirst_fromOne hn hlt)))
  rcases Nat.lt_or_ge n 30 with hlt | hge'
  · have htens : (char '3' ++ digitIn '0' '1').starts (Nat.digitChar (n / 10)) = false := by
      rcases (by omega : n / 10 = 1 ∨ n / 10 = 2) with h | h <;> rw [h] <;> rfl
    refine .right rfl htens (.left (.two ?_ (isDigit_digitChar _ (by omega))))
    exact digitIn_digitChar 1 (by omega) 2 (by omega) (n / 10) (by omega) (by omega) (by omega)
  · rw [show n / 10 = 3 by omega]
    exact .left (.two rfl (digitIn_digitChar 0 (by omega) 1 (by omega) (n % 10) (by omega)
      (by omega) (by omega)))

theorem takesFirst_hour (hn : n < 24) : hour.body.TakesFirst (Moment.twoDigits n) w := by
  rw [twoDigits_eq n (by omega)]
  rcases Nat.lt_or_ge n 20 with hlt | hge
  · have htens : (char '2' ++ digitIn '0' '3').starts (Nat.digitChar (n / 10)) = false := by
      rcases (by omega : n / 10 = 0 ∨ n / 10 = 1) with h | h <;> rw [h] <;> rfl
    refine .right rfl htens (.left (.two ?_ (isDigit_digitChar _ (by omega))))
    exact digitIn_digitChar 0 (by omega) 1 (by omega) (n / 10) (by omega) (by omega) (by omega)
  · rw [show n / 10 = 2 by omega]
    exact .left (.two rfl (digitIn_digitChar 0 (by omega) 3 (by omega) (n % 10) (by omega)
      (by omega) (by omega)))

theorem takesFirst_minute (hn : n < 60) : minute.body.TakesFirst (Moment.twoDigits n) w := by
  rw [twoDigits_eq n (by omega)]
  refine .left (.two ?_ (isDigit_digitChar _ (by omega)))
  exact digitIn_digitChar 0 (by omega) 5 (by omega) (n / 10) (by omega) (by omega) (by omega)

/-- A year of four digits. -/
theorem takesFirst_year (hn : 1000 ≤ n) (hn' : n < 10000) : year.body.TakesFirst (ofNat n) w := by
  have hlen : (ofNat n).length = 4 := by
    have hle := Reference.length_ofNat_le (k := 4) (by omega) hn'
    have hlt : ¬(ofNat n).length ≤ 3 := fun h =>
      absurd ((Nat.length_toDigits_le_iff (by decide) (by decide)).1 h) (by omega)
    omega
  have hdigit : ∀ c ∈ ofNat n, isDigit c = true := fun c hc =>
    isDigit_of_isAsciiDigit (List.all_eq_true.1 (Reference.ofNat_ascii n) c hc)
  obtain ⟨a, b, c, d, h⟩ := List.length_eq_four.1 hlen
  rw [h] at hdigit ⊢
  have hone {e : Char} (he : e ∈ [a, b, c, d]) {v : Text} : digit.TakesFirst [e] v :=
    .one (hdigit e he)
  exact .seq (u := [a, b, c]) (.seq (u := [a, b]) (.seq (u := [a]) (hone (by simp))
    (hone (by simp))) (hone (by simp))) (hone (by simp))

theorem natural?_twoDigits : ∀ n < 100, Literal.natural? (trim (Moment.twoDigits n)) = some n := by
  decide +kernel

end FormatPart

namespace Format

variable {f : Format} {t u w : Text} {r : Reading} {c : Char}

/-- The pattern of a format. -/
abbrev pattern (f : Format) : Pattern := f.foldr (fun p q => p.pattern ++ q) .nothing

/-! ## What is read has the marks of its format -/

theorem count_of_spells (hc : c ∈ FormatPart.marks) (h : f.pattern.Spells w) :
    w.count c = f.count (.mark c) := by
  induction f generalizing w with
  | nil =>
    rw [show w = [] from h]
    rfl
  | cons p f ih =>
    obtain ⟨u, v, hu, hv, rfl⟩ := h
    rw [List.count_append, FormatPart.count_of_spells hc hu, ih hv, List.count_cons, Nat.add_comm]
    simp only [beq_iff_eq]

/-- What reads a text is a match of all of it. -/
theorem matchStart_of_read? (h : f.read? t = some r) :
    ∃ m, f.pattern.matchStart t = some m ∧ m.right = [] := by
  obtain ⟨m, hm, h⟩ := Option.bind_eq_some_iff.1 h
  obtain ⟨month, -, h⟩ := Option.bind_eq_some_iff.1 h
  refine ⟨m, hm, ?_⟩
  dsimp only at h
  split at h
  · next hwhole =>
    rw [Bool.and_eq_true, Bool.and_eq_true] at hwhole
    exact List.isEmpty_iff.1 hwhole.1.1
  · cases h

/-- A text that is read has as many of each mark as its format. -/
theorem count_of_read? (hc : c ∈ FormatPart.marks) (h : f.read? t = some r) :
    t.count c = f.count (.mark c) := by
  obtain ⟨m, hm, hright⟩ := matchStart_of_read? h
  rw [matchStart_eq_matchAt] at hm
  have hleads := leads_of_matchAt hm
  have ht : t = m.text ++ m.right := hleads.after
  rw [ht, hright, List.append_nil]
  exact count_of_spells hc hleads.spells

theorem read?_eq_none (hc : c ∈ FormatPart.marks) (h : f.count (.mark c) ≠ t.count c) :
    f.read? t = none :=
  Option.eq_none_iff_forall_ne_some.2 fun _ hr => h (count_of_read? hc hr).symm

/-! ## Parts that take a text in turn -/

/-- Each part takes its piece first, in front of the pieces of the others and `w`. -/
def TakeInTurn (w : Text) : List (FormatPart × Text) → Prop
  | [] => True
  | (p, u) :: ps => p.body.TakesFirst u (ps.flatMap Prod.snd ++ w) ∧ TakeInTurn w ps

variable {ps : List (FormatPart × Text)}

theorem exec_of_takeInTurn (h : TakeInTurn w ps) (x : Text) (g : Groups) : ∃ stop g',
    (pattern (ps.map Prod.fst)).exec ⟨x, ps.flatMap Prod.snd ++ w⟩ g (fun c g => some (c, g)) =
      some (stop, g') ∧ stop.after = w ∧
        seen (fun _ t => t) g' =
          (ps.map (Prod.map FormatPart.key id)).reverse ++ seen (fun _ t => t) g := by
  induction ps generalizing x g with
  | nil => exact ⟨_, g, rfl, rfl, rfl⟩
  | cons pu ps ih =>
    obtain ⟨p, u⟩ := pu
    obtain ⟨hp, h⟩ := h
    have hshape : ((p, u) :: ps).flatMap Prod.snd ++ w = u ++ (ps.flatMap Prod.snd ++ w) := by simp
    rw [hshape]
    obtain ⟨stop, g', ho, hstop, hseen⟩ := ih h (u.reverse ++ x)
      ((p.key, ⟨x, u ++ (ps.flatMap Prod.snd ++ w)⟩,
        ⟨u.reverse ++ x, ps.flatMap Prod.snd ++ w⟩) :: g)
    refine ⟨stop, g', hp x g _ _ ho, hstop, ?_⟩
    have hpiece : Cursor.upTo ⟨x, u ++ (ps.flatMap Prod.snd ++ w)⟩
        ⟨u.reverse ++ x, ps.flatMap Prod.snd ++ w⟩ = u := by
      simp [Cursor.upTo]
    rw [hseen, seen, List.map_cons, List.map_cons, List.reverse_cons, List.append_assoc]
    dsimp only
    rw [hpiece]
    rfl

/-- What a match remembers. -/
theorem group?_eq {start stop : Cursor} {g : Groups} (k : Nat) :
    (Match.mk start stop g).group? k = (seen (fun _ t => t) g).lookup k := by
  unfold Match.group?
  induction g with
  | nil => rfl
  | cons x g ih =>
    show (List.lookup k (x :: g)).map _ =
      List.lookup k ((x.1, x.2.1.upTo x.2.2) :: seen (fun _ t => t) g)
    rw [List.lookup_cons, List.lookup_cons, ← ih]
    split <;> rfl

/-- A text whose pieces are taken in turn is matched up to what follows them, and each piece is
remembered. -/
theorem exists_matchStart (h : TakeInTurn w ps) : ∃ m,
    (pattern (ps.map Prod.fst)).matchStart (ps.flatMap Prod.snd ++ w) = some m ∧ m.right = w ∧
      ∀ k, m.group? k = (ps.map (Prod.map FormatPart.key id)).reverse.lookup k := by
  obtain ⟨stop, g, ho, hstop, hseen⟩ := exec_of_takeInTurn h [] []
  refine ⟨⟨.start (ps.flatMap Prod.snd ++ w), stop, g⟩, ?_, hstop, fun k => ?_⟩
  · rw [matchStart_eq_matchAt, matchAt, Cursor.start, ho]
    rfl
  · rw [group?_eq, hseen]
    show List.lookup k (_ ++ []) = _
    rw [List.append_nil]

end Format

end Worksheet
