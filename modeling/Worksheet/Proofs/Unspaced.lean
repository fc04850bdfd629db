import Worksheet.Proofs.ShownTokens
import Worksheet.Proofs.Widths

/-!
# What spacing changes besides blanks

**Theorem (`Spacing.unspaced_format_iff`).** An expression is shown with its own characters, blanks
aside, exactly if no character that stands in for one of its literals is taken for another one: none
is a character of the expression outside its literals, and none is one of an earlier literal.

Squeezing and the rules change blanks alone (`unspaced_squeeze`, `unspaced_apply`), so what matters
is how the literals are put back. Each literal has two characters at least and is put in at least
once, for the character that was set in its place. The text becomes too long if any literal is put
in more often (`length_putBack`). If none is, all are put back where they were.
-/

namespace Worksheet

open Text Pattern

namespace Spacing

variable {t u : Text} {ls : List Text} {l : Text} {c x y : Char} {i k : ℕ}
  {ps : List Pattern.Piece}

/-! ## Texts without their blanks -/

/-- A text without its blanks. -/
def unspaced (t : Text) : Text := t.filter fun c => !isBlank c

theorem unspaced_append (t u : Text) : unspaced (t ++ u) = unspaced t ++ unspaced u :=
  List.filter_append ..

theorem unspaced_cons_blank (hc : isBlank c = true) : unspaced (c :: t) = unspaced t :=
  List.filter_cons_of_neg (by simp [hc])

theorem unspaced_cons (hc : isBlank c = false) : unspaced (c :: t) = c :: unspaced t :=
  List.filter_cons_of_pos (by simp [hc])

theorem unspaced_blanks (h : ∀ c ∈ u, isBlank c = true) : unspaced u = [] :=
  List.filter_eq_nil_iff.2 fun c hc => by simp [h c hc]

theorem unspaced_of_not_blank (h : ∀ c ∈ u, isBlank c = false) : unspaced u = u :=
  List.filter_eq_self.2 fun c hc => by simp [h c hc]

theorem count_unspaced (hx : isBlank x = false) (t : Text) : (unspaced t).count x = t.count x :=
  List.count_filter (by rw [hx]; rfl)

/-- Replacing matches changes blanks alone if that is so of every match. -/
theorem unspaced_replaceAll {p : Pattern} {f : Match → Text} (t : Text)
    (h : ∀ b r m, p.matchAt ⟨b, r⟩ = some m → unspaced (f m) = unspaced m.text) :
    unspaced (p.replaceAll f t) = unspaced t := by
  refine replaceAll_induction (motive := fun _ t u => unspaced u = unspaced t) (fun _ => rfl)
    (fun b c r u ih => ?_) (fun b r u m _ hm _ ih => ?_) t
  · rw [← List.singleton_append, unspaced_append, ih, ← unspaced_append, List.singleton_append]
  · rw [unspaced_append, unspaced_append, ih, h _ _ _ hm]

theorem unspaced_trim (t : Text) : unspaced (trim t) = unspaced t := by
  obtain ⟨u, v, hu, hv, hleft, ht⟩ := exists_trim t
  conv_rhs => rw [ht, hleft]
  rw [unspaced_append, unspaced_append, unspaced_blanks (List.all_eq_true.1 hu),
    unspaced_blanks (List.all_eq_true.1 hv), List.nil_append, List.append_nil]

theorem unspaced_squeeze (t : Text) : unspaced (squeeze t) = unspaced t := by
  rw [squeeze, unspaced_replaceAll, unspaced_trim]
  intro b r m hm
  rw [unspaced_blanks (matchAt_blanks hm)]
  rfl

theorem unspaced_apply (rule : Rule) (t : Text) : unspaced (rule.apply t) = unspaced t := by
  refine unspaced_replaceAll t fun b r m hm => ?_
  obtain ⟨-, ⟨v, w, hv, hw, htext⟩, -⟩ := Rule.matchAt_eq_some hm
  have hfront (u : Text) {v : Text} (hv : v.all isBlank = true) :
      unspaced (v ++ u) = unspaced u := by
    rw [unspaced_append, unspaced_blanks (List.all_eq_true.1 hv), List.nil_append]
  have hback (u : Text) {v : Text} (hv : v.all isBlank = true) :
      unspaced (u ++ v) = unspaced u := by
    rw [unspaced_append, unspaced_blanks (List.all_eq_true.1 hv), List.append_nil]
  calc unspaced [' ', rule.sign, ' '] = unspaced ([' '] ++ ([rule.sign] ++ [' '])) := rfl
    _ = unspaced [rule.sign] := by rw [hfront _ rfl, hback _ rfl]
    _ = unspaced (v ++ ([rule.sign] ++ w)) := by rw [hfront _ hv, hback _ hw]
    _ = unspaced m.text := by rw [htext, List.singleton_append]

theorem unspaced_respaced (t : Text) : unspaced (respaced t) = unspaced t := by
  rw [respaced]
  induction rules generalizing t with
  | nil => rfl
  | cons rule rs ih => rw [List.foldl_cons, ih, unspaced_apply]

/-- Texts for characters: blanks stay, and what stands for another character holds no blank. -/
structure Spelling (σ : Char → Text) : Prop where
  blank : ∀ c, isBlank c = true → σ c = [c]
  ne_nil : ∀ c, σ c ≠ []
  visible : ∀ c, isBlank c = false → ∀ d ∈ σ c, isBlank d = false

/-- Characters may be exchanged before the blanks are taken out or after. -/
theorem Spelling.unspaced_flatMap {σ : Char → Text} (hσ : Spelling σ) (t : Text) :
    unspaced (t.flatMap σ) = (unspaced t).flatMap σ := by
  induction t with
  | nil => rfl
  | cons c t ih =>
    rw [List.flatMap_cons, unspaced_append, ih]
    cases hc : isBlank c with
    | true =>
      rw [hσ.blank c hc, unspaced_cons_blank hc, unspaced_cons_blank hc]
      rfl
    | false => rw [unspaced_of_not_blank (hσ.visible c hc), unspaced_cons hc, List.flatMap_cons]

/-! ## Literals that are put back -/

theorem areLiterals_literals (t : Text) : AreLiterals (literals t) := (setAside_spec _ _).2.2

/-- Blanks stay, and any other character stays or becomes a literal. -/
theorem AreLiterals.spelling {σ : Char → Text} (h : AreLiterals ls)
    (hblank : ∀ c, isBlank c = true → σ c = [c]) (hcases : ∀ c, σ c = [c] ∨ σ c ∈ ls) :
    Spelling σ where
  blank := hblank
  ne_nil c := by
    rcases hcases c with hσ | hl
    · rw [hσ]
      exact List.cons_ne_nil c []
    · exact (h _ hl).1
  visible c hc d hd := by
    rcases hcases c with hσ | hl
    · rw [hσ] at hd
      rwa [List.mem_singleton.1 hd]
    · exact (isLiteral_cases ((h _ hl).2 d hd)).2

theorem AreLiterals.spelling_restored (h : AreLiterals ls) : Spelling (restored ls) := by
  refine h.spelling (fun c hc => if_pos ?_) fun c => ?_
  · simp only [isBlank, Bool.or_eq_true, Bool.and_eq_true, beq_iff_eq, decide_eq_true_eq] at hc
    rw [placeholderBase]
    omega
  · rw [restored]
    split
    · exact .inl rfl
    · cases hl : ls[c.toNat - placeholderBase]? with
      | none => exact .inl rfl
      | some l => exact .inr (List.mem_of_getElem? hl)

theorem unspaced_putBack (hls : AreLiterals ls) (i : ℕ) (t : Text) :
    unspaced (putBack i ls t) = putBack i ls (unspaced t) := by
  induction ls generalizing i t with
  | nil => rfl
  | cons l ls ih =>
    have hσ : Spelling fun c => if c == placeholder i then l else [c] := by
      refine hls.spelling (fun c hc => if_neg fun he => ?_) fun c => ?_
      · have hblank := (placeholder_cases i).2
        rw [← beq_iff_eq.1 he, hc] at hblank
        cases hblank
      · split
        · exact .inr List.mem_cons_self
        · exact .inl rfl
    rw [putBack, putBack, ih fun l hl => hls l (List.mem_cons_of_mem _ hl)]
    exact congrArg _ (hσ.unspaced_flatMap t)

/-- What is shown, without its blanks. -/
theorem unspaced_format (t : Text) :
    unspaced (format t) = putBack 0 (literals t) (unspaced (aside t)) := by
  rw [format_eq, unspaced_putBack (areLiterals_literals t), unspaced_respaced]

/-! ## Literals that are put in too often -/

theorem putIn_cons (x : Char) (l : Text) (c : Char) (t : Text) :
    putIn x l (c :: t) = (if c == x then l else [c]) ++ putIn x l t := rfl

theorem count_putIn (hy : y ≠ x) (t : Text) :
    (putIn x l t).count y = t.count y + t.count x * l.count y := by
  induction t with
  | nil => simp [putIn]
  | cons c t ih =>
    rw [putIn_cons, List.count_append, ih]
    by_cases hc : c = x
    · subst hc
      rw [if_pos (beq_self_eq_true c), List.count_cons_self, List.count_cons_of_ne hy.symm]
      ring
    · rw [if_neg (by simpa using hc), List.count_cons_of_ne hc]
      simp only [List.count_cons, List.count_nil]
      ring

theorem length_putIn (l : Text) (x : Char) (t : Text) :
    (putIn x l t).length + t.count x = t.length + t.count x * l.length := by
  induction t with
  | nil => simp [putIn]
  | cons c t ih =>
    rw [putIn_cons, List.length_append, List.length_cons]
    by_cases hc : c = x
    · subst hc
      rw [if_pos (beq_self_eq_true c), List.count_cons_self, Nat.succ_mul]
      omega
    · rw [if_neg (by simpa using hc), List.count_cons_of_ne hc, List.length_singleton]
      omega

/-- When its turn comes, each of the characters that stand in for literals is there once. -/
def Singly : ℕ → List Text → Text → Prop
  | _, [], _ => True
  | i, l :: ls, t => t.count (placeholder i) = 1 ∧ Singly (i + 1) ls (putIn (placeholder i) l t)

/-- The characters for the literals from the one with number `i` on are there. -/
def Ready (i : ℕ) (ls : List Text) (t : Text) : Prop :=
  i + ls.length ≤ placeholderCount ∧ ∀ k < ls.length, placeholder (i + k) ∈ t

theorem placeholder_ne (hi : i < k) (hk : k < placeholderCount) :
    placeholder k ≠ placeholder i := by
  rw [Ne, eq_placeholder_iff (hi.trans hk), toNat_placeholder hk]
  omega

theorem Ready.tail (h : Ready i (l :: ls) t) :
    Ready (i + 1) ls (putIn (placeholder i) l t) := by
  obtain ⟨hfew, hmem⟩ := h
  rw [List.length_cons] at hfew
  refine ⟨by omega, fun k hk => ?_⟩
  have hne : placeholder (i + 1 + k) ≠ placeholder i := placeholder_ne (by omega) (by omega)
  have hin := hmem (k + 1) (by rw [List.length_cons]; omega)
  rw [← List.count_pos_iff, count_putIn hne, show i + 1 + k = i + (k + 1) by omega]
  have := List.count_pos_iff.2 hin
  omega

/-- The text is at least as long as it should be, and longer if a literal is put in again. -/
theorem length_putBack (h : Ready i ls t) (hls : ∀ l ∈ ls, 2 ≤ l.length) :
    t.length + ls.flatten.length ≤ (putBack i ls t).length + ls.length ∧
      (t.length + ls.flatten.length = (putBack i ls t).length + ls.length → Singly i ls t) := by
  induction ls generalizing i t with
  | nil => exact ⟨Nat.le_refl _, fun _ => trivial⟩
  | cons l ls ih =>
    obtain ⟨hl, hls⟩ := List.forall_mem_cons.1 hls
    obtain ⟨hle, heq⟩ := ih h.tail hls
    have hlen := length_putIn l (placeholder i) t
    have hpos : 0 < t.count (placeholder i) :=
      List.count_pos_iff.2 (h.2 0 (by simp))
    obtain ⟨n, hn⟩ := Nat.exists_eq_add_of_le' hpos
    have hmul : 2 * n ≤ n * l.length := by rw [Nat.mul_comm]; exact Nat.mul_le_mul_left n hl
    rw [hn, Nat.succ_mul] at hlen
    rw [List.flatten_cons, List.length_append, List.length_cons]
    show _ ≤ (putBack (i + 1) ls (putIn (placeholder i) l t)).length + _ ∧
      (_ = (putBack (i + 1) ls (putIn (placeholder i) l t)).length + _ → _)
    refine ⟨by omega, fun hsame => ?_⟩
    obtain rfl : n = 0 := by omega
    exact ⟨hn, heq (by omega)⟩

/-- If no literal is put in again, its character was there once from the start, and not in the
literals before it. -/
theorem Singly.spec (hs : Singly i ls t) (h : Ready i ls t) (hk : k < ls.length) :
    t.count (placeholder (i + k)) = 1 ∧ ∀ l ∈ ls.take k, placeholder (i + k) ∉ l := by
  induction ls generalizing i k t with
  | nil => exact absurd hk (Nat.not_lt_zero k)
  | cons l ls ih =>
    obtain ⟨hone, hs⟩ := hs
    cases k with
    | zero => exact ⟨hone, nofun⟩
    | succ k =>
      have hlen := h.1
      rw [List.length_cons] at hk hlen
      have hmem := List.count_pos_iff.2 (h.2 (k + 1) (by rwa [List.length_cons]))
      obtain ⟨hcount, hfree⟩ := ih hs h.tail (Nat.lt_of_succ_lt_succ hk)
      rw [count_putIn (placeholder_ne (by omega) (by omega)), hone, Nat.one_mul] at hcount
      rw [show i + 1 + k = i + (k + 1) by omega] at hcount hfree
      refine ⟨by omega, ?_⟩
      rw [List.take_succ_cons, List.forall_mem_cons]
      exact ⟨List.count_eq_zero.1 (by omega), hfree⟩

/-! ## Literals that are set aside -/

theorem placeholder_mem_setAside (hi : i ≤ k) (hk : k < i + (setAside i ps).2.length) :
    placeholder k ∈ (setAside i ps).1 := by
  induction ps generalizing i with
  | nil => exact absurd hk (Nat.not_lt.2 hi)
  | cons piece ps ih =>
    cases piece with
    | plain c => exact List.mem_cons_of_mem c (ih hi hk)
    | found m =>
      have hk : k < i + ((setAside (i + 1) ps).2.length + 1) := hk
      rcases Nat.eq_or_lt_of_le hi with rfl | hlt
      · exact List.mem_cons_self
      · exact List.mem_cons_of_mem _ (ih hlt (by omega))

theorem mem_setAside_of_plain (h : .plain c ∈ ps) : c ∈ (setAside i ps).1 := by
  induction ps generalizing i with
  | nil => cases h
  | cons piece ps ih =>
    cases piece with
    | plain d =>
      rcases List.mem_cons.1 h with he | h
      · cases he
        exact List.mem_cons_self
      · exact List.mem_cons_of_mem _ (ih h)
    | found m =>
      exact List.mem_cons_of_mem _ (ih ((List.mem_cons.1 h).resolve_left nofun))

/-- A character of the expression that stands in for a literal is there twice. -/
theorem two_le_count_setAside (hi : i ≤ k) (hk : k < i + (setAside i ps).2.length)
    (h : .plain (placeholder k) ∈ ps) : 2 ≤ (setAside i ps).1.count (placeholder k) := by
  induction ps generalizing i with
  | nil => cases h
  | cons piece ps ih =>
    cases piece with
    | plain c =>
      have hk : k < i + (setAside i ps).2.length := hk
      show 2 ≤ (c :: (setAside i ps).1).count (placeholder k)
      rcases List.mem_cons.1 h with he | h
      · have hpos := List.count_pos_iff.2 (placeholder_mem_setAside hi hk)
        rw [← Piece.plain.inj he, List.count_cons_self]
        omega
      · exact (ih hi hk h).trans List.count_le_count_cons
    | found m =>
      have hk : k < i + ((setAside (i + 1) ps).2.length + 1) := hk
      have h := (List.mem_cons.1 h).resolve_left nofun
      show 2 ≤ (placeholder i :: (setAside (i + 1) ps).1).count (placeholder k)
      rcases Nat.eq_or_lt_of_le hi with rfl | hlt
      · have hpos := List.count_pos_iff.2 (mem_setAside_of_plain (i := i + 1) h)
        rw [List.count_cons_self]
        omega
      · have hk : k < i + 1 + (setAside (i + 1) ps).2.length := by omega
        exact (ih hlt hk h).trans List.count_le_count_cons

/-- Setting aside shortens a text by the lengths of the literals, up to the characters for them. -/
theorem length_setAside (h : ∀ m, .found m ∈ ps → ∀ c ∈ m.text, isBlank c = false) :
    (unspaced (setAside i ps).1).length + (setAside i ps).2.flatten.length =
      (unspaced (ps.flatMap Pattern.Piece.text)).length + (setAside i ps).2.length := by
  induction ps generalizing i with
  | nil => rfl
  | cons piece ps ih =>
    have hps (j : ℕ) := @ih j fun m hm => h m (List.mem_cons_of_mem _ hm)
    rw [List.flatMap_cons, unspaced_append, List.length_append]
    cases piece with
    | plain c =>
      have hplain := hps i
      show (unspaced ([c] ++ (setAside i ps).1)).length + (setAside i ps).2.flatten.length =
        (unspaced [c]).length + _ + (setAside i ps).2.length
      rw [unspaced_append, List.length_append]
      omega
    | found m =>
      have hfound := hps (i + 1)
      have htext : (unspaced m.text).length = m.text.length :=
        congrArg List.length (unspaced_of_not_blank (h m List.mem_cons_self))
      show (unspaced (placeholder i :: (setAside (i + 1) ps).1)).length +
        (m.text :: (setAside (i + 1) ps).2).flatten.length =
          (unspaced m.text).length + _ + ((setAside (i + 1) ps).2.length + 1)
      rw [unspaced_cons (placeholder_cases i).2, List.length_cons, List.flatten_cons,
        List.length_append]
      omega

/-! ## What is kept -/

theorem two_le_length (hl : l ∈ literals t) : 2 ≤ l.length := by
  obtain ⟨m, hm, rfl⟩ := mem_setAside hl
  exact (by decide : 2 ≤ protectedLiteral.leastWidth).trans (spells_of_found hm).leastWidth_le

/-- **Only blanks are changed, exactly if nothing is taken for a literal that was set aside.** -/
theorem unspaced_format_iff (hfew : (literals t).length ≤ placeholderCount) :
    unspaced (format t) = unspaced t ↔ Untaken t := by
  have hls := areLiterals_literals t
  constructor
  · intro h
    have hready : Ready 0 (literals t) (unspaced (aside t)) := by
      refine ⟨by omega, fun k hk => ?_⟩
      rw [← List.count_pos_iff, count_unspaced (placeholder_cases _).2, List.count_pos_iff]
      exact placeholder_mem_setAside (Nat.zero_le _) (Nat.add_lt_add_left hk 0)
    have hlen : (unspaced (aside t)).length + (literals t).flatten.length =
        (putBack 0 (literals t) (unspaced (aside t))).length + (literals t).length := by
      rw [← unspaced_format, h, ← unspaced_squeeze t, ← flatten_pieces protectedLiteral (squeeze t)]
      exact length_setAside fun m hm c hc =>
        (isLiteral_cases ((spells_of_found hm).within within_protectedLiteral c hc)).2
    have hs := (length_putBack hready fun l hl => two_le_length hl).2 hlen
    constructor
    · intro i hi hplain
      have hone := (hs.spec hready hi).1
      rw [Nat.zero_add, count_unspaced (placeholder_cases i).2] at hone
      have htwo : 2 ≤ (aside t).count (placeholder i) :=
        two_le_count_setAside (Nat.zero_le i) (by rwa [Nat.zero_add]) hplain
      omega
    · intro i hi
      simpa using (hs.spec hready hi).2
  · intro h
    rw [unspaced_format, h.putBack_eq hfew, ← hls.spelling_restored.unspaced_flatMap,
      h.flatMap_aside hfew, unspaced_squeeze]

/-- A private character of the expression becomes the date that it does not stand for, and a letter
stays. -/
theorem unspaced_format_private :
    let t := "\uE000+2024-1-2".toList
    let u := "y+2024-1-2".toList
    ((literals t).length ≤ placeholderCount ∧ unspaced (format t) ≠ unspaced t ∧ ¬Untaken t) ∧
      (literals u).length ≤ placeholderCount ∧ unspaced (format u) = unspaced u ∧ Untaken u := by
  intro t u
  have ht : (literals t).length ≤ placeholderCount := by decide +kernel
  have hu : (literals u).length ≤ placeholderCount := by decide +kernel
  have hchanged : unspaced (format t) ≠ unspaced t := by decide +kernel
  have hkept : unspaced (format u) = unspaced u := by decide +kernel
  exact ⟨⟨ht, hchanged, mt (unspaced_format_iff ht).2 hchanged⟩, hu, hkept,
    (unspaced_format_iff hu).1 hkept⟩

end Spacing

end Worksheet
