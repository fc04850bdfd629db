import Worksheet.Proofs.Claiming
import Worksheet.Proofs.Literals

/-!
# Tokens of what is shown

**Theorem (`Token.scan_format`).** An expression with at most 6400 addresses, dates and clock times
is shown with the tokens that it has.

What is shown of an expression has its tokens where the characters that stand in for literals are
none of its own (`Spacing.toOption_scan_format`). The first 6400 of them make up an area for private
use, in which there are no letters, no digits and no blanks. So none of them is part of an
expression with tokens (`Token.placeholder_notMem`).

The literals are counted in the expression as it is written, and set aside once its blanks are
squeezed. Both are the same literals (`findAll_squeeze`): a literal holds no blank, and a match that
holds none depends on the rest of its word alone (`matchAt_firstWord`).
-/

namespace Worksheet

open Text

/-- Trimming takes nothing but blanks. -/
theorem Text.exists_trim (t : Text) : ∃ u v, u.all isBlank = true ∧ v.all isBlank = true ∧
    trimLeft t = trim t ++ v ∧ t = u ++ trimLeft t := by
  refine ⟨t.takeWhile isBlank, ((trimLeft t).reverse.takeWhile isBlank).reverse, List.all_takeWhile,
    ?_, (Reference.trimRight_append (trimLeft t)).symm, List.takeWhile_append_dropWhile.symm⟩
  rw [List.all_reverse]
  exact List.all_takeWhile

theorem Text.mem_trim {c : Char} {t : Text} (hm : c ∈ t) (hc : isBlank c = false) : c ∈ trim t := by
  have hnot {u : Text} (hu : u.all isBlank = true) : c ∉ u := fun hm => by
    rw [List.all_eq_true.1 hu c hm] at hc
    cases hc
  obtain ⟨u, v, hu, hv, hleft, ht⟩ := exists_trim t
  rw [ht, hleft] at hm
  exact (List.mem_append.1 ((List.mem_append.1 hm).resolve_left (hnot hu))).resolve_right (hnot hv)

/-- A place in a text with more on both of its sides. -/
def Cursor.widen (x w : Text) (c : Cursor) : Cursor := ⟨c.before ++ x, c.after ++ w⟩

namespace Pattern

variable {p : Pattern} {b u w x t t' : Text}

/-! ## Matching in a word -/

/-- No match holds a blank or remembers a place, and none depends on what stands around it. -/
def Solid : Pattern → Prop
  | nothing => True
  | one s => ∀ c, isBlank c = true → s c = false
  | run s _ _ long => long = true ∧ ∀ c, isBlank c = true → s c = false
  | seq p q | either p q => p.Solid ∧ q.Solid
  | group _ _ | atStart | atEnd | atWordEdge | behind _ | ahead _ => False

/-- The text that stands in front of the first blank. -/
def firstWord (t : Text) : Text := t.takeWhile fun c => !isBlank c

theorem descend_widen {k k' : Cursor → Outcome} {F : Cursor × Groups → Cursor × Groups} {n : Nat}
    (hk : ∀ c, k' (c.widen x w) = (k c).map F) (c : Cursor) (hn : n ≤ c.before.length) :
    descend k' n (c.widen x w) = (descend k n c).map F := by
  induction n generalizing c with
  | zero => exact hk c
  | succ n ih =>
    obtain ⟨d, b, hb⟩ : ∃ d b, c.before = d :: b :=
      List.exists_cons_of_ne_nil (List.ne_nil_of_length_pos (by omega))
    have hwiden : (c.widen x w).before = d :: (b ++ x) := by rw [Cursor.widen, hb]; rfl
    rw [descend, descend, hk c, hb, hwiden]
    cases k c with
    | some o => rfl
    | none => exact ih ⟨b, d :: c.after⟩ (by rw [hb] at hn; exact Nat.le_of_succ_le_succ hn)

/-- Matching a solid pattern in a word goes on in the same way with more text in front of the word
and, from the next blank on, behind it. -/
theorem exec_widen (hp : p.Solid) (hw : w.head?.all isBlank = true)
    {F : Cursor × Groups → Cursor × Groups} {k k' : Cursor → Groups → Outcome}
    (hk : ∀ c g, k' (c.widen x w) g = (k c g).map F) (c : Cursor) (g : Groups) :
    p.exec (c.widen x w) g k' = (p.exec c g k).map F := by
  have hstop {s : Char → Bool} (hs : ∀ c, isBlank c = true → s c = false) :
      w.head?.any s = false := by
    cases w with
    | nil => rfl
    | cons d w => exact hs d hw
  induction p generalizing c g k k' with
  | nothing => exact hk c g
  | one s =>
    obtain ⟨b, a⟩ := c
    rw [exec, exec]
    cases a with
    | nil =>
      have hs := hstop hp
      cases w with
      | nil => rfl
      | cons d w =>
        rw [List.head?_cons, Option.any_some] at hs
        simp [Cursor.widen, hs]
    | cons d a =>
      show (if s d then k' (Cursor.widen x w ⟨d :: b, a⟩) g else none) = _
      rw [hk]
      show _ = (if s d then k ⟨d :: b, a⟩ g else none).map F
      split
      · rfl
      · rfl
  | run s least most long =>
    obtain ⟨rfl, hs⟩ := hp
    obtain ⟨b, a⟩ := c
    obtain ⟨m, hm, hclimb⟩ := climb_append s most 0 a
    have hbare := hclimb b [] rfl
    have hwide := hclimb (b ++ x) w (hstop hs)
    rw [List.append_nil, List.append_nil, Nat.zero_add] at hbare
    rw [exec, exec, Cursor.widen]
    simp only [hwide, hbare, Nat.zero_add]
    split
    · have hfar : m - least ≤ ((a.take m).reverse ++ b).length := by
        rw [List.length_append, List.length_reverse, List.length_take]
        omega
      rw [← List.append_assoc]
      exact descend_widen (fun c => hk c g) ⟨_, a.drop m⟩ hfar
    · rfl
  | seq p q ihp ihq =>
    exact ihp hp.1 (fun c g => ihq hp.2 hk c g) c g
  | either p q ihp ihq =>
    rw [exec, exec, ihp hp.1 hk, ihq hp.2 hk]
    cases p.exec c g k <;> rfl
  | group | atStart | atEnd | atWordEdge | behind | ahead => exact hp.elim

theorem firstWord_append (t : Text) :
    ∃ w, t = firstWord t ++ w ∧ w.head?.all isBlank = true := by
  refine ⟨_, List.takeWhile_append_dropWhile.symm, ?_⟩
  have hhead := head?_dropWhile_any (p := fun c => !isBlank c) (a := t)
  cases h : (t.dropWhile fun c => !isBlank c).head? with
  | none => rfl
  | some c => simpa [h] using hhead

/-- A match depends on the rest of its word alone. -/
theorem matchAt_firstWord (hp : p.Solid) (b t : Text) :
    (p.matchAt ⟨b, t⟩).map Match.text = (p.matchAt ⟨[], firstWord t⟩).map Match.text := by
  obtain ⟨w, ht, hw⟩ := firstWord_append t
  have hexec : p.exec (Cursor.widen b w ⟨[], firstWord t⟩) [] (fun c g => some (c, g)) =
      (p.exec ⟨[], firstWord t⟩ [] fun c g => some (c, g)).map fun o => (o.1.widen b w, o.2) :=
    exec_widen hp hw (fun _ _ => rfl) _ _
  have hcursor : Cursor.widen b w ⟨[], firstWord t⟩ = ⟨b, t⟩ :=
    congrArg (Cursor.mk b) ht.symm
  rw [hcursor] at hexec
  rw [matchAt, matchAt, hexec, Option.map_map, Option.map_map, Option.map_map]
  refine congrArg (Option.map · _) (funext fun o => ?_)
  obtain ⟨⟨y, z⟩, g⟩ := o
  show Cursor.upTo ⟨b, t⟩ (Cursor.widen b w ⟨y, z⟩) = Cursor.upTo ⟨[], firstWord t⟩ ⟨y, z⟩
  rw [← hcursor]
  show Cursor.upTo ⟨b, firstWord t ++ w⟩ ⟨y ++ b, z ++ w⟩ = _
  rw [upTo_append]
  rfl

/-- A match ends in the word in which it begins. -/
theorem length_le_of_text (hp : p.Solid) {d : Text}
    (hd : (p.matchAt ⟨b, t⟩).map Match.text = some d) : d.length ≤ (firstWord t).length := by
  rw [matchAt_firstWord hp] at hd
  obtain ⟨m, hm, rfl⟩ := Option.map_eq_some_iff.1 hd
  have ht : firstWord t = m.text ++ m.stop.after := (leads_of_matchAt hm).after
  have hlen := congrArg List.length ht
  rw [List.length_append] at hlen
  omega

/-! ## Literals of a squeezed text -/

/-- Texts of the same words, with any blanks between and behind them. -/
inductive SameWords : Text → Text → Prop
  | ends {u v : Text} : u.all isBlank = true → v.all isBlank = true → SameWords u v
  | keep (c : Char) {r s : Text} : SameWords r s → SameWords (c :: r) (c :: s)
  | gap {u v r s : Text} : u ≠ [] → v ≠ [] → u.all isBlank = true → v.all isBlank = true →
      SameWords r s → SameWords (u ++ r) (v ++ s)

/-- The texts of the matches in what `Pattern.piecesFrom` goes through. -/
def textsFrom (p : Pattern) (n : Nat) (b t : Text) : List Text :=
  (p.piecesFrom n b t).filterMap fun
    | .plain _ => none
    | .found m => some m.text

theorem map_text_findAll (p : Pattern) (t : Text) :
    (p.findAll t).map Match.text = p.textsFrom 0 [] t := by
  rw [findAll, textsFrom, pieces, List.map_filterMap]
  refine List.filterMap_congr fun piece _ => ?_
  cases piece with
  | plain c => rfl
  | found m => rfl

theorem firstWord_gap (hne : u ≠ []) (hu : u.all isBlank = true) : firstWord (u ++ t) = [] := by
  obtain ⟨c, u, rfl⟩ := List.exists_cons_of_ne_nil hne
  rw [List.all_cons, Bool.and_eq_true] at hu
  simp [firstWord, hu.1]

theorem SameWords.firstWord_eq (h : SameWords t t') : firstWord t' = firstWord t := by
  have hblank {u : Text} (hu : u.all isBlank = true) : firstWord u = [] := by
    cases u with
    | nil => rfl
    | cons c u => simpa using firstWord_gap (t := []) (List.cons_ne_nil c u) hu
  induction h with
  | ends hu hv => rw [hblank hu, hblank hv]
  | keep c _ ih => simp only [firstWord, List.takeWhile_cons] at ih ⊢; rw [ih]
  | gap hu hv hub hvb _ _ => rw [firstWord_gap hu hub, firstWord_gap hv hvb]

/-- At each character there is a match of some length, or none. -/
theorem textsFrom_cons (p : Pattern) (b : Text) (c : Char) (r : Text) :
    p.textsFrom 0 b (c :: r) =
      match (p.matchAt ⟨b, c :: r⟩).map Match.text with
      | none | some [] => p.textsFrom 0 (c :: b) r
      | some (d :: w) => (d :: w) :: p.textsFrom w.length (c :: b) r := by
  rw [textsFrom, piecesFrom]
  cases p.matchAt ⟨b, c :: r⟩ with
  | none => rfl
  | some m =>
    show List.filterMap _ (if m.length = 0 then _ else _) = _
    rw [Option.map_some, Match.length_eq]
    cases hm : m.text with
    | nil => rfl
    | cons d w =>
      rw [if_neg (by simp), List.filterMap_cons]
      simp [hm, textsFrom]

/-- Nothing is found in blanks. -/
theorem textsFrom_blanks (hp : p.Solid) (hu : u.all isBlank = true) :
    p.textsFrom 0 b (u ++ t) = p.textsFrom 0 (u.reverse ++ b) t := by
  induction u generalizing b with
  | nil => rfl
  | cons c u ih =>
    have hnone : firstWord (c :: (u ++ t)) = [] := by
      rw [← List.cons_append]
      exact firstWord_gap (List.cons_ne_nil c u) hu
    rw [List.all_cons, Bool.and_eq_true] at hu
    have hnext : p.textsFrom 0 b (c :: (u ++ t)) = p.textsFrom 0 (c :: b) (u ++ t) := by
      rw [textsFrom_cons]
      split
      · rfl
      · rfl
      · next d w hd =>
        have hlen := length_le_of_text hp hd
        rw [hnone] at hlen
        exact absurd hlen (Nat.not_succ_le_zero _)
    rw [List.cons_append, hnext, ih hu.2, List.reverse_cons, List.append_assoc]
    rfl

/-- The same is found in texts of the same words. -/
theorem SameWords.textsFrom_eq (hp : p.Solid) (h : SameWords t t') {n : Nat}
    (hn : n ≤ (firstWord t).length) (b b' : Text) : p.textsFrom n b' t' = p.textsFrom n b t := by
  induction h generalizing n b b' with
  | @ends u v hu hv =>
    have hnil {n : Nat} {b : Text} : p.textsFrom n b [] = [] := by cases n <;> rfl
    have hblank {u : Text} (hu : u.all isBlank = true) (b : Text) : p.textsFrom 0 b u = [] := by
      have := textsFrom_blanks (b := b) (t := []) hp hu
      rwa [List.append_nil, hnil] at this
    have hzero : n = 0 := by
      cases u with
      | nil => exact Nat.le_zero.1 hn
      | cons c u =>
        have := firstWord_gap (t := []) (List.cons_ne_nil c u) hu
        rw [List.append_nil] at this
        rw [this] at hn
        exact Nat.le_zero.1 hn
    rw [hzero, hblank hu, hblank hv]
  | @keep c r s h ih =>
    have hlen : (firstWord (c :: r)).length ≤ (firstWord r).length + 1 := by
      rw [firstWord, List.takeWhile_cons]
      split
      · exact Nat.le_refl _
      · exact Nat.zero_le _
    cases n with
    | zero =>
      have hsame : (p.matchAt ⟨b', c :: s⟩).map Match.text =
          (p.matchAt ⟨b, c :: r⟩).map Match.text := by
        rw [matchAt_firstWord hp b', matchAt_firstWord hp b, (h.keep c).firstWord_eq]
      rw [textsFrom_cons, textsFrom_cons, hsame]
      split
      · exact ih (Nat.zero_le _) _ _
      · exact ih (Nat.zero_le _) _ _
      · next d w hd =>
        have := length_le_of_text hp hd
        rw [ih (Nat.le_of_succ_le_succ (this.trans hlen))]
    | succ n => exact ih (Nat.le_of_succ_le_succ (hn.trans hlen)) _ _
  | @gap u v r s hu hv hub hvb _ ih =>
    rw [firstWord_gap hu hub] at hn
    rw [Nat.le_zero.1 hn, textsFrom_blanks hp hub, textsFrom_blanks hp hvb,
      ih (Nat.zero_le _)]

end Pattern

namespace Spacing

open Pattern Token

variable {p : Pattern} {t : Text}

theorem sameWords_squeeze (t : Text) : SameWords (trimLeft t) (squeeze t) := by
  have hsame (u : Text) {v : Text} (hv : v.all isBlank = true) :
      SameWords (u ++ v) (blanks.replaceAll (fun _ => [' ']) u) := by
    refine replaceAll_induction (motive := fun _ t t' => SameWords (t ++ v) t')
      (fun _ => .ends hv rfl) (fun _ c _ _ h => h.keep c) (fun b r t' m hne hm _ h => ?_) u
    rw [List.append_assoc]
    exact .gap hne (by simp) (List.all_eq_true.2 (matchAt_blanks hm)) rfl h
  obtain ⟨-, v, -, hv, hleft, -⟩ := exists_trim t
  rw [hleft]
  exact hsame (trim t) hv

/-- The literals of a text are the same once its blanks are squeezed. -/
theorem findAll_squeeze (hp : p.Solid) (t : Text) :
    (p.findAll (squeeze t)).map Match.text = (p.findAll t).map Match.text := by
  obtain ⟨u, -, hu, -, -, ht⟩ := exists_trim t
  have hfront : p.textsFrom 0 [] t = p.textsFrom 0 (u.reverse ++ []) (trimLeft t) := by
    rw [← textsFrom_blanks hp hu, ← ht]
  rw [map_text_findAll, map_text_findAll, hfront]
  exact (sameWords_squeeze t).textsFrom_eq hp (Nat.zero_le _) _ _

theorem solid_protectedLiteral : protectedLiteral.Solid := by
  have hdigit {least most : Nat} : (digit least most).Solid :=
    ⟨rfl, fun _ => not_isDigit_of_isBlank⟩
  have hchar {d : Char} (hd : isBlank d = false) : (char d).Solid := by
    intro c hc
    rw [beq_eq_false_iff_ne]
    rintro rfl
    rw [hd] at hc
    cases hc
  have hdot : (char '.' ++ digit 1 3).Solid := ⟨hchar (by decide), hdigit⟩
  refine ⟨?address, ?isoDate, ?slashDate, ?clockTime⟩
  case address =>
    exact ⟨⟨⟨⟨hdigit, hdot⟩, hdot⟩, hdot⟩, ⟨hchar (by decide), hdigit⟩, trivial⟩
  case isoDate => exact ⟨⟨⟨⟨hdigit, hchar (by decide)⟩, hdigit⟩, hchar (by decide)⟩, hdigit⟩
  case slashDate => exact ⟨⟨⟨⟨hdigit, hchar (by decide)⟩, hdigit⟩, hchar (by decide)⟩, hdigit⟩
  case clockTime =>
    exact ⟨⟨⟨hdigit, hchar (by decide)⟩, hdigit⟩, ⟨hchar (by decide), hdigit⟩, trivial⟩

theorem length_literals (t : Text) : (literals t).length = (protectedLiteral.findAll t).length := by
  have hcount (ps : List Pattern.Piece) (i : Nat) : (setAside i ps).2.length =
      (ps.filterMap fun | .plain _ => none | .found m => some m).length := by
    induction ps generalizing i with
    | nil => rfl
    | cons piece ps ih =>
      cases piece with
      | plain c => exact ih i
      | found m => exact congrArg Nat.succ (ih (i + 1))
  have hfind := congrArg List.length (findAll_squeeze solid_protectedLiteral t)
  rw [List.length_map, List.length_map] at hfind
  rw [← hfind]
  exact hcount _ 0

end Spacing

/-! ## Characters for private use -/

namespace Token

variable {expr t : Text} {ts : List Token} {i : Nat}

theorem scanFrom_induction {motive : Text → List Token → Prop} (nil : motive [] [])
    (step : ∀ c w rest token us, Reads c w token rest → scanFrom rest = .ok us →
      motive rest us → motive (c :: (w ++ rest)) (token.toList ++ us))
    (h : scanFrom t = .ok ts) : motive t ts := by
  induction hn : t.length using Nat.strongRecOn generalizing t ts with
  | ind n ih =>
    cases t with
    | nil =>
      rw [scanFrom] at h
      cases h
      exact nil
    | cons c r =>
      rw [scanFrom_cons] at h
      split at h
      · cases h
      · next token rest hnext =>
        obtain ⟨us, hus, rfl⟩ := Result.map_eq_ok.1 h
        obtain ⟨w, rfl, hreads⟩ := exists_reads hnext
        refine step c w rest token us hreads hus (ih rest.length ?_ hus rfl)
        rw [← hn, List.length_cons, List.length_append]
        omega

/-- Characters of a text with tokens are blanks, of ASCII, or letters. -/
theorem isLetter_of_scanFrom (h : scanFrom t = .ok ts) :
    ∀ c ∈ t, isBlank c = true ∨ c.toNat < 128 ∨ isLetter c = true := by
  refine scanFrom_induction (motive := fun t _ =>
    ∀ c ∈ t, isBlank c = true ∨ c.toNat < 128 ∨ isLetter c = true) nofun ?_ h
  intro c w rest token us hreads _ ih x hx
  rw [← List.cons_append, List.mem_append] at hx
  rcases hx with hx | hx
  · rcases hreads.cases with ⟨hb, rfl, -⟩ | hmarks | ⟨hc, hw, -, -⟩
    · rw [List.mem_singleton.1 hx]
      exact .inl hb
    · exact .inr (.inl (marks_plain x (hmarks x hx)).2.2)
    · rcases List.mem_cons.1 hx with rfl | hx
      · exact .inr (.inr hc)
      · have hcontinues := List.all_eq_true.1 hw x hx
        simp only [continuesWord, Bool.or_eq_true, beq_iff_eq] at hcontinues
        rcases hcontinues with (hl | hd) | rfl
        · exact .inr (.inr hl)
        · have := (toNat_of_isAsciiDigit hd).2
          exact .inr (.inl (by omega))
        · exact .inr (.inl (by decide))
  · exact ih x hx

/-- No letter lies in the area for private use. -/
theorem alphabeticRanges_private : ∀ r ∈ alphabeticRanges.toList, r.2 < 0xE000 ∨ 0xF8FF < r.1 := by
  decide +kernel

/-- The area for private use has room for 6400 characters, and an expression with tokens holds none
of them. -/
theorem placeholder_notMem (h : scan expr = .ok ts) (hi : i < 6400) :
    Spacing.placeholder i ∉ expr := by
  intro hm
  have hnat : (Spacing.placeholder i).toNat = 0xE000 + i :=
    Spacing.toNat_placeholder (hi.trans (by decide))
  have hblank := (Spacing.placeholder_cases i).2
  generalize Spacing.placeholder i = c at hm hnat hblank
  have hletter : isLetter c = false := by
    refine not_isLetter_of_disjoint (by omega) fun r hr => ?_
    have := alphabeticRanges_private r hr
    omega
  have hsign : plainSign c = c := by
    by_contra hc
    have hop : c.toNat ∈ operators := by
      revert hc
      unfold plainSign
      split <;> simp [operators]
    have hbelow : ∀ n ∈ operators, n < 0xE000 := by decide
    have := hbelow _ hop
    omega
  rcases Expr.mem_normalize (mem_trim hm hblank) with hx | hn
  · simp only [isCross, Bool.or_eq_true, beq_iff_eq] at hx
    have hbelow : c.toNat < 0xE000 := by rcases hx with rfl | rfl <;> decide
    omega
  · rw [hsign] at hn
    rcases isLetter_of_scanFrom h c hn with hb | ha | hl
    · rw [hblank] at hb
      cases hb
    · omega
    · rw [hletter] at hl
      cases hl

/-- **What is shown of an expression has its tokens**, where at most as many literals are set aside
as there are characters for private use. -/
theorem scan_format (h : scan expr = .ok ts)
    (hfew : (Spacing.protectedLiteral.findAll expr).length ≤ 6400) :
    scan (Spacing.format expr) = .ok ts := by
  rw [← Spacing.length_literals] at hfew
  have hunmixed : Spacing.Unmixed expr :=
    { few := hfew.trans (by decide)
      free := fun i hi => placeholder_notMem h (hi.trans_le hfew) }
  refine Result.eq_ok_of_toOption ?_
  rw [Spacing.toOption_scan_format hunmixed, h]
  rfl

/-- An `x` is given blanks, and the dashes of a date are not. -/
theorem scan_format_date :
    let expr := "3x4+2024-1-2".toList
    (Spacing.protectedLiteral.findAll expr).length = 1 ∧
      Spacing.format expr = "3 x 4 + 2024-1-2".toList ∧
      ∃ ts, scan expr = .ok ts ∧ scan (Spacing.format expr) = .ok ts := by
  intro expr
  have hone : (Spacing.protectedLiteral.findAll expr).length = 1 := by decide +kernel
  obtain ⟨ts, h⟩ := Result.exists_eq_ok
    (show (scan expr).toOption.isSome = true by decide +kernel)
  refine ⟨hone, by decide +kernel, ts, h, scan_format h ?_⟩
  rw [hone]
  decide

end Token

end Worksheet
