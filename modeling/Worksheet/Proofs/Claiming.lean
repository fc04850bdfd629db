import Worksheet.Proofs.Filling
import Worksheet.Proofs.Phrases

/-!
# What phrases leave to arithmetic

**Theorem (`claims_eq_false`).** Of an expression that arithmetic has a value for, phrases about
subnets, percentages and units recognise nothing.

All letters of such an expression belong to the names of functions, or are an `x` between two
factors (`letters_of_scan`). So it has no word that a phrase about percentages needs, and none of
`to`, `in` and `as` between blanks. It has no address either, as a second point begins a second
number, and operands stand apart (`points_apart`).
-/

namespace Worksheet

open Text

/-! ## What a token takes -/

namespace Token

open Result

variable {c : Char} {r t w : Text} {ts : List Token} {token : Option Token} {rest : Text}

/-- The characters of operators, comparisons and parentheses. -/
def signs : Text := ['+', '-', '*', '/', '^', '(', ')', '<', '>', '=', '!']

/-- Read behind `c` and in front of `rest`, the text `w` makes the token. -/
inductive Reads (c : Char) : Text → Option Token → Text → Prop
  | blank (rest : Text) : isBlank c = true → Reads c [] none rest
  | number {w rest : Text} (v : Float) : (isAsciiDigit c || c == '.') = true →
      numeral (c == '.') (w ++ rest) = (w, rest) →
      Reads c w (some (.number v false (c :: w))) rest
  | percent {w rest : Text} (v : Float) : (isAsciiDigit c || c == '.') = true →
      numeral (c == '.') (w ++ '%' :: rest) = (w, '%' :: rest) →
      Reads c (w ++ ['%']) (some (.number v true (c :: w ++ ['%']))) rest
  | dollars {w rest : Text} (v : Float) : c = '$' → numeral false (w ++ rest) = (w, rest) →
      Reads c w (some (.currency v (c :: w))) rest
  | reference {w rest : Text} (n : Nat) : c = '\\' → w.all isAsciiDigit = true →
      Reads c w (some (.reference n (c :: w))) rest
  | sign {w rest : Text} {token : Option Token} : (∀ x ∈ c :: w, x ∈ signs) →
      token.all isSymbol = true → Reads c w token rest
  | word {w rest : Text} : isLetter c = true → w.all continuesWord = true →
      rest.head?.any continuesWord = false → Reads c w (some (.word (lower (c :: w)))) rest

/-- What a token takes. -/
theorem exists_reads (h : next c r = .ok (token, rest)) :
    ∃ w, r = w ++ rest ∧ Reads c w token rest := by
  have hnumeral (point : Bool) {n z : Text} (hz : (numeral point r).2 = z)
      (hn : (numeral point r).1 = n) : r = n ++ z ∧ numeral point (n ++ z) = (n, z) := by
    have happ := numeral_append point r
    rw [hn, hz] at happ
    exact ⟨happ.symm, by rw [happ, ← hn, ← hz]⟩
  have hequals {f g : Text → Result (Option Token × Text)} (hc : c ∈ signs)
      (hf : ∀ a, f a = .ok (token, rest) → token.all isSymbol = true ∧ rest = a)
      (hg : g r = .ok (token, rest) → token.all isSymbol = true ∧ rest = r) :
      ((∃ a, r = '=' :: a ∧ f a = .ok (token, rest)) ∨
        r.head? ≠ some '=' ∧ g r = .ok (token, rest)) →
          ∃ w, r = w ++ rest ∧ Reads c w token rest := by
    rintro (⟨a, ha, hm⟩ | ⟨-, hm⟩)
    · obtain ⟨hs, rfl⟩ := hf _ hm
      refine ⟨['='], ha, .sign ?_ hs⟩
      simpa [hc] using (by decide : '=' ∈ signs)
    · obtain ⟨hs, rfl⟩ := hg hm
      exact ⟨[], rfl, .sign (by simpa using hc) hs⟩
  unfold next at h
  split at h
  · next hb =>
    cases h
    exact ⟨[], rfl, .blank _ hb⟩
  split at h
  · next hc =>
    obtain ⟨v, -, hv⟩ := Result.map_eq_ok.1 h
    split at hv
    · next z hz =>
      cases hv
      obtain ⟨hr, hn⟩ := hnumeral _ hz rfl
      exact ⟨_ ++ ['%'], by rw [List.append_assoc]; exact hr, .percent _ hc hn⟩
    · cases hv
      obtain ⟨hr, hn⟩ := hnumeral _ rfl rfl
      exact ⟨_, hr, .number v hc hn⟩
  split at h
  · next hc =>
    split at h
    · obtain ⟨v, -, hv⟩ := Result.map_eq_ok.1 h
      cases hv
      obtain ⟨hr, hn⟩ := hnumeral false rfl rfl
      exact ⟨_, hr, .dollars v (by simpa using hc) hn⟩
    · cases h
  split at h
  · next hc =>
    dsimp only at h
    split at h
    · cases h
    · split at h
      · cases h
        exact ⟨_, List.takeWhile_append_dropWhile.symm,
          .reference _ (by simpa using hc) List.all_takeWhile⟩
      · cases h
  split at h
  · next symbol hs =>
    cases h
    refine ⟨[], rfl, .sign ?_ rfl⟩
    unfold Symbol.ofChar? at hs
    split at hs <;> cases hs <;> simp [signs]
  split at h
  · next hc =>
    have hsign : c ∈ signs := by
      simp only [Bool.or_eq_true, beq_iff_eq] at hc
      rcases hc with rfl | rfl <;> decide
    exact hequals (f := fun r => .ok (some (symbol (if c == '>' then .greaterEq else .lessEq)), r))
      (g := fun r => .ok (some (symbol (if c == '>' then .greater else .less)), r)) hsign
      (fun a ha => by cases ha; exact ⟨rfl, rfl⟩) (fun ha => by cases ha; exact ⟨rfl, rfl⟩)
      (equals_iff.1 h)
  split at h
  · next hc =>
    have hsign : c ∈ signs := by
      rw [beq_iff_eq.1 hc]
      decide
    exact hequals (f := fun r => .ok (some (symbol .equal), r)) (g := fun r => .ok (none, r)) hsign
      (fun a ha => by cases ha; exact ⟨rfl, rfl⟩) (fun ha => by cases ha; exact ⟨rfl, rfl⟩)
      (equals_iff.1 h)
  split at h
  · next hc =>
    have hsign : c ∈ signs := by
      rw [beq_iff_eq.1 hc]
      decide
    exact hequals (f := fun r => .ok (some (symbol .notEqual), r))
      (g := fun _ => .error (.lex .bareBang)) hsign (fun a ha => by cases ha; exact ⟨rfl, rfl⟩)
      (fun ha => by cases ha) (equals_iff.1 h)
  split at h
  · next hc =>
    cases h
    exact ⟨_, List.takeWhile_append_dropWhile.symm,
      .word hc List.all_takeWhile head?_dropWhile_any⟩
  · cases h

/-! ## Words -/

/-- What tokens consist of, but for words. -/
def marks : Text :=
  ['0', '1', '2', '3', '4', '5', '6', '7', '8', '9', ',', '.', '%', '$', '\\'] ++ signs

theorem marks_plain : ∀ x ∈ marks, isLetter x = false ∧ isBlank x = false ∧ x.toNat < 128 := by
  have hall : marks.all (fun x => !isLetter x && !isBlank x && decide (x.toNat < 128)) = true := by
    rfl
  intro x hx
  simpa [and_assoc] using List.all_eq_true.1 hall x hx

theorem mem_marks_of_isNumeral (h : Loose.isNumeral c = true) : c ∈ marks := by
  simp only [Loose.isNumeral, Bool.or_eq_true, beq_iff_eq] at h
  rcases h with (h | rfl) | rfl
  · have hall : Pattern.asciiDigits.all (marks.contains ·) = true := by rfl
    simpa using List.all_eq_true.1 hall c (Pattern.mem_asciiDigits h)
  · simp [marks]
  · simp [marks]

/-- A token is a blank, a word, or made of marks. -/
theorem Reads.cases (h : Reads c w token rest) :
    (isBlank c = true ∧ w = [] ∧ token = none) ∨ (∀ x ∈ c :: w, x ∈ marks) ∨
      (isLetter c = true ∧ w.all continuesWord = true ∧ rest.head?.any continuesWord = false ∧
        token = some (.word (lower (c :: w)))) := by
  have hdigit {x : Char} (hx : isAsciiDigit x = true) : x ∈ marks :=
    mem_marks_of_isNumeral (by simp [Loose.isNumeral, hx])
  have hnumeral {point : Bool} {n y z : Text} (hn : numeral point y = (n, z)) :
      ∀ x ∈ n, x ∈ marks := fun x hx => by
    have hall := all_numeral point y
    rw [hn] at hall
    exact mem_marks_of_isNumeral (List.all_eq_true.1 hall x hx)
  have hfirst (hc : (isAsciiDigit c || c == '.') = true) : c ∈ marks := by
    rcases Bool.or_eq_true_iff.1 hc with hc | hc
    · exact hdigit hc
    · rw [beq_iff_eq.1 hc]
      simp [marks]
  cases h with
  | blank _ hb => exact .inl ⟨hb, rfl, rfl⟩
  | number v hc hn => exact .inr (.inl (List.forall_mem_cons.2 ⟨hfirst hc, hnumeral hn⟩))
  | percent v hc hn =>
    refine .inr (.inl (List.forall_mem_cons.2 ⟨hfirst hc, fun x hx => ?_⟩))
    rcases List.mem_append.1 hx with hx | hx
    · exact hnumeral hn x hx
    · rw [List.mem_singleton.1 hx]
      simp [marks]
  | dollars v hc hn =>
    refine .inr (.inl (List.forall_mem_cons.2 ⟨?_, hnumeral hn⟩))
    rw [hc]
    simp [marks]
  | reference n hc hw =>
    refine .inr (.inl (List.forall_mem_cons.2 ⟨?_, fun x hx => ?_⟩))
    · rw [hc]
      simp [marks]
    · exact hdigit (List.all_eq_true.1 hw x hx)
  | sign hsigns _ =>
    exact .inr (.inl fun x hx => List.mem_append_right _ (hsigns x hx))
  | word hc hw hrest => exact .inr (.inr ⟨hc, hw, hrest, rfl⟩)

/-- A letter stands in a word, and all other characters are blanks or of ASCII. -/
theorem letters_of_scanFrom (h : scanFrom t = .ok ts) : ∀ x ∈ t,
    (isLetter x = false ∧ (isBlank x = true ∨ x.toNat < 128)) ∨
      ∃ v, .word (lower v) ∈ ts ∧ x ∈ v := by
  induction hn : t.length using Nat.strongRecOn generalizing t ts with
  | ind n ih =>
    cases t with
    | nil => exact nofun
    | cons c r =>
      rw [scanFrom_cons] at h
      split at h
      · cases h
      · next token rest hnext =>
        obtain ⟨us, hus, rfl⟩ := Result.map_eq_ok.1 h
        have hlt : rest.length < n := by
          have := length_next_le hnext
          rw [← hn, List.length_cons]
          exact Nat.lt_succ_of_le this
        obtain ⟨w, rfl, hreads⟩ := exists_reads hnext
        intro x hx
        rw [← List.cons_append, List.mem_append] at hx
        rcases hx with hx | hx
        · rcases hreads.cases with ⟨hb, rfl, rfl⟩ | hmarks | ⟨-, -, -, rfl⟩
          · rw [List.mem_singleton.1 hx]
            exact .inl ⟨not_isLetter_of_isBlank hb, .inl hb⟩
          · obtain ⟨hletter, -, hascii⟩ := marks_plain x (hmarks x hx)
            exact .inl ⟨hletter, .inr hascii⟩
          · exact .inr ⟨c :: w, by simp, hx⟩
        · rcases ih _ hlt hus rfl x hx with h | ⟨v, hv, hxv⟩
          · exact .inl h
          · exact .inr ⟨v, List.mem_append_right _ hv, hxv⟩

/-- No blank stands behind the first character of a token. -/
theorem Reads.notMem (h : Reads c w token rest) {b : Char} (hb : isBlank b = true) : b ∉ w := by
  intro hm
  rcases h.cases with ⟨-, rfl, -⟩ | hmarks | ⟨-, hw, -, -⟩
  · cases hm
  · rw [(marks_plain b (hmarks b (List.mem_cons_of_mem _ hm))).2.1] at hb
    cases hb
  · have hc := List.all_eq_true.1 hw b hm
    rw [inner_continuesWord b (.inl hb)] at hc
    cases hc

/-- Letters between blanks are a word. -/
theorem word_of_scanFrom {a w r : Text} {b b' : Char} (hb : isBlank b = true)
    (hb' : isBlank b' = true) (hne : w ≠ []) (hw : w.all isLetter = true)
    (h : scanFrom (a ++ b :: (w ++ b' :: r)) = .ok ts) : .word (lower w) ∈ ts := by
  induction hn : a.length using Nat.strongRecOn generalizing a ts with
  | ind n ih =>
    cases a with
    | nil =>
      obtain ⟨c, w, rfl⟩ := List.exists_cons_of_ne_nil hne
      simp only [List.all_cons, Bool.and_eq_true] at hw
      have hnext : next b (c :: w ++ b' :: r) = .ok (none, c :: w ++ b' :: r) := by
        unfold next
        rw [if_pos hb]
      rw [List.nil_append, scanFrom_cons, hnext] at h
      obtain ⟨us, hus, rfl⟩ := Result.map_eq_ok.1 h
      refine List.mem_append_right _ ?_
      rw [List.cons_append, scanFrom_cons] at hus
      split at hus
      · cases hus
      · next token rest hnext =>
        obtain ⟨vs, -, rfl⟩ := Result.map_eq_ok.1 hus
        obtain ⟨u, hu, hreads⟩ := exists_reads hnext
        rcases hreads.cases with ⟨hblank, -, -⟩ | hmarks | ⟨-, huall, hrest, rfl⟩
        · rw [not_isLetter_of_isBlank hblank] at hw
          cases hw.1
        · rw [(marks_plain c (hmarks c List.mem_cons_self)).1] at hw
          cases hw.1
        · have hwall : w.all continuesWord = true := List.all_eq_true.2 fun x hx => by
            simp [continuesWord, List.all_eq_true.1 hw.2 x hx]
          have hend : (b' :: r).head?.any continuesWord = false :=
            inner_continuesWord b' (.inl hb')
          have hsame : w = u := by
            rw [← (span_append hwall hend).1, hu, (span_append huall hrest).1]
          simp [hsame]
    | cons c a =>
      rw [List.cons_append, scanFrom_cons] at h
      split at h
      · cases h
      · next token rest hnext =>
        obtain ⟨us, hus, rfl⟩ := Result.map_eq_ok.1 h
        obtain ⟨u, hu, hreads⟩ := exists_reads hnext
        have hstart : ∃ a', a'.length ≤ a.length ∧ rest = a' ++ b :: (w ++ b' :: r) := by
          rcases List.append_eq_append_iff.1 hu with ⟨v, hv, hrest⟩ | ⟨v, hv, hrest⟩
          · cases v with
            | nil => exact ⟨[], Nat.zero_le _, hrest.symm⟩
            | cons x v =>
              refine absurd ?_ (hreads.notMem hb)
              rw [hv, (List.cons.inj hrest).1]
              simp
          · exact ⟨v, by rw [hv, List.length_append]; omega, hrest⟩
        obtain ⟨a', hlen, rfl⟩ := hstart
        refine List.mem_append_right _ (ih a'.length ?_ hus rfl)
        rw [← hn, List.length_cons]
        omega

/-! ## Points -/

/-- Behind its point, a numeral takes all digits and commas. -/
theorem numeral_true {n z y : Text} (h : numeral true y = (n, z)) :
    n.all isGrouped = true ∧ z.head?.any isGrouped = false := by
  induction y generalizing n with
  | nil =>
    cases h
    exact ⟨rfl, rfl⟩
  | cons c y ih =>
    rw [numeral] at h
    split at h
    · next hc =>
      cases h
      obtain ⟨hn, hz⟩ := ih rfl
      exact ⟨by simp [isGrouped, hc, hn], hz⟩
    · next hc =>
      split at h
      · next hp => simp at hp
      · cases h
        exact ⟨rfl, by simpa [isGrouped] using hc⟩

/-- Behind a point of a numeral there are digits and commas, and none follows. -/
theorem numeral_point {point : Bool} {n z y u v : Text} (h : numeral point y = (n, z))
    (hn : n = u ++ '.' :: v) : v.all isGrouped = true ∧ z.head?.any isGrouped = false := by
  induction y generalizing point n u with
  | nil =>
    cases h
    cases u <;> cases hn
  | cons c y ih =>
    rw [numeral] at h
    split at h
    · next hc =>
      cases h
      cases u with
      | nil =>
        rw [(List.cons.inj hn).1] at hc
        cases hc
      | cons d u => exact ih rfl (List.cons.inj hn).2
    · split at h
      · cases h
        cases u with
        | nil =>
          obtain rfl := (List.cons.inj hn).2
          exact numeral_true rfl
        | cons d u => exact ih rfl (List.cons.inj hn).2
      · cases h
        cases u <;> cases hn

/-- A point is part of an amount, which goes on with digits and commas up to the end or a percent
sign. -/
theorem Reads.point {u v : Text} (h : Reads c w token rest) (hw : c :: w = u ++ '.' :: v) :
    (∃ t, token = some t ∧ t.isSymbol = false) ∧
      ((v ++ rest).dropWhile isGrouped = rest ∨
        (v ++ rest).dropWhile isGrouped = '%' :: rest) := by
  have hpoint : '.' ∈ c :: w := by
    rw [hw]
    simp
  have htail {n z : Text} (hc : (isAsciiDigit c || c == '.') = true)
      (hn : numeral (c == '.') (n ++ z) = (n, z)) {v : Text} (hv : c :: n = u ++ '.' :: v) :
      v.all isGrouped = true ∧ z.head?.any isGrouped = false := by
    cases u with
    | nil =>
      obtain ⟨rfl, rfl⟩ := List.cons.inj hv
      exact numeral_true hn
    | cons d u => exact numeral_point hn (List.cons.inj hv).2
  cases h with
  | blank _ hb =>
    rw [← List.mem_singleton.1 hpoint] at hb
    cases hb
  | number x hc hn =>
    obtain ⟨hv, hr⟩ := htail hc hn hw
    exact ⟨⟨_, rfl, rfl⟩, .inl (span_append hv hr).2⟩
  | @percent n _ x hc hn =>
    rcases List.eq_nil_or_concat' v with rfl | ⟨v, y, rfl⟩
    · rw [← List.cons_append] at hw
      cases (List.append_inj' hw rfl).2
    · have hlast : c :: n = u ++ '.' :: v ∧ '%' = y := by
        rw [← List.cons_append, ← List.cons_append, ← List.append_assoc] at hw
        simpa using List.append_inj' hw rfl
      obtain ⟨hv, rfl⟩ := hlast
      obtain ⟨hv, hr⟩ := htail hc hn hv
      refine ⟨⟨_, rfl, rfl⟩, .inr ?_⟩
      rw [List.append_assoc]
      exact (span_append hv hr).2
  | dollars x hc hn =>
    cases u with
    | nil =>
      rw [hc] at hw
      cases hw
    | cons d u =>
      obtain ⟨hv, hr⟩ := numeral_point hn (List.cons.inj hw).2
      exact ⟨⟨_, rfl, rfl⟩, .inl (span_append hv hr).2⟩
  | reference n hc hdigits =>
    rcases List.mem_cons.1 hpoint with hp | hp
    · rw [hc] at hp
      cases hp
    · cases List.all_eq_true.1 hdigits _ hp
  | sign hsigns _ => exact absurd (hsigns _ hpoint) (by simp [signs])
  | word hc hall _ =>
    rcases List.mem_cons.1 hpoint with hp | hp
    · rw [← hp] at hc
      cases hc
    · cases List.all_eq_true.1 hall _ hp

/-- Where operands stand apart, only digits and commas between two points are too little. -/
theorem points_apart {a b w : Text} (h : scanFrom (a ++ '.' :: (w ++ '.' :: b)) = .ok ts)
    (hts : ts.IsChain Apart) (hw : w.all isGrouped = true) : False := by
  generalize ht : a ++ '.' :: (w ++ '.' :: b) = t at h
  induction hn : t.length using Nat.strongRecOn generalizing a t ts with
  | ind n ih =>
    cases t with
    | nil => simp at ht
    | cons c r =>
      rw [scanFrom_cons] at h
      split at h
      · cases h
      · next token rest hnext =>
        obtain ⟨us, hus, rfl⟩ := Result.map_eq_ok.1 h
        have hlt : rest.length < n := by
          have := length_next_le hnext
          rw [← hn, List.length_cons]
          exact Nat.lt_succ_of_le this
        obtain ⟨u, rfl, hreads⟩ := exists_reads hnext
        have hchain : us.IsChain Apart := (List.isChain_append.1 hts).2.1
        have hagain {y : Text} (hr : rest = y ++ '.' :: (w ++ '.' :: b)) : False :=
          ih _ hlt hchain rest hr.symm hus rfl
        have ht : a ++ '.' :: (w ++ '.' :: b) = (c :: u) ++ rest := ht
        rcases List.append_eq_append_iff.1 ht with ⟨v, hv, hrest⟩ | ⟨v, -, hrest⟩
        · cases v with
          | nil => exact hagain (y := []) hrest.symm
          | cons x v =>
            -- The first point is part of this token, and the second begins the next one.
            obtain ⟨rfl, hx⟩ : '.' = x ∧ w ++ '.' :: b = v ++ rest := List.cons.inj hrest
            obtain ⟨⟨token, rfl, htoken⟩, hdrop⟩ := hreads.point hv
            have hsecond : (v ++ rest).dropWhile isGrouped = '.' :: b := by
              rw [← hx]
              exact (span_append hw (show ('.' :: b).head?.any isGrouped = false from rfl)).2
            rw [hsecond] at hdrop
            rcases hdrop with rfl | hdrop
            · rw [scanFrom_cons] at hus
              split at hus
              · cases hus
              · next token' rest' hnext' =>
                obtain ⟨vs, -, rfl⟩ := Result.map_eq_ok.1 hus
                obtain ⟨u', -, hreads'⟩ := exists_reads hnext'
                obtain ⟨⟨token', rfl, htoken'⟩, -⟩ := hreads'.point (u := []) rfl
                rcases (List.isChain_cons.1 hts).1 token' rfl with h | h
                · rw [h] at htoken
                  cases htoken
                · rw [h] at htoken'
                  cases htoken'
            · cases (List.cons.inj hdrop).1
        · exact hagain hrest

end Token

/-! ## Letters of an expression -/

namespace Token

variable {t u v m : Text} {c d x : Char}

theorem multiplySigns_append (before u v : Text) : ∃ u', multiplySigns before (u ++ v) =
    u' ++ multiplySigns (u.reverse ++ before) v := by
  induction u generalizing before with
  | nil => exact ⟨[], rfl⟩
  | cons c u ih =>
    obtain ⟨u', hu⟩ := ih (c :: before)
    rw [List.cons_append, multiplySigns_cons, hu, List.reverse_cons, List.append_assoc]
    exact ⟨_ :: u', rfl⟩

/-- A part that holds no sign to be replaced is a part of the normalized text. -/
theorem normalize_part (hm : ∀ x ∈ m, plainSign x = x ∧ isCross x = false) (u v : Text) :
    ∃ u' v', normalize (u ++ (m ++ v)) = u' ++ (m ++ v') := by
  have hsame : m.map plainSign = m :=
    (List.map_congr_left fun x hx => (hm x hx).1).trans (List.map_id' m)
  obtain ⟨u', hu⟩ := multiplySigns_append [] (u.map plainSign) (m ++ v.map plainSign)
  rw [normalize, List.map_append, List.map_append, hsame, hu,
    multiplySigns_of_notCross fun x hx => (hm x hx).2]
  exact ⟨u', _, rfl⟩

end Token

/-! ## Lower case -/

namespace Text

variable {b t : Text} {c d : Char}

/-- A small letter of ASCII other than `i` and `k`, which are the lower case of letters beyond. -/
def isPlainSmall (c : Char) : Bool := c.isLower && c != 'i' && c != 'k'

/-- Beyond ASCII, only the Kelvin sign has a lower case of ASCII. -/
theorem lowerRuns_beyond : ∀ r ∈ lowerRuns.toList,
    128 ≤ (r.1 : Int) + r.2.2.2 ∨ r.1 = r.2.1 ∧ (r.1 : Int) + r.2.2.2 = 107 := by
  decide +kernel

theorem lowerChar_beyond (hc : ¬c.toNat < 128) :
    128 ≤ (lowerChar c).toNat ∨ (lowerChar c).toNat = 107 ∨ (lowerChar c).toNat = 0 := by
  unfold lowerChar
  simp only [hc, if_false]
  split
  · next lo hi step shift hr =>
    have hm := lowerRuns_beyond _ (Array.mem_toList_iff.2 (Array.mem_of_find?_eq_some hr))
    have hp := Array.find?_some hr
    simp only [Bool.and_eq_true, decide_eq_true_eq] at hp
    rcases toNat_ofNat (c.toNat + shift).toNat with h | h
    · rw [h]
      simp only at hm
      omega
    · exact .inr (.inr h)
  · exact .inl (Nat.not_lt.1 hc)

theorem toNat_of_isPlainSmall (h : isPlainSmall d = true) :
    97 ≤ d.toNat ∧ d.toNat ≤ 122 ∧ d ≠ 'i' ∧ d.toNat ≠ 107 := by
  simp only [isPlainSmall, Char.isLower, Bool.and_eq_true, decide_eq_true_eq, bne_iff_ne,
    ge_iff_le, UInt32.le_iff_toNat_le] at h
  refine ⟨h.1.1.1, h.1.1.2, h.1.2, fun hk => h.2 ?_⟩
  exact Char.ext (UInt32.toNat_inj.1 hk)

/-- The lower case of a text has a small letter where the text has it as a letter of ASCII. -/
theorem mem_lowerFrom (hd : isPlainSmall d = true) :
    d ∈ lowerFrom b t → ∃ c ∈ t, c.toNat < 128 ∧ c.toLower = d := by
  obtain ⟨hlo, hhi, hi, hk⟩ := toNat_of_isPlainSmall hd
  have hne {c : Char} (hc : ¬c.toNat < 128) : d ≠ c := by
    rintro rfl
    omega
  induction t generalizing b with
  | nil => exact nofun
  | cons c r ih =>
    intro h
    have hagain {y : Char} {w : Text} (hy : d ≠ y) (hm : d ∈ y :: w)
        (hw : d ∈ w → ∃ c ∈ r, c.toNat < 128 ∧ c.toLower = d) :
        ∃ x ∈ c :: r, x.toNat < 128 ∧ x.toLower = d := by
      obtain ⟨x, hx, hlow⟩ := hw ((List.mem_cons.1 hm).resolve_left hy)
      exact ⟨x, List.mem_cons_of_mem _ hx, hlow⟩
    rw [lowerFrom] at h
    split at h
    · next hc =>
      by_cases hd : c.toLower = d
      · exact ⟨c, List.mem_cons_self, hc, hd⟩
      · exact hagain (Ne.symm hd) h ih
    · next hc =>
      split at h
      · refine hagain hi h fun h => ?_
        exact ih ((List.mem_cons.1 h).resolve_left (hne (by decide)))
      · split at h
        · refine hagain ?_ h ih
          split <;> exact hne (by decide)
        · refine hagain ?_ h ih
          rintro rfl
          have := lowerChar_beyond hc
          omega

/-- A text whose lower case has plain small letters and `i` only is of ASCII letters. -/
theorem ascii_of_lowerFrom (h : ∀ y ∈ lowerFrom b t, isPlainSmall y = true ∨ y = 'i') :
    (∀ c ∈ t, c.toNat < 128) ∧ lowerFrom b t = t.map Char.toLower := by
  induction t generalizing b with
  | nil => exact ⟨nofun, rfl⟩
  | cons c r ih =>
    have hbeyond {y : Char} (hy : 128 ≤ y.toNat ∨ y.toNat = 107 ∨ y.toNat = 0) :
        ¬(isPlainSmall y = true ∨ y = 'i') := by
      rintro (hs | rfl)
      · have := toNat_of_isPlainSmall hs
        omega
      · revert hy
        decide
    rw [lowerFrom] at h ⊢
    split at h
    · next hc =>
      obtain ⟨hascii, hlow⟩ := ih (List.forall_mem_cons.1 h).2
      exact ⟨List.forall_mem_cons.2 ⟨hc, hascii⟩, by rw [if_pos hc, hlow, List.map_cons]⟩
    · next hc =>
      split at h
      · exact absurd (h '\u0307' (by simp)) (hbeyond (by decide))
      · split at h
        · refine absurd (h _ List.mem_cons_self) (hbeyond ?_)
          split <;> decide
        · exact absurd (h _ List.mem_cons_self) (hbeyond (lowerChar_beyond hc))

/-- A letter of one of the words of conversions, in any case. -/
theorem sameLetter_cases (hd : d ∈ "toinas".toList) (h : sameLetter d c = true) :
    isLetter c = true ∧ (c.toNat < 128 → c.toLower = d) := by
  simp only [sameLetter, Bool.or_eq_true, Bool.and_eq_true, beq_iff_eq] at h
  have hletter : isLetter d = true ∧ d.toLower = d ∧ 97 ≤ d.toNat ∧ d.toNat ≤ 122 := by
    have hall : "toinas".toList.all (fun d => isLetter d && d.toLower == d &&
      decide (97 ≤ d.toNat) && decide (d.toNat ≤ 122)) = true := by rfl
    simpa [and_assoc] using List.all_eq_true.1 hall d hd
  obtain ⟨hl, hsame, hlo, hhi⟩ := hletter
  rcases h with (((rfl | hlow) | ⟨-, rfl⟩) | ⟨rfl, -⟩) | ⟨-, rfl | rfl⟩
  · exact ⟨hl, fun _ => hsame⟩
  · refine ⟨?_, fun _ => hlow⟩
    rcases toLower_cases c with h | ⟨h₁, h₂, -⟩
    · rwa [← h, hlow]
    · have halpha : c.isAlpha = true := by
        simp only [Char.isAlpha, Char.isUpper, Bool.or_eq_true, decide_eq_true_eq, ge_iff_le,
          UInt32.le_iff_toNat_le]
        exact .inl ⟨h₁, h₂⟩
      have hascii : c.toNat < 128 := by omega
      simp [isLetter, hascii, halpha]
  · exact ⟨by decide +kernel, fun h => absurd h (by decide)⟩
  · exact absurd hd (by decide)
  · exact ⟨by decide +kernel, fun h => absurd h (by decide)⟩
  · exact ⟨by decide +kernel, fun h => absurd h (by decide)⟩

end Text

/-! ## Letters of an expression -/

namespace Expr

open Token Text

variable {expr v w : Text} {resolve : Option Resolver} {ts : List Token} {x : Float} {c d : Char}

/-- The letters of the names of functions. -/
def nameLetters : Text := MathFunction.all.flatMap fun f => f.name.toList

theorem nameLetters_plain : ∀ c ∈ nameLetters, isPlainSmall c = true ∨ c = 'i' := by
  have hall : nameLetters.all (fun c => isPlainSmall c || c == 'i') = true := by rfl
  intro c hc
  simpa using List.all_eq_true.1 hall c hc

/-- All words of tokens that have a value are names of functions. -/
theorem exists_function (h : evaluateTokens resolve ts = .ok x) (hw : .word w ∈ ts) :
    ∃ f, MathFunction.ofName? w = some f := by
  obtain ⟨p, hp⟩ := evaluateTokens_eq_ok.1 h
  obtain ⟨tree, htree, hv, -⟩ := derives_of_read hp
  exact (htree.exists_value_iff.1 ⟨x, hv⟩).2 w hw

/-- A word of tokens that have a value is written in ASCII, with the letters of a name. -/
theorem ascii_of_word (h : evaluateTokens resolve ts = .ok x) (hv : .word (lower v) ∈ ts) :
    (∀ c ∈ v, c.toNat < 128 ∧ c.toLower ∈ nameLetters) ∧
      ∃ f, MathFunction.ofName? (v.map Char.toLower) = some f := by
  obtain ⟨f, hf⟩ := exists_function h hv
  have hname : f.name.toList = lower v := by simpa using List.find?_some hf
  have hletters : ∀ y ∈ lower v, y ∈ nameLetters := fun y hy =>
    List.mem_flatMap.2 ⟨f, List.mem_of_find?_eq_some hf, hname ▸ hy⟩
  obtain ⟨hascii, hlow⟩ := ascii_of_lowerFrom fun y hy => nameLetters_plain y (hletters y hy)
  refine ⟨fun c hc => ⟨hascii c hc, hletters _ ?_⟩, f, hlow ▸ hf⟩
  rw [lower, hlow]
  exact List.mem_map_of_mem hc

theorem mem_normalize (hc : c ∈ expr) : isCross c = true ∨ plainSign c ∈ normalize expr := by
  have hsigns (before : Text) {c : Char} {t : Text} (hc : c ∈ t) :
      isCross c = true ∨ c ∈ multiplySigns before t := by
    induction t generalizing before with
    | nil => cases hc
    | cons y t ih =>
      rw [multiplySigns_cons]
      rcases List.mem_cons.1 hc with rfl | hc
      · cases hx : isCross c with
        | true => exact .inl rfl
        | false =>
          have hx : (c == 'x' || c == 'X') = false := hx
          exact .inr (by simp [hx])
      · exact (ih (y :: before) hc).imp_right (List.mem_cons_of_mem _)
  rw [← isCross_plainSign]
  exact hsigns [] (List.mem_map_of_mem hc)

/-- A letter of an expression with a value is an `x`, or part of the name of a function. -/
theorem letters_of_scan (ht : Tight expr) (hts : scan expr = .ok ts)
    (h : evaluateTokens resolve ts = .ok x) (hc : c ∈ expr) (hletter : isLetter c = true) :
    isCross c = true ∨ c.toNat < 128 ∧ c.toLower ∈ nameLetters := by
  rw [scan, ht.trim_eq] at hts
  refine (mem_normalize hc).imp_right fun hm => ?_
  rw [plainSign_of_isLetter hletter] at hm
  rcases letters_of_scanFrom hts c hm with ⟨hn, -⟩ | ⟨v, hv, hcv⟩
  · rw [hn] at hletter
    cases hletter
  · exact (ascii_of_word h hv).1 c hcv

/-- A small letter that is in no name of a function, and no `x`. -/
def isSpare (c : Char) : Bool := isPlainSmall c && !nameLetters.contains c && c != 'x'

/-- A spare letter does not occur in an expression with a value. -/
theorem notMem_lower (ht : Tight expr) (hts : scan expr = .ok ts)
    (h : evaluateTokens resolve ts = .ok x) (hd : isSpare d = true) : d ∉ lower expr := by
  intro hm
  simp only [isSpare, Bool.and_eq_true, Bool.not_eq_true', List.contains_eq_mem,
    decide_eq_false_iff_not, bne_iff_ne] at hd
  obtain ⟨⟨hd, hn⟩, hx⟩ := hd
  obtain ⟨c, hc, hascii, rfl⟩ := mem_lowerFrom hd hm
  have hletter : isLetter c = true := by
    obtain ⟨hlo, hhi, -⟩ := toNat_of_isPlainSmall hd
    have halpha : c.isAlpha = true := by
      simp only [Char.isAlpha, Char.isUpper, Char.isLower, Bool.or_eq_true, Bool.and_eq_true,
        decide_eq_true_eq, ge_iff_le, UInt32.le_iff_toNat_le]
      show (65 ≤ c.toNat ∧ c.toNat ≤ 90) ∨ (97 ≤ c.toNat ∧ c.toNat ≤ 122)
      rcases toLower_cases c with hsame | ⟨hl, hr, -⟩
      · rw [hsame] at hlo hhi
        exact .inr ⟨hlo, hhi⟩
      · exact .inl ⟨hl, hr⟩
    simp [isLetter, hascii, halpha]
  rcases letters_of_scan ht hts h hc hletter with hcross | ⟨-, hname⟩
  · simp only [isCross, Bool.or_eq_true, beq_iff_eq] at hcross
    rcases hcross with rfl | rfl <;> exact hx rfl
  · exact hn hname

end Expr

/-! ## Phrases without their letters -/

namespace Pattern

variable {p q : Pattern} {t : Text} {c : Char} {w : String}

@[simp] theorem feasible_append : (p ++ q).feasible t = (p.feasible t && q.feasible t) := rfl

@[simp] theorem feasible_orElse :
    (HOrElse.hOrElse p fun _ => q).feasible t = (p.feasible t || q.feasible t) := rfl

theorem occurs_of_not_feasible (h : p.feasible t = false) : p.occurs t = false := by
  rw [occurs, search, if_neg (by simp [h])]
  rfl

/-- A word does not occur in a text that lacks one of its letters. -/
theorem feasible_word (hc : c ∈ w.toList) (h : c ∉ t) : (word w).feasible t = false := by
  rw [word]
  generalize w.toList = l at hc
  induction l with
  | nil => cases hc
  | cons d l ih =>
    show (t.any (· == d) && _) = false
    rcases List.mem_cons.1 hc with rfl | hc
    · have hany : t.any (· == c) = false := by
        rw [List.any_eq_false]
        intro x hx
        simp only [beq_iff_eq]
        rintro rfl
        exact h hx
      rw [hany]
      rfl
    · rw [ih hc]
      exact Bool.and_false _

end Pattern

theorem Subnet.mentions_eq_false {w : String} {t : Text} {c : Char} (hc : c ∈ w.toList)
    (h : c ∉ t) : mentions w t = false := by
  rw [mentions, Pattern.occursIn_eq w (List.ne_nil_of_mem hc)]
  exact Pattern.occurs_of_not_feasible (Pattern.feasible_word hc h)

namespace Expr

open Token Text

variable {expr : Text} {resolve : Option Resolver} {ts : List Token} {x : Float}

/-- Between two points of an expression with a value stands more than digits. -/
theorem ne_points (ht : Tight expr) (hts : scan expr = .ok ts)
    (h : evaluateTokens resolve ts = .ok x) {a b w : Text} (hw : w.all isDigit = true) :
    expr ≠ a ++ '.' :: (w ++ '.' :: b) := by
  rintro rfl
  obtain ⟨p, hp⟩ := evaluateTokens_eq_ok.1 h
  obtain ⟨tree, htree, -⟩ := derives_of_read hp
  rw [scan, ht.trim_eq] at hts
  have hsteady : ∀ c ∈ '.' :: (w ++ ['.']), plainSign c = c ∧ isCross c = false := by
    intro c hc
    simp only [List.mem_cons, List.mem_append, List.not_mem_nil, or_false] at hc
    rcases hc with rfl | hc | rfl
    · decide
    · have hd := List.all_eq_true.1 hw c hc
      refine ⟨plainSign_of_isDigit hd, Bool.eq_false_iff.2 fun hx => ?_⟩
      simp only [isCross, Bool.or_eq_true, beq_iff_eq] at hx
      have hl := not_isLetter_of_isDigit hd
      rcases hx with rfl | rfl <;> cases hl
    · decide
  obtain ⟨a', b', hnorm⟩ := normalize_part hsteady a b
  have hshape : a ++ '.' :: (w ++ '.' :: b) = a ++ ('.' :: (w ++ ['.']) ++ b) := by simp
  rw [hshape, hnorm] at hts
  have hascii : w.all isGrouped = true := List.all_eq_true.2 fun c hc => by
    have := asciiDigits_of_scanFrom hts c (by simp [hc]) (List.all_eq_true.1 hw c hc)
    simp [isGrouped, this]
  refine points_apart (a := a') (b := b') (w := w) ?_ htree.apart hascii
  simpa using hts

theorem subnets_claims_eq_false (ht : Tight expr) (hts : scan expr = .ok ts)
    (h : evaluateTokens resolve ts = .ok x) : Subnet.claims expr = false := by
  have hword (w : String) {c : Char} (hc : c ∈ w.toList) (hd : isSpare c = true) :
      Subnet.mentions w (lower expr) = false :=
    Subnet.mentions_eq_false hc (notMem_lower ht hts h hd)
  have hblock : Subnet.block.occurs expr = false := by
    refine Bool.eq_false_iff.2 fun ho => ?_
    obtain ⟨w, ⟨w, length, ⟨w, slash, hw, -, rfl⟩, -, rfl⟩, z, r, he⟩ :=
      Pattern.exists_spells_of_occurs ho
    -- Two points with an octet between them are enough.
    obtain ⟨w, fourth, ⟨w, point, ⟨w, third, ⟨w, point₂, ⟨w, second, ⟨first, point₁, -, h₁, rfl⟩,
      ⟨hall, -⟩, rfl⟩, h₂, rfl⟩, -, rfl⟩, -, rfl⟩, -, rfl⟩ := hw
    obtain ⟨c, hc, rfl⟩ := h₁
    obtain ⟨d, hd, rfl⟩ := h₂
    obtain rfl := beq_iff_eq.1 hc
    obtain rfl := beq_iff_eq.1 hd
    refine ne_points ht hts h hall (a := z ++ first)
      (b := third ++ point ++ fourth ++ slash ++ length ++ r) (he.symm.trans ?_)
    simp
  simp [Subnet.claims, hblock, Subnet.keywords, hword "subnet" (c := 'u') (by decide) rfl,
    hword "cidr" (c := 'd') (by decide) rfl, hword "netmask" (c := 'e') (by decide) rfl,
    hword "wildcard" (c := 'w') (by decide) rfl, hword "broadcast" (c := 'd') (by decide) rfl,
    hword "split" (c := 'p') (by decide) rfl, hword "hosts" (c := 'h') (by decide) rfl,
    hword "mask" (c := 'm') (by decide) rfl, hword "prefix for" (c := 'p') (by decide) rfl,
    hword "cidr for" (c := 'd') (by decide) rfl]

theorem percentages_claims_eq_false (ht : Tight expr) (hts : scan expr = .ok ts)
    (h : evaluateTokens resolve ts = .ok x) : Percentage.claims expr = false := by
  have hword (w : String) {c : Char} (hc : c ∈ w.toList) (hd : isSpare c = true) :
      (Pattern.word w).feasible (lower expr) = false :=
    Pattern.feasible_word hc (notMem_lower ht hts h hd)
  have hmarkers : ∀ p ∈ Percentage.markers, p.feasible (lower expr) = false := by
    simp [Percentage.markers, hword "what" (c := 'w') (by decide) rfl,
      hword "of" (c := 'f') (by decide) rfl, hword "increase" (c := 'e') (by decide) rfl,
      hword "increased" (c := 'e') (by decide) rfl, hword "decrease" (c := 'e') (by decide) rfl,
      hword "decreased" (c := 'e') (by decide) rfl, hword "percent" (c := 'p') (by decide) rfl,
      hword "tip" (c := 'p') (by decide) rfl, hword "split" (c := 'p') (by decide) rfl]
  refine List.any_eq_false.2 fun p hp => ?_
  rw [Pattern.occurs_of_not_feasible (hmarkers p hp)]
  simp

/-- A word of a conversion in any case. -/
theorem of_spells_anyCase {w : String} {v : Text}
    (hw : w.toList.all ("toinas".toList.contains ·) = true) (h : (Pattern.anyCase w).Spells v) :
    (∀ c ∈ v, isLetter c = true ∧ isCross c = false) ∧
      ((∀ c ∈ v, c.toNat < 128) → v.map Char.toLower = w.toList) := by
  rw [Pattern.anyCase] at h
  generalize w.toList = l at h hw ⊢
  induction l generalizing v with
  | nil =>
    cases h
    exact ⟨nofun, fun _ => rfl⟩
  | cons d l ih =>
    obtain ⟨_, v, ⟨c, hc, rfl⟩, hv, rfl⟩ := h
    rw [List.all_cons, Bool.and_eq_true] at hw
    obtain ⟨hall, hlow⟩ := ih hv hw.2
    have hd : d ∈ "toinas".toList := by simpa using hw.1
    obtain ⟨hletter, hsame⟩ := sameLetter_cases hd hc
    have hcross : isCross c = false := Bool.eq_false_iff.2 fun hx => by
      simp only [isCross, Bool.or_eq_true, beq_iff_eq] at hx
      have hx : d = 'x' := by
        rcases hx with rfl | rfl <;> exact (hsame (by decide)).symm
      rw [hx] at hd
      exact absurd hd (by decide)
    refine ⟨List.forall_mem_cons.2 ⟨⟨hletter, hcross⟩, hall⟩, fun hascii => ?_⟩
    obtain ⟨hc, hv⟩ := List.forall_mem_cons.1 hascii
    rw [List.singleton_append, List.map_cons, hsame hc, hlow hv]

theorem steady_of_isBlank {c : Char} (h : isBlank c = true) :
    plainSign c = c ∧ isCross c = false := by
  refine ⟨?_, Bool.eq_false_iff.2 fun hx => ?_⟩
  · unfold plainSign
    split <;> first | rfl | cases h
  · simp only [isCross, Bool.or_eq_true, beq_iff_eq] at hx
    rcases hx with rfl | rfl <;> cases h

/-- No word of a conversion stands between blanks. -/
theorem ne_conversion (ht : Tight expr) (hts : scan expr = .ok ts)
    (h : evaluateTokens resolve ts = .ok x) {a b v : Text} {c d : Char} {w : String}
    (hw : w ∈ ["to", "in", "as"]) (hv : (Pattern.anyCase w).Spells v) (hc : isBlank c = true)
    (hd : isBlank d = true) : expr ≠ a ++ c :: (v ++ d :: b) := by
  rintro rfl
  rw [scan, ht.trim_eq] at hts
  have hletters : w.toList.all ("toinas".toList.contains ·) = true := by
    fin_cases hw <;> rfl
  have hno : w.toList ≠ [] ∧ MathFunction.ofName? w.toList = none := by
    fin_cases hw <;> exact ⟨by decide, rfl⟩
  obtain ⟨hall, hlow⟩ := of_spells_anyCase hletters hv
  have hne : v ≠ [] := by
    rintro rfl
    exact hno.1 (hlow (by simp)).symm
  have hsteady : ∀ y ∈ c :: (v ++ [d]), plainSign y = y ∧ isCross y = false := by
    intro y hy
    simp only [List.mem_cons, List.mem_append, List.not_mem_nil, or_false] at hy
    rcases hy with rfl | hy | rfl
    · exact steady_of_isBlank hc
    · exact ⟨plainSign_of_isLetter (hall y hy).1, (hall y hy).2⟩
    · exact steady_of_isBlank hd
  obtain ⟨a', b', hnorm⟩ := normalize_part hsteady a b
  have hshape : a ++ c :: (v ++ d :: b) = a ++ (c :: (v ++ [d]) ++ b) := by simp
  have hshape' : a' ++ (c :: (v ++ [d]) ++ b') = a' ++ c :: (v ++ d :: b') := by simp
  rw [hshape, hnorm, hshape'] at hts
  have hword := word_of_scanFrom hc hd hne (List.all_eq_true.2 fun y hy => (hall y hy).1) hts
  obtain ⟨hascii, f, hf⟩ := ascii_of_word h hword
  rw [hlow fun y hy => (hascii y hy).1, hno.2] at hf
  cases hf

theorem units_claims_eq_false (ht : Tight expr) (hts : scan expr = .ok ts)
    (h : evaluateTokens resolve ts = .ok x) : Evaluator.claimsConversion expr = false := by
  have hnone : Conversion.ofText? expr = none := by
    rw [Conversion.ofText?, ht.trim_eq]
    cases hm : Conversion.pattern.matchStart expr with
    | none => rfl
    | some m =>
      obtain ⟨w, ⟨w, stop, ⟨w, target, ⟨w, behind, ⟨w, word, ⟨before, between, -, hb, rfl⟩,
        hword, rfl⟩, hb', rfl⟩, -, rfl⟩, -, rfl⟩, he⟩ := Pattern.spells_of_matchStart hm
      obtain ⟨u, c, rfl⟩ := (List.eq_nil_or_concat' between).resolve_left
        (List.ne_nil_of_length_pos hb.2.1)
      obtain ⟨d, v, rfl⟩ := List.exists_cons_of_ne_nil (List.ne_nil_of_length_pos hb'.2.1)
      have hc : isBlank c = true := List.all_eq_true.1 hb.1 c (by simp)
      have hd : isBlank d = true := List.all_eq_true.1 hb'.1 d (by simp)
      have hno {k : String} (hk : k ∈ ["to", "in", "as"]) : ¬(Pattern.anyCase k).Spells word :=
        fun hw => ne_conversion ht hts h (a := before ++ u) (b := v ++ target ++ stop ++ m.right)
          hk hw hc hd (he.trans (by simp))
      rcases hword with hw | hw | hw
      · exact absurd hw (hno (by decide))
      · exact absurd hw (hno (by decide))
      · exact absurd hw (hno (by decide))
  rw [Evaluator.claimsConversion, hnone]

/-- **Phrases leave arithmetic alone.** No phrase about subnets, percentages or units is recognised
in an expression that has a value. -/
theorem claims_eq_false (ht : Tight expr) (hts : scan expr = .ok ts)
    (h : evaluateTokens resolve ts = .ok x) :
    ∀ ev ∈ [Evaluator.subnets, .percentages, .units], ev.claims expr = false := by
  intro ev hev
  cases ev with
  | subnets => exact subnets_claims_eq_false ht hts h
  | percentages => exact percentages_claims_eq_false ht hts h
  | units => exact units_claims_eq_false ht hts h
  | dates | arithmetic => exact absurd hev (by decide)

end Expr

end Worksheet
