import Worksheet.Proofs.Matching

/-!
# Replacing the matches of a pattern

Replacing goes through a text from left to right, where at each place a match is exchanged or one
character stays (`replaceAll_induction`). What is exchanged has characters of the classes of the
pattern (`Spells.within`).
-/

namespace Worksheet

open Text

theorem Match.length_eq (m : Match) : m.length = m.text.length := by
  rw [Match.length, Match.text, Cursor.upTo, List.length_take, Nat.min_eq_left (Nat.sub_le ..)]

namespace Pattern

variable {p : Pattern}

/-! ## Classes -/

/-- Whether all classes of a pattern lie in `q`. What a match looks at without taking it does not
count. -/
def Within (q : Char → Prop) : Pattern → Prop
  | one s | run s _ _ _ => ∀ c, s c = true → q c
  | seq p p' | either p p' => p.Within q ∧ p'.Within q
  | group _ p => p.Within q
  | nothing | atStart | atEnd | atWordEdge | behind _ | ahead _ => True

/-- A pattern spells texts of its classes. -/
theorem Spells.within {q : Char → Prop} {w : Text} (h : p.Spells w) (hp : p.Within q) :
    ∀ x ∈ w, q x := by
  induction p generalizing w with
  | one s =>
    obtain ⟨x, hs, rfl⟩ := h
    exact List.forall_mem_singleton.2 (hp x hs)
  | run s least most long => exact fun x hx => hp x (List.all_eq_true.1 h.1 x hx)
  | seq p p' ih ih' =>
    obtain ⟨u, v, hu, hv, rfl⟩ := h
    exact fun x hx => (List.mem_append.1 hx).elim (ih hu hp.1 x) (ih' hv hp.2 x)
  | either p p' ih ih' => exact h.elim (ih · hp.1) (ih' · hp.2)
  | group i p ih => exact ih h hp
  | nothing | atStart | atEnd | atWordEdge | behind s | ahead p => rw [show w = [] from h]; exact nofun

/-! ## Replacing -/

/-- The characters of the last match are passed over. -/
theorem piecesFrom_skip (p : Pattern) (n : Nat) (b t : Text) :
    p.piecesFrom n b t = p.piecesFrom 0 ((t.take n).reverse ++ b) (t.drop n) := by
  induction t generalizing n b with
  | nil => cases n <;> rfl
  | cons c r ih =>
    cases n with
    | zero => rfl
    | succ n =>
      rw [piecesFrom, ih]
      simp

theorem piecesFrom_plain {b r : Text} {c : Char} (h : p.matchAt ⟨b, c :: r⟩ = none) :
    p.piecesFrom 0 b (c :: r) = .plain c :: p.piecesFrom 0 (c :: b) r := by
  rw [piecesFrom, h]

theorem piecesFrom_found {b r : Text} {m : Match} (hne : m.text ≠ [])
    (hm : p.matchAt ⟨b, m.text ++ r⟩ = some m) :
    p.piecesFrom 0 b (m.text ++ r) = .found m :: p.piecesFrom 0 (m.text.reverse ++ b) r := by
  obtain ⟨d, w, hw⟩ := List.exists_cons_of_ne_nil hne
  -- The match takes at least the first character, and the search goes on behind it.
  rw [hw, List.cons_append] at hm ⊢
  rw [piecesFrom, hm]
  dsimp only
  rw [m.length_eq, hw, if_neg (by simp), piecesFrom_skip]
  simp

/-- The pieces of a text are found from left to right: at each place a match, or one character where
the pattern matches the empty text at most. -/
theorem pieces_induction_strong {motive : Text → Text → List Piece → Prop}
    (nil : ∀ b, motive b [] [])
    (plain : ∀ b c r ps, (∀ m, p.matchAt ⟨b, c :: r⟩ = some m → m.text = []) →
      motive (c :: b) r ps → motive b (c :: r) (.plain c :: ps))
    (found : ∀ b r ps m, m.text ≠ [] → p.matchAt ⟨b, m.text ++ r⟩ = some m →
      m.stop.after = r → motive (m.text.reverse ++ b) r ps →
      motive b (m.text ++ r) (.found m :: ps)) (t : Text) : motive [] t (p.pieces t) := by
  have hfrom (n : Nat) : ∀ (t b : Text), t.length ≤ n → motive b t (p.piecesFrom 0 b t) := by
    induction n with
    | zero =>
      intro t b hn
      rw [List.length_eq_zero_iff.1 (Nat.le_zero.1 hn)]
      exact nil b
    | succ n ih =>
      intro t b hn
      cases t with
      | nil => exact nil b
      | cons c r =>
        have hr : motive (c :: b) r (p.piecesFrom 0 (c :: b) r) :=
          ih r (c :: b) (Nat.le_of_succ_le_succ hn)
        cases hm : p.matchAt ⟨b, c :: r⟩ with
        | none =>
          rw [piecesFrom_plain hm]
          exact plain b c r _ (fun m he => by rw [hm] at he; cases he) hr
        | some m =>
          have ht : c :: r = m.text ++ m.stop.after := (leads_of_matchAt hm).after
          by_cases hne : m.text = []
          · rw [piecesFrom, hm]
            dsimp only
            rw [m.length_eq, hne, if_pos (by rfl)]
            refine plain b c r _ (fun m' he => ?_) hr
            rw [hm] at he
            cases he
            exact hne
          · have hlen := congrArg List.length ht
            have hpos := List.length_pos_iff.2 hne
            rw [ht] at hm ⊢
            rw [piecesFrom_found hne hm]
            refine found b m.stop.after _ m hne hm rfl (ih _ _ ?_)
            rw [List.length_append, List.length_cons] at hlen
            rw [List.length_cons] at hn
            omega
  exact hfrom t.length t [] (Nat.le_refl _)

/-- The pieces of a text are found from left to right: at each place a match, or one character. -/
theorem pieces_induction {motive : Text → Text → List Piece → Prop} (nil : ∀ b, motive b [] [])
    (plain : ∀ b c r ps, motive (c :: b) r ps → motive b (c :: r) (.plain c :: ps))
    (found : ∀ b r ps m, m.text ≠ [] → p.matchAt ⟨b, m.text ++ r⟩ = some m →
      m.stop.after = r → motive (m.text.reverse ++ b) r ps →
      motive b (m.text ++ r) (.found m :: ps)) (t : Text) : motive [] t (p.pieces t) :=
  pieces_induction_strong nil (fun b c r ps _ h => plain b c r ps h) found t

/-- What stands for a piece once every match is replaced. -/
def Piece.replaced (f : Match → Text) : Piece → Text
  | plain c => [c]
  | found m => f m

/-- The text with its matches replaced, where `b` stands in front of it, nearest first. -/
def replaceFrom (p : Pattern) (f : Match → Text) (b t : Text) : Text :=
  (p.piecesFrom 0 b t).flatMap (Piece.replaced f)

theorem replaceAll_eq (p : Pattern) (f : Match → Text) (t : Text) :
    p.replaceAll f t = p.replaceFrom f [] t := rfl

theorem replaceFrom_plain {f : Match → Text} {b r : Text} {c : Char}
    (h : p.matchAt ⟨b, c :: r⟩ = none) :
    p.replaceFrom f b (c :: r) = c :: p.replaceFrom f (c :: b) r := by
  rw [replaceFrom, piecesFrom_plain h]
  rfl

theorem replaceFrom_found {f : Match → Text} {b r : Text} {m : Match} (hne : m.text ≠ [])
    (hm : p.matchAt ⟨b, m.text ++ r⟩ = some m) :
    p.replaceFrom f b (m.text ++ r) = f m ++ p.replaceFrom f (m.text.reverse ++ b) r := by
  rw [replaceFrom, piecesFrom_found hne hm]
  rfl

/-- Replacing goes through a text from left to right: at each place a match is exchanged, or one
character stays. -/
theorem replaceAll_induction {f : Match → Text} {motive : Text → Text → Text → Prop}
    (nil : ∀ b, motive b [] [])
    (plain : ∀ b c r u, motive (c :: b) r u → motive b (c :: r) (c :: u))
    (found : ∀ b r u m, m.text ≠ [] → p.matchAt ⟨b, m.text ++ r⟩ = some m → m.stop.after = r →
      motive (m.text.reverse ++ b) r u → motive b (m.text ++ r) (f m ++ u)) (t : Text) :
    motive [] t (p.replaceAll f t) := by
  refine pieces_induction (motive := fun b t ps => motive b t (ps.flatMap (Piece.replaced f)))
    nil ?_ ?_ t
  · exact fun b c r ps h => plain b c r _ h
  · exact fun b r ps m hne hm hs h => found b r _ m hne hm hs h

end Pattern

end Worksheet
