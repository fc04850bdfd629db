/-!
# Text as a list of characters

Lines, expressions and results are lists of characters. This file holds the ways to cut a text (at a
character, at a phrase, into lines) and to take blanks off its ends. `join_split` says that cutting
at a character loses nothing.
-/

namespace Worksheet

abbrev Text := List Char

namespace Text

/-- A number in decimal digits. -/
def ofNat (n : Nat) : Text := Nat.toDigits 10 n

/-- A whole number in decimal digits, with `-` in front of a negative one. -/
def ofInt : Int → Text
  | .ofNat n => ofNat n
  | .negSucc n => '-' :: ofNat (n + 1)

/-! ## Lines -/

/-- Cuts a text at every `sep`; the pieces are one more than the separators. -/
def split (sep : Char) : Text → List Text
  | [] => [[]]
  | c :: r =>
    if c = sep then [] :: split sep r
    else match split sep r with
      | [] => [[c]]
      | p :: ps => (c :: p) :: ps

/-- The pieces with `sep` between them. -/
def join (sep : Text) : List Text → Text
  | [] => []
  | [p] => p
  | p :: q :: ps => p ++ sep ++ join sep (q :: ps)

abbrev lines (t : Text) : List Text := split '\n' t

abbrev unlines (ls : List Text) : Text := join ['\n'] ls

theorem split_ne_nil (sep : Char) (t : Text) : split sep t ≠ [] := by
  cases t with
  | nil => simp [split]
  | cons c r =>
    rw [split]
    split
    · simp
    · split <;> simp

theorem join_split (sep : Char) (t : Text) : join [sep] (split sep t) = t := by
  induction t with
  | nil => rfl
  | cons c r ih =>
    have hne := split_ne_nil sep r
    rw [split]
    match h : split sep r, hne with
    | p :: ps, _ =>
      rw [h] at ih
      split
      · next hc => simp [join, hc, ih]
      · cases ps with
        | nil => simpa [join] using ih
        | cons q qs => simpa [join] using ih

theorem not_mem_of_mem_split {sep : Char} {t p : Text} (h : p ∈ split sep t) : sep ∉ p := by
  induction t generalizing p with
  | nil => simp [split] at h; simp [h]
  | cons c r ih =>
    rw [split] at h
    split at h
    · simp only [List.mem_cons] at h
      rcases h with rfl | h
      · simp
      · exact ih h
    · next hc =>
      match hs : split sep r with
      | [] => exact absurd hs (split_ne_nil sep r)
      | q :: qs =>
        rw [hs] at h ih
        simp only [List.mem_cons] at h
        rcases h with rfl | h
        · simp only [List.mem_cons, not_or]
          exact ⟨fun e => hc e.symm, ih (by simp)⟩
        · exact ih (by simp [h])

/-! ## Cutting at a phrase -/

/-- What stands before and after the first `sep`. -/
def cutAt (sep : Char) : Text → Option (Text × Text)
  | [] => none
  | c :: r => if c = sep then some ([], r) else (cutAt sep r).map fun (a, b) => (c :: a, b)

/-- What stands before and after the last `sep`. -/
def cutAtLast (sep : Char) (t : Text) : Option (Text × Text) :=
  (cutAt sep t.reverse).map fun (a, b) => (b.reverse, a.reverse)

/-- What stands before and after the first occurrence of a phrase. -/
def cutAtPhrase (phrase : Text) : Text → Option (Text × Text)
  | [] => if phrase.isEmpty then some ([], []) else none
  | c :: r =>
    if phrase.isPrefixOf (c :: r) then some ([], (c :: r).drop phrase.length)
    else (cutAtPhrase phrase r).map fun (a, b) => (c :: a, b)

/-- Whether a phrase occurs in a text. -/
def occursIn (phrase t : Text) : Bool := (cutAtPhrase phrase t).isSome

/-! ## Ends -/

/-- Takes the characters of a class off both ends. -/
def trimBy (p : Char → Bool) (t : Text) : Text := ((t.dropWhile p).reverse.dropWhile p).reverse

/-- Takes the characters of a class off the right end. -/
def trimRightBy (p : Char → Bool) (t : Text) : Text := (t.reverse.dropWhile p).reverse

theorem trimBy_eq (p : Char → Bool) (t : Text) : trimBy p t = trimRightBy p (t.dropWhile p) := rfl

/-- A text with spaces in front of it, up to a width. -/
def padLeft (fill : Char) (width : Nat) (t : Text) : Text :=
  List.replicate (width - t.length) fill ++ t

end Text

end Worksheet
