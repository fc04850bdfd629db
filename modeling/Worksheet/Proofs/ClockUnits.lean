import Worksheet.Proofs.Moments
import Worksheet.Proofs.Values

/-!
# Seconds, minutes and hours

A whole number of seconds, minutes or hours is counted on the wall clock, whatever the zone.

**Theorem (`Moment.instant_shift`).** The wall time moves by exactly that number, and the instant by
as much less what the offset of the zone gains between the two wall times. So the instant moves by
that number exactly if the offset is the same.
-/

namespace Worksheet

open Text Binary

/-- The spellings of the units that a clock counts, with their microseconds. -/
def clockSpellings : List (String × Nat) :=
  [("second", 1000000), ("seconds", 1000000), ("sec", 1000000), ("secs", 1000000),
    ("minute", 60000000), ("minutes", 60000000), ("min", 60000000), ("mins", 60000000),
    ("hour", 3600000000), ("hours", 3600000000), ("hr", 3600000000), ("hrs", 3600000000)]

/-! ## Whole amounts -/

namespace Duration

variable {amount : Float} {a n : ℤ} {size : ℕ}

/-- What is behind the point of a whole number is a zero with its sign. -/
theorem part_of_whole {b : Binary} (h : b.fraction.1 % b.fraction.2 = 0) :
    b.part = if b.negative then -(Float.ofBits 0) else Float.ofBits 0 := by
  rw [part, h]
  rfl

/-- A zero part of a unit has no microseconds. -/
theorem part_mul_size {p : String × Nat} (hp : p ∈ clockSpellings) (negative : Bool) :
    ofFloat? ((if negative then -(Float.ofBits 0) else Float.ofBits 0) * Binary.ofNat p.2) =
      some ⟨negative, 0, -1074⟩ := by
  have h : ∀ p ∈ clockSpellings, ∀ negative : Bool,
      ofFloat? ((if negative then -(Float.ofBits 0) else Float.ofBits 0) * Binary.ofNat p.2) =
        some ⟨negative, 0, -1074⟩ := by decide +kernel
  exact h p hp negative

theorem addPart_zero (n : ℤ) (negative : Bool) :
    addPart n (Binary.part ⟨negative, 0, -1074⟩) = n := by
  have hpart : ¬0.5 < Binary.part ⟨negative, 0, -1074⟩ ∧
      (Binary.part ⟨negative, 0, -1074⟩ == 0.5) = false ∧
      ¬Binary.part ⟨negative, 0, -1074⟩ < -0.5 ∧
      (Binary.part ⟨negative, 0, -1074⟩ == -0.5) = false := by
    cases negative <;> decide +kernel
  obtain ⟨hup, hhalf, hdown, hhalf'⟩ := hpart
  simp [addPart, hup, hhalf, hdown, hhalf']

/-- A whole number of units is exactly as many microseconds. -/
theorem ofUnits_whole {p : String × Nat} (hp : p ∈ clockSpellings)
    (ha : valueOf? amount = some (a : ℚ)) : ofUnits amount p.2 = ofMicros (a * p.2) := by
  obtain ⟨b, hb, hvalue⟩ := exists_of_valueOf? ha
  obtain ⟨hwhole, htruncate⟩ := truncate_of_value hvalue
  have hnone : (⟨b.negative, 0, -1074⟩ : Binary).truncate = 0 := by
    cases b.negative <;> decide +kernel
  rw [ofUnits, hb]
  dsimp only
  rw [part_of_whole hwhole, part_mul_size hp, htruncate]
  dsimp only
  rw [hnone, Int.add_zero, addPart_zero]

end Duration

/-! ## Moving a moment -/

namespace Moment

variable {t u : Moment} {amount : Float} {a : ℤ} {w : Text} {p : String × Nat}

/-- A unit that a clock counts is not counted in months. -/
theorem shift_of_spelling (hp : p ∈ clockSpellings) (hw : lower w = p.1.toList) :
    t.shift amount (.ofWord w) = (Duration.ofUnits amount p.2 >>= fun d => t.add d.micros) := by
  have hunit : (TimeUnit.ofWord w = .second ∧ p.2 = 1000000) ∨
      (TimeUnit.ofWord w = .minute ∧ p.2 = 60000000) ∨
      (TimeUnit.ofWord w = .hour ∧ p.2 = 3600000000) := by
    unfold TimeUnit.ofWord
    rw [hw]
    clear hw
    revert p
    decide
  rcases hunit with ⟨hu, hsize⟩ | ⟨hu, hsize⟩ | ⟨hu, hsize⟩ <;> rw [hu, hsize] <;> rfl

theorem inYears_of_add {n : ℤ} (h : t.add n = .ok u) : InYears (t.wall + n) := by
  have hlt := u.wall_lt
  have hwall := (add_eq_ok h).1
  exact ⟨by omega, by omega⟩

/-- Inside the calendar no duration is too long. -/
theorem ofMicros_eq_ok {n : ℤ} (h : InYears (t.wall + n)) : Duration.ofMicros n = .ok ⟨n⟩ := by
  have hwall := t.wall_lt
  unfold InYears at h
  rw [Date.maxOrdinal] at h hwall
  rw [Duration.ofMicros, if_pos]
  rw [Duration.microsPerDay, Duration.maxDays, Int.fdiv_eq_ediv_of_nonneg _ (by decide)]
  omega

theorem micros_ofMicros {n : ℤ} {d : Duration} (h : Duration.ofMicros n = .ok d) :
    d.micros = n := by
  unfold Duration.ofMicros at h
  split at h <;> cases h
  rfl

/-- A whole number of units is added on the wall clock. -/
theorem shift_eq_ok (hp : p ∈ clockSpellings) (hw : lower w = p.1.toList)
    (ha : valueOf? amount = some (a : ℚ)) :
    t.shift amount (.ofWord w) = .ok u ↔ t.add (a * p.2) = .ok u := by
  rw [shift_of_spelling hp hw, Duration.ofUnits_whole hp ha]
  constructor
  · intro h
    obtain ⟨d, hd, h⟩ := Result.bind_eq_ok.1 h
    rwa [micros_ofMicros hd] at h
  · intro h
    rw [ofMicros_eq_ok (inYears_of_add h)]
    exact h

/-- **Theorem.** A whole number of seconds, minutes or hours moves the wall time by that number, if
the calendar has the time, and the instant by as much less what the offset gains. -/
theorem instant_shift {z : Zone} (hz : t.zone = some z) (hp : p ∈ clockSpellings)
    (hw : lower w = p.1.toList) (ha : valueOf? amount = some (a : ℚ)) :
    ((∃ u, t.shift amount (.ofWord w) = .ok u) ↔ InYears (t.wall + a * p.2)) ∧
      ∀ u, t.shift amount (.ofWord w) = .ok u → u.zone = some z ∧ u.wall = t.wall + a * p.2 ∧
        ∃ i j o o', t.instant? = some i ∧ u.instant? = some j ∧ t.offset? = some o ∧
          u.offset? = some o' ∧ j = i + a * p.2 - (o' - o) * microsPerSecond ∧
          (j = i + a * p.2 ↔ o' = o) := by
  simp only [shift_eq_ok hp hw ha]
  refine ⟨⟨fun ⟨u, h⟩ => inYears_of_add h, fun h => ?_⟩, fun u h => ?_⟩
  · cases hadd : t.add (a * p.2) with
    | ok u => exact ⟨u, rfl⟩
    | error e =>
      rw [add_error hadd] at hadd
      exact absurd h (faults_add.1 ⟨_, hadd⟩)
  · obtain ⟨hwall, hzone, -⟩ := add_eq_ok h
    rw [hz] at hzone
    have ho : t.offset? = some (z.atWall t.date.year t.wallSeconds t.fold).offset := by
      rw [offset?, period?, hz]
      rfl
    have ho' : u.offset? = some (z.atWall u.date.year u.wallSeconds u.fold).offset := by
      rw [offset?, period?, hzone]
      rfl
    generalize (z.atWall t.date.year t.wallSeconds t.fold).offset = o at ho
    generalize (z.atWall u.date.year u.wallSeconds u.fold).offset = o' at ho'
    refine ⟨hzone, hwall, t.wall - o * microsPerSecond, u.wall - o' * microsPerSecond, o, o',
      by rw [instant?, ho]; rfl, by rw [instant?, ho']; rfl, ho, ho', ?_, ?_⟩
    · rw [hwall]
      ring
    · rw [hwall, microsPerSecond]
      omega

/-- From noon to noon over the night in which Pyongyang sets its clocks forward by half an hour, 24
hours are added on the wall clock and 23 hours and a half pass. -/
theorem instant_shift_pyongyang :
    let t : Moment := ⟨63661032000000000, Zone.ofName? "Asia/Pyongyang", false, by decide⟩
    ∃ u i j, t.shift 24 (.ofWord "Hours".toList) = .ok u ∧ u.wall = t.wall + 24 * 3600000000 ∧
      t.instant? = some i ∧ u.instant? = some j ∧ 2 * (j - i) = 47 * 3600000000 := by
  intro t
  obtain ⟨z, hz⟩ : ∃ z, t.zone = some z := Option.isSome_iff_exists.1 (by decide +kernel)
  have ha : valueOf? 24 = some ((24 : ℤ) : ℚ) := by decide +kernel
  obtain ⟨hiff, hmoved⟩ := instant_shift hz (p := ("hours", 3600000000)) (by decide)
    (w := "Hours".toList) (by decide +kernel) ha
  obtain ⟨u, hu⟩ := hiff.2 ⟨by decide, by decide⟩
  obtain ⟨-, hwall, i, j, o, o', hi, hj, ho, ho', hgain, -⟩ := hmoved u hu
  have hbefore : t.offset? = some 30600 := by decide +kernel
  have hafter : (t.shift 24 (.ofWord "Hours".toList)).toOption.map offset? =
      some (some 32400) := by decide +kernel
  rw [hu] at hafter
  obtain rfl := Option.some.inj (ho.symm.trans hbefore)
  obtain rfl := Option.some.inj (ho'.symm.trans (Option.some.inj hafter))
  refine ⟨u, i, j, hu, by exact_mod_cast hwall, hi, hj, ?_⟩
  rw [hgain, microsPerSecond]
  omega

end Moment

end Worksheet
