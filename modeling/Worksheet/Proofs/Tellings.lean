import Worksheet.Proofs.Moments
import Worksheet.Proofs.Unmarked

/-!
# What answers about dates tell

**Theorem (`Calendar.told_rules`).** An answer about dates is a moment told in full or by its date,
an amount of a unit, a span, a number of days, or a duration.

A moment is told with the name of a period of its zone. That is the zone of the clock, or one of the
table (`Zone.Available`), however the moment was come by. The only words that an answer takes over
from its expression are those for a unit.
-/

namespace Worksheet

open Text Result

/-! ## Zones -/

namespace ZoneTail

def periods : ZoneTail → List Period
  | steady p => [p]
  | seasonal standard summer _ _ => [standard, summer]

theorem atWall_mem (z : ZoneTail) (year : Nat) (t : Int) (fold : Bool) :
    z.atWall year t fold ∈ z.periods := by
  unfold atWall
  split
  · simp [periods]
  · dsimp only
    repeat' split
    all_goals simp [periods]

end ZoneTail

namespace ZoneData

def periods (z : ZoneData) : List Period :=
  z.before :: (z.changes.toList.map (·.2) ++ z.tail.periods)

theorem periodAt_mem (z : ZoneData) (i : Nat) : z.periodAt i ∈ z.periods := by
  unfold periodAt periods
  cases h : z.changes[i]? with
  | none => simp
  | some p =>
    have hp : p ∈ z.changes.toList := Array.mem_toList_iff.2 (Array.mem_of_getElem? h)
    exact List.mem_cons_of_mem _ (List.mem_append_left _ (List.mem_map_of_mem hp))

theorem atWall_mem (z : ZoneData) (year : Nat) (t : Int) (fold : Bool) :
    z.atWall year t fold ∈ z.periods := by
  unfold atWall
  dsimp only
  split
  · exact List.mem_cons_of_mem _ (List.mem_append_right _ (z.tail.atWall_mem year t fold))
  · unfold periodBefore
    split
    · exact List.mem_cons_self
    · exact z.periodAt_mem _

end ZoneData

namespace Zone

/-- The zone of the clock, or one of the table. -/
def Available (now : Moment) (z : Zone) : Prop :=
  z ∈ now.zone ∨ z = utc ∨ ∃ name, ofName? name = some z

theorem available_ofText? {now : Moment} {t : Text} {z : Zone} (h : ofText? t = some z) :
    z.Available now := .inr (.inr ⟨_, h⟩)

/-- What a name of a period of the table is made of. -/
def isNameChar (c : Char) : Bool := c.isAlphanum || c == '+' || c == '-'

theorem all_isNameChar_entries : ∀ es ∈ entries, ∀ e ∈ es, ∀ p ∈ e.periods ++ e.tail.periods,
    p.name.toList.all isNameChar = true := by
  decide +kernel

theorem unpack_mem {periods : List Period} {t : Int} {n : Nat} {cs : List Char} {c : Int × Period}
    (h : c ∈ ZoneEntry.unpack periods t n cs) : c.2 = default ∨ c.2 ∈ periods := by
  induction cs generalizing t n with
  | nil => cases h
  | cons d cs ih =>
    rw [ZoneEntry.unpack] at h
    split at h
    · rcases List.mem_cons.1 h with rfl | h
      · dsimp only
        rw [List.getD_eq_getElem?_getD]
        cases hp : periods[d.toNat - 65]? with
        | none => exact .inl rfl
        | some p => exact .inr (List.mem_of_getElem? hp)
      · exact ih h
    · exact ih h

theorem atWall_named {name : String} {d : ZoneData} {P : Period → Prop} (h : ∀ p ∈ d.periods, P p)
    (year : Nat) (t : Int) (fold : Bool) : P ((named name d).atWall year t fold) :=
  h _ (d.atWall_mem year t fold)

/-- What all periods of the table have is true of what its zones show. -/
theorem atWall_ofName? {P : Period → Prop} (hdefault : P default)
    (hentries : ∀ es ∈ entries, ∀ e ∈ es, ∀ p ∈ e.periods ++ e.tail.periods, P p) {name : String}
    {z : Zone} (h : ofName? name = some z) (year : Nat) (t : Int) (fold : Bool) :
    P (z.atWall year t fold) := by
  obtain ⟨e, he, h⟩ := Option.bind_eq_some_iff.1 h
  cases h
  obtain ⟨es, hes, he⟩ := List.exists_of_findSome?_eq_some he
  have hentry := hentries es hes e (List.mem_of_find?_eq_some he)
  have hperiod (p : Period) (hp : p = default ∨ p ∈ e.periods) : P p := by
    rcases hp with rfl | hp
    · exact hdefault
    · exact hentry p (List.mem_append_left _ hp)
  refine atWall_named (fun p hp => ?_) year t fold
  rcases List.mem_cons.1 hp with rfl | hp
  · refine hperiod _ ?_
    cases e.periods with
    | nil => exact .inl rfl
    | cons p ps => exact .inr List.mem_cons_self
  · rcases List.mem_append.1 hp with hp | hp
    · obtain ⟨c, hc, rfl⟩ := List.mem_map.1 hp
      exact hperiod _ (unpack_mem (List.mem_toArray.1 (Array.mem_toList_iff.1 hc)))
    · exact hentry p (List.mem_append_right _ hp)

/-- The periods of the zones of the table have plain names. -/
theorem all_isNameChar_ofName? {name : String} {z : Zone} (h : ofName? name = some z) (year : Nat)
    (t : Int) (fold : Bool) : (z.atWall year t fold).name.toList.all isNameChar = true :=
  atWall_ofName? (P := fun p => p.name.toList.all isNameChar = true) rfl all_isNameChar_entries h
    year t fold

/-- The zone's periods have no name with the character `c`. -/
def Lacks (c : Char) (z : Zone) : Prop := ∀ year t fold, c ∉ (z.atWall year t fold).name.toList

/-- The names of all zones that there are lack a character, if those of the clock's zone do and it is
none of a plain name. -/
theorem Available.lacks {now : Moment} {z : Zone} {c : Char} (h : z.Available now)
    (hnow : ∀ z ∈ now.zone, z.Lacks c) (hc : isNameChar c = false) : z.Lacks c := by
  rcases h with hz | rfl | ⟨name, hz⟩
  · exact hnow z hz
  · intro year t fold hm
    rw [List.all_eq_true.1 (show "UTC".toList.all isNameChar = true by decide) c hm] at hc
    cases hc
  · intro year t fold hm
    rw [List.all_eq_true.1 (all_isNameChar_ofName? hz year t fold) c hm] at hc
    cases hc

end Zone

/-! ## Moments -/

namespace Moment

variable {now m m' : Moment} {zone : Option Zone} {z : Zone} {t word : Text}

/-- The zone of a moment, if it has one, is one that there is. -/
def Placed (now m : Moment) : Prop := ∀ z ∈ m.zone, z.Available now

theorem placed_now (now : Moment) : now.Placed now := fun _ hz => .inl hz

theorem Placed.of_zone_eq (h : Placed now m) (hz : m'.zone = m.zone) : Placed now m' := by
  rwa [Placed, hz]

theorem Placed.toZone (h : Placed now m) (hz : z.Available now) (ht : m.toZone z = .ok m') :
    Placed now m' := by
  unfold Moment.toZone at ht
  split at ht
  · cases ht
    exact h
  · obtain ⟨utc, -, ht⟩ := bind_eq_ok.1 ht
    obtain ⟨there, -, ht⟩ := bind_eq_ok.1 ht
    cases ht
    intro z' hz'
    cases hz'
    exact hz

theorem Placed.shift {amount : Float} {u : TimeUnit} (h : Placed now m)
    (hm : m.shift amount u = .ok m') : Placed now m' := by
  unfold Moment.shift at hm
  split at hm
  · exact h.of_zone_eq (addMonths_spec hm).2.2.2.1
  · obtain ⟨d, -, hm⟩ := bind_eq_ok.1 hm
    exact h.of_zone_eq (add_eq_ok hm).2.1

theorem placed_inZone (hz : ∀ z ∈ zone, z.Available now) (hm : now.inZone zone = .ok m) :
    Placed now m := by
  refine (placed_now now).toZone ?_ hm
  cases zone with
  | none => exact .inr (.inl rfl)
  | some z => exact hz z rfl

theorem placed_ofDayWord (hz : ∀ z ∈ zone, z.Available now)
    (hm : ofDayWord now word zone = .ok m) : Placed now m := by
  obtain ⟨today, ht, hm⟩ := bind_eq_ok.1 hm
  refine (placed_inZone hz ht).of_zone_eq ?_
  rw [(add_eq_ok hm).2.1, zone_setTime]

theorem placed_ofPlainText? (hz : ∀ z ∈ zone, z.Available now)
    (hm : ofPlainText? now zone t = .ok (some m)) : Placed now m := by
  unfold Moment.ofPlainText? at hm
  dsimp only at hm
  split at hm
  · obtain ⟨m', hm', hm⟩ := bind_eq_ok.1 hm
    cases hm
    exact placed_inZone hz hm'
  split at hm
  · obtain ⟨m', hm', hm⟩ := bind_eq_ok.1 hm
    cases hm
    exact placed_ofDayWord hz hm'
  split at hm
  · rw [Placed, zone_ofDate? (Except.ok.inj hm)]
    exact hz
  split at hm
  · obtain ⟨m', hm', hm⟩ := bind_eq_ok.1 hm
    cases hm
    exact (placed_inZone hz hm').of_zone_eq (zone_setTime _ _)
  · cases hm

theorem placed_ofText? (hz : ∀ z ∈ zone, z.Available now)
    (hm : ofText? now zone t = .ok (some m)) : Placed now m := by
  have hzone : ∀ z ∈ zone.or now.zone, z.Available now := by
    cases zone with
    | none => exact placed_now now
    | some z => exact hz
  refine placed_ofPlainText? (fun z hz' => ?_) hm
  split at hz'
  · split at hz'
    · exact Zone.available_ofText? hz'
    · exact hzone z hz'
  · exact hzone z hz'

end Moment

/-! ## Answers -/

namespace Calendar

variable {now : Moment} {expr : Text} {p : Pattern} {f : Match → Result (Option Text)}

/-- The forms that an answer about dates to an expression can have. -/
inductive Told (now : Moment) (expr : Text) : Text → Prop
  | moment (m : Moment) (h : Moment.Placed now m) : Told now expr m.format
  | date (m : Moment) : Told now expr m.formatDate
  | amount (x : Float) (unit : Text) (h : unit ⊆ expr) :
    Told now expr (formatAmount x ++ ' ' :: unit)
  | span (s : Span) : Told now expr s.format
  | days (micros : Int) : Told now expr (formatDays micros)
  | duration (d : Duration) : Told now expr d.format

/-- What a computation gives, if anything, is told. -/
abbrev Tells (now : Moment) (expr : Text) (x : Result (Option Text)) : Prop :=
  Yields (fun a => ∀ t ∈ a, Told now expr t) x

theorem tells_some {t : Text} (h : Told now expr t) : Tells now expr (pure (some t)) :=
  yields_pure.2 fun _ ht => Option.some.inj ht ▸ h

theorem tells_onWhole (h : ∀ m, p.matchStart expr = some m → Tells now expr (f m)) (low : Text) :
    Tells now expr (onWhole p f expr low) := by
  unfold onWhole
  split
  · next m hm => exact h m hm
  · simp

theorem yields_orElseFail {α : Type} {P : α → Prop} {e : PhraseError} {x : Result α}
    (h : Yields P x) : Yields P (orElseFail e x) := by
  unfold orElseFail
  split
  · simp
  · simp
  · exact h

theorem tells_retold (t source target : Text) : Tells now expr (retold now t source target) := by
  unfold retold
  split
  · next source target hs ht =>
    refine yields_bind.2 fun m hm => ?_
    split
    · simp
    · next m =>
      refine yields_bind.2 fun m' hm' => tells_some (.moment m' ?_)
      have hm := Moment.placed_ofText? (fun z hz => by cases hz; exact Zone.available_ofText? hs) hm
      exact yields_orElseFail (fun m' h => hm.toZone (Zone.available_ofText? ht) h) m' hm'
  · simp

theorem tells_spanAt (ms : List Match) : Tells now expr (spanAt now ms) := by
  induction ms with
  | nil => simp [spanAt]
  | cons m ms ih =>
    refine yields_bind.2 fun a _ => yields_bind.2 fun b _ => ?_
    split
    · exact yields_bind.2 fun s _ => tells_some (.span s)
    · exact ih

theorem told_daysBetween (start stop : Moment) : Yields (Told now expr) (daysBetween start stop) := by
  have hdays (stop : Moment) :
      Yields (Told now expr) (do return formatDays (← start.between stop)) :=
    yields_bind.2 fun n _ => yields_pure.2 (.days n)
  unfold daysBetween
  refine yields_bind.2 fun inOrder _ => ?_
  cases inOrder with
  | true => exact hdays stop
  | false =>
    rw [if_neg (by decide)]
    cases stop.addMonths 12 with
    | ok stop => exact hdays stop
    | error e => split <;> exact yields_error _

theorem tells_rangeAt (low : Text) (ws : List Text) : Tells now expr (rangeAt now low ws) := by
  induction ws with
  | nil => simp [rangeAt]
  | cons w ws ih =>
    unfold rangeAt
    split
    · exact ih
    · exact ih
    · refine yields_bind.2 fun start _ => yields_bind.2 fun stop _ => ?_
      split
      · exact yields_bind.2 fun t ht => tells_some (told_daysBetween _ _ t ht)
      · simp

/-- Every answer about dates is told in one of the forms that there are. -/
theorem told_rules : ∀ rule ∈ rules now, ∀ low, Tells now expr (rule expr low) := by
  have hread {t : Text} {m : Moment} (hm : Moment.ofText? now none t = .ok (some m)) :
      Moment.Placed now m := Moment.placed_ofText? (by simp) hm
  intro rule hrule low
  simp only [rules, List.mem_cons, List.not_mem_nil, or_false] at hrule
  rcases hrule with rfl | rfl | rfl | rfl | rfl | rfl | rfl | rfl | rfl | rfl
  · refine tells_onWhole (fun m _ => ?_) low
    split
    · simp
    · next z hz =>
      exact yields_bind.2 fun m' hm' => tells_some (.moment m'
        ((Moment.placed_now now).toZone (Zone.available_ofText? hz) hm'))
  · unfold nowHere
    split
    · exact tells_some (.moment now (Moment.placed_now now))
    · split
      · exact yields_bind.2 fun m _ => tells_some (.date m)
      · simp
  · exact tells_onWhole (fun m _ => tells_retold _ _ _) low
  · exact tells_onWhole (fun m hm => yields_bind.2 fun x _ => yields_bind.2 fun y _ =>
      tells_some (.amount y _ (Pattern.group_part hm 3).subset)) low
  · refine tells_onWhole (fun m _ => yields_bind.2 fun base hbase => ?_) low
    split
    · simp
    · next base =>
      refine yields_bind.2 fun x _ => yields_bind.2 fun m' hm' => tells_some (.moment m' ?_)
      exact yields_orElseFail (fun m' h => (hread hbase).shift h) m' hm'
  · exact tells_spanAt _
  · exact tells_onWhole (fun m _ => tells_retold _ _ _) low
  · exact tells_rangeAt low rangeWords
  · unfold multiple
    split
    · simp
    · dsimp only
      split
      · simp
      · exact yields_bind.2 fun x _ => yields_bind.2 fun y _ => yields_bind.2 fun d _ =>
          tells_some (.duration d)
  · refine yields_bind.2 fun m hm => yields_pure.2 fun t ht => ?_
    obtain ⟨m, rfl, rfl⟩ := Option.map_eq_some_iff.1 ht
    exact .moment m (hread hm)

theorem told_run {t : Text} (h : PhraseRule.run (rules now) expr = .ok (some t)) :
    Told now (trim expr) t := by
  obtain ⟨rule, hrule, ht⟩ := PhraseRule.exists_of_run h
  exact told_rules rule hrule _ _ ht t rfl

end Calendar

end Worksheet
