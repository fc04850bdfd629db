import Worksheet.Proofs.Formats
import Worksheet.Proofs.Moments
import Worksheet.Proofs.Tellings
import Worksheet.Proofs.ZoneNames

/-!
# Moments read from what is told

**Theorem (`Moment.instant_ofText?_format`).** What is told of a moment is read as the same instant
if and only if the name of the period leads to a zone that has the offset of the moment.

A moment is told with its date, its hour and minute, and the name of the period of its zone. Of all
formats, only that of what is told reads it (`dates_told`): the others have other marks. An
abbreviation of a zone is split off before, and any other name keeps the text from being read
(`splitZone_format`). So the date and the time are those of the moment (`ofText?_format`), but the
zone is the one that the abbreviation stands for, and of two equal times the first is read.
-/

namespace Worksheet

open Text

namespace Moment

variable {m : Moment} {w : Text}

/-! ## What is told of a moment -/

/-- A moment as it is told, but for the name of its zone. -/
def told (m : Moment) : Text :=
  let minute := m.timeOfDay / (60 * microsPerSecond)
  m.formatDate ++ ' ' :: twoDigits (minute / 60) ++ ':' :: twoDigits (minute % 60)

theorem format_eq (m : Moment) : m.format = m.told ++ ' ' :: m.zoneName := rfl

/-- The format of what is told. -/
def toldFormat : Format := Format.isoDate ++ [.blank] ++ Format.time

/-- What is told, with the parts that it is made of. -/
def pieces (m : Moment) : List (FormatPart × Text) :=
  let d := m.date
  let minute := m.timeOfDay / (60 * microsPerSecond)
  [(.year, ofNat d.year), (.mark '-', ['-']), (.month, twoDigits d.month), (.mark '-', ['-']),
    (.day, twoDigits d.day), (.blank, [' ']), (.hour, twoDigits (minute / 60)), (.mark ':', [':']),
    (.minute, twoDigits (minute % 60))]

theorem flatMap_pieces (m : Moment) : m.pieces.flatMap Prod.snd = m.told := by
  simp [pieces, told, formatDate]

/-- The parts of a date and of a time of day are in their ranges. -/
theorem parts_bounds (m : Moment) :
    (m.date.year < 10000 ∧ 1 ≤ m.date.month ∧ m.date.month ≤ 12 ∧ 1 ≤ m.date.day ∧
      m.date.day ≤ 31) ∧ m.timeOfDay / (60 * microsPerSecond) / 60 < 24 := by
  obtain ⟨-, hy, hm, hm', hd, hd'⟩ := Date.isValid_iff.1 m.date_isValid
  have hlast : Date.daysInMonth m.date.year m.date.month ≤ 31 := by
    unfold Date.daysInMonth
    repeat' split
    all_goals omega
  have htime := m.timeOfDay_lt
  rw [Date.maxYear] at hy
  rw [microsPerDay] at htime
  rw [microsPerSecond]
  omega

theorem head?_twoDigits {n : Nat} (hn : n < 100) :
    (twoDigits n ++ w).head?.any isBlank = false := by
  rw [FormatPart.twoDigits_eq n hn]
  exact not_isBlank_of_isDigit (FormatPart.isDigit_digitChar _ (by omega))

theorem takeInTurn_pieces (hyear : 1000 ≤ m.date.year) : Format.TakeInTurn w m.pieces := by
  obtain ⟨⟨hy, hm, hm', hd, hd'⟩, hh⟩ := m.parts_bounds
  simp only [pieces, Format.TakeInTurn]
  refine ⟨FormatPart.takesFirst_year hyear hy, .one rfl, FormatPart.takesFirst_month hm hm',
    .one rfl, FormatPart.takesFirst_day hd hd', .blank rfl ?_, FormatPart.takesFirst_hour hh,
    .one rfl, FormatPart.takesFirst_minute (Nat.mod_lt _ (by decide)), trivial⟩
  rw [List.flatMap_cons, List.append_assoc]
  exact head?_twoDigits (by omega)

/-- The format of what is told reads it, if nothing follows. -/
theorem read?_told (hyear : 1000 ≤ m.date.year) (w : Text) :
    toldFormat.read? (m.told ++ w) =
      if w.isEmpty then
        some ⟨m.date, m.timeOfDay / (60 * microsPerSecond) / 60,
          m.timeOfDay / (60 * microsPerSecond) % 60, 0⟩
      else none := by
  obtain ⟨⟨hy, hm, hm', hd, hd'⟩, hh⟩ := m.parts_bounds
  obtain ⟨match', hmatch, hright, hgroup⟩ :=
    Format.exists_matchStart (takeInTurn_pieces (w := w) hyear)
  rw [flatMap_pieces] at hmatch
  have hnumber {p : FormatPart} {n : Nat} (hg : match'.group? p.key = some (twoDigits n))
      (hn : n < 100) : p.number? match' = some n := by
    rw [FormatPart.number?, hg, Option.bind_some]
    exact FormatPart.natural?_twoDigits n hn
  have hyear' : FormatPart.year.number? match' = some m.date.year := by
    rw [FormatPart.number?, hgroup]
    have hplain : trim (ofNat m.date.year) = ofNat m.date.year :=
      trim_of_not_blank fun c hc => not_isBlank_of_isDigit
        (isDigit_of_isAsciiDigit (List.all_eq_true.1 (Reference.ofNat_ascii _) c hc))
    show Literal.natural? (trim (ofNat m.date.year)) = _
    rw [hplain]
    exact Reference.natural?_ofNat (Nat.le_trans
      (Reference.length_ofNat_le (k := 4) (by omega) hy) (by decide))
  have hmonth := hnumber (p := .month) (hgroup _) (by omega)
  have hday := hnumber (p := .day) (hgroup _) (by omega)
  have hhour := hnumber (p := .hour) (hgroup _) (by omega)
  have hminute := hnumber (p := .minute) (hgroup _) (by omega)
  have hsecond : FormatPart.second.number? match' = none := by
    rw [FormatPart.number?, hgroup]
    rfl
  have hclock : FormatPart.clockHour.number? match' = none := by
    rw [FormatPart.number?, hgroup]
    rfl
  have hmonthOf : toldFormat.monthOf? match' = some m.date.month := by
    rw [Format.monthOf?, if_neg (by decide), if_neg (by decide), hmonth]
    rfl
  have hhourOf : Format.hourOf match' = m.timeOfDay / (60 * microsPerSecond) / 60 := by
    rw [Format.hourOf, hclock, hhour]
    rfl
  have hmatch' : (Format.pattern toldFormat).matchStart (m.told ++ w) = some match' := hmatch
  have hdate : (⟨m.date.year, m.date.month, m.date.day⟩ : Date).isValid = true := m.date_isValid
  rw [Format.read?, hmatch', Option.bind_eq_bind, Option.bind_some, hmonthOf, Option.bind_eq_bind,
    Option.bind_some, hyear', hday, hsecond, hhourOf, hminute]
  simp [hdate, hright]

/-! ## Formats that read what is told -/

theorem count_told (hyear : 1000 ≤ m.date.year) {c : Char} (hc : c ∈ FormatPart.marks) :
    m.told.count c = toldFormat.count (.mark c) := by
  have hread := read?_told hyear []
  rw [List.append_nil] at hread
  exact Format.count_of_read? hc hread

/-- A text with a dash is no time of day. -/
theorem times_eq_none {t : Text} (h : '-' ∈ t) :
    (Format.times.findSome? fun f => f.read? t) = none := by
  have hdashes : Format.times.all (fun f => f.count (.mark '-') == 0) = true := by decide
  refine List.findSome?_eq_none_iff.2 fun f hf => Format.read?_eq_none (c := '-') (by decide) ?_
  rw [beq_iff_eq.1 (List.all_eq_true.1 hdashes f hf)]
  exact (List.count_pos_iff.2 h).ne

/-- Of the formats of dates, only its own reads what is told. -/
theorem dates_told (hyear : 1000 ≤ m.date.year) (hw : ∀ c ∈ [':', ',', '/'], c ∉ w) :
    (Format.dates.findSome? fun f => f.read? (m.told ++ w)) = toldFormat.read? (m.told ++ w) := by
  have hcount {c : Char} (hc : c ∈ [':', ',', '/']) :
      (m.told ++ w).count c = toldFormat.count (.mark c) := by
    rw [List.count_append, count_told hyear (List.mem_of_mem_dropLast hc),
      List.count_eq_zero.2 (hw c hc), Nat.add_zero]
  -- Every other format has another number of some mark.
  have hnone {fs : List Format} (h : fs.all (fun f => [':', ',', '/'].any fun c =>
      f.count (.mark c) != toldFormat.count (.mark c)) = true) :
      (fs.findSome? fun f => f.read? (m.told ++ w)) = none := by
    refine List.findSome?_eq_none_iff.2 fun f hf => ?_
    obtain ⟨c, hc, hne⟩ := List.any_eq_true.1 (List.all_eq_true.1 h f hf)
    refine Format.read?_eq_none (List.mem_of_mem_dropLast hc) ?_
    rw [hcount hc]
    exact bne_iff_ne.1 hne
  have hdates : Format.dates = Format.dates.take 1 ++ toldFormat :: Format.dates.drop 2 := rfl
  rw [hdates, List.findSome?_append, List.findSome?_cons, hnone (by decide), hnone (by decide),
    Option.none_or]
  cases toldFormat.read? (m.told ++ w) <;> rfl

/-- A text with a dash is read by the formats of dates, whatever the clock shows. -/
theorem ofPlainText?_eq {t : Text} (h : '-' ∈ t) (now : Moment) (zone : Option Zone) :
    ofPlainText? now zone t = .ok ((Format.dates.findSome? fun f => f.read? t).bind fun r =>
      ofDate? r.date r.timeOfDay zone false) := by
  have hlow : '-' ∈ lower t := mem_lowerFrom_of_eq (by decide) (by decide) h
  have hword {word : Text} (hw : '-' ∉ word) : lower t ≠ word := fun he => hw (he ▸ hlow)
  have hnow : isNow (lower t) = false := Bool.or_eq_false_iff.2
    ⟨beq_eq_false_iff_ne.2 (hword (by decide)), beq_eq_false_iff_ne.2 (hword (by decide))⟩
  have hday : isDayWord (lower t) = false := by
    refine List.any_eq_false.2 fun w hw he => ?_
    refine hword ?_ (beq_iff_eq.1 he).symm
    fin_cases hw <;> decide
  unfold ofPlainText?
  dsimp only
  rw [hnow, hday, if_neg (by decide), if_neg (by decide)]
  cases Format.dates.findSome? fun f => f.read? t with
  | some r => rfl
  | none =>
    rw [times_eq_none hlow]
    rfl

/-- A moment is that of its date and its time of day. -/
theorem ofDate?_date (m : Moment) (zone : Option Zone) (fold : Bool) :
    ofDate? m.date m.timeOfDay zone fold = some ⟨m.wall, zone, fold, m.wall_lt⟩ := by
  have hday : m.date.ordinal = m.ordinal :=
    (Date.ofOrdinal_isValid m.one_le_ordinal m.ordinal_le).2
  have hwall : (m.date.ordinal - 1) * microsPerDay + m.timeOfDay = m.wall := by
    rw [hday, ordinal, timeOfDay, Nat.add_sub_cancel, Nat.div_add_mod']
  rw [ofDate?, if_pos (by simp [m.date_isValid, m.timeOfDay_lt]), hwall]
  exact dif_pos m.wall_lt

/-! ## The zone that is read -/

/-- The zone of what is read, by the name behind it: that of the clock if there is none, and that of
an abbreviation. With any other name nothing is read. -/
def readZone? (now : Moment) (name : Text) : Option (Option Zone) :=
  if name.isEmpty then some now.zone
  else if Zone.isAbbreviation name then some (Zone.ofText? name) else none

theorem notBlank_ofNat (n : Nat) : ofNat n ≠ [] ∧ ∀ c ∈ ofNat n, isBlank c = false :=
  ⟨Nat.toDigits_ne_nil, fun _ hc => not_isBlank_of_isDigit
    (isDigit_of_isAsciiDigit (List.all_eq_true.1 (Reference.ofNat_ascii n) _ hc))⟩

theorem notBlank_twoDigits (n : Nat) : twoDigits n ≠ [] ∧ ∀ c ∈ twoDigits n, isBlank c = false := by
  obtain ⟨hne, hall⟩ := notBlank_ofNat n
  refine ⟨List.append_ne_nil_of_right_ne_nil _ hne, fun c hc => ?_⟩
  rcases List.mem_append.1 hc with hc | hc
  · rw [List.eq_of_mem_replicate hc]
    rfl
  · exact hall c hc

theorem notBlank_of_isNameChar {c : Char} (h : Zone.isNameChar c = true) : isBlank c = false := by
  refine Bool.eq_false_iff.2 fun hb => ?_
  simp only [Zone.isNameChar, Char.isAlphanum, Char.isAlpha, Char.isUpper, Char.isLower,
    Char.isDigit, Bool.or_eq_true, Bool.and_eq_true, decide_eq_true_eq, beq_iff_eq, ge_iff_le,
    UInt32.le_iff_toNat_le] at h
  simp only [isBlank, Bool.or_eq_true, Bool.and_eq_true, decide_eq_true_eq, beq_iff_eq] at hb
  rcases h with (h | rfl) | rfl
  · have h : ((65 ≤ c.toNat ∧ c.toNat ≤ 90) ∨ (97 ≤ c.toNat ∧ c.toNat ≤ 122)) ∨
      48 ≤ c.toNat ∧ c.toNat ≤ 57 := h
    omega
  · exact absurd hb (by decide)
  · exact absurd hb (by decide)

theorem head?_append_notBlank {u : Text} (hu : u ≠ [] ∧ ∀ c ∈ u, isBlank c = false) (w : Text) :
    (u ++ w).head?.any isBlank = false := by
  obtain ⟨c, u, rfl⟩ := List.exists_cons_of_ne_nil hu.1
  exact hu.2 c List.mem_cons_self

theorem getLast?_append_notBlank {u : Text} (hu : u ≠ [] ∧ ∀ c ∈ u, isBlank c = false) (w : Text) :
    (w ++ u).getLast?.any isBlank = false := by
  have h := head?_append_notBlank (u := u.reverse) ⟨by simpa using hu.1, by simpa using hu.2⟩
    w.reverse
  rwa [← List.reverse_append, List.head?_reverse] at h

theorem told_eq (m : Moment) : m.told = ofNat m.date.year ++ '-' :: (twoDigits m.date.month ++
    '-' :: (twoDigits m.date.day ++ ' ' :: (twoDigits (m.timeOfDay / (60 * microsPerSecond) / 60) ++
      ':' :: twoDigits (m.timeOfDay / (60 * microsPerSecond) % 60)))) := by
  simp only [told, formatDate, List.append_assoc, List.cons_append]

theorem head?_told (m : Moment) (w : Text) : (m.told ++ w).head?.any isBlank = false := by
  rw [told_eq, List.append_assoc]
  exact head?_append_notBlank (notBlank_ofNat _) _

theorem getLast?_told (m : Moment) : m.told.getLast?.any isBlank = false := by
  rw [told, List.append_cons]
  exact getLast?_append_notBlank (notBlank_twoDigits _) _

theorem trim_format (hname : m.zoneName.all Zone.isNameChar = true) :
    trim m.format = if m.zoneName.isEmpty then m.told else m.format := by
  rw [format_eq]
  split
  · next hempty =>
    rw [List.isEmpty_iff.1 hempty, trim, trimBy, dropWhile_of_head? (head?_told m _),
      List.reverse_append, List.reverse_singleton, List.singleton_append,
      List.dropWhile_cons_of_pos (by rfl),
      dropWhile_of_head? (by rw [List.head?_reverse]; exact getLast?_told m), List.reverse_reverse]
  · next hne =>
    have hall : ∀ c ∈ m.zoneName, isBlank c = false := fun c hc =>
      notBlank_of_isNameChar (List.all_eq_true.1 hname c hc)
    refine Tight.trim_eq ⟨head?_told m _, ?_⟩
    rw [List.append_cons]
    exact getLast?_append_notBlank ⟨by simpa using hne, hall⟩ _

theorem cutAtLast_append {c : Char} {a b : Text} (h : c ∉ b) :
    cutAtLast c (a ++ c :: b) = some (a, b) := by
  rw [cutAtLast, List.reverse_append, List.reverse_cons, List.append_assoc, List.singleton_append,
    Reference.cutAt_append_cons (by simpa using h), Option.map_some]
  dsimp only
  rw [List.reverse_reverse, List.reverse_reverse]

/-- No abbreviation holds a colon. -/
theorem isAbbreviation_eq_false {t : Text} (h : ':' ∈ t) : Zone.isAbbreviation t = false := by
  refine Bool.eq_false_iff.2 fun hkey => ?_
  obtain ⟨name, hname⟩ := Option.isSome_iff_exists.1 hkey
  obtain ⟨l₁, l₂, hl, -⟩ := List.lookup_eq_some_iff.1 hname
  have hkeys : Zone.abbreviations.all (fun p => !p.1.toList.contains ':') = true := by decide
  have hno := List.all_eq_true.1 hkeys (String.ofList (lower t), name) (by simp [hl])
  rw [String.toList_ofList] at hno
  have hlow : ':' ∈ lower t := mem_lowerFrom_of_eq (by decide) (by decide) h
  simp [hlow] at hno

/-- The zone is split off where its name is an abbreviation. -/
theorem splitZone_format (hname : m.zoneName.all Zone.isNameChar = true) (zone : Option Zone) :
    splitZone zone (trim m.format) =
      if m.zoneName.isEmpty then (zone, m.told)
      else if Zone.isAbbreviation m.zoneName then (Zone.ofText? m.zoneName, m.told)
      else (zone, m.format) := by
  rw [trim_format hname]
  split
  · have hcut : cutAtLast ' ' m.told = some (m.formatDate,
        twoDigits (m.timeOfDay / (60 * microsPerSecond) / 60) ++
          ':' :: twoDigits (m.timeOfDay / (60 * microsPerSecond) % 60)) := by
      rw [told, List.append_assoc]
      refine cutAtLast_append fun hm => ?_
      have hnot {n : Nat} (hn : ' ' ∈ twoDigits n) : False :=
        absurd ((notBlank_twoDigits n).2 _ hn) (by decide)
      rcases List.mem_append.1 hm with hm | hm
      · exact hnot hm
      · exact hnot (List.mem_of_ne_of_mem (by decide) hm)
    rw [splitZone, hcut]
    dsimp only
    rw [isAbbreviation_eq_false (by simp), Bool.and_false]
    rfl
  · have hspace : ' ' ∉ m.zoneName := fun hm =>
      absurd (List.all_eq_true.1 hname _ hm) (by decide)
    rw [splitZone, format_eq, cutAtLast_append hspace]
    dsimp only
    have hne : m.told.isEmpty = false := by
      rw [told_eq]
      simp [(notBlank_ofNat m.date.year).1]
    rw [hne, Bool.not_false, Bool.true_and]

theorem all_isNameChar_zoneName (hz : ∀ z ∈ m.zone, ∃ name, Zone.ofName? name = some z) :
    m.zoneName.all Zone.isNameChar = true := by
  rw [zoneName, period?]
  cases h : m.zone with
  | none => rfl
  | some z =>
    obtain ⟨name, hname⟩ := hz z h
    exact Zone.all_isNameChar_ofName? hname _ _ _

/-- **What is told of a moment is read with the same date and time.** The zone is told by its name
only, and which of two equal times is meant is not told. -/
theorem ofText?_format (hz : ∀ z ∈ m.zone, ∃ name, Zone.ofName? name = some z)
    (hyear : 1000 ≤ m.date.year) (hminute : m.wall % (60 * microsPerSecond) = 0) (now : Moment) :
    ofText? now none m.format = .ok ((readZone? now m.zoneName).map fun zone =>
      ⟨m.wall, zone, false, m.wall_lt⟩) := by
  have hname := all_isNameChar_zoneName hz
  have hdash (w : Text) : '-' ∈ m.told ++ w := by
    rw [told_eq]
    simp
  have htime (zone : Option Zone) : ofPlainText? now zone m.told =
      .ok (some ⟨m.wall, zone, false, m.wall_lt⟩) := by
    have hdates := dates_told hyear (w := []) (by simp)
    have hread := read?_told hyear []
    rw [List.append_nil] at hdates hread
    have hday : ((m.timeOfDay / (60 * microsPerSecond) / 60 * 60 +
        m.timeOfDay / (60 * microsPerSecond) % 60) * 60 + 0) * microsPerSecond = m.timeOfDay := by
      have hzero : m.timeOfDay % (60 * microsPerSecond) = 0 := by
        rw [timeOfDay, microsPerDay, microsPerSecond] at *
        omega
      rw [microsPerSecond] at *
      omega
    have hplain := hdash []
    rw [List.append_nil] at hplain
    rw [ofPlainText?_eq hplain, hdates, hread, List.isEmpty_nil, if_pos rfl, Option.bind_some,
      Format.Reading.timeOfDay, hday, ofDate?_date]
  have hnothing (hne : m.zoneName.isEmpty = false) (zone : Option Zone) :
      ofPlainText? now zone m.format = .ok none := by
    have hmarks : ∀ c ∈ [':', ',', '/'], c ∉ ' ' :: m.zoneName := by
      have hchars : [':', ',', '/'].all (fun c => !Zone.isNameChar c && c != ' ') = true := by
        decide
      intro c hc hm
      have hno := List.all_eq_true.1 hchars c hc
      rcases List.mem_cons.1 hm with rfl | hm
      · simp at hno
      · rw [List.all_eq_true.1 hname c hm] at hno
        cases hno
    rw [format_eq, ofPlainText?_eq (hdash _), dates_told hyear hmarks, read?_told hyear]
    rfl
  rw [ofText?, splitZone_format hname, readZone?]
  by_cases hempty : m.zoneName.isEmpty = true
  · rw [if_pos hempty, if_pos hempty]
    exact htime _
  · rw [if_neg hempty, if_neg hempty]
    by_cases habbreviation : Zone.isAbbreviation m.zoneName = true
    · rw [if_pos habbreviation, if_pos habbreviation]
      exact htime _
    · rw [if_neg habbreviation, if_neg habbreviation]
      exact hnothing (by simpa using hempty) _

/-- A first occurrence is read as itself where its zone is the one that the name stands for. -/
theorem ofText?_format_eq_self (hz : ∀ z ∈ m.zone, ∃ name, Zone.ofName? name = some z)
    (hyear : 1000 ≤ m.date.year) (hminute : m.wall % (60 * microsPerSecond) = 0)
    (habbreviation : Zone.isAbbreviation m.zoneName = true)
    (hzone : Zone.ofText? m.zoneName = m.zone) (hfold : m.fold = false) (now : Moment) :
    ofText? now none m.format = .ok (some m) := by
  have hne : ¬m.zoneName.isEmpty = true := fun hempty => by
    rw [List.isEmpty_iff.1 hempty] at habbreviation
    exact absurd habbreviation (by decide)
  rw [ofText?_format hz hyear hminute now, readZone?, if_neg hne, if_pos habbreviation, hzone,
    Option.map_some, ← hfold]

/-- **What is told of a moment is read as that moment where its zone's name leads to its offset.** A
moment of a zone of the table, in the years from 1000 on and on a full minute, is told. What is read
is the same instant if and only if the zone that is read has, at the first occurrence of the time,
the offset that the moment has. -/
theorem instant_ofText?_format (hz : ∀ z ∈ m.zone, ∃ name, Zone.ofName? name = some z)
    (hyear : 1000 ≤ m.date.year) (hminute : m.wall % (60 * microsPerSecond) = 0) (now : Moment) :
    (∃ m', ofText? now none m.format = .ok (some m') ∧ m'.instant? = m.instant?) ↔
      ∃ zone, readZone? now m.zoneName = some zone ∧
        (⟨m.wall, zone, false, m.wall_lt⟩ : Moment).offset? = m.offset? := by
  have hsame (zone : Option Zone) :
      (⟨m.wall, zone, false, m.wall_lt⟩ : Moment).instant? = m.instant? ↔
        (⟨m.wall, zone, false, m.wall_lt⟩ : Moment).offset? = m.offset? := by
    have hinj : Function.Injective fun o : Int => (m.wall : Int) - o * microsPerSecond := by
      intro o o' h
      simp only [microsPerSecond] at h
      omega
    exact (Option.map_injective hinj).eq_iff
  rw [ofText?_format hz hyear hminute now]
  constructor
  · rintro ⟨m', hm', hinstant⟩
    obtain ⟨zone, hzone, rfl⟩ := Option.map_eq_some_iff.1 (Except.ok.inj hm')
    exact ⟨zone, hzone, (hsame zone).1 hinstant⟩
  · rintro ⟨zone, hzone, hoffset⟩
    exact ⟨_, by rw [hzone, Option.map_some], (hsame zone).2 hoffset⟩

/-- A time of Tokyo is told and read. -/
theorem instant_ofText?_format_tokyo :
    let m : Moment := ⟨63887227200000000, Zone.ofName? "Asia/Tokyo", false, by decide⟩
    m.format = "2025-07-04 12:00 JST".toList ∧
      ∃ m', ofText? m none m.format = .ok (some m') ∧ m'.instant? = m.instant? := by
  intro m
  have hname : m.zoneName = "JST".toList := by decide +kernel
  refine ⟨by decide +kernel, (instant_ofText?_format (fun z hz => ⟨_, hz⟩) (by decide +kernel)
    (by decide) m).2 ⟨Zone.ofText? "JST".toList, ?_, by decide +kernel⟩⟩
  rw [hname]
  rfl

-- The time of Honolulu is told by a name that is no abbreviation, and is not read.
example :
    let m : Moment := ⟨63887227200000000, Zone.ofName? "Pacific/Honolulu", false, by decide⟩
    m.format = "2025-07-04 12:00 HST".toList ∧
      (ofText? m none m.format).toOption.map Option.isNone = some true := by
  decide +kernel

end Moment

end Worksheet
