import Worksheet.Evaluator
import Worksheet.Proofs.Result
import Worksheet.Proofs.Scanning
import Worksheet.Proofs.Widths

/-!
# Limits of phrases and of arithmetic

A phrase that a rule recognises may still end in a fault. For each rule this file says when: a run
of digits too long to be read, a number beyond the largest double, or a fault of the conversion
between units. All other failures of these rules are failures of the line. The rules about dates
have limits of their own and a file of their own.
-/

namespace Worksheet

open Text Result

/-! ## Rules with their limits -/

/-- A rule, and what makes it fault for an expression and its lower case. -/
structure LimitedRule where
  rule : PhraseRule
  limit : Text → Text → Prop

namespace LimitedRule

/-- A rule that never faults. -/
def harmless (rule : PhraseRule) : LimitedRule := ⟨rule, fun _ _ => False⟩

/-- The rule faults at its limit, and only there. -/
def Exact (r : LimitedRule) : Prop := ∀ expr low, Faults (r.rule expr low) ↔ r.limit expr low

/-- The rules come to the limit of one, as those in front of it do not recognise the expression. -/
def Reach : List LimitedRule → Text → Text → Prop
  | [], _, _ => False
  | r :: rs, expr, low => r.limit expr low ∨ (r.rule expr low = .ok none ∧ Reach rs expr low)

theorem faults_firstAnswer {rs : List LimitedRule} (h : ∀ r ∈ rs, r.Exact) (expr low : Text) :
    Faults (PhraseRule.firstAnswer (rs.map (·.rule)) expr low) ↔ Reach rs expr low := by
  induction rs with
  | nil => exact iff_of_false (not_faults_ok _) id
  | cons r rs ih =>
    rw [List.map_cons, PhraseRule.firstAnswer, faults_bind, h r List.mem_cons_self, Reach,
      ← ih fun r hr => h r (List.mem_cons_of_mem _ hr)]
    refine or_congr Iff.rfl ⟨?_, fun ⟨hr, hf⟩ => ⟨none, hr, hf⟩⟩
    rintro ⟨_ | t, hr, hf⟩
    · exact ⟨hr, hf⟩
    · exact absurd hf (not_faults_pure _)

theorem exact_harmless {rule : PhraseRule} (h : ∀ expr low, ¬Faults (rule expr low)) :
    (harmless rule).Exact := fun expr low => iff_of_false (h expr low) id

end LimitedRule

/-! ## Numbers -/

/-- A number is not read if it has too many digits. -/
theorem faults_natural? {digits : Text} {α : Type} {a : Nat → α} :
    Faults (match Literal.natural? digits with
      | some n => .ok (a n)
      | none => .error (.fault .badValue)) ↔ Literal.maxDigits < digits.length := by
  unfold Literal.natural?
  split
  · next n hn =>
    split at hn
    · cases hn
    · next h => simpa using h
  · next hn =>
    split at hn
    · next h => simpa using h
    · cases hn

/-! ## Matches -/

section Matches

variable {ps : List Pattern} {f : Match → Result Text} {expr low : Text} {m : Match} {k : Nat}

theorem faults_onMatch : Faults (PhraseRule.onMatch ps f expr low) ↔
    ∃ m, (ps.findSome? fun p => p.search low) = some m ∧ Faults (f m) := by
  unfold PhraseRule.onMatch
  split
  · next m hm => exact (faults_map (g := some)).trans (by simp [hm])
  · next hm => simp [hm]

theorem not_faults_onMatch (h : ∀ m, ¬Faults (f m)) : ¬Faults (PhraseRule.onMatch ps f expr low) :=
  fun hf => by
    obtain ⟨m, -, hm⟩ := faults_onMatch.1 hf
    exact h m hm

theorem faults_natural : Faults (m.natural k) ↔ Literal.maxDigits < (m.group k).length :=
  faults_natural? (a := fun n => n)

@[simp] theorem not_faults_number : ¬Faults (m.number k) := by
  unfold Match.number
  split <;> simp

end Matches

/-! ## Subnets -/

namespace Subnet

open LimitedRule

/-- The number that a phrase ends in has too many digits. -/
def countLimit (ps : List Pattern) (_ low : Text) : Prop :=
  ∃ m, (ps.findSome? fun p => p.search low) = some m ∧ Literal.maxDigits < (m.group 2).length

/-- The rules that read no number, or one of two digits. -/
def others : List PhraseRule := [
  hostCount, hostCountOfPrefix, blockInfo, wildcardMask, maskOfPrefix, prefixFromMask, inRange, next,
  broadcastAddress, networkAddress, bare]

/-- The rules about subnets. Those that split a block read a number of any length. -/
def limited : List LimitedRule :=
  ⟨splitByCount, countLimit splitCountPatterns⟩ ::
    ⟨splitByHosts, countLimit splitHostsPatterns⟩ :: others.map harmless

theorem map_limited : limited.map (·.rule) = rules := by
  simp only [limited, others, harmless, List.map_cons, List.map_nil, rules]

@[simp] theorem not_faults_readAddress (t : Text) : ¬Faults (Address.read t) := by
  unfold Address.read
  split <;> simp

@[simp] theorem not_faults_readBlock (t : Text) : ¬Faults (Block.read t) := by
  unfold Block.read
  split <;> simp

@[simp] theorem not_faults_checkLength (n : Int) : ¬Faults (checkLength n) := by
  unfold checkLength
  split <;> simp

@[simp] theorem not_faults_lengthOfMask (t : Text) : ¬Faults (lengthOfMask t) := by
  unfold lengthOfMask
  simp only [faults_bind, not_faults_readAddress, false_or, not_exists, not_and]
  intro a _
  split <;> simp

@[simp] theorem not_faults_next (b : Block) : ¬Faults b.next := by
  unfold Block.next
  split <;> simp

@[simp] theorem not_faults_splitCount (b : Block) (n : Int) (l : Option Int) :
    ¬Faults (b.splitCount n l) := by
  unfold Block.splitCount
  split
  · simp
  · dsimp only
    split <;> simp

/-- A number of hosts that was read is not negative. -/
@[simp] theorem not_faults_lengthForHosts (b : Block) (n : Nat) : ¬Faults (b.lengthForHosts n) := by
  unfold Block.lengthForHosts
  rw [if_neg (by omega)]
  dsimp only
  split <;> simp

@[simp] theorem not_faults_splitHosts (b : Block) (n : Nat) (l : Option Int) :
    ¬Faults (b.splitHosts n l) := fun h => not_faults_lengthForHosts b n (faults_map.1 h)

@[simp] theorem not_faults_hostSplitCount (b : Block) (n : Nat) : ¬Faults (b.hostSplitCount n) :=
  fun h => not_faults_lengthForHosts b n (faults_map.1 h)

/-- A rule that reads one number of at most two digits. -/
theorem not_faults_onLength {p : Pattern} (hp : p.confines 1 2 = true) {f : Nat → Result Text}
    (hf : ∀ n, ¬Faults (f n)) (expr low : Text) :
    ¬Faults (PhraseRule.onMatch [p] (fun m => do f (← m.natural 1)) expr low) := fun h => by
  obtain ⟨m, hm, h⟩ := faults_onMatch.1 h
  have hm : p.search low = some m := by simpa using hm
  have hlen := Pattern.length_group_le hp hm
  rcases faults_bind.1 h with h | ⟨n, -, h⟩
  · rw [faults_natural, Literal.maxDigits] at h
    omega
  · exact hf n h

/-- A rule that reads one number of any length. -/
theorem faults_onCount {ps : List Pattern} {f : Match → Nat → Result Text}
    (hf : ∀ m n, ¬Faults (f m n)) (expr low : Text) :
    Faults (PhraseRule.onMatch ps (fun m => do f m (← m.natural 2)) expr low) ↔
      countLimit ps expr low := by
  rw [faults_onMatch]
  refine exists_congr fun m => and_congr_right fun _ => ?_
  rw [faults_bind, faults_natural, or_iff_left]
  rintro ⟨n, -, h⟩
  exact hf m n h

theorem not_faults_others : ∀ rule ∈ others, ∀ expr low, ¬Faults (rule expr low) := by
  simp only [others, List.forall_mem_cons]
  refine ⟨fun _ _ => ?hostCount, fun _ _ => ?hostCountOfPrefix, fun _ _ => ?blockInfo,
    fun _ _ => ?wildcardMask, fun _ _ => ?maskOfPrefix, fun _ _ => ?prefixFromMask,
    fun _ _ => ?inRange, fun _ _ => ?next, fun _ _ => ?broadcastAddress,
    fun _ _ => ?networkAddress, fun expr _ => ?bare, nofun⟩
  case hostCountOfPrefix => exact not_faults_onLength (by decide) (fun n => by simp) _ _
  case wildcardMask => exact not_faults_onLength (by decide) (fun n => by simp) _ _
  case maskOfPrefix => exact not_faults_onLength (by decide) (fun n => by simp) _ _
  case bare =>
    unfold bare
    split <;> simp
  all_goals exact not_faults_onMatch fun m => by simp [faults_bind]

theorem exact_limited : ∀ r ∈ limited, r.Exact := by
  simp only [limited, List.forall_mem_cons, List.forall_mem_map]
  refine ⟨faults_onCount fun m n => ?_, faults_onCount fun m n => ?_, fun rule h =>
    exact_harmless (not_faults_others rule h)⟩
  · simp [faults_bind]
  · simp [faults_bind]

end Subnet

/-! ## Percentages -/

namespace Percentage

open LimitedRule

/-- The number of ways in which a bill is split has too many digits, or lies beyond the largest
double. The amount is read before it, and so is the tip before the bill is split. -/
def waysLimit (_ low : Text) : Prop :=
  ∃ m, (splitBill.findSome? fun p => p.search low) = some m ∧ (∃ x, m.number 1 = .ok x) ∧
    (Literal.maxDigits < (m.group 2).length ∨
      ∃ n, m.natural 2 = .ok n ∧ Binary.ofNat? n = none ∧
        ((m.group? 3).isSome = true → ∃ x, m.number 3 = .ok x))

/-- The rules that read no whole number. -/
def others : List PhraseRule :=
  [whatIsShare, whatPercentIs, decrease, increase, change, tipOn]

def limited : List LimitedRule := others.map harmless ++ [⟨split, waysLimit⟩]

theorem map_limited : limited.map (·.rule) = rules := by
  simp only [limited, others, harmless, List.map_cons, List.map_nil, List.cons_append,
    List.nil_append, rules]

theorem not_faults_others : ∀ rule ∈ others, ∀ expr low, ¬Faults (rule expr low) := by
  simp only [others, List.forall_mem_cons]
  refine ⟨fun _ _ => ?whatIsShare, fun _ _ => ?whatPercentIs, fun _ _ => ?decrease,
    fun _ _ => ?increase, fun _ _ => ?change, fun _ _ => ?tipOn, nofun⟩
  all_goals
    refine not_faults_onMatch fun m => ?_
    simp only [faults_bind, not_faults_number, false_or, not_exists, not_and]
    intro x _ y _
  case whatPercentIs | change => split <;> simp
  all_goals simp

theorem ofNat?_zero : Binary.ofNat? 0 ≠ none := by
  unfold Binary.ofNat?
  rw [if_neg (by decide)]
  nofun

theorem exact_split : LimitedRule.Exact ⟨split, waysLimit⟩ := fun expr low => by
  unfold waysLimit split
  rw [faults_onMatch]
  refine exists_congr fun m => and_congr_right fun _ => ?_
  simp only [faults_bind, not_faults_number, false_or, faults_natural]
  rw [← exists_and_right]
  refine exists_congr fun x => and_congr_right fun _ => or_congr Iff.rfl ?_
  refine exists_congr fun n => and_congr_right fun _ => ?_
  by_cases hn : n = 0
  · rw [if_pos hn, hn]
    exact iff_of_false (not_faults_line _) fun h => ofNat?_zero h.1
  · rw [if_neg hn]
    cases Binary.ofNat? n with
    | none =>
      cases m.group? 3 with
      | none => exact iff_of_true (faults_fault _) ⟨rfl, nofun⟩
      | some t =>
        rw [faults_bind]
        exact ⟨fun h => ⟨rfl, fun _ => (h.resolve_left not_faults_number).imp fun _ h => h.1⟩,
          fun h => .inr ((h.2 rfl).imp fun _ h => ⟨h, faults_fault _⟩)⟩
    | some w =>
      refine iff_of_false ?_ fun h => nomatch h.1
      cases m.group? 3 with
      | none => exact not_faults_pure _
      | some t =>
        rw [faults_bind]
        rintro (h | ⟨y, -, h⟩)
        · exact not_faults_number h
        · exact not_faults_pure _ h

theorem exact_limited : ∀ r ∈ limited, r.Exact := by
  simp only [limited, List.forall_mem_append, List.forall_mem_map, List.forall_mem_singleton]
  exact ⟨fun rule h => exact_harmless (not_faults_others rule h), exact_split⟩

end Percentage

/-! ## Units -/

section Units

open LimitedRule

/-- The conversion between two units that are not both currencies ends in a fault of its own. -/
def Measure.conversionLimit (expr _ : Text) : Prop :=
  ∃ c, Conversion.ofText? expr = some c ∧
    ((commonName? c.source).isSome = true ∨ (commonName? c.target).isSome = true) ∧
      ∃ f, convertNamed c.amount ((commonName? c.source).getD c.source)
        ((commonName? c.target).getD c.target) = .error (.fault f)

/-- The rules about units. -/
def Measure.limited (rates : Currency.Rates) : List LimitedRule :=
  [harmless (Currency.convert rates), ⟨convertPhrase, conversionLimit⟩]

/-- A rate is always found where no service is asked. -/
theorem Currency.not_faults_convert {rates : Currency.Rates} (h : rates.live = false)
    (expr low : Text) : ¬Faults (Currency.convert rates expr low) := by
  have hrate (source target : Text) : ¬Faults (rates.rate? source target) := by
    unfold Currency.Rates.rate? Currency.Rates.request?
    rw [h]
    split <;> simp [pure, Except.pure]
  unfold Currency.convert
  split
  · simp
  split
  · simp
  · simp only [faults_bind, hrate, false_or, not_exists, not_and]
    rintro (_ | _) _ <;> simp

theorem Measure.exact_convertPhrase :
    LimitedRule.Exact ⟨convertPhrase, conversionLimit⟩ := fun expr low => by
  unfold convertPhrase conversionLimit
  dsimp only
  cases Conversion.ofText? expr with
  | none => exact iff_of_false (not_faults_ok _) fun ⟨c, hc, _⟩ => nomatch hc
  | some c =>
    simp only [Option.some.injEq, exists_eq_left']
    split
    · next h =>
      rw [Bool.and_eq_true, Option.isNone_iff_eq_none, Option.isNone_iff_eq_none] at h
      exact iff_of_false (not_faults_ok _) fun hc => by simp [h.1, h.2] at hc
    · next h =>
      have hnamed : (commonName? c.source).isSome = true ∨ (commonName? c.target).isSome = true := by
        cases hs : commonName? c.source <;> cases ht : commonName? c.target <;> simp [hs, ht] at h ⊢
      simp only [hnamed, true_and]
      split
      · next e he => exact iff_of_false (not_faults_line _) fun ⟨f, hf⟩ => nomatch he.symm.trans hf
      · next f hf => exact iff_of_true (faults_fault f) ⟨f, hf⟩
      · next x hx => exact iff_of_false (not_faults_ok _) fun ⟨f, hf⟩ => nomatch hx.symm.trans hf

theorem Measure.exact_limited {rates : Currency.Rates} (h : rates.live = false) :
    ∀ r ∈ limited rates, r.Exact := by
  simp only [limited, List.forall_mem_cons]
  exact ⟨exact_harmless (Currency.not_faults_convert h), exact_convertPhrase, nofun⟩

end Units

/-! ## References -/

namespace Reference

/-- A reference has too many digits, and something can be put in place of all in front of it. -/
def Overlong (f : Nat → Result Text) (t : Text) : Prop :=
  ∃ before digits after, runs t = before ++ digits :: after ∧
    Literal.maxDigits < digits.length ∧ ∀ d ∈ before, ∃ n u, line d = .ok n ∧ f n = .ok u

theorem faults_line {digits : Text} : Faults (line digits) ↔ Literal.maxDigits < digits.length :=
  faults_natural? (a := fun n => n)

theorem faults_replaceM {f : Nat → Result Text} (hf : ∀ n, ¬Faults (f n)) {t : Text} :
    Faults (replaceM f t) ↔ Overlong f t := by
  have hruns (g : Piece → Result Text) (hc : ∀ c, g (.char c) = .ok [c])
      (hd : ∀ digits, g (.reference digits) = line digits >>= f) (ps : List Piece) :
      Faults (ps.mapM g) ↔ Faults ((ps.filterMap Piece.digits?).mapM fun d => line d >>= f) := by
    induction ps with
    | nil => rfl
    | cons p ps ih =>
      cases p with
      | char c =>
        rw [List.mapM_cons, hc, ok_bind, faults_bind, ih, List.filterMap_cons_none rfl]
        simp
      | reference digits =>
        rw [List.mapM_cons, hd, show (Piece.reference digits :: ps).filterMap Piece.digits? =
          digits :: ps.filterMap Piece.digits? from rfl, List.mapM_cons]
        simp only [faults_bind, ih, not_faults_pure, and_false, exists_false, or_false]
  have hline {digits : Text} : Faults (line digits >>= f) ↔ Literal.maxDigits < digits.length := by
    rw [faults_bind, faults_line]
    refine or_iff_left ?_
    rintro ⟨n, -, h⟩
    exact hf n h
  have hjoin {us : Result (List Text)} :
      ¬∃ a, us = .ok a ∧ Faults (pure a.flatten : Result Text) := by
    rintro ⟨a, -, h⟩
    exact not_faults_pure _ h
  unfold replaceM Overlong
  rw [faults_bind, hruns _ (fun _ => rfl) (fun _ => rfl), faults_mapM, or_iff_left hjoin]
  simp only [hline]
  refine exists_congr fun before => exists_congr fun digits => exists_congr fun after => ?_
  simp only [bind_eq_ok]
  refine and_congr_right fun _ => and_comm.trans (and_congr_right fun _ => ?_)
  exact forall_congr' fun d => imp_congr_right fun _ => exists_comm

end Reference

/-! ## Arithmetic -/

namespace Token

/-- The scanner comes to a reference of too many digits. -/
inductive Overlong : Text → Prop
  | here {r : Text} (h : Literal.maxDigits < (r.takeWhile isAsciiDigit).length) :
      Overlong ('\\' :: r)
  | later {c : Char} {r rest : Text} {token : Option Token} (h : next c r = .ok (token, rest))
      (hr : Overlong rest) : Overlong (c :: r)

@[simp] theorem not_faults_numeralValue (n : Text) : ¬Faults (numeralValue n) := by
  unfold numeralValue
  split <;> simp

theorem not_faults_next {c : Char} {r : Text} (hc : c ≠ '\\') : ¬Faults (next c r) := by
  have hb : ¬(c == '\\') = true := by simpa using hc
  have hmap {β : Type} {n : Text} {g : Float → β} : ¬Faults ((numeralValue n).map g) :=
    fun h => not_faults_numeralValue n (faults_map.1 h)
  unfold next
  split
  · exact not_faults_ok _
  split
  · exact hmap
  split
  · split
    · exact hmap
    · exact not_faults_line _
  repeat' split
  all_goals first | exact not_faults_ok _ | exact not_faults_line _

/-- Only a backslash begins what may be too long to be read. -/
theorem faults_next_backslash {r : Text} :
    Faults (next '\\' r) ↔ Literal.maxDigits < (r.takeWhile isAsciiDigit).length := by
  rw [next_backslash]
  split
  · next h =>
    rw [List.isEmpty_iff.1 h]
    exact iff_of_false (not_faults_line _) (Nat.not_lt_zero _)
  · exact faults_natural?

theorem faults_scanFrom {t : Text} : Faults (scanFrom t) ↔ Overlong t := by
  match t with
  | [] => 
    rw [scanFrom]
    refine iff_of_false (not_faults_ok _) ?_
    rintro ⟨⟩
  | c :: r =>
    rw [scanFrom_cons]
    cases hn : next c r with
    | error e => 
      constructor
      · rintro ⟨f, hf⟩
        cases hf
        by_cases hc : c = '\\'
        · subst hc
          exact .here (faults_next_backslash.1 ⟨f, hn⟩)
        · exact absurd ⟨f, hn⟩ (not_faults_next hc)
      · intro h
        cases h with
        | here h => 
          obtain ⟨f, hf⟩ := faults_next_backslash.2 h
          rw [hn] at hf
          cases hf
          exact faults_fault f
        | later h => cases hn.symm.trans h
    | ok p => 
      obtain ⟨token, rest⟩ := p
      have hlen := length_next_le hn
      have ih := faults_scanFrom (t := rest)
      refine (faults_map (g := fun ts => token.toList ++ ts)).trans
        (ih.trans ⟨.later hn, fun h => ?_⟩)
      cases h with
      | here h => 
        obtain ⟨f, hf⟩ := faults_next_backslash.2 h
        cases hn.symm.trans hf
      | later h hr => 
        cases hn.symm.trans h
        exact hr
termination_by t.length
decreasing_by
  simp only [List.length_cons]
  dsimp only at hlen
  omega

end Token

/-- Arithmetic faults at a reference of too many digits, and only there. -/
theorem faults_calculate {earlier : Earlier} {expr : Text} :
    Faults (calculate earlier expr) ↔ Token.Overlong (Token.normalize (trim expr)) := by
  unfold calculate
  rw [← Token.faults_scanFrom, faults_bind]
  refine or_iff_left ?_
  rintro ⟨ts, hts, h⟩
  rcases faults_bind.1 h with h | ⟨b, -, h⟩
  · unfold concernsCurrency at h
    split at h
    · exact not_faults_ok _ h
    · unfold refersToCurrency at h
      rw [Token.references_of_scan hts] at h
      exact not_faults_ok _ h
  · rcases faults_bind.1 h with h | ⟨x, -, h⟩
    · cases hx : Expr.evaluateTokens (some earlier.value) ts with
      | error e =>
        rw [hx] at h
        exact not_faults_line _ h
      | ok x =>
        rw [hx] at h
        exact not_faults_ok _ h
    · exact not_faults_pure _ h

end Worksheet
