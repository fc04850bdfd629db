import Worksheet.Proofs.DottedNumbers

/-!
# Questions about a block

A block is asked about in seven ways (`Question`), with any numbers in the place of its address and
its length. A question that splits the block reads the length whole. The others end with the block,
and are searched for in the expression, so they read the first two digits of the length and pass over
what stands behind them (`Question.heard`).

**Theorem (`Question.run_phrase_cases`).** What a question is answered for is the address as it stands
and the length as it is heard, which is not the whole length if it has three digits or more.
-/

namespace Worksheet

open Text Pattern Result PhraseRule

namespace Subnet

/-! ## What the rules look for -/

/-- The patterns of the rules but the last, which takes a whole expression. -/
def patterns : List (List Pattern) := [
  splitCountPatterns, splitHostsPatterns, [hostsOfBlock], [hostsOfPrefix], [info], [wildcard], [mask],
  [prefixOfMask], [membership], [nextBlock], [factOf "broadcast"], [factOf "network"]]

theorem heeds_patterns : List.Forall₂ Heeds (rules.take 12) patterns :=
  .cons ⟨_, rfl⟩ <| .cons ⟨_, rfl⟩ <| .cons ⟨_, rfl⟩ <| .cons ⟨_, rfl⟩ <| .cons ⟨_, rfl⟩ <|
  .cons ⟨_, rfl⟩ <| .cons ⟨_, rfl⟩ <| .cons ⟨_, rfl⟩ <| .cons ⟨_, rfl⟩ <| .cons ⟨_, rfl⟩ <|
  .cons ⟨_, rfl⟩ <| .cons ⟨_, rfl⟩ .nil

theorem respects_patterns : ∀ p ∈ patterns.flatten, p.Respects isDigit '0' := by
  simp (disch := decide) [patterns, splitCountPatterns, splitHostsPatterns, hostsOfBlock,
    hostsOfPrefix, info, wildcard, mask, prefixOfMask, membership, nextBlock, factOf, howMany,
    splitVerb, words, firstOf, block, address, optWord, plural, prefixLength, blanks, blanks?, digits,
    char?, respects_word, respects_char, setsApart_isBlank, setsApart_isDigit]

/-- The number that a text writes, if it is short enough to be one. -/
def readNumber (t : Text) : Result Nat :=
  match Literal.natural? t with
  | some n => .ok n
  | none => .error (.fault .badValue)

/-! ## Questions -/

inductive Question where
  | info
  | broadcast
  | network
  | next
  | hosts
  /-- Whether an address lies in the block. -/
  | holds (address : Dotted)
  /-- The block in a number of parts. -/
  | split (count : Text.Run isDigit)

namespace Question

variable {q : Question} {a : Dotted} {n : Text.Run isDigit} {t u v w r : Text} {p : Pattern}

/-- What stands in front of the block. -/
def lead : Question → Text
  | info => "subnet info for ".toList
  | broadcast => "broadcast for ".toList
  | network => "network address ".toList
  | next => "next subnet after ".toList
  | hosts => "hosts in ".toList
  | holds b => "is ".toList ++ (b.text ++ " in ".toList)
  | split _ => "split ".toList

/-- What stands behind the block. -/
def tail : Question → Text
  | split k => " into ".toList ++ (k.text ++ " subnets".toList)
  | _ => []

def phrase (q : Question) (a : Dotted) (n : Text.Run isDigit) : Text :=
  q.lead ++ (a.text ++ ['/'] ++ (n.text ++ q.tail))

/-- What is read of the length of the block. -/
def heard : Question → Text.Run isDigit → Text
  | split _, n => n.text
  | _, n => n.text.take 2

/-- The answer, from what is read as the block. -/
def reply : Question → Result Block → Result Text
  | info, b => do return (← b).describe
  | broadcast, b => do return (← b).broadcast.text
  | network, b => do return (← b).text
  | next, b => do return (← (← b).next).text
  | hosts, b => do return hostsText (← b).hostCount
  | holds c, b => do
    let a ← Address.read c.text
    let b ← b
    return if b.contains a then "yes".toList else "no".toList
  | split k, b => do
    let count ← readNumber k.text
    let bs ← (← b).splitCount count maxListed
    return listBlocks bs (count : Int)

/-- The question has a number that is too long to be read. -/
def Overlong : Question → Prop
  | split k => Literal.maxDigits < k.text.length
  | _ => False

/-- The rules recognise the question. -/
def Fits : Question → Dotted → Text.Run isDigit → Prop
  | holds b, a, _ => a.Fits ∧ b.Fits
  | split _, a, n => a.Fits ∧ n.text.length ≤ 2
  | _, a, _ => a.Fits

/-! ## Its pattern -/

/-- What is looked for in front of the block. -/
def leadPattern : Question → Pattern
  | info => optWord "subnet" ++ word "info" ++ blanks ++ optWord "for"
  | broadcast => word "broadcast" ++ blanks ++ opt (words ["for", "of", "address"]) ++ blanks?
  | network => word "network" ++ blanks ++ opt (words ["for", "of", "address"]) ++ blanks?
  | next => word "next" ++ blanks ++ word "subnet" ++ blanks ++ optWord "after"
  | hosts => howMany ++ plural "host" ++ blanks ++ opt (words ["in", "for", "count"]) ++ blanks?
  | holds _ => word "is" ++ blanks ++ group 1 address ++ blanks ++ word "in" ++ blanks
  | split _ => words ["split", "divide"] ++ blanks

/-- The pattern that the question is recognised by. -/
def pattern : Question → Pattern
  | split k =>
    (split k).leadPattern ++ group 1 block ++ blanks ++ words ["to", "into"] ++ blanks ++
      group 2 digits ++ blanks ++ plural "subnet"
  | holds b => (holds b).leadPattern ++ group 2 block
  | q => q.leadPattern ++ group 1 block

/-- What its groups remember, the latest first. -/
def memory : Question → Text → List (Nat × Text)
  | split k, t => [(2, k.text), (1, t)]
  | holds b, t => [(2, t), (1, b.text)]
  | _, t => [(1, t)]

/-- Its place among the rules. -/
def place : Question → Nat
  | split _ => 0
  | hosts => 2
  | info => 4
  | holds _ => 8
  | next => 9
  | broadcast => 10
  | network => 11

/-- The number of patterns that are looked for before its own. -/
def rank : Question → Nat
  | split _ => 0
  | hosts => 4
  | info => 6
  | holds _ => 10
  | next => 11
  | broadcast => 12
  | network => 13

/-- The other patterns. -/
def rivals (q : Question) : List Pattern := patterns.flatten.eraseIdx q.rank

theorem getElem?_rank (q : Question) : patterns.flatten[q.rank]? = some q.pattern := by
  cases q <;> rfl

/-! ## No other rule recognises it -/

/-- The question without its digits. -/
def outline : Question → Text
  | info => "subnet info for .../".toList
  | broadcast => "broadcast for .../".toList
  | network => "network address .../".toList
  | next => "next subnet after .../".toList
  | hosts => "hosts in .../".toList
  | holds _ => "is ... in .../".toList
  | split _ => "split .../ into  subnets".toList

theorem keep_phrase (q : Question) (a : Dotted) (n : Text.Run isDigit) :
    keep isDigit (q.phrase a n) = q.outline := by
  have h : keep isDigit (q.phrase a n) =
      keep isDigit q.lead ++ ("...".toList ++ keep isDigit ['/'] ++ ([] ++ keep isDigit q.tail)) := by
    rw [phrase, keep_append, keep_append, keep_append, keep_append, a.keep_text, keep_of_all n.all]
  rw [h]
  cases q with
  | holds b =>
    have hlead : keep isDigit (holds b).lead = "is ... in ".toList := by
      show keep isDigit ("is ".toList ++ (b.text ++ " in ".toList)) = _
      rw [keep_append "is ".toList, keep_append b.text, b.keep_text]
      decide +kernel
    rw [hlead]
    show "is ... in ".toList ++ ("...".toList ++ keep isDigit ['/'] ++ ([] ++ [])) =
      "is ... in .../".toList
    decide +kernel
  | split k =>
    have htail : keep isDigit (split k).tail = " into  subnets".toList := by
      show keep isDigit (" into ".toList ++ (k.text ++ " subnets".toList)) = _
      rw [keep_append " into ".toList, keep_append k.text, keep_of_all k.all]
      decide +kernel
    rw [htail]
    show keep isDigit "split ".toList ++ ("...".toList ++ keep isDigit ['/'] ++
      ([] ++ " into  subnets".toList)) = "split .../ into  subnets".toList
    decide +kernel
  | _ => decide +kernel

theorem absent_rivals (q : Question) : q.rivals.all (absent '0' q.outline) = true := by
  cases q with
  | holds b =>
    show (patterns.flatten.eraseIdx 10).all (absent '0' "is ... in .../".toList) = true
    decide +kernel
  | split k =>
    show (patterns.flatten.eraseIdx 0).all (absent '0' "split .../ into  subnets".toList) = true
    decide +kernel
  | _ => decide +kernel

theorem search_rival (a : Dotted) (n : Text.Run isDigit) (hp : p ∈ q.rivals) :
    p.search (q.phrase a n) = none :=
  search_eq_none_of_outline (respects_patterns p (List.mem_of_mem_eraseIdx hp))
    (by rw [keep_phrase]; exact List.all_eq_true.1 q.absent_rivals p hp)

/-! ## It is recognised if it fits -/

theorem takesFirst_lead (hq : ∀ b, q ≠ holds b) (hw : w.head?.any isBlank = false) :
    q.leadPattern.TakesFirst q.lead w := by
  have hblank {v : Text} (hv : v.head?.any isBlank = false) : blanks.TakesFirst [' '] v :=
    .blank rfl hv
  have hblank? : blanks?.TakesFirst [' '] w := .run rfl (Nat.zero_le _) nofun (.inl hw)
  cases q with
  | info =>
    exact .seq (.seq (.seq (.opt (.seq (.word "subnet") (hblank rfl))) (.word "info")) (hblank rfl))
      (.opt (.seq (.word "for") (hblank hw)))
  | broadcast =>
    exact .seq (.seq (.seq (.word "broadcast") (hblank rfl)) (.opt (.left (.word "for")))) hblank?
  | network =>
    exact .seq (.seq (.seq (.word "network") (hblank rfl)) (.opt
      (.right (c := 'a') rfl rfl (.right (c := 'a') rfl rfl (.word "address"))))) hblank?
  | next =>
    exact .seq (.seq (.seq (.seq (.word "next") (hblank rfl)) (.word "subnet")) (hblank rfl))
      (.opt (.seq (.word "after") (hblank hw)))
  | hosts =>
    have hhow : howMany.TakesFirst [] ("hosts in ".toList ++ w) :=
      .skip (.seq (.seq (.seq (.word rfl))))
    exact .seq (.seq (.seq (.seq hhow (.seq (.word "host") (.opt (.char 's')))) (hblank rfl))
      (.opt (.left (.word "in")))) hblank?
  | holds b => exact absurd rfl (hq b)
  | split k => exact .seq (.left (.word "split")) (hblank hw)

/-- A question that fits is taken whole, but for what is not read of the length. -/
theorem exists_takes (hq : q.Fits a n) : ∃ u w, q.phrase a n = u ++ w ∧
    q.pattern.Takes u w (q.memory (a.text ++ ['/'] ++ q.heard n)) := by
  have hdigit (r : Text.Run isDigit) (v : Text) : (r.text ++ v).head?.any isBlank = false := by
    obtain ⟨c, t, ht⟩ := List.exists_cons_of_ne_nil r.ne
    rw [ht]
    exact not_isBlank_of_isDigit (List.all_eq_true.1 r.all c (by rw [ht]; exact List.mem_cons_self))
  have hstart (a : Dotted) (v : Text) : (a.text ++ v).head?.any isBlank = false := by
    unfold Dotted.text
    simpa only [List.append_assoc] using hdigit a.first _
  have hcut (v : Text) : n.text.take 2 ++ (n.text.drop 2 ++ v) = n.text ++ v := by
    rw [← List.append_assoc, List.take_append_drop]
  have hsimple (hq : ∀ b, q ≠ holds b) (ha : a.Fits) (htail : q.tail.head?.any isDigit = false) :
      (q.leadPattern ++ group 1 block).Takes (q.lead ++ (a.text ++ ['/'] ++ n.text.take 2))
        (n.text.drop 2 ++ q.tail) [(1, a.text ++ ['/'] ++ n.text.take 2)] := by
    refine .after (takesFirst_lead hq ?_) (.group 1 (Dotted.takesFirst_block ha n htail))
    rw [List.append_assoc, List.append_assoc]
    exact hstart a _
  have hwhole : q.phrase a n =
      q.lead ++ (a.text ++ ['/'] ++ n.text.take 2) ++ (n.text.drop 2 ++ q.tail) := by
    rw [phrase, ← hcut]
    simp only [List.append_assoc]
  cases q with
  | holds b =>
    obtain ⟨ha, hb⟩ := hq
    have hlead : (holds b).leadPattern.Takes
        ("is".toList ++ [' '] ++ b.text ++ [' '] ++ "in".toList ++ [' '])
        (a.text ++ ['/'] ++ n.text.take 2 ++ (n.text.drop 2 ++ [])) [(1, b.text)] :=
      .before (.before (.before (.after (.seq (.word "is") (.blank rfl (hstart b _)))
        (.group 1 (Dotted.takesFirst_address hb rfl))) (.blank rfl rfl)) (.word "in"))
        (.blank rfl (by rw [List.append_assoc, List.append_assoc]; exact hstart a _))
    refine ⟨_, _, ?_, .seq hlead (.group 2 (Dotted.takesFirst_block ha n rfl))⟩
    have hlead : (holds b).lead =
        "is".toList ++ ([' '] ++ (b.text ++ ([' '] ++ ("in".toList ++ [' '])))) := rfl
    rw [hwhole, hlead]
    simp only [List.append_assoc]
    rfl
  | split k =>
    obtain ⟨ha, hn⟩ := hq
    have htake : n.text.take 2 = n.text := List.take_of_length_le hn
    have hdrop : n.text.drop 2 = [] := List.drop_eq_nil_of_le hn
    rw [htake, hdrop] at hsimple
    have hinto : (words ["to", "into"]).TakesFirst "into".toList
        ([' '] ++ (k.text ++ ([' '] ++ ("subnet".toList ++ ['s'])))) :=
      .right (c := 'i') rfl rfl (.word "into")
    have htail : (split k).tail = [' '] ++ ("into".toList ++ ([' '] ++ (k.text ++ ([' '] ++
      ("subnet".toList ++ ['s']))))) := rfl
    refine ⟨(split k).lead ++ (a.text ++ ['/'] ++ n.text) ++ [' '] ++ "into".toList ++ [' '] ++
      k.text ++ [' '] ++ ("subnet".toList ++ ['s']), [], ?_,
      .before (.before (.seq (.before (.before (.before (hsimple (by simp) ha rfl)
        (.blank rfl rfl)) hinto) (.blank rfl (hdigit k _))) (.group 2 (.ofRun k rfl)))
        (.blank rfl rfl)) (.seq (.word "subnet") (.opt (.char 's')))⟩
    rw [phrase, htail]
    simp only [List.append_assoc, List.append_nil]
  | _ => exact ⟨_, _, hwhole, hsimple (by simp) hq rfl⟩

/-! ## It is not recognised if it does not fit -/

theorem pattern_mem (q : Question) : q.pattern ∈ patterns.flatten :=
  List.mem_of_getElem? q.getElem?_rank

/-- No block follows a digit. -/
theorem getLast?_leadPattern (h : q.leadPattern.Spells v) (u : Text) :
    (u ++ v).getLast?.any isDigit = false := by
  have hq := respects_patterns _ q.pattern_mem
  cases q with
  | holds b =>
    obtain ⟨x, y, -, hy, rfl⟩ := h
    rw [← List.append_assoc]
    exact getLast?_of_spells respects_blanks rfl rfl hy
  | split k => exact getLast?_of_spells hq.1.1.1.1.1.1.1 rfl rfl h
  | _ => exact getLast?_of_spells hq.1 rfl rfl h

theorem getLast?_lead (q : Question) : q.lead.getLast?.any isDigit = false := by
  cases q with
  | holds b =>
    show ("is ".toList ++ (b.text ++ " in ".toList)).getLast?.any isDigit = false
    rw [← List.append_assoc]
    exact getLast?_append_any (by decide) (by decide +kernel)
  | split k =>
    show "split ".toList.getLast?.any isDigit = false
    decide +kernel
  | _ => decide +kernel

theorem slash_notMem_lead (q : Question) : '/' ∉ q.lead := by
  cases q with
  | holds b =>
    show '/' ∉ "is ".toList ++ (b.text ++ " in ".toList)
    rw [List.mem_append, List.mem_append, not_or, not_or]
    exact ⟨by decide, b.notMem_text (by decide) (by decide), by decide⟩
  | split k =>
    show '/' ∉ "split ".toList
    decide
  | _ => decide

theorem slash_notMem_tail (q : Question) (n : Text.Run isDigit) : '/' ∉ n.text ++ q.tail := by
  have hrun (r : Text.Run isDigit) : '/' ∉ r.text := fun h =>
    absurd (List.all_eq_true.1 r.all _ h) (by decide)
  cases q with
  | split k =>
    show '/' ∉ n.text ++ (" into ".toList ++ (k.text ++ " subnets".toList))
    rw [List.mem_append, List.mem_append, List.mem_append, not_or, not_or, not_or]
    exact ⟨hrun n, by decide, hrun k, by decide⟩
  | _ =>
    show '/' ∉ n.text ++ []
    rw [List.append_nil]
    exact hrun n

/-- The block that the pattern of a question takes stands where the question has it. -/
theorem block_part {z x : Text} (hx : q.leadPattern.Spells x) (hv : block.Spells v)
    (h : z ++ (x ++ v) ++ r = q.phrase a n) : z ++ x = q.lead ∧ a.Fits ∧
      ∃ l : Text, l.all isDigit = true ∧ l.length ≤ 2 ∧ l ++ r = n.text ++ q.tail :=
  Dotted.of_block_part hv (by rw [← phrase, ← h]; simp) (getLast?_leadPattern hx z) q.getLast?_lead
    q.slash_notMem_lead (q.slash_notMem_tail n)

/-- The address in front of which a question about membership ends. -/
theorem address_part {b : Dotted} {z x : Text} (hx : (holds b).leadPattern.Spells x)
    (h : z ++ x = (holds b).lead) : b.Fits := by
  obtain ⟨_, b₃, ⟨_, wi, ⟨_, b₂, ⟨_, y, ⟨ws, b₁, hws, hb₁, rfl⟩, hy, rfl⟩, hb₂, rfl⟩, hwi, rfl⟩, hb₃,
    rfl⟩ := hx
  obtain ⟨c, hc, rfl⟩ := Dotted.exists_of_spells_address hy
  have hdigit (u : Text) (d : Dotted) : (u ++ d.text).getLast?.any isBlank = false := by
    refine getLast?_append_of_not (by simp [Dotted.text]) fun x hx => ?_
    rcases Dotted.mem_text hx with hx | rfl
    · exact not_isBlank_of_isDigit hx
    · rfl
  have hin (u : Text) : (u ++ "in".toList).getLast?.any isBlank = false :=
    getLast?_append_any (by decide) (by decide +kernel)
  have hwhole : (z ++ (ws ++ b₁) ++ c.text ++ b₂ ++ "in".toList) ++ b₃ =
      ("is".toList ++ [' '] ++ b.text ++ [' '] ++ "in".toList) ++ [' '] := by
    have hlead : (holds b).lead =
        "is".toList ++ [' '] ++ b.text ++ [' '] ++ "in".toList ++ [' '] := by
      show "is ".toList ++ (b.text ++ " in ".toList) = _
      simp
    rw [← hlead, ← h, spells_word.1 hwi]
    simp only [List.append_assoc]
  obtain ⟨hfront, -⟩ := append_inj_of_getLast? hwhole hb₃.1 rfl (hin _) (hin _)
  obtain ⟨hfront, -⟩ := append_inj_of_getLast? (List.append_cancel_right hfront) hb₂.1 rfl
    (hdigit _ _) (hdigit _ _)
  have hblank : ("is".toList ++ [' ']).getLast?.any isDigit = false := by decide
  have hblank' : (z ++ (ws ++ b₁)).getLast?.any isDigit = false := by
    rw [← List.append_assoc]
    exact getLast?_of_spells respects_blanks rfl rfl hb₁
  obtain ⟨-, rfl⟩ := Dotted.append_text_inj hfront hblank' hblank
  exact hc

theorem fits_of_part (hw : q.pattern.Spells w) (hwt : w <:+: q.phrase a n) : q.Fits a n := by
  obtain ⟨z, r, hz⟩ := hwt
  cases q with
  | holds b =>
    obtain ⟨x, v, hx, hv, rfl⟩ := hw
    obtain ⟨hlead, ha, -⟩ := block_part hx hv hz
    exact ⟨ha, address_part hx hlead⟩
  | split k =>
    obtain ⟨_, y₅, ⟨_, y₄, ⟨_, y₃, ⟨_, y₂, ⟨_, y₁, ⟨_, y, ⟨x, v, hx, hv, rfl⟩, hy, rfl⟩, -, rfl⟩, -,
      rfl⟩, -, rfl⟩, -, rfl⟩, -, rfl⟩ := hw
    obtain ⟨-, ha, l, hdigits, hl, hrest⟩ := block_part (q := split k) (a := a) (n := n) (z := z)
      (r := y ++ y₁ ++ y₂ ++ y₃ ++ y₄ ++ y₅ ++ r) hx hv (by rw [← hz]; simp)
    -- What follows the block begins with a blank, so all the digits in front of it were taken.
    have hblank : (y ++ y₁ ++ y₂ ++ y₃ ++ y₄ ++ y₅ ++ r).head?.any isDigit = false := by
      obtain ⟨c, y, rfl⟩ := List.exists_cons_of_ne_nil (List.length_pos_iff.1 hy.2.1)
      have hc := List.all_eq_true.1 hy.1 c List.mem_cons_self
      exact not_isDigit_of_isBlank hc
    obtain ⟨rfl, -⟩ := append_inj_of_head hrest hdigits n.all hblank rfl
    exact ⟨ha, hl⟩
  | _ =>
    obtain ⟨x, v, hx, hv, rfl⟩ := hw
    exact (block_part hx hv hz).2.1

/-! ## The answer -/

theorem isSmall_phrase (q : Question) (a : Dotted) (n : Text.Run isDigit) :
    ∀ c ∈ q.phrase a n, IsSmall c := by
  have hrun (r : Text.Run isDigit) : ∀ c ∈ r.text, IsSmall c := fun c hc =>
    isSmall_of_isDigit (List.all_eq_true.1 r.all c hc)
  have hdotted (a : Dotted) : ∀ c ∈ a.text, IsSmall c := fun c hc => by
    rcases Dotted.mem_text hc with hc | rfl
    · exact isSmall_of_isDigit hc
    · exact ⟨by decide +kernel, by decide⟩
  have hlead : ∀ c ∈ q.lead, IsSmall c := by
    cases q with
    | holds b => exact List.forall_mem_append.2 ⟨isSmall_of_all (by decide +kernel),
        List.forall_mem_append.2 ⟨hdotted b, isSmall_of_all (by decide +kernel)⟩⟩
    | split k => exact isSmall_of_all (t := "split ".toList) (by decide +kernel)
    | _ => exact isSmall_of_all (by decide +kernel)
  have htail : ∀ c ∈ q.tail, IsSmall c := by
    cases q with
    | split k => exact List.forall_mem_append.2 ⟨isSmall_of_all (by decide +kernel),
        List.forall_mem_append.2 ⟨hrun k, isSmall_of_all (by decide +kernel)⟩⟩
    | _ => exact fun _ hc => nomatch hc
  exact List.forall_mem_append.2 ⟨hlead, List.forall_mem_append.2 ⟨List.forall_mem_append.2
    ⟨hdotted a, isSmall_of_all (by decide +kernel)⟩, List.forall_mem_append.2 ⟨hrun n, htail⟩⟩⟩

theorem tight_phrase (q : Question) (a : Dotted) (n : Text.Run isDigit) : Tight (q.phrase a n) := by
  have hdigits : n.text.getLast?.any isBlank = false := by
    rw [List.getLast?_eq_some_getLast n.ne, Option.any_some]
    exact not_isBlank_of_isDigit (List.all_eq_true.1 n.all _ (List.getLast_mem n.ne))
  constructor
  · cases q <;> rfl
  · rw [phrase, ← List.append_assoc, ← List.append_assoc]
    cases q with
    | split k =>
      show (_ ++ (" into ".toList ++ (k.text ++ " subnets".toList))).getLast?.any isBlank = false
      rw [← List.append_assoc, ← List.append_assoc]
      exact getLast?_append_any (by decide) (by decide +kernel)
    | _ => exact (List.append_nil _).symm ▸ getLast?_append_any n.ne hdigits

/-- The rule of a question, of which no rule in front of it makes anything. -/
theorem run_phrase_at {r : PhraseRule} {x : Result Text} (hr : rules[q.place]? = some r)
    (hx : r (q.phrase a n) (q.phrase a n) = x.map some) : run rules (q.phrase a n) = x.map some := by
  have hplace : q.place ≤ 12 := by cases q <;> exact Nat.le_of_ble_eq_true rfl
  have hheeds : List.Forall₂ Heeds (rules.take q.place) (patterns.take q.place) := by
    have h := List.forall₂_take q.place heeds_patterns
    rwa [List.take_take, Nat.min_eq_left hplace] at h
  have hfront : (patterns.take q.place).flatten = patterns.flatten.take q.rank := by
    cases q <;> rfl
  rw [run_eq_firstAnswer (q.tight_phrase a n) (q.isSmall_phrase a n)]
  refine firstAnswer_at hheeds (fun ps hps p hp => search_rival (q := q) a n ?_) hr hx
  rw [rivals, List.eraseIdx_eq_take_drop_succ, ← hfront]
  refine List.mem_append_left _ ?_
  exact List.mem_flatten.2 ⟨ps, hps, hp⟩

/-- A question that fits is answered from what is heard of it. -/
theorem run_phrase_of_fits (hq : q.Fits a n) : run rules (q.phrase a n) =
    (q.reply (Block.read (a.text ++ ['/'] ++ q.heard n))).map some := by
  obtain ⟨u, w, hphrase, htakes⟩ := exists_takes hq
  obtain ⟨m, hm, hgroup⟩ := htakes.exists_search
  rw [← hphrase] at hm
  have hmemory (i : Nat) :
      m.group i = ((q.memory (a.text ++ ['/'] ++ q.heard n)).lookup i).getD [] := by
    rw [Match.group, hgroup]
  cases q with
  | holds b =>
    refine run_phrase_at rfl ((onMatch_of_search hm).trans ?_)
    rw [hmemory, hmemory]
    rfl
  | split k =>
    refine run_phrase_at rfl ((onMatch_of_search hm).trans ?_)
    rw [Match.natural, hmemory, hmemory]
    rfl
  | info | broadcast | network | next | hosts =>
    refine run_phrase_at rfl ((onMatch_of_search hm).trans ?_)
    rw [hmemory]
    rfl

/-- A question that does not fit is not recognised. -/
theorem run_phrase_of_not_fits (hq : ¬q.Fits a n) : run rules (q.phrase a n) = .ok none := by
  have hnone : ∀ ps ∈ patterns, ∀ p ∈ ps, p.search (q.phrase a n) = none := by
    intro ps hps p hp
    rcases eq_or_mem_eraseIdx q.getElem?_rank (List.mem_flatten.2 ⟨ps, hps, hp⟩) with rfl | hp
    · exact search_eq_none fun w hw hwt => hq (fits_of_part hw hwt)
    · exact search_rival a n hp
  have hbare : bareBlock.matchStart (q.phrase a n) = none := by
    obtain ⟨c, t, ht, hc⟩ : ∃ c t, q.phrase a n = c :: t ∧ isDigit c = false := by
      cases q <;> exact ⟨_, _, rfl, by decide⟩
    have hstart : bareBlock.starts c = false := by
      simp [bareBlock, block, address, times, Pattern.char, starts, nullable, hc]
    rw [matchStart_eq_matchAt, ht, matchAt, Cursor.start, exec_eq_none rfl hstart]
    rfl
  rw [run_eq_firstAnswer (q.tight_phrase a n) (q.isSmall_phrase a n)]
  show firstAnswer (rules.take 12 ++ [bare]) _ _ = _
  rw [firstAnswer_skip heeds_patterns hnone, firstAnswer, bare, hbare]
  rfl

/-- A question fails for want of an answer, if it is not too long to be read. -/
theorem reply_error {b : Result Block} {e : Failure}
    (hb : ∀ e, b = .error e → ∃ e', e = .line (.phrase e')) (h : q.reply b = .error e) :
    (∃ e', e = .line (.phrase e')) ∨ (q.Overlong ∧ e = .fault .badValue) := by
  have hpure {α : Type} {a : α} : ¬(pure a : Result α) = .error e := nofun
  cases q with
  | next =>
    rcases bind_eq_error.1 h with h | ⟨b, -, h⟩
    · exact .inl (hb e h)
    · rcases bind_eq_error.1 h with h | ⟨b', -, h⟩
      · unfold Block.next at h
        split at h
        · cases h
        · cases h
          exact .inl ⟨_, rfl⟩
      · exact absurd h hpure
  | holds c =>
    rcases bind_eq_error.1 h with h | ⟨a, -, h⟩
    · unfold Address.read at h
      split at h
      · cases h
      · cases h
        exact .inl ⟨_, rfl⟩
    · rcases bind_eq_error.1 h with h | ⟨b, -, h⟩
      · exact .inl (hb e h)
      · exact absurd h hpure
  | split k =>
    rcases bind_eq_error.1 h with h | ⟨count, -, h⟩
    · unfold readNumber at h
      split at h
      · cases h
      · next hnone =>
        cases h
        unfold Literal.natural? at hnone
        split at hnone
        · next hlong => exact .inr ⟨hlong, rfl⟩
        · cases hnone
    · rcases bind_eq_error.1 h with h | ⟨b, -, h⟩
      · exact .inl (hb e h)
      · rcases bind_eq_error.1 h with h | ⟨bs, -, h⟩
        · unfold Block.splitCount at h
          split at h
          · cases h
            exact .inl ⟨_, rfl⟩
          · dsimp only at h
            split at h
            · cases h
              exact .inl ⟨_, rfl⟩
            · cases h
        · exact absurd h hpure
  | info | broadcast | network | hosts =>
    rcases bind_eq_error.1 h with h | ⟨b, -, h⟩
    · exact .inl (hb e h)
    · exact absurd h hpure

/-- A question that is answered has a block. -/
theorem exists_of_reply {b : Result Block} (h : q.reply b = .ok t) : ∃ b', b = .ok b' := by
  cases q with
  | holds c =>
    obtain ⟨a, -, h⟩ := bind_eq_ok.1 h
    obtain ⟨b', hb, -⟩ := bind_eq_ok.1 h
    exact ⟨b', hb⟩
  | split k =>
    obtain ⟨count, -, h⟩ := bind_eq_ok.1 h
    obtain ⟨b', hb, -⟩ := bind_eq_ok.1 h
    exact ⟨b', hb⟩
  | info | broadcast | network | next | hosts =>
    obtain ⟨b', hb, -⟩ := bind_eq_ok.1 h
    exact ⟨b', hb⟩

theorem heard_digits (q : Question) (n : Text.Run isDigit) : (q.heard n).all isDigit = true := by
  have htake : (n.text.take 2).all isDigit = true :=
    List.all_eq_true.2 fun c hc => List.all_eq_true.1 n.all c (List.mem_of_mem_take hc)
  cases q with
  | split k => exact n.all
  | _ => exact htake

theorem heard_eq_iff : q.heard n = n.text ↔ n.text.length ≤ 2 ∨ ∃ k, q = split k := by
  cases q with
  | split k => exact iff_of_true rfl (.inr ⟨k, rfl⟩)
  | _ => exact (List.take_eq_self_iff _).trans (by simp)

/-- **What a question is answered for.** For any four numbers, any length and any question, the
evaluator declines, or finds that there is no answer, or gives up a number of parts that is too long
to be read, or it gives the answer for the address as it stands and the length as it is heard. That
is the whole length if the question splits the block or the length has two digits at most, and its
first two digits else. -/
theorem run_phrase_cases (q : Question) (a : Dotted) (n : Text.Run isDigit) :
    (run rules (q.phrase a n) = .ok none ∨
      (∃ e, run rules (q.phrase a n) = .error (.line (.phrase e))) ∨
      (q.Overlong ∧ run rules (q.phrase a n) = .error (.fault .badValue)) ∨
      ∃ address hlength t, Address.read? a.text = some address ∧
        q.reply (.ok (.containing address (Literal.digitsValue (q.heard n)) hlength)) = .ok t ∧
          run rules (q.phrase a n) = .ok (some t)) ∧
      (q.heard n = n.text ↔ n.text.length ≤ 2 ∨ ∃ k, q = split k) := by
  refine ⟨?_, heard_eq_iff⟩
  by_cases hq : q.Fits a n
  · rw [run_phrase_of_fits hq]
    cases hreply : q.reply (Block.read (a.text ++ ['/'] ++ q.heard n)) with
    | error e =>
      have hread : ∀ e, Block.read (a.text ++ ['/'] ++ q.heard n) = .error e →
          ∃ e', e = .line (.phrase e') := by
        intro e he
        unfold Block.read at he
        split at he
        · cases he
        · cases he
          exact ⟨_, rfl⟩
      rcases reply_error hread hreply with ⟨e', rfl⟩ | ⟨hlong, rfl⟩
      · exact .inr (.inl ⟨e', rfl⟩)
      · exact .inr (.inr (.inl ⟨hlong, rfl⟩))
    | ok t =>
      obtain ⟨b, hb⟩ := exists_of_reply hreply
      obtain ⟨address, hlength, haddress, rfl⟩ := Block.exists_of_read
        (a.notMem_text (by decide) (by decide)) (q.heard_digits n) hb
      rw [hb] at hreply
      exact .inr (.inr (.inr ⟨address, hlength, t, haddress, hreply, rfl⟩))
  · exact .inl (run_phrase_of_not_fits hq)

/-- Of a length of three digits, the first two are heard. -/
example : run rules "broadcast for 10.0.0.0/245".toList = .ok (some "10.0.0.255".toList) := by
  decide +kernel

end Question

end Subnet

end Worksheet
