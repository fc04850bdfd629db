import Worksheet.Proofs.Isolation
import Worksheet.Proofs.JsonReading
import Worksheet.Proofs.Undoing
import Worksheet.Service.Http
import Worksheet.Service.Socket

/-!
# A session of messages

**Theorem (`Service.converse_replies`).** The messages of a session are replied to one by one, up to
the first that breaks.

`Replies` says what a message is answered: what an object that names a request would be answered
over HTTP, or that the message cannot be read. The reply depends on no other message. A message
breaks (`Breaks`) where something fails on the way to its reply that is not the message's failure to
be read: a number or a nesting of its text, a document that is not evaluated to its end, a reference
that cannot be renumbered. It has no reply (`reply_of_breaks`), and all others have one
(`replies_or_breaks`).

What makes a message break is rare (`cause_of_breaks`): more than 4300 digits in a row or 1000
brackets in its text, a line that comes to a limit, or a reference that is too long.
-/

namespace Worksheet

open Text Result

/-! ## Renumbering any two texts -/

namespace Reference

variable {old new t : Text} {e : Failure}

/-- The number of a line after lines `as` have become lines `bs`. -/
def moved (as bs : List Text) (n : Nat) : Nat :=
  if as.length < bs.length then growing (firstDifference as bs) (bs.length - as.length) n
  else shrinking (firstDifference as bs) (as.length - bs.length) n

theorem adjust_eq_renumber (h : (Line.logical old).length ≠ (Line.logical new).length) :
    ∃ f : Int → Int, adjust old new = renumber f new ∧
      ∀ n : Nat, f n = moved (Line.logical old) (Line.logical new) n := by
  unfold adjust
  dsimp only
  generalize Line.logical old = as at h ⊢
  generalize Line.logical new = bs at h ⊢
  rw [if_neg h]
  split
  · next hlt =>
    rw [shiftForInsert, if_neg (by omega)]
    refine ⟨_, rfl, fun n => ?_⟩
    rw [moved, if_pos hlt, growing]
    split <;> split <;> simp <;> omega
  · next hge =>
    rw [shiftForDelete, if_neg (by omega)]
    refine ⟨_, rfl, fun n => ?_⟩
    rw [moved, if_neg hge, shrinking]
    split <;> split <;> omega

theorem mapM_error {α β : Type} {l : List α} {f : α → Result β}
    (hf : ∀ a e, f a = .error e → ∃ g, e = .fault g) (h : l.mapM f = .error e) :
    ∃ g, e = .fault g := by
  induction l with
  | nil => cases h
  | cons a l ih =>
    rw [List.mapM_cons] at h
    rcases bind_eq_error.1 h with h | ⟨b, -, h⟩
    · exact hf a e h
    · rcases bind_eq_error.1 h with h | ⟨bs, -, h⟩
      · exact ih h
      · cases h

/-- Renumbering fails only by a fault. -/
theorem renumber_error {f : Int → Int} (h : renumber f t = .error e) : ∃ g, e = .fault g := by
  rcases bind_eq_error.1 h with h | ⟨ps, -, h⟩
  · refine mapM_error (fun p e hp => ?_) h
    cases p with
    | char c => cases hp
    | reference digits =>
      rcases bind_eq_error.1 hp with hp | ⟨n, -, hp⟩
      · unfold line at hp
        split at hp <;> cases hp
        exact ⟨_, rfl⟩
      · dsimp only at hp
        unfold writeLine at hp
        split at hp <;> cases hp
        exact ⟨_, rfl⟩
  · cases h

/-- Renumbering after an edit fails by a fault, at a reference that cannot be written with its new
number. -/
theorem adjust_cases (old new : Text) :
    (∃ t, adjust old new = .ok t) ∨ (Faults (adjust old new) ∧
      (Line.logical old).length ≠ (Line.logical new).length ∧ ∃ digits ∈ runs new,
        ¬Writable (moved (Line.logical old) (Line.logical new)) digits) := by
  by_cases h : (Line.logical old).length = (Line.logical new).length
  · exact .inl ⟨new, adjust_of_length_eq h⟩
  · obtain ⟨f, hadj, hf⟩ := adjust_eq_renumber h
    cases ht : renumber f new with
    | ok t => exact .inl ⟨t, hadj.trans ht⟩
    | error e =>
      obtain ⟨g, rfl⟩ := renumber_error ht
      refine .inr ⟨⟨g, hadj.trans ht⟩, h, ?_⟩
      by_contra hno
      have hall : ∀ digits ∈ runs new,
          Writable (moved (Line.logical old) (Line.logical new)) digits :=
        fun digits hd => by_contra fun hw => hno ⟨digits, hd, hw⟩
      rw [(renumber_eq_ok _ hf).2 ⟨rfl, hall⟩] at ht
      cases ht

theorem faults_adjust {digits : Text} (h : (Line.logical old).length ≠ (Line.logical new).length)
    (hd : digits ∈ runs new)
    (hw : ¬Writable (moved (Line.logical old) (Line.logical new)) digits) :
    Faults (adjust old new) := by
  rcases adjust_cases old new with ⟨t, ht⟩ | ⟨hf, -⟩
  · obtain ⟨f, hadj, hf⟩ := adjust_eq_renumber h
    exact absurd (((renumber_eq_ok _ hf).1 (hadj.symm.trans ht)).2 digits hd) hw
  · exact hf

end Reference

namespace Service

variable {s : Surroundings} {m : Text} {j : Json} {e : Failure}

/-! ## What a message is answered -/

/-- The answer to an object that is posted to a path. -/
def posted (s : Surroundings) (path : String) (j : Json) : HttpReply :=
  HttpRequest.reply s ⟨"POST".toList, path.toList, some j, none⟩

/-- The type of a message; where there is none, it is null. -/
def kind (j : Json) : Json := (j.field? "type").getD .null

/-- A type of messages, the path that serves the same requests, and the type of the replies. -/
inductive Serves : String → String → String → Prop
  | evaluate : Serves "evaluate" "/api/evaluate" "evaluation_result"
  | adjust : Serves "adjust_references" "/api/adjust-references" "adjusted_references"

/-- What a message is answered. -/
inductive Replies (s : Surroundings) (m : Text) : Json → Prop
  /-- The message is no text of an object. -/
  | unreadable : (∀ fields, Json.read m ≠ .ok (.object fields)) → Replies s m invalidMessage
  | answered {fields : List (Text × Json)} {name path type : String} {body : Json} :
      Json.read m = .ok (.object fields) → kind (.object fields) = .string name.toList →
      Serves name path type → posted s path (.object fields) = .json 200 body →
      Replies s m (typed type body)
  /-- A field of the request is wrong. -/
  | invalid {fields : List (Text × Json)} {name path type : String}
      {errors : List (FieldFault × List Place)} :
      Json.read m = .ok (.object fields) → kind (.object fields) = .string name.toList →
      Serves name path type → posted s path (.object fields) = .unprocessable errors →
      Replies s m invalidMessage
  | unknown {fields : List (Text × Json)} :
      Json.read m = .ok (.object fields) →
      (∀ name path type, Serves name path type → kind (.object fields) ≠ .string name.toList) →
      Replies s m
        (errorReply ("unknown message type: ".toList ++ (kind (.object fields)).display))

/-- Something fails on the way to a reply. -/
inductive Breaks (s : Surroundings) (m : Text) : Prop
  | number : Json.read m = .error .hugeNumber → Breaks s m
  | nesting : Json.read m = .error .tooDeep → Breaks s m
  /-- The document is not evaluated to its end. -/
  | document {fields : List (Text × Json)} {t : Text} {active : Int} :
      Json.read m = .ok (.object fields) → kind (.object fields) = .string "evaluate".toList →
      Request.evaluate? (.object fields) = .ok (.evaluate t active) →
      Faults (Document.evaluate s active (Line.logical t)) → Breaks s m
  /-- A reference cannot be renumbered. -/
  | reference {fields : List (Text × Json)} {old new digits : Text} :
      Json.read m = .ok (.object fields) →
      kind (.object fields) = .string "adjust_references".toList →
      Request.adjust? (.object fields) = .ok (.adjust old new) →
      (Line.logical old).length ≠ (Line.logical new).length → digits ∈ Reference.runs new →
      ¬Reference.Writable (Reference.moved (Line.logical old) (Line.logical new)) digits →
      Breaks s m

theorem posted_evaluate (s : Surroundings) (j : Json) :
    posted s "/api/evaluate" j = answerObject s Request.evaluate? j := rfl

theorem posted_adjust (s : Surroundings) (j : Json) :
    posted s "/api/adjust-references" j = answerObject s Request.adjust? j := rfl

/-! ## One message -/

variable {fields : List (Text × Json)}

theorem reply_evaluate (h : Json.read m = .ok (.object fields))
    (hk : kind (.object fields) = .string "evaluate".toList) :
    reply s m = answerTyped s "evaluation_result" (Request.evaluate? (.object fields)) := by
  unfold reply
  rw [h]
  dsimp only
  unfold kind at hk
  rw [hk]
  rfl

theorem reply_adjust (h : Json.read m = .ok (.object fields))
    (hk : kind (.object fields) = .string "adjust_references".toList) :
    reply s m = answerTyped s "adjusted_references" (Request.adjust? (.object fields)) := by
  unfold reply
  rw [h]
  dsimp only
  unfold kind at hk
  rw [hk]
  rfl

theorem reply_unknown (h : Json.read m = .ok (.object fields))
    (hk : ∀ name path type, Serves name path type → kind (.object fields) ≠ .string name.toList) :
    reply s m =
      .ok (errorReply ("unknown message type: ".toList ++ (kind (.object fields)).display)) := by
  have hname {t : Text} {w : String} (ht : t ≠ w.toList) : (String.ofList t == w) = false := by
    rw [beq_eq_false_iff_ne]
    rintro rfl
    exact ht String.toList_ofList.symm
  have hne := hk _ _ _ .evaluate
  have hne' := hk _ _ _ .adjust
  unfold reply
  rw [h]
  dsimp only
  rw [kind] at hne hne' ⊢
  cases hkind : ((Json.object fields).field? "type").getD .null with
  | string t =>
    rw [hkind] at hne hne'
    have ht := hname fun ht : t = "evaluate".toList => hne (congrArg Json.string ht)
    have ht' := hname fun ht : t = "adjust_references".toList => hne' (congrArg Json.string ht)
    simp only [ht, ht']
    rfl
  | null | bool | int | real | array | object => rfl

/-- What is answered over HTTP is answered here with its type. -/
theorem answerTyped_cases (s : Surroundings) (fields : List (Text × Json))
    (read : Json → Checked Request) (type : String) :
    (∃ body, answerObject s read (.object fields) = .json 200 body ∧
        answerTyped s type (read (.object fields)) = .ok (typed type body)) ∨
      (∃ errors, answerObject s read (.object fields) = .unprocessable errors ∧
        answerTyped s type (read (.object fields)) = .ok invalidMessage) ∨
      ∃ r e, read (.object fields) = .ok r ∧ r.answer s = .error e ∧
        answerTyped s type (read (.object fields)) = .error e := by
  unfold answerObject answerTyped
  dsimp only
  cases read (.object fields) with
  | error es => exact .inr (.inl ⟨_, rfl, rfl⟩)
  | ok r =>
    dsimp only
    cases hr : r.answer s with
    | ok body => exact .inl ⟨body, rfl, rfl⟩
    | error e => exact .inr (.inr ⟨r, e, rfl, hr, rfl⟩)

theorem evaluate?_eq_ok {r : Request} (h : Request.evaluate? j = .ok r) :
    ∃ t active, r = .evaluate t active := by
  obtain ⟨⟨t, active⟩, -, rfl⟩ := map_eq_ok.1 h
  exact ⟨t, active, rfl⟩

theorem adjust?_eq_ok {r : Request} (h : Request.adjust? j = .ok r) :
    ∃ old new, r = .adjust old new := by
  obtain ⟨⟨old, new⟩, -, rfl⟩ := map_eq_ok.1 h
  exact ⟨old, new, rfl⟩

theorem faults_evaluate {t : Text} {active : Int} :
    Faults (Request.answer s (.evaluate t active)) ↔
      Faults (Document.evaluate s active (Line.logical t)) := by
  unfold Request.answer Request.records
  simp only [faults_bind, not_faults_pure, and_false, exists_false, or_false]

theorem faults_answer_adjust {old new : Text} :
    Faults (Request.answer s (.adjust old new)) ↔ Faults (Reference.adjust old new) := by
  unfold Request.answer
  simp only [faults_bind, not_faults_pure, and_false, exists_false, or_false]

/-- A message has its reply, or breaks. -/
theorem replies_or_breaks (s : Surroundings) (m : Text) :
    (∃ r, reply s m = .ok r ∧ Replies s m r) ∨ Breaks s m := by
  cases hread : Json.read m with
  | error err =>
    cases err with
    | malformed n =>
      refine .inl ⟨invalidMessage, ?_, .unreadable fun fields => by rw [hread]; exact nofun⟩
      rw [reply, hread]
    | hugeNumber => exact .inr (.number hread)
    | tooDeep => exact .inr (.nesting hread)
  | ok j =>
    cases j with
    | object fields =>
      by_cases hevaluate : kind (.object fields) = .string "evaluate".toList
      · rw [reply_evaluate hread hevaluate]
        rcases answerTyped_cases s fields Request.evaluate? "evaluation_result" with
          ⟨body, hp, hr⟩ | ⟨errors, hp, hr⟩ | ⟨r, e, hq, ha, -⟩
        · exact .inl ⟨_, hr, .answered hread hevaluate .evaluate hp⟩
        · exact .inl ⟨_, hr, .invalid hread hevaluate .evaluate hp⟩
        · obtain ⟨t, active, rfl⟩ := evaluate?_eq_ok hq
          refine .inr (.document hread hevaluate hq ?_)
          rcases bind_eq_error.1 ha with ha | ⟨_, -, ha⟩
          · rcases bind_eq_error.1 ha with ha | ⟨_, -, ha⟩
            · exact Document.evaluateFrom_error ha
            · cases ha
          · cases ha
      · by_cases hadjust : kind (.object fields) = .string "adjust_references".toList
        · rw [reply_adjust hread hadjust]
          rcases answerTyped_cases s fields Request.adjust? "adjusted_references" with
            ⟨body, hp, hr⟩ | ⟨errors, hp, hr⟩ | ⟨r, e, hq, ha, -⟩
          · exact .inl ⟨_, hr, .answered hread hadjust .adjust hp⟩
          · exact .inl ⟨_, hr, .invalid hread hadjust .adjust hp⟩
          · obtain ⟨old, new, rfl⟩ := adjust?_eq_ok hq
            rcases Reference.adjust_cases old new with ⟨t, ht⟩ | ⟨-, hlen, digits, hd, hw⟩
            · rw [Request.answer, ht] at ha
              cases ha
            · exact .inr (.reference hread hadjust hq hlen hd hw)
        · have hk : ∀ name path type, Serves name path type →
              kind (.object fields) ≠ .string name.toList := by
            intro name path type hserves
            cases hserves with
            | evaluate => exact hevaluate
            | adjust => exact hadjust
          exact .inl ⟨_, reply_unknown hread hk, .unknown hread hk⟩
    | null | bool | int | real | string | array =>
      refine .inl ⟨invalidMessage, ?_, .unreadable fun fields => by rw [hread]; exact nofun⟩
      rw [reply, hread]

/-- A message that breaks has no reply. -/
theorem reply_of_breaks (h : Breaks s m) : ∃ f, reply s m = .error (.fault f) := by
  have htyped {type : String} {r : Request} (hf : Faults (r.answer s)) :
      Faults (answerTyped s type (.ok r)) := faults_bind.2 (.inl hf)
  cases h with
  | number h => exact ⟨.badValue, by rw [reply, h]⟩
  | nesting h => exact ⟨.tooDeep, by rw [reply, h]⟩
  | document hread hk hq hf =>
    rw [reply_evaluate hread hk, hq]
    exact htyped (faults_evaluate.2 hf)
  | reference hread hk hq hlen hd hw =>
    rw [reply_adjust hread hk, hq]
    exact htyped (faults_answer_adjust.2 (Reference.faults_adjust hlen hd hw))

/-! ## Sessions -/

-- A whole number of 4301 digits ends a session, and the message behind it gets no reply.
example :
    let s : Surroundings := ⟨⟨0, some Zone.utc, false, by decide⟩, .fixed⟩
    let ms := ["null".toList, '[' :: List.replicate 4301 '1' ++ [']'], "null".toList]
    (converse s ms).1.length = 1 ∧ (converse s ms).2 = some (.fault .badValue) := by
  decide +kernel

/-- A message breaks for a run of digits or a number of brackets in its text, for a line of its
document that comes to a limit, or for a reference that cannot be read or written. -/
theorem cause_of_breaks (hnow : s.now.zone.isSome = true) (hlive : s.rates.live = false)
    (h : Breaks s m) :
    Json.LongRun m ∨ Json.maxDepth < m.countP Json.isOpening ∨
      ∃ fields, Json.read m = .ok (.object fields) ∧
        ((∃ t active before l after es,
            Request.evaluate? (.object fields) = .ok (.evaluate t active) ∧
            Line.counted (Line.logical t) = before ++ l :: after ∧
            Document.evaluateFrom s active 1 [] before = .ok es ∧
            Document.LineAtLimit s (es.map (·.outcome)) l) ∨
          ∃ old new, Request.adjust? (.object fields) = .ok (.adjust old new) ∧
            ∃ digits ∈ Reference.runs new,
              ¬Reference.Writable (Reference.moved (Line.logical old) (Line.logical new))
                digits) := by
  have hunread {err : Json.ReadError} (hread : Json.read m = .error err)
      (herr : ∀ n, err ≠ .malformed n) :
      Json.LongRun m ∨ Json.maxDepth < m.countP Json.isOpening := by
    by_contra hno
    rw [not_or, Nat.not_lt] at hno
    rcases Json.read_cases hno.1 hno.2 with ⟨j, hj⟩ | ⟨n, hn⟩
    · rw [hread] at hj
      cases hj
    · rw [hread] at hn
      cases hn
      exact herr n rfl
  cases h with
  | number hread => exact (hunread hread nofun).imp_right .inl
  | nesting hread => exact (hunread hread nofun).imp_right .inl
  | @document fields t active hread _ hq hf =>
    obtain ⟨before, l, after, es, hls, hes, hl⟩ := (Document.faults_evaluateFrom hnow hlive).1 hf
    exact .inr (.inr ⟨fields, hread, .inl ⟨t, active, before, l, after, es, hq, hls, hes, hl⟩⟩)
  | @reference fields old new digits hread _ hq _ hd hw =>
    exact .inr (.inr ⟨fields, hread, .inr ⟨old, new, hq, digits, hd, hw⟩⟩)

end Service

end Worksheet
