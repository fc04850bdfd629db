import Worksheet.Dependents
import Worksheet.Proofs.Locality

/-!
# Lines that do not depend on a line

**Theorem (`Document.evaluate_replaced`).** When one line of a document is replaced, the lines in
front of it and the lines that do not depend on it are evaluated as before.

Two facts carry the proof. The lines found as dependent are closed under references
(`find_closed`): a line that refers to one of them is found too. And a line is evaluated from what
it refers to (`evaluateLine_congr`). So in both runs the lines that are not found see the same
(`evaluateFrom_congr`), and an induction over the lines goes through.
-/

namespace Worksheet

open Result

namespace Dependents

variable {changed : Int} {refs : List (List Nat)} {targets targets' : List Int}

/-! ## Lines are found until nothing is new -/

theorem mem_referring {i r : Nat} {rs : List Nat} (hrs : refs[i]? = some rs)
    (hi : ((i + 1 : Nat) : Int) ≠ changed) (hr : r ∈ rs) (hm : (r : Int) ∈ targets) :
    i + 1 ∈ referring changed refs targets := by
  refine List.mem_filterMap.2 ⟨(rs, 1 + i), List.mk_add_mem_zipIdx_iff_getElem?.2 hrs, ?_⟩
  have hany : rs.any (fun r => targets.contains (r : Int)) = true :=
    List.any_eq_true.2 ⟨r, hr, List.contains_iff_mem.2 hm⟩
  dsimp only
  rw [Nat.add_comm 1 i, if_pos (by simpa only [hany, Bool.and_true, bne_iff_ne] using hi)]

theorem filterMap_sublist {α β : Type} {l : List α} {f g : α → Option β}
    (h : ∀ a b, f a = some b → g a = some b) : (l.filterMap f).Sublist (l.filterMap g) := by
  induction l with
  | nil => exact .slnil
  | cons a l ih =>
    rw [List.filterMap_cons, List.filterMap_cons]
    cases hf : f a with
    | some b =>
      rw [h a b hf]
      exact ih.cons_cons b
    | none =>
      cases g a with
      | none => exact ih
      | some b => exact ih.cons b

/-- More lines are referred to by more lines. -/
theorem referring_sublist (h : targets ⊆ targets') :
    (referring changed refs targets).Sublist (referring changed refs targets') := by
  refine filterMap_sublist fun p n hn => ?_
  simp only [Option.ite_none_right_eq_some, Bool.and_eq_true, List.any_eq_true,
    List.contains_iff_mem] at hn ⊢
  obtain ⟨⟨hc, r, hr, hm⟩, hp⟩ := hn
  exact ⟨⟨hc, r, hr, h hm⟩, hp⟩

theorem length_referring_le : (referring changed refs targets).length ≤ refs.length := by
  unfold referring
  refine (List.length_filterMap_le _ _).trans_eq ?_
  rw [List.length_zipIdx]

/-- The lines that refer to the changed line or to one of those found. -/
abbrev next (changed : Int) (refs : List (List Nat)) (found : List Nat) : List Nat :=
  referring changed refs (changed :: found.map Int.ofNat)

/-- Every round finds a further line or is the last, so that as many rounds as there are lines left
end with all of them. -/
theorem next_saturate {rounds : Nat} {found : List Nat} (hs : found.Sublist (next changed refs found))
    (hr : refs.length ≤ found.length + rounds) :
    next changed refs (saturate changed refs rounds found) = saturate changed refs rounds found := by
  induction rounds generalizing found with
  | zero => exact (hs.eq_of_length_le (Nat.le_trans length_referring_le hr)).symm
  | succ rounds ih =>
    rw [saturate]
    split
    · next heq => exact (hs.eq_of_length heq.symm).symm
    · next hne =>
      have hlt : found.length < (next changed refs found).length :=
        Nat.lt_of_le_of_ne hs.length_le (Ne.symm hne)
      refine ih (referring_sublist ?_) (by unfold next at hlt; omega)
      exact List.cons_subset_cons _ (List.map_subset _ hs.subset)

/-- A line that refers to the changed line, or to a line that is found, is found. -/
theorem find_closed {ls : List Text} {ds : List Nat} (h : find ls changed true = .ok ds) {i : Nat}
    {t : Text} (ht : (Line.counted ls)[i]? = some t) (hi : ((i + 1 : Nat) : Int) ≠ changed)
    {digits : Text} (hd : digits ∈ Reference.runs t) {n : Nat} (hn : Reference.line digits = .ok n)
    (hm : (n : Int) = changed ∨ n ∈ ds) : i + 1 ∈ ds := by
  obtain ⟨refs, hrefs, h⟩ := bind_eq_ok.1 h
  obtain rfl := pure_eq_ok.1 h
  have hmap := congrArg (·[i]?) (mapM_eq_ok.1 hrefs)
  simp only [List.getElem?_map, ht, Option.map_some] at hmap
  obtain ⟨rs, hrs, hf⟩ := Option.map_eq_some_iff.1 hmap.symm
  have hnr : n ∈ rs := mem_of_mapM hf.symm hd hn
  have hd : (referring changed refs [changed]).Sublist
      (next changed refs (referring changed refs [changed])) :=
    referring_sublist (by simp)
  rw [if_pos rfl] at hm ⊢
  rw [← next_saturate hd (by omega)]
  refine mem_referring hrs hi hnr ?_
  rcases hm with hm | hm
  · simp [hm]
  · exact List.mem_cons_of_mem _ (List.mem_map.2 ⟨n, hm, rfl⟩)

end Dependents

/-! ## Two runs -/

theorem Earlier.seen_append (e : Earlier) (o : Outcome) (n : Nat) :
    Earlier.seen (e ++ [o]) n = if n = e.length + 1 then o else e.seen n := by
  unfold Earlier.seen Earlier.line?
  cases n with
  | zero => simp
  | succ n =>
    simp only [Nat.add_one_ne_zero, if_false, Nat.add_one_sub_one, Nat.add_right_cancel_iff]
    rcases Nat.lt_trichotomy n e.length with hlt | rfl | hgt
    · rw [List.getElem?_append_left hlt, if_neg (Nat.ne_of_lt hlt)]
    · simp
    · rw [List.getElem?_eq_none (by simp; omega), List.getElem?_eq_none (by omega),
        if_neg (Nat.ne_of_gt hgt)]

theorem Earlier.seen_of_length_lt {e : Earlier} {n : Nat} (h : e.length < n) : e.seen n = {} := by
  unfold Earlier.seen Earlier.line?
  rw [if_neg (by omega), List.getElem?_eq_none (by omega)]
  rfl

namespace Document

variable {s : Surroundings} {active : Int} {n : Nat} {e e' : Earlier} {ls ms : List Text}
  {es es' : List EvaluatedLine}

theorem evaluateFrom_cons {l : Text} :
    evaluateFrom s active n e (l :: ls) = .ok es ↔
      ∃ x xs, evaluateLine s (active == n) e l = .ok x ∧
        evaluateFrom s active (n + 1) (e ++ [x.outcome]) ls = .ok xs ∧ es = x :: xs := by
  simp only [evaluateFrom, bind_eq_ok, pure_eq_ok]
  constructor
  · rintro ⟨x, hx, xs, hxs, rfl⟩
    exact ⟨x, xs, hx, hxs, rfl⟩
  · rintro ⟨x, xs, hx, hxs, rfl⟩
    exact ⟨x, hx, xs, hxs, rfl⟩

/-- A run goes through the lines from left to right. -/
theorem evaluateFrom_append :
    evaluateFrom s active n e (ls ++ ms) = .ok es ↔
      ∃ xs ys, evaluateFrom s active n e ls = .ok xs ∧
        evaluateFrom s active (n + ls.length) (e ++ xs.map (·.outcome)) ms = .ok ys ∧
          es = xs ++ ys := by
  induction ls generalizing n e es with
  | nil => simp [evaluateFrom]
  | cons l ls ih =>
    simp only [List.cons_append, evaluateFrom_cons, ih]
    constructor
    · rintro ⟨x, _, hx, ⟨xs, ys, hxs, hys, rfl⟩, rfl⟩
      refine ⟨x :: xs, ys, ⟨x, xs, hx, hxs, rfl⟩, ?_, rfl⟩
      simpa [Nat.add_assoc, Nat.add_comm 1] using hys
    · rintro ⟨_, ys, ⟨x, xs, hx, hxs, rfl⟩, hys, rfl⟩
      refine ⟨x, xs ++ ys, hx, ⟨xs, ys, hxs, ?_, rfl⟩, rfl⟩
      simpa [Nat.add_assoc, Nat.add_comm 1] using hys

/-- Two runs behind lines that agree where `P` holds agree there too, if the lines where `P` holds
refer to such lines only. -/
theorem evaluateFrom_congr {P : Nat → Prop} (hn : n = e.length + 1) (hn' : n = e'.length + 1)
    (he : ∀ m, P m → e'.seen m = e.seen m)
    (hP : ∀ i t, ls[i]? = some t → P (n + i) → ∀ digits ∈ Reference.runs t, ∀ m,
      Reference.line digits = .ok m → P m)
    (h : evaluateFrom s active n e ls = .ok es) (h' : evaluateFrom s active n e' ls = .ok es')
    {i : Nat} (hi : P (n + i)) : es'[i]? = es[i]? := by
  induction ls generalizing n e e' es es' i with
  | nil =>
    cases h
    cases h'
    rfl
  | cons l ls ih =>
    obtain ⟨x, xs, hx, hxs, rfl⟩ := evaluateFrom_cons.1 h
    obtain ⟨x', xs', hx', hxs', rfl⟩ := evaluateFrom_cons.1 h'
    have hline : P n → x' = x := fun hp => by
      have hc : evaluateLine s (active == n) e' l = evaluateLine s (active == n) e l :=
        evaluateLine_congr fun digits hd m hm => he m (hP 0 l rfl hp digits hd m hm)
      rw [hx, hx'] at hc
      exact Except.ok.inj hc
    cases i with
    | zero => rw [hline hi]; rfl
    | succ i =>
      refine ih (by simp [hn]) (by simp [hn']) (fun m hm => ?_) (fun i t ht hp => ?_) hxs hxs' ?_
      · rw [Earlier.seen_append, Earlier.seen_append, ← hn, ← hn', he m hm]
        split
        · next hmn => rw [hline (hmn ▸ hm)]
        · rfl
      · exact hP (i + 1) t ht (by rwa [show n + (i + 1) = n + 1 + i by omega])
      · rwa [show n + 1 + i = n + (i + 1) by omega]

theorem length_evaluateFrom (h : evaluateFrom s active n e ls = .ok es) :
    es.length = ls.length := by
  induction ls generalizing n e es with
  | nil =>
    cases h
    rfl
  | cons l ls ih =>
    obtain ⟨x, xs, -, hxs, rfl⟩ := evaluateFrom_cons.1 h
    rw [List.length_cons, List.length_cons, ih hxs]

/-- A line behind the replaced one is evaluated as before if it is not in `ds`, a set that holds
every line that refers to the replaced one or to one of its own. -/
theorem evaluateFrom_replaced {as bs : List Text} {l l' : Text} {ds : List Nat}
    (hds : ∀ i t, bs[i]? = some t → as.length + 1 + i + 1 ∉ ds → ∀ digits ∈ Reference.runs t,
      ∀ m, Reference.line digits = .ok m → m ≠ as.length + 1 ∧ m ∉ ds)
    (h : evaluateFrom s active 1 [] (as ++ l :: bs) = .ok es)
    (h' : evaluateFrom s active 1 [] (as ++ l' :: bs) = .ok es') {i : Nat}
    (hi : i < as.length ∨ (i ≠ as.length ∧ i + 1 ∉ ds)) : es'[i]? = es[i]? := by
  obtain ⟨xs, ys, hxs, hys, rfl⟩ := evaluateFrom_append.1 h
  obtain ⟨xs', ys', hxs', hys', rfl⟩ := evaluateFrom_append.1 h'
  rw [hxs] at hxs'
  cases hxs'
  have hlen := length_evaluateFrom hxs
  rcases Nat.lt_or_ge i as.length with hlt | hge
  · rw [List.getElem?_append_left (by omega), List.getElem?_append_left (by omega)]
  · obtain ⟨hne, hnd⟩ := hi.resolve_left (Nat.not_lt.2 hge)
    obtain ⟨y, zs, -, hzs, rfl⟩ := evaluateFrom_cons.1 hys
    obtain ⟨y', zs', -, hzs', rfl⟩ := evaluateFrom_cons.1 hys'
    obtain ⟨k, rfl⟩ := Nat.exists_eq_add_of_le (show as.length + 1 ≤ i by omega)
    have hk (z : EvaluatedLine) (zs : List EvaluatedLine) :
        (xs ++ z :: zs)[as.length + 1 + k]? = zs[k]? := by
      rw [List.getElem?_append_right (by omega), hlen,
        show as.length + 1 + k - as.length = k + 1 by omega]
      rfl
    have hn (z : EvaluatedLine) :
        1 + as.length + 1 = 
          ([] ++ xs.map EvaluatedLine.outcome ++ [z.outcome]).length + 1 := by
      simp only [List.nil_append, List.length_append, List.length_map, hlen, List.length_singleton]
      omega
    rw [hk, hk]
    -- The lines that are not in `ds` and not replaced see the same in both runs.
    refine evaluateFrom_congr (P := fun m => m ≠ as.length + 1 ∧ m ∉ ds) (hn y) (hn y')
      (fun m hm => ?_) (fun i t ht hp => hds i t ht ?_) hzs hzs' ⟨by omega, ?_⟩
    · rw [Earlier.seen_append, Earlier.seen_append, if_neg, if_neg] <;>
        simpa only [List.nil_append, List.length_map, hlen, ne_eq] using hm.1
    · rw [show as.length + 1 + i + 1 = 1 + as.length + 1 + i by omega]
      exact hp.2
    · rwa [show 1 + as.length + 1 + k = as.length + 1 + k + 1 by omega]

/-- **Lines that do not depend on a replaced line are evaluated as before.** So are the lines in
front of it, even if they refer to it. -/
theorem evaluate_replaced (as bs : List Text) {l l' : Text} {ds : List Nat}
    (hl : Line.isOutput l = false) (hl' : Line.isOutput l' = false)
    (h : evaluate s active (as ++ l :: bs) = .ok es)
    (h' : evaluate s active (as ++ l' :: bs) = .ok es')
    (hd : Dependents.find (as ++ l :: bs) ((Line.counted as).length + 1) true = .ok ds) :
    ∀ i, i < (Line.counted as).length ∨ (i ≠ (Line.counted as).length ∧ i + 1 ∉ ds) →
      es'[i]? = es[i]? := by
  have hcount {l : Text} (hl : Line.isOutput l = false) :
      Line.counted (as ++ l :: bs) = Line.counted as ++ l :: Line.counted bs := by
    simp [Line.counted, hl]
  unfold evaluate at h h'
  rw [hcount hl] at h
  rw [hcount hl'] at h'
  intro i hi
  refine evaluateFrom_replaced (fun i t ht hnd digits hdig m hm => ?_) h h' hi
  have ht' : (Line.counted (as ++ l :: bs))[(Line.counted as).length + 1 + i]? = some t := by
    rw [hcount hl, List.getElem?_append_right (by omega),
      show (Line.counted as).length + 1 + i - (Line.counted as).length = i + 1 by omega]
    exact ht
  have hc := Dependents.find_closed hd ht' (by omega) hdig hm
  exact ⟨fun hj => hnd (hc (.inl (by omega))), fun hj => hnd (hc (.inr hj))⟩

/-- The first and the third line of four stay when the second is replaced, as only the fourth refers
to it. -/
theorem evaluate_replaced_second :
    let s : Surroundings := ⟨⟨0, none, false, by decide⟩, .fixed⟩
    let document (l : String) := ["2 =", l, "\\1 + 1 =", "\\3 * \\2 ="].map String.toList
    ∃ es es', evaluate s 0 (document "3 =") = .ok es ∧ evaluate s 0 (document "4 =") = .ok es' ∧
      Dependents.find (document "3 =") 2 true = .ok [4] ∧
        es'[0]? = es[0]? ∧ es'[2]? = es[2]? := by
  intro s document
  obtain ⟨es, h⟩ := exists_eq_ok
    (show (evaluate s 0 (document "3 =")).toOption.isSome = true by decide +kernel)
  obtain ⟨es', h'⟩ := exists_eq_ok
    (show (evaluate s 0 (document "4 =")).toOption.isSome = true by decide +kernel)
  have hd : Dependents.find (document "3 =") 2 true = .ok [4] := by cbv
  have hsame := evaluate_replaced ["2 =".toList]
    (["\\1 + 1 =", "\\3 * \\2 ="].map String.toList) (by decide) (by decide) h h' hd
  exact ⟨es, es', h, h', hd, hsame 0 (.inl (by decide)), hsame 2 (.inr (by decide))⟩

end Document

end Worksheet
