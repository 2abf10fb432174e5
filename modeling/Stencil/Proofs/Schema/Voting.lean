import Stencil.Proofs.Schema.Positions

/-!
# What the items of an array are voted to be

The winner of a vote is always one of the array tags, and an array is voted to hold objects only if
an object is found in it.

## Key results

- `winner_eq`: which kind wins, by the counts
- `isArray_winner`: a vote is won by an array tag
- `membersIn_ne_nil_of_arrayObject`: a list of objects has an object in it
- `winner_tally_replicate`: copies of one vote are won by what a single one is won by
- `kindOf_ne_null`, `kindOfItems_ne_null`: only null is tagged as null
-/

namespace Stencil

namespace Moment

/-- A text is refined by one of the tags that are there for it. -/
theorem mem_extended_of_refine? {s : String} {t : Tag} (h : refine? s = some t) :
    t ∈ Tag.extended := by
  -- One case for each refinement, in the order in which they are tried.
  simp only [refine?] at h
  split at h
  · cases h; decide
  · split at h
    · cases h; decide
    · split at h
      · split at h <;> (cases h; decide)
      · split at h
        · cases h; decide
        · cases h

end Moment

namespace Schema

namespace Tally

/-- The best entry so far stays the best, or the others decide among themselves. -/
private theorem leader_some {best : Nat × Tag} (h : 0 < best.1) (es : List (Nat × Tag)) :
    leader (some best) es = if ∀ e ∈ es, e.1 ≤ best.1 then some best else leader none es := by
  induction es generalizing best with
  | nil => rfl
  | cons e es ih =>
    -- Either the next entry beats the best one so far, or the best one stays.
    by_cases hlt : best.1 < e.1
    · have hfail : ¬ ∀ e' ∈ e :: es, e'.1 ≤ best.1 := fun h =>
        Nat.not_le.2 hlt (h e List.mem_cons_self)
      rw [if_neg hfail]
      simp [leader, hlt, Nat.zero_lt_of_lt hlt]
    · have hstay : leader (some best) (e :: es) = leader (some best) es := by simp [leader, hlt]
      rw [hstay, ih h]
      by_cases hall : ∀ e' ∈ es, e'.1 ≤ best.1
      · have hcons : ∀ e' ∈ e :: es, e'.1 ≤ best.1 := by
          simpa [Nat.not_lt.1 hlt] using hall
        rw [if_pos hall, if_pos hcons]
      · rw [if_neg hall, if_neg fun h => hall (List.forall_mem_cons.1 h).2]
        -- Whatever beats the best entry beats this one as well.
        have hall' : ¬ ∀ e' ∈ es, e'.1 ≤ e.1 := fun h' => hall fun e' he' =>
          Nat.le_trans (h' e' he') (Nat.not_lt.1 hlt)
        by_cases hpos : 0 < e.1
        · have hlead : leader none (e :: es) = leader (some e) es := by simp [leader, hpos]
          rw [hlead, ih hpos, if_neg hall']
        · simp [leader, hpos]

/-- The first entry leads if it counts and no later one has more votes. -/
theorem leader_none_cons (e : Nat × Tag) (es : List (Nat × Tag)) :
    leader none (e :: es) =
      if 0 < e.1 ∧ ∀ e' ∈ es, e'.1 ≤ e.1 then some e else leader none es := by
  by_cases hpos : 0 < e.1
  · have hlead : leader none (e :: es) = leader (some e) es := by simp [leader, hpos]
    rw [hlead, leader_some hpos]
    simp only [hpos, true_and]
  · simp [leader, hpos]

/-- Of the kinds in their order, the first one wins that none of the later ones outnumbers. -/
theorem winner_eq (t : Tally) :
    t.winner =
      if 0 < t.mixed then .array
      else if 0 < t.objects ∧ t.bools ≤ t.objects ∧ t.floats ≤ t.objects ∧ t.ints ≤ t.objects ∧
        t.strings ≤ t.objects then .arrayObject
      else if 0 < t.bools ∧ t.floats ≤ t.bools ∧ t.ints ≤ t.bools ∧ t.strings ≤ t.bools then
        .arrayBool
      else if 0 < t.floats ∧ t.ints ≤ t.floats ∧ t.strings ≤ t.floats then .arrayFloat
      else if 0 < t.ints ∧ t.strings ≤ t.ints then .arrayInt
      else if 0 < t.strings then .arrayString
      else .array := by
  have hempty : leader none [] = none := rfl
  -- The ranking is a fixed list, so the leader is found entry by entry.
  simp only [winner, ranked, leader_none_cons, hempty, List.forall_mem_cons, List.not_mem_nil,
    false_implies, implies_true, and_true, apply_ite (Option.map _), Option.map_some,
    Option.map_none]
  grind

/-- A vote is won by an array tag. -/
theorem isArray_winner (t : Tally) : t.winner.isArray = true := by
  rw [winner_eq]
  repeat' split
  all_goals rfl

/-- Objects only win with a vote. -/
theorem objects_pos_of_winner {t : Tally} (h : t.winner = .arrayObject) : 0 < t.objects := by
  rw [winner_eq] at h
  grind

/-- Only a vote for objects adds to the number of objects. -/
theorem objects_add (t : Tally) (v : Vote) :
    (t.add v).objects = t.objects + if v = .object then 1 else 0 := by
  -- An integer or a text may be counted in two ways, but never as an object.
  cases v with
  | int =>
    simp only [add]
    split
    · rfl
    · split <;> rfl
  | text =>
    simp only [add]
    split <;> rfl
  | _ => rfl

/-- Nothing but so many votes of one kind. -/
def only (n : Nat) : Vote → Tally
  | .object => { objects := n }
  | .bool => { bools := n }
  | .int => { ints := n }
  | .float => { floats := n }
  | .text => { strings := n }
  | .mixed => { mixed := n }

/-- One more vote of the only kind. -/
theorem add_only (n : Nat) (v : Vote) : (only n v).add v = only (n + 1) v := by
  cases v <;> simp [only, add]

/-- How many votes of the only kind there are makes no difference. -/
theorem winner_only (n : Nat) (v : Vote) : (only (n + 1) v).winner = (only 1 v).winner := by
  cases v <;> simp [only, winner_eq]

end Tally

/-- Objects are counted one by one. -/
theorem objects_foldl_add (t : Tally) (us : List Vote) :
    (us.foldl Tally.add t).objects = t.objects + us.count .object := by
  induction us generalizing t with
  | nil => rfl
  | cons u us ih =>
    rw [List.foldl_cons, ih, Tally.objects_add, List.count_cons]
    grind

/-- Objects only win with a vote, so one was cast for them. -/
theorem mem_of_winner_arrayObject {us : List Vote} (h : (tally us).winner = .arrayObject) :
    Vote.object ∈ us := by
  have hpos := Tally.objects_pos_of_winner h
  rw [tally, objects_foldl_add] at hpos
  exact List.count_pos_iff.1 (by simpa using hpos)

/-- The last vote is counted last. -/
theorem tally_append_singleton (us : List Vote) (u : Vote) :
    tally (us ++ [u]) = (tally us).add u := tally_append us [u]

/-- Votes of one kind are counted as that kind only. -/
theorem tally_replicate (n : Nat) (v : Vote) : tally (List.replicate n v) = Tally.only n v := by
  induction n with
  | zero => cases v <;> rfl
  | succ n ih => rw [List.replicate_succ', tally_append_singleton, ih, Tally.add_only]

/-- Votes of one kind are won by what a single one is won by. -/
theorem winner_tally_replicate (n : Nat) (v : Vote) :
    (tally (List.replicate (n + 1) v)).winner = (tally [v]).winner := by
  rw [tally_replicate, Tally.winner_only, ← tally_replicate]
  rfl

/-! ## Values -/

variable {refine : Bool}

/-- The items of an array never make it null. -/
theorem kindOfItems_ne_null (vs : List Json) : kindOfItems vs ≠ .null := by
  intro h
  have harray := (tally (votes vs)).isArray_winner
  rw [show (tally (votes vs)).winner = .null from h] at harray
  cases harray

/-- Only null is tagged as null. -/
theorem kindOf_ne_null {v : Json} (h : v.isNull = false) : kindOf refine v ≠ .null := by
  cases v with
  | null => cases h
  | number n => simp only [kindOf, kind]; split <;> simp
  | array vs => exact kindOfItems_ne_null vs
  | string s =>
    rw [kindOf]
    split
    · -- A text that is refined gets one of the tags for texts.
      cases hr : Moment.refine? s with
      | none => simp
      | some t =>
        rintro rfl
        exact absurd (Moment.mem_extended_of_refine? hr) (by decide)
    · simp
  | _ => simp [kindOf, kind]

/-- A position is null iff nothing but nulls stands there. -/
theorem tagOf_eq_null_iff {vs : List Json} :
    tagOf refine vs = .null ↔ ∀ v ∈ vs, v.isNull = true := by
  rw [tagOf_eq]
  split
  · next h => exact iff_of_true rfl h
  · next h =>
    refine iff_of_false ?_ h
    split
    · exact kindOfItems_ne_null _
    · -- The leading value decides, and it is not null: else all values were.
      next harrays =>
      refine kindOf_ne_null (Bool.eq_false_iff.2 fun hnull => harrays fun v hv => ?_)
      exact .inl (isNull_lead_iff.1 hnull v hv)

/-- No text votes for objects. -/
theorem ofText_ne_object (s : String) : Vote.ofText s ≠ .object := by
  simp only [Vote.ofText]
  split
  · split <;> simp
  · split
    · simp
    · split <;> simp

/-- Of the nested arrays, only those of objects vote for objects. -/
theorem eq_arrayObject_of_ofTag {t : Tag} (h : Vote.ofTag t = .object) : t = .arrayObject := by
  cases t <;> simp_all [Vote.ofTag]

/-- Whatever votes for objects has an object in it. -/
theorem membersIn_ne_nil_of_vote {v : Json} (h : vote v = .object) : membersIn v ≠ [] := by
  induction v using Json.structuralInduction with
  | null => cases h
  | scalar v hv =>
    cases v with
    | number n => simp only [vote] at h; split at h <;> cases h
    | string s => exact absurd h (ofText_ne_object s)
    | bool b => cases h
    | _ => cases hv
  | object ms _ => simp
  | array vs ih =>
    -- A nested array votes for objects because one of its items does.
    have hmem := mem_of_winner_arrayObject (eq_arrayObject_of_ofTag h)
    rw [votes_eq_map] at hmem
    obtain ⟨w, hw, hvote⟩ := List.mem_map.1 hmem
    obtain ⟨ms, hms⟩ := List.exists_mem_of_ne_nil _ (ih w hw hvote)
    rw [membersIn_array]
    exact List.ne_nil_of_mem (List.mem_flatMap.2 ⟨w, hw, hms⟩)

/-- An array that is voted to hold objects has an object in it. -/
theorem membersIn_ne_nil_of_arrayObject {vs : List Json} (h : kindOfItems vs = .arrayObject) :
    membersIn (.array vs) ≠ [] :=
  membersIn_ne_nil_of_vote (v := .array vs) (by
    have hvote : vote (.array vs) = Vote.ofTag (kindOfItems vs) := by rw [vote, kindOfItems]
    rw [hvote, h]
    rfl)

end Schema
end Stencil
