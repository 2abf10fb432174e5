import Stencil.Proofs.Schema.Voting

/-!
# Voting in rounds

When the same votes are cast again and again, in the same order, the first round is counted in its
own way: a kind that comes late has missed what was cast before it, and texts that come first have
nothing yet that they do not fit in with. Each later round adds the same to every count. So votes
need not be won by the same kind when they are repeated, and the counts tell when they are.

## Key results

- `tally_rounds`: the counts after so many rounds
- `winner_rounds_eq_iff`: which votes are won by the same kind when they are cast in rounds
-/

namespace Stencil.Schema

namespace Tally

/-! ## Counting one vote -/

/-- Something is counted that texts do not fit in with. -/
def Occupied (t : Tally) : Prop := 0 < t.ints ∨ 0 < t.floats ∨ 0 < t.bools ∨ 0 < t.objects

instance (t : Tally) : Decidable t.Occupied := inferInstanceAs (Decidable (_ ∨ _))

/-- What a vote does to the number of truth values: a whole number joins them once there are
some. -/
theorem bools_add (t : Tally) (u : Vote) :
    (t.add u).bools = t.bools + if u = .bool ∨ u = .int ∧ 0 < t.bools then 1 else 0 := by
  cases u <;> simp only [add] <;> grind

/-- What a vote does to the number of fractions: a truth value clears it, and whole numbers join it
if there are fractions and no truth values. -/
theorem floats_add (t : Tally) (u : Vote) :
    (t.add u).floats = if u = .bool then 0
      else t.floats + if u = .float ∨ u = .int ∧ t.bools = 0 ∧ 0 < t.floats then 1 else 0 := by
  cases u <;> simp only [add] <;> grind

/-- What a vote does to the number of whole numbers: a truth value or a fraction clears it. -/
theorem ints_add (t : Tally) (u : Vote) :
    (t.add u).ints = if u = .bool ∨ u = .float then 0
      else t.ints + if u = .int ∧ t.bools = 0 ∧ t.floats = 0 then 1 else 0 := by
  cases u <;> simp only [add] <;> grind

/-- What a vote does to the number of texts: they only count if nothing else has been counted. -/
theorem strings_add (t : Tally) (u : Vote) :
    (t.add u).strings = t.strings + if u = .text ∧ ¬ t.Occupied then 1 else 0 := by
  cases u <;> simp only [add, Occupied] <;> grind

/-- What a vote does to the number of mixed items: a text that does not fit in counts as one. -/
theorem mixed_add (t : Tally) (u : Vote) :
    (t.add u).mixed = t.mixed + if u = .mixed ∨ u = .text ∧ t.Occupied then 1 else 0 := by
  cases u <;> simp only [add, Occupied] <;> grind

/-- Truth values are counted after a vote if they were before, or if it is one for them. -/
theorem bools_add_pos_iff {t : Tally} {u : Vote} :
    0 < (t.add u).bools ↔ 0 < t.bools ∨ u = .bool := by
  rw [bools_add]
  grind

/-- Any vote but one for a text or a mixed item keeps texts out from then on. -/
theorem occupied_add_iff {t : Tally} {u : Vote} :
    (t.add u).Occupied ↔ t.Occupied ∨ u ≠ .text ∧ u ≠ .mixed := by
  simp only [Occupied, bools_add, floats_add, ints_add, objects_add]
  cases u <;> grind

/-! ## Counting a list of votes -/

section Run

variable {s t : Tally} {us : List Vote}

/-- Truth values are counted iff they were before, or one is voted for. -/
theorem bools_pos_iff (t : Tally) (us : List Vote) :
    0 < (us.foldl add t).bools ↔ 0 < t.bools ∨ .bool ∈ us := by
  induction us generalizing t with
  | nil => simp
  | cons u us ih => rw [List.foldl_cons, ih, bools_add_pos_iff, List.mem_cons, or_assoc, eq_comm]

/-- Once there is a truth value, whole numbers count as truth values. -/
theorem bools_foldl_add (h : 0 < t.bools) (us : List Vote) :
    (us.foldl add t).bools = t.bools + us.count .bool + us.count .int := by
  induction us generalizing t with
  | nil => rfl
  | cons u us ih =>
    rw [List.foldl_cons, ih (bools_add_pos_iff.2 (.inl h)), bools_add, List.count_cons,
      List.count_cons]
    -- Each further vote for either is counted as a truth value.
    cases u <;> grind

/-- The fractions counted after a truth value do not depend on what was counted before. -/
theorem floats_foldl_add_congr (hs : 0 < s.bools) (ht : 0 < t.bools) (h : s.floats = t.floats)
    (us : List Vote) : (us.foldl add s).floats = (us.foldl add t).floats := by
  induction us generalizing s t with
  | nil => exact h
  | cons u us ih =>
    refine ih (bools_add_pos_iff.2 (.inl hs)) (bools_add_pos_iff.2 (.inl ht)) ?_
    rw [floats_add, floats_add, h]
    grind

/-- With a truth value among the votes, what was counted before makes no difference to fractions. -/
theorem floats_foldl_add_of_bool (h : .bool ∈ us) (s t : Tally) :
    (us.foldl add s).floats = (us.foldl add t).floats := by
  obtain ⟨vs, ws, rfl⟩ := List.append_of_mem h
  rw [List.foldl_append, List.foldl_append, List.foldl_cons, List.foldl_cons]
  -- Just after the truth value, both have counted one and no fractions.
  refine floats_foldl_add_congr ?_ ?_ ?_ ws
  · exact bools_add_pos_iff.2 (.inr rfl)
  · exact bools_add_pos_iff.2 (.inr rfl)
  · rw [floats_add, floats_add]; simp

/-- Without a vote for them, no truth values are counted. -/
theorem bools_eq_zero (h : t.bools = 0) (hus : .bool ∉ us) : (us.foldl add t).bools = 0 := by
  have hpos := mt (bools_pos_iff t us).1 (by simp [h, hus])
  omega

/-- Without truth values, fractions are counted iff they were before, or one is voted for. -/
theorem floats_pos_iff (hus : .bool ∉ us) (t : Tally) :
    0 < (us.foldl add t).floats ↔ 0 < t.floats ∨ .float ∈ us := by
  induction us generalizing t with
  | nil => simp
  | cons u us ih =>
    rw [List.foldl_cons, ih (fun h => hus (List.mem_cons_of_mem _ h)), floats_add]
    grind

/-- Without truth values, whole numbers count as fractions once there is one. -/
theorem floats_foldl_add (hb : t.bools = 0) (hf : 0 < t.floats) (hus : .bool ∉ us) :
    (us.foldl add t).floats = t.floats + us.count .float + us.count .int := by
  induction us generalizing t with
  | nil => rfl
  | cons u us ih =>
    have hu : u ≠ .bool := fun h => hus (h ▸ List.mem_cons_self)
    -- There are still no truth values, and still fractions, after the first vote.
    have hb' : (t.add u).bools = 0 := by rw [bools_add]; grind
    have hf' : 0 < (t.add u).floats := by rw [floats_add]; grind
    rw [List.foldl_cons, ih hb' hf' fun h => hus (List.mem_cons_of_mem _ h), floats_add,
      List.count_cons, List.count_cons]
    grind

/-- Whole numbers count as something else from here on. -/
def Widened (t : Tally) : Prop := t.ints = 0 ∧ (0 < t.bools ∨ 0 < t.floats)

/-- Whole numbers do not come back. -/
theorem Widened.add (h : t.Widened) (u : Vote) : (t.add u).Widened := by
  unfold Widened at *
  rw [ints_add, bools_add, floats_add]
  grind

/-- A truth value or a fraction widens them. -/
theorem widened_add {u : Vote} (h : u = .bool ∨ u = .float) : (t.add u).Widened := by
  unfold Widened
  rw [ints_add, bools_add, floats_add]
  grind

/-- Nor do they come back after several votes. -/
theorem Widened.foldl_add (h : t.Widened) (us : List Vote) : (us.foldl Tally.add t).Widened := by
  induction us generalizing t with
  | nil => exact h
  | cons u us ih => exact ih (h.add u)

/-- A truth value or a fraction anywhere among the votes widens them. -/
theorem widened_foldl_add (h : .bool ∈ us ∨ .float ∈ us) (t : Tally) :
    (us.foldl add t).Widened := by
  obtain ⟨u, hu, hmem⟩ : ∃ u, (u = .bool ∨ u = .float) ∧ u ∈ us :=
    h.elim (fun h => ⟨_, .inl rfl, h⟩) fun h => ⟨_, .inr rfl, h⟩
  -- They are widened at that vote and stay so behind it.
  obtain ⟨vs, ws, rfl⟩ := List.append_of_mem hmem
  rw [List.foldl_append, List.foldl_cons]
  exact (widened_add hu).foldl_add ws

/-- Without truth values and fractions, whole numbers count as such. -/
theorem ints_foldl_add (hb : t.bools = 0) (hf : t.floats = 0) (hus : .bool ∉ us)
    (hus' : .float ∉ us) : (us.foldl add t).ints = t.ints + us.count .int := by
  induction us generalizing t with
  | nil => rfl
  | cons u us ih =>
    have hb' : (t.add u).bools = 0 := by rw [bools_add]; grind
    have hf' : (t.add u).floats = 0 := by rw [floats_add]; grind
    rw [List.foldl_cons, ih hb' hf' (fun h => hus (List.mem_cons_of_mem _ h))
      (fun h => hus' (List.mem_cons_of_mem _ h)), ints_add, List.count_cons]
    grind

/-- Texts are kept out iff they were before, or a vote for anything but texts and mixed items is
cast. -/
theorem occupied_foldl_add_iff (t : Tally) (us : List Vote) :
    (us.foldl add t).Occupied ↔ t.Occupied ∨ ∃ u ∈ us, u ≠ .text ∧ u ≠ .mixed := by
  induction us generalizing t with
  | nil => simp
  | cons u us ih =>
    rw [List.foldl_cons, ih, occupied_add_iff]
    simp [or_assoc]

/-- Once texts do not fit in, they count as mixed. -/
theorem texts_foldl_add (h : t.Occupied) (us : List Vote) :
    (us.foldl add t).strings = t.strings ∧
      (us.foldl add t).mixed = t.mixed + us.count .mixed + us.count .text := by
  induction us generalizing t with
  | nil => exact ⟨rfl, rfl⟩
  | cons u us ih =>
    obtain ⟨hstrings, hmixed⟩ := ih (occupied_add_iff.2 (.inl h))
    rw [List.foldl_cons, hstrings, hmixed, strings_add, mixed_add, List.count_cons, List.count_cons]
    grind

/-- Before there is anything else, texts count as such. -/
theorem texts_foldl_add_of_not_occupied (h : ¬ (us.foldl add t).Occupied) :
    (us.foldl add t).strings = t.strings + us.count .text ∧
      (us.foldl add t).mixed = t.mixed + us.count .mixed := by
  induction us generalizing t with
  | nil => exact ⟨rfl, rfl⟩
  | cons u us ih =>
    -- If texts still fit in at the end, they have all the time.
    have ht : ¬ t.Occupied := fun ht => h ((occupied_foldl_add_iff _ _).2 (.inl ht))
    obtain ⟨hstrings, hmixed⟩ := ih h
    rw [List.foldl_cons, hstrings, hmixed, strings_add, mixed_add, List.count_cons, List.count_cons]
    grind

end Run

end Tally

/-! ## Rounds -/

attribute [ext] Tally

/-- The counts after so many rounds on top of the first one. -/
def rounds (us : List Vote) (n : Nat) : Tally :=
  let t := tally us
  let occupied := t.Occupied
  { objects := t.objects + n * us.count .object
    bools := t.bools + n * if .bool ∈ us then us.count .bool + us.count .int else 0
    floats := t.floats + n *
      if .bool ∈ us then 0 else if .float ∈ us then us.count .float + us.count .int else 0
    ints := t.ints + n * if .bool ∈ us ∨ .float ∈ us then 0 else us.count .int
    strings := t.strings + n * if occupied then 0 else us.count .text
    mixed := t.mixed + n * (us.count .mixed + if occupied then us.count .text else 0) }

section Rounds

variable {us : List Vote} {n : Nat}

/-- Truth values are counted iff one is voted for. -/
theorem bools_tally_pos_iff (us : List Vote) : 0 < (tally us).bools ↔ .bool ∈ us := by
  rw [tally, Tally.bools_pos_iff]
  simp

/-- Without truth values, fractions are counted iff one is voted for. -/
theorem floats_tally_pos_iff (h : .bool ∉ us) : 0 < (tally us).floats ↔ .float ∈ us := by
  rw [tally, Tally.floats_pos_iff h]
  simp

/-- More rounds do not change whether truth values are counted. -/
theorem bools_rounds_pos_iff (us : List Vote) (n : Nat) :
    0 < (rounds us n).bools ↔ .bool ∈ us := by
  have hfirst := bools_tally_pos_iff us
  rw [rounds]
  grind

/-- Nor whether fractions are, if there are no truth values. -/
theorem floats_rounds_pos_iff (h : .bool ∉ us) (n : Nat) :
    0 < (rounds us n).floats ↔ .float ∈ us := by
  have hfirst := floats_tally_pos_iff h
  rw [rounds]
  grind

/-- Texts are kept out iff something else than texts and mixed items is voted for. -/
theorem occupied_tally_iff : (tally us).Occupied ↔ ∃ u ∈ us, u ≠ .text ∧ u ≠ .mixed := by
  have hnone : ¬ Tally.Occupied {} := by decide
  rw [tally, Tally.occupied_foldl_add_iff]
  exact or_iff_right hnone

/-- More rounds do not change that. -/
theorem occupied_rounds_iff (us : List Vote) (n : Nat) :
    (rounds us n).Occupied ↔ (tally us).Occupied := by
  by_cases h : (tally us).Occupied
  · refine iff_of_true ?_ h
    unfold Tally.Occupied at *
    simp only [rounds]
    omega
  · -- Nothing but texts and mixed items are voted for.
    have hnone : ∀ u, u ≠ .text → u ≠ .mixed → u ∉ us := fun u ht hm hu =>
      h (occupied_tally_iff.2 ⟨u, hu, ht, hm⟩)
    have hobject : us.count .object = 0 := List.count_eq_zero.2 (hnone _ (by simp) (by simp))
    have hint : us.count .int = 0 := List.count_eq_zero.2 (hnone _ (by simp) (by simp))
    have hbool := hnone .bool (by simp) (by simp)
    have hfloat := hnone .float (by simp) (by simp)
    simp [Tally.Occupied, rounds, hobject, hint, hbool, hfloat]

/-- One more round of truth values. -/
private theorem bools_foldl_add_rounds (us : List Vote) (n : Nat) :
    (us.foldl Tally.add (rounds us n)).bools = (rounds us (n + 1)).bools := by
  have hpos := bools_rounds_pos_iff us n
  by_cases h : .bool ∈ us
  · rw [Tally.bools_foldl_add (hpos.2 h)]
    simp only [rounds, if_pos h, Nat.succ_mul]
    omega
  · -- Without truth values, none are counted before the round or after it.
    have hnone := bools_rounds_pos_iff us (n + 1)
    rw [Tally.bools_eq_zero (by grind) h]
    grind

/-- One more round of fractions. -/
private theorem floats_foldl_add_rounds (us : List Vote) (n : Nat) :
    (us.foldl Tally.add (rounds us n)).floats = (rounds us (n + 1)).floats := by
  by_cases hb : .bool ∈ us
  · -- A truth value clears the fractions counted before it, also those of earlier rounds.
    rw [Tally.floats_foldl_add_of_bool hb _ {}, ← tally]
    simp only [rounds, if_pos hb, Nat.mul_zero, Nat.add_zero]
  · have hbools := bools_rounds_pos_iff us n
    have hpos := floats_rounds_pos_iff hb
    by_cases hf : .float ∈ us
    · rw [Tally.floats_foldl_add (by grind) ((hpos n).2 hf) hb]
      simp only [rounds, if_neg hb, if_pos hf, Nat.succ_mul]
      omega
    · -- Neither is voted for, so no fractions are counted in any round.
      have hfold := Tally.floats_pos_iff hb (rounds us n)
      grind

/-- One more round of whole numbers. -/
private theorem ints_foldl_add_rounds (us : List Vote) (n : Nat) :
    (us.foldl Tally.add (rounds us n)).ints = (rounds us (n + 1)).ints := by
  by_cases h : .bool ∈ us ∨ .float ∈ us
  · -- Whole numbers are widened in the first round and in every other one.
    have hfirst := (Tally.widened_foldl_add h {}).1
    rw [← tally] at hfirst
    rw [(Tally.widened_foldl_add h _).1]
    simp only [rounds, if_pos h, hfirst, Nat.mul_zero, Nat.add_zero]
  · -- Nothing widens them, so they are counted as they are.
    obtain ⟨hb, hf⟩ := not_or.1 h
    have hbools := bools_rounds_pos_iff us n
    have hfloats := floats_rounds_pos_iff hb n
    rw [Tally.ints_foldl_add (by grind) (by grind) hb hf]
    simp only [rounds, if_neg h, Nat.succ_mul]
    omega

/-- One more round of texts and mixed items. -/
private theorem texts_foldl_add_rounds (us : List Vote) (n : Nat) :
    (us.foldl Tally.add (rounds us n)).strings = (rounds us (n + 1)).strings ∧
      (us.foldl Tally.add (rounds us n)).mixed = (rounds us (n + 1)).mixed := by
  by_cases h : (tally us).Occupied
  · -- From the second round on, all texts come too late.
    obtain ⟨hstrings, hmixed⟩ := Tally.texts_foldl_add ((occupied_rounds_iff us n).2 h) us
    rw [hstrings, hmixed]
    simp only [rounds, if_pos h, Nat.succ_mul]
    omega
  · -- Texts fit in throughout.
    have hfold : ¬ (us.foldl Tally.add (rounds us n)).Occupied := by
      rwa [Tally.occupied_foldl_add_iff, occupied_rounds_iff, ← occupied_tally_iff, or_self]
    obtain ⟨hstrings, hmixed⟩ := Tally.texts_foldl_add_of_not_occupied hfold
    rw [hstrings, hmixed]
    simp only [rounds, if_neg h, Nat.succ_mul]
    omega

/-- Another round adds the same to every count. -/
theorem foldl_add_rounds (us : List Vote) (n : Nat) :
    us.foldl Tally.add (rounds us n) = rounds us (n + 1) := by
  ext
  case objects =>
    rw [objects_foldl_add]
    simp only [rounds, Nat.succ_mul]
    omega
  case bools => exact bools_foldl_add_rounds us n
  case floats => exact floats_foldl_add_rounds us n
  case ints => exact ints_foldl_add_rounds us n
  case strings => exact (texts_foldl_add_rounds us n).1
  case mixed => exact (texts_foldl_add_rounds us n).2

/-- No further round leaves the counts of the first. -/
theorem rounds_zero (us : List Vote) : rounds us 0 = tally us := by simp [rounds]

/-- The counts of votes that are cast several times. -/
theorem tally_rounds (us : List Vote) (n : Nat) :
    tally (List.replicate (n + 1) us).flatten = rounds us n := by
  induction n with
  | zero => simp [rounds_zero]
  | succ n ih =>
    rw [List.replicate_succ', List.flatten_append, List.flatten_singleton, tally_append, ih,
      foldl_add_rounds]

end Rounds

/-! ## The winner of many rounds -/

namespace Tally

/-- With truth values, nothing counts as a whole number. -/
theorem winner_of_bools {t : Tally} (hm : t.mixed = 0) (hs : t.strings = 0) (hi : t.ints = 0)
    (hb : 0 < t.bools) :
    t.winner = if t.bools ≤ t.objects ∧ t.floats ≤ t.objects then .arrayObject
      else if t.floats ≤ t.bools then .arrayBool else .arrayFloat := by
  rw [winner_eq]
  grind

/-- Without truth values, fractions win unless objects are at least as many. -/
theorem winner_of_floats {t : Tally} (hm : t.mixed = 0) (hs : t.strings = 0) (hi : t.ints = 0)
    (hb : t.bools = 0) (hf : 0 < t.floats) :
    t.winner = if t.floats ≤ t.objects then .arrayObject else .arrayFloat := by
  rw [winner_eq]
  grind

/-- Without truth values and fractions, whole numbers win unless objects are at least as many. -/
theorem winner_of_ints {t : Tally} (hm : t.mixed = 0) (hs : t.strings = 0) (hb : t.bools = 0)
    (hf : t.floats = 0) :
    t.winner = if 0 < t.objects ∧ t.ints ≤ t.objects then .arrayObject
      else if 0 < t.ints then .arrayInt else .array := by
  rw [winner_eq]
  grind

/-- No kind is counted more often than there are votes that may count for it. -/
theorem foldl_add_bounds (t : Tally) (us : List Vote) :
    (us.foldl add t).bools ≤ t.bools + us.count .bool + us.count .int ∧
    (us.foldl add t).floats ≤ t.floats + us.count .float + us.count .int ∧
    (us.foldl add t).strings ≤ t.strings + us.count .text ∧
    t.mixed + us.count .mixed ≤ (us.foldl add t).mixed := by
  induction us generalizing t with
  | nil => simp
  | cons u us ih =>
    obtain ⟨hbools, hfloats, hstrings, hmixed⟩ := ih (t.add u)
    rw [bools_add] at hbools
    rw [floats_add] at hfloats
    rw [strings_add] at hstrings
    rw [mixed_add] at hmixed
    simp only [List.foldl_cons, List.count_cons]
    -- What one vote adds is bounded by what it may count for.
    cases u <;> grind

end Tally

section Rounds

variable {us : List Vote} {n : Nat}

/-- The same bounds for votes that are counted from nothing. -/
theorem tally_bounds (us : List Vote) :
    (tally us).bools ≤ us.count .bool + us.count .int ∧
    (tally us).floats ≤ us.count .float + us.count .int ∧
    (tally us).strings ≤ us.count .text ∧ us.count .mixed ≤ (tally us).mixed := by
  have h := Tally.foldl_add_bounds {} us
  rw [← tally] at h
  simpa only [Nat.zero_add] using h

/-- Objects are counted as they are voted for. -/
theorem objects_tally (us : List Vote) : (tally us).objects = us.count .object := by
  rw [tally, objects_foldl_add, Nat.zero_add]

/-- Votes of one kind are won by the same kind however often they are cast. -/
theorem winner_rounds_of_forall_eq {v : Vote} (h : ∀ u ∈ us, u = v) (n : Nat) :
    (rounds us n).winner = (tally us).winner := by
  have hus : us = List.replicate us.length v := List.eq_replicate_iff.2 ⟨rfl, h⟩
  rw [← tally_rounds, hus, List.flatten_replicate_replicate]
  cases us.length with
  | zero => rw [Nat.mul_zero]
  | succ m => rw [Nat.succ_mul_succ_eq, winner_tally_replicate, winner_tally_replicate]

/-- A mixed item makes the array mixed in the first round and in all others. -/
private theorem winner_rounds_of_mixed (h : 0 < (tally us).mixed) (n : Nat) :
    (rounds us n).winner = (tally us).winner := by
  have hrounds : 0 < (rounds us n).mixed := Nat.lt_of_lt_of_le h (Nat.le_add_right _ _)
  rw [Tally.winner_eq, Tally.winner_eq, if_pos h, if_pos hrounds]

/-- Texts that came first do not fit in any more when they come again. -/
private theorem winner_rounds_ne (hm : (tally us).mixed = 0) (ht : .text ∈ us)
    (ho : (tally us).Occupied) (hn : 0 < n) : (rounds us n).winner ≠ (tally us).winner := by
  -- In the second round the texts count as mixed.
  have hmixed : 0 < (rounds us n).mixed := by
    have hcount : 0 < us.count .text := List.count_pos_iff.2 ht
    have hmul : 0 < n * (us.count .mixed + us.count .text) := Nat.mul_pos hn (by omega)
    simp only [rounds, if_pos ho]
    omega
  -- In the first round one of the other kinds wins.
  have harray : (tally us).winner ≠ .array := by
    intro h
    rw [Tally.winner_eq] at h
    unfold Tally.Occupied at ho
    repeat' split at h
    all_goals first
      | omega
      | cases h
  rw [Tally.winner_eq, if_pos hmixed]
  exact harray.symm

/-- Without texts among the votes, no round counts one. -/
private theorem strings_rounds (ht : .text ∉ us) (n : Nat) : (rounds us n).strings = 0 := by
  have htext : us.count .text = 0 := List.count_eq_zero.2 ht
  have hbound := (tally_bounds us).2.2.1
  have hfirst : (tally us).strings = 0 := by omega
  simp [rounds, htext, hfirst]

/-- Without texts and mixed items, no round counts mixed ones. -/
private theorem mixed_rounds (hm : (tally us).mixed = 0) (ht : .text ∉ us) (n : Nat) :
    (rounds us n).mixed = 0 := by
  have htext : us.count .text = 0 := List.count_eq_zero.2 ht
  have hbound := (tally_bounds us).2.2.2
  have hcount : us.count .mixed = 0 := by omega
  simp [rounds, htext, hcount, hm]

/-- With truth values, whole numbers are out. -/
private theorem winner_rounds_of_bool (hm : (tally us).mixed = 0) (ht : .text ∉ us)
    (hb : .bool ∈ us) (n : Nat) :
    (rounds us n).winner =
      if (rounds us n).bools ≤ (rounds us n).objects ∧
          (rounds us n).floats ≤ (rounds us n).objects then .arrayObject
      else if (rounds us n).floats ≤ (rounds us n).bools then .arrayBool else .arrayFloat := by
  have hfirst := (Tally.widened_foldl_add (.inl hb) {}).1
  rw [← tally] at hfirst
  have hints : (rounds us n).ints = 0 := by simp [rounds, hb, hfirst]
  exact Tally.winner_of_bools (mixed_rounds hm ht n) (strings_rounds ht n) hints
    ((bools_rounds_pos_iff us n).2 hb)

/-- With fractions but no truth values, only objects and fractions are left. -/
private theorem winner_rounds_of_float (hm : (tally us).mixed = 0) (ht : .text ∉ us)
    (hb : .bool ∉ us) (hf : .float ∈ us) (n : Nat) :
    (rounds us n).bools = 0 ∧ (rounds us n).winner =
      if (rounds us n).floats ≤ (rounds us n).objects then .arrayObject else .arrayFloat := by
  have hfirst := (Tally.widened_foldl_add (.inr hf) {}).1
  rw [← tally] at hfirst
  have hints : (rounds us n).ints = 0 := by simp [rounds, hf, hfirst]
  have hbools : (rounds us n).bools = 0 := by
    have hpos := bools_rounds_pos_iff us n
    grind
  exact ⟨hbools, Tally.winner_of_floats (mixed_rounds hm ht n) (strings_rounds ht n) hints hbools
    ((floats_rounds_pos_iff hb n).2 hf)⟩

/-- Without either, whole numbers and objects are all there is, and both grow alike. -/
private theorem winner_rounds_of_neither (hm : (tally us).mixed = 0) (ht : .text ∉ us)
    (hb : .bool ∉ us) (hf : .float ∉ us) (n : Nat) :
    (rounds us n).bools = 0 ∧ (rounds us n).floats = 0 ∧ (rounds us n).winner =
      if 0 < us.count .object ∧ us.count .int ≤ us.count .object then .arrayObject
      else if 0 < us.count .int then .arrayInt else .array := by
  -- A counter that no vote has raised stays at zero.
  have hbools : (rounds us n).bools = 0 := by
    have hpos := bools_rounds_pos_iff us n
    grind
  have hfloats : (rounds us n).floats = 0 := by
    have hpos := floats_rounds_pos_iff hb n
    grind
  have hfirst := Tally.ints_foldl_add (t := {}) rfl rfl hb hf
  rw [← tally, Nat.zero_add] at hfirst
  -- The two counters that are left grow by the same amount in each round.
  have hints : (rounds us n).ints = (n + 1) * us.count .int := by
    simp [rounds, hb, hf, hfirst, Nat.succ_mul, Nat.add_comm]
  have hobjects : (rounds us n).objects = (n + 1) * us.count .object := by
    simp [rounds, objects_tally, Nat.succ_mul, Nat.add_comm]
  refine ⟨hbools, hfloats, ?_⟩
  rw [Tally.winner_of_ints (mixed_rounds hm ht n) (strings_rounds ht n) hbools hfloats, hints,
    hobjects]
  simp only [Nat.mul_le_mul_left_iff n.succ_pos, Nat.mul_pos_iff_of_pos_left n.succ_pos]

/-- Which kind wins may only change from objects to another one, and from fractions to objects or
truth values. -/
private theorem winner_rounds_iff (hm : (tally us).mixed = 0) (ht : .text ∉ us) (n : Nat) :
    (rounds us n).winner = (tally us).winner ↔
      ((tally us).winner = .arrayObject →
        (rounds us n).bools ≤ (rounds us n).objects ∧
          (rounds us n).floats ≤ (rounds us n).objects) ∧
      ((tally us).winner = .arrayFloat →
        (rounds us n).objects < (rounds us n).floats ∧
          (rounds us n).bools < (rounds us n).floats) := by
  obtain ⟨hbools, hfloats, -, -⟩ := tally_bounds us
  have hobjects := objects_tally us
  rw [← rounds_zero us]
  by_cases hb : .bool ∈ us
  · -- Objects and truth values grow, fractions do not.
    have hmul : us.count .object < (tally us).bools →
        n * us.count .object ≤ n * (us.count .bool + us.count .int) :=
      fun h => Nat.mul_le_mul_left n (by omega)
    rw [winner_rounds_of_bool hm ht hb n, winner_rounds_of_bool hm ht hb 0]
    simp only [rounds, if_pos hb, hobjects]
    grind
  · by_cases hf : .float ∈ us
    · -- Objects and fractions grow, the latter by whole numbers as well.
      have hmul : us.count .object < (tally us).floats →
          n * us.count .object ≤ n * (us.count .float + us.count .int) :=
        fun h => Nat.mul_le_mul_left n (by omega)
      obtain ⟨hnone, hwinner⟩ := winner_rounds_of_float hm ht hb hf n
      rw [hwinner, (winner_rounds_of_float hm ht hb hf 0).2, hnone]
      simp only [rounds, if_neg hb, if_pos hf, hobjects]
      grind
    · -- Nothing can change without either.
      obtain ⟨hnone, hnone', hwinner⟩ := winner_rounds_of_neither hm ht hb hf n
      rw [hwinner, (winner_rounds_of_neither hm ht hb hf 0).2.2, hnone, hnone']
      grind

/-- The votes are won by the same kind when they are cast so many times more. One of them is mixed,
or they are all texts, or there are no texts and, if objects have won, they are still not
outnumbered, and if fractions have won, they still outnumber all others. -/
def Steady (us : List Vote) (n : Nat) : Prop :=
  0 < (tally us).mixed ∨ (∀ u ∈ us, u = .text) ∨
    .text ∉ us ∧
      ((tally us).winner = .arrayObject →
        (rounds us n).bools ≤ (rounds us n).objects ∧
          (rounds us n).floats ≤ (rounds us n).objects) ∧
      ((tally us).winner = .arrayFloat →
        (rounds us n).objects < (rounds us n).floats ∧
          (rounds us n).bools < (rounds us n).floats)

/-- Votes are won by the same kind when they are repeated iff they are steady. -/
theorem winner_rounds_eq_iff (us : List Vote) {n : Nat} (hn : 0 < n) :
    (rounds us n).winner = (tally us).winner ↔ Steady us n := by
  by_cases hm : 0 < (tally us).mixed
  · exact iff_of_true (winner_rounds_of_mixed hm n) (.inl hm)
  · have hm0 : (tally us).mixed = 0 := by omega
    by_cases htexts : ∀ u ∈ us, u = .text
    · exact iff_of_true (winner_rounds_of_forall_eq htexts n) (.inr (.inl htexts))
    · rw [Steady, or_iff_right hm, or_iff_right htexts]
      by_cases ht : .text ∈ us
      · -- A text beside a vote of another kind that is not mixed: the next round differs.
        refine iff_of_false (winner_rounds_ne hm0 ht (occupied_tally_iff.2 ?_) hn) fun h => h.1 ht
        have hcount := (tally_bounds us).2.2.2
        have hnomixed : .mixed ∉ us := List.count_eq_zero.1 (by omega)
        obtain ⟨u, h⟩ := Classical.not_forall.1 htexts
        obtain ⟨hu, hne⟩ := Classical.not_imp.1 h
        exact ⟨u, hu, hne, fun h => hnomixed (h ▸ hu)⟩
      · rw [winner_rounds_iff hm0 ht n]
        exact (and_iff_right ht).symm

end Rounds

end Stencil.Schema
