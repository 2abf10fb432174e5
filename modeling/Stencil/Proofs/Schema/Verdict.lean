import Mathlib.Data.List.DropRight
import Mathlib.Data.List.MinMax
import Stencil.Proofs.Schema.Rounds
import Stencil.Proofs.Schema.TextVotes

/-!
# The verdict on a list of votes

Votes are counted one by one, and what is counted is discarded, widened or refused as later votes
come in. Here the verdict is said of the list as a whole: how often each kind is voted for, and what
stands behind the first or the last vote of a kind.

## Key results

- `leader_eq_argmax`: the leader is the first entry with the largest count
- `mixed_tally_pos_iff`: when votes do not fit together
- `bools_tally`, `floats_tally_of_bool`, `floats_tally`, `ints_tally`, `strings_tally`: what each
  count comes to
- `kindOfItems_eq_verdict`: the kind of an array is the verdict on what its items vote for
-/

namespace Stencil.Schema

/-! ## What items vote for -/

/-- The table of votes. Nested arrays vote for the kind that they have been found to be. -/
inductive Casts : Json → Vote → Prop
  | object (ms : Json.Members) : Casts (.object ms) .object
  | objects {vs : List Json} (h : kindOfItems vs = .arrayObject) : Casts (.array vs) .object
  | bool (b : Bool) : Casts (.bool b) .bool
  | boolText {s : String} (h : LooksBool s) (hn : ¬LooksNumeric s) : Casts (.string s) .bool
  | bools {vs : List Json} (h : kindOfItems vs = .arrayBool) : Casts (.array vs) .bool
  | int {n : Number} (h : n.isWhole = true) : Casts (.number n) .int
  | intText {s : String} (h : LooksWhole s) : Casts (.string s) .int
  | ints {vs : List Json} (h : kindOfItems vs = .arrayInt) : Casts (.array vs) .int
  | float {n : Number} (h : n.isWhole = false) : Casts (.number n) .float
  | floatText {s : String} (h : LooksNumeric s) (hw : ¬LooksWhole s) : Casts (.string s) .float
  | floats {vs : List Json} (h : kindOfItems vs = .arrayFloat) : Casts (.array vs) .float
  | text {s : String} (hn : ¬LooksNumeric s) (hb : ¬LooksBool s) : Casts (.string s) .text
  | texts {vs : List Json} (h : kindOfItems vs = .arrayString) : Casts (.array vs) .text
  | null : Casts .null .mixed
  | array {vs : List Json} (h : kindOfItems vs = .array) : Casts (.array vs) .mixed

/-- What a text votes for, in the table. -/
private theorem casts_ofText (s : String) : Casts (.string s) (.ofText s) := by
  rw [ofText_eq]
  split
  · next hw => exact .intText hw
  · next hw =>
    split
    · next hn => exact .floatText hn hw
    · next hn =>
      split
      · next hb => exact .boolText hb hn
      · next hb => exact .text hn hb

/-- What a nested array votes for, in the table. -/
private theorem casts_ofTag (vs : List Json) : Casts (.array vs) (.ofTag (kindOfItems vs)) := by
  have harray : (kindOfItems vs).isArray = true := Tally.isArray_winner _
  -- An array is of one of the six array kinds.
  cases hk : kindOfItems vs with
  | arrayObject => exact .objects hk
  | arrayBool => exact .bools hk
  | arrayInt => exact .ints hk
  | arrayFloat => exact .floats hk
  | arrayString => exact .texts hk
  | array => exact .array hk
  | _ => rw [hk] at harray; cases harray

/-- The table lists what every item votes for. -/
theorem vote_eq_iff {v : Json} {u : Vote} : vote v = u ↔ Casts v u := by
  constructor
  · rintro rfl
    cases v with
    | null => exact .null
    | bool b => exact .bool b
    | number n =>
      rw [vote]
      cases hn : n.isWhole with
      | true => exact .int hn
      | false => exact .float hn
    | string s => exact casts_ofText s
    | array vs => exact casts_ofTag vs
    | object ms => exact .object ms
  · intro h
    have harray : ∀ vs, vote (.array vs) = .ofTag (kindOfItems vs) := fun vs => by
      rw [vote, kindOfItems]
    -- Each row of the table is what the vote is computed to, with texts tried in order.
    cases h with
    | null | bool _ | object _ => rfl
    | int h | float h => simp [vote, h]
    | intText h => rw [vote, ofText_eq, if_pos h]
    | floatText h hw => rw [vote, ofText_eq, if_neg hw, if_pos h]
    | boolText h hn =>
      rw [vote, ofText_eq, if_neg fun h => hn h.looksNumeric, if_neg hn, if_pos h]
    | text hn hb => rw [vote, ofText_eq, if_neg fun h => hn h.looksNumeric, if_neg hn, if_neg hb]
    | objects h | bools h | ints h | floats h | texts h | array h => rw [harray, h]; rfl

/-! ## The verdict -/

/-- No text comes behind a vote for anything else. -/
def TextsFirst (us : List Vote) : Prop := us.Pairwise fun u v => v = .text → u = .text

instance (us : List Vote) : Decidable (TextsFirst us) :=
  inferInstanceAs (Decidable (List.Pairwise ..))

/-- What counts for each kind, in the order in which ties are decided. Whole numbers count as truth
values behind the first truth value. A truth value discards the fractions in front of it; without
any, whole numbers count as fractions behind the first fraction. -/
def standing (us : List Vote) : List (Nat × Tag) :=
  [(us.count .object, .arrayObject),
   (us.count .bool + (us.dropWhile (· != .bool)).count .int, .arrayBool),
   (if .bool ∈ us then (us.rtakeWhile (· != .bool)).count .float
    else us.count .float + (us.dropWhile (· != .float)).count .int, .arrayFloat),
   (if .bool ∈ us ∨ .float ∈ us then 0 else us.count .int, .arrayInt),
   (us.count .text, .arrayString)]

/-- The kind of array that votes decide on: none of its own if there are no votes or they do not fit
together, else the first one with the largest count. -/
def verdict (us : List Vote) : Tag :=
  if us = [] ∨ .mixed ∈ us ∨ ¬TextsFirst us then .array
  else (((standing us).argmax (·.1)).map (·.2)).getD .array

/-! ## The leader -/

/-- The leader is the first entry with the largest count, if that entry counts anything. -/
theorem Tally.leader_eq_argmax (es : List (Nat × Tag)) :
    leader none es = (es.argmax (·.1)).filter (0 < ·.1) := by
  induction es with
  | nil => rfl
  | cons e es ih =>
    rw [leader_none_cons, ih, List.argmax_cons]
    -- Compare the entry with the one that leads the others, if there are others.
    cases hmax : es.argmax (·.1) with
    | none =>
      obtain rfl : es = [] := List.argmax_eq_none.1 hmax
      simp [Option.filter]
    | some top =>
      have htop : top ∈ es := List.argmax_mem hmax
      have hle : ∀ e' ∈ es, e'.1 ≤ top.1 := fun e' he' => List.le_of_mem_argmax he' hmax
      by_cases hlt : e.1 < top.1
      · -- The entry is outnumbered by the one that leads the others.
        have hfail : ¬(0 < e.1 ∧ ∀ e' ∈ es, e'.1 ≤ e.1) := fun h => by
          have := h.2 top htop
          omega
        rw [if_neg hfail]
        simp [hlt]
      · have hall : ∀ e' ∈ es, e'.1 ≤ e.1 := fun e' he' => by
          have := hle e' he'
          omega
        by_cases hpos : 0 < e.1
        · rw [if_pos ⟨hpos, hall⟩]
          simp [hlt, Option.filter_some, hpos]
        · have hzero : ¬0 < top.1 := by omega
          rw [if_neg fun h => hpos h.1]
          simp [hlt, Option.filter_some, hpos, hzero]

/-- If something is counted and nothing is mixed, the winner is the first entry with the largest
count. -/
theorem Tally.winner_eq_argmax {t : Tally} (hmixed : t.mixed = 0) {e : Nat × Tag} (he : e ∈ t.ranked)
    (hpos : 0 < e.1) : t.winner = ((t.ranked.argmax (·.1)).map (·.2)).getD .array := by
  rw [winner, if_neg (by omega), leader_eq_argmax]
  cases hmax : t.ranked.argmax (·.1) with
  | none => rfl
  | some top =>
    have hle : e.1 ≤ top.1 := List.le_of_mem_argmax he hmax
    have htop : 0 < top.1 := by omega
    simp [Option.filter_some, htop]

/-! ## What each count comes to -/

section Counts

variable {us : List Vote}

/-- A vote at the end fits in unless it is for a text behind something else. -/
theorem textsFirst_append_singleton {u : Vote} :
    TextsFirst (us ++ [u]) ↔ TextsFirst us ∧ (u = .text → ∀ v ∈ us, v = .text) := by
  simp only [TextsFirst, List.pairwise_append, List.pairwise_singleton, List.forall_mem_singleton,
    true_and]
  constructor
  · rintro ⟨hus, h⟩
    exact ⟨hus, fun hu v hv => h v hv hu⟩
  · rintro ⟨hus, h⟩
    exact ⟨hus, fun v hv hu => h hu v hv⟩

/-- Votes do not fit together iff one of them is mixed or a text comes behind something else. -/
theorem mixed_tally_pos_iff (us : List Vote) :
    0 < (tally us).mixed ↔ .mixed ∈ us ∨ ¬TextsFirst us := by
  induction us using List.reverseRecOn with
  | nil => simp [TextsFirst]
  | append_singleton us u ih =>
    have hstep : (tally (us ++ [u])).mixed = (tally us).mixed +
        if u = .mixed ∨ u = .text ∧ (tally us).Occupied then 1 else 0 := by
      rw [tally_append_singleton, Tally.mixed_add]
    -- A text comes too late if something is occupied, or if there is a mixed vote anyway.
    have hlate : (tally us).Occupied ∨ .mixed ∈ us ↔ (∃ v ∈ us, v ≠ .text) ∨ .mixed ∈ us := by
      rw [occupied_tally_iff]
      grind
    rw [textsFirst_append_singleton, List.mem_append, List.mem_singleton]
    grind

/-- A truth value discards nothing that counts as one, and makes the whole numbers behind it count
as well. -/
theorem bools_tally (us : List Vote) :
    (tally us).bools = us.count .bool + (us.dropWhile (· != .bool)).count .int := by
  suffices h : ∀ t : Tally, t.bools = 0 → (us.foldl Tally.add t).bools =
      us.count .bool + (us.dropWhile (· != .bool)).count .int from h {} rfl
  induction us with
  | nil => intro t ht; simpa using ht
  | cons u us ih =>
    intro t ht
    by_cases hu : u = .bool
    · -- From here on, whole numbers count.
      subst hu
      have hfirst : (t.add .bool).bools = 1 := by simp [Tally.bools_add, ht]
      rw [List.foldl_cons, Tally.bools_foldl_add (by omega), hfirst]
      simp
      omega
    · have hnone : (t.add u).bools = 0 := by simp [Tally.bools_add, ht, hu]
      rw [List.foldl_cons, ih _ hnone]
      simp [hu]

/-- With truth values, the fractions behind the last one count. -/
theorem floats_tally_of_bool (h : .bool ∈ us) :
    (tally us).floats = (us.rtakeWhile (· != .bool)).count .float := by
  induction us using List.reverseRecOn with
  | nil => cases h
  | append_singleton us u ih =>
    rw [tally_append_singleton, Tally.floats_add]
    -- The last vote discards all fractions, or it is counted behind the last truth value.
    by_cases hu : u = .bool
    · simp [hu]
    · have hmem : .bool ∈ us := by simpa [Ne.symm hu] using h
      have hpos := (bools_tally_pos_iff us).2 hmem
      rw [if_neg hu, ih hmem, List.rtakeWhile_concat_pos _ _ _ (by simpa using hu),
        List.count_append, List.count_singleton]
      grind

/-- Without truth values, a fraction makes the whole numbers behind it count as fractions. -/
theorem floats_tally (h : .bool ∉ us) :
    (tally us).floats = us.count .float + (us.dropWhile (· != .float)).count .int := by
  suffices hrun : ∀ t : Tally, t.bools = 0 → t.floats = 0 → (us.foldl Tally.add t).floats =
      us.count .float + (us.dropWhile (· != .float)).count .int from hrun {} rfl rfl
  induction us with
  | nil => intro t _ ht; simpa using ht
  | cons u us ih =>
    intro t hb ht
    simp only [List.mem_cons, not_or] at h
    obtain ⟨hu, hus⟩ := h
    have hbools : (t.add u).bools = 0 := by simp [Tally.bools_add, hb, Ne.symm hu]
    -- The first fraction has whole numbers count from here on.
    by_cases hf : u = .float
    · subst hf
      have hfirst : (t.add .float).floats = 1 := by simp [Tally.floats_add, ht]
      rw [List.foldl_cons, Tally.floats_foldl_add hbools (by omega) hus, hfirst]
      simp
      omega
    · have hnone : (t.add u).floats = 0 := by simp [Tally.floats_add, ht, hf, Ne.symm hu]
      rw [List.foldl_cons, ih hus _ hbools hnone]
      simp [hf]

/-- Whole numbers count as such if there is nothing wider. -/
theorem ints_tally (us : List Vote) :
    (tally us).ints = if .bool ∈ us ∨ .float ∈ us then 0 else us.count .int := by
  split
  · next h => exact (Tally.widened_foldl_add h {}).1
  · next h =>
    obtain ⟨hb, hf⟩ := not_or.1 h
    rw [tally, Tally.ints_foldl_add rfl rfl hb hf, Nat.zero_add]

/-- All texts count if they come first. -/
theorem strings_tally (h : (tally us).mixed = 0) : (tally us).strings = us.count .text := by
  induction us using List.reverseRecOn with
  | nil => rfl
  | append_singleton us u ih =>
    -- Nothing is mixed at the end, so nothing was before the last vote.
    rw [tally_append_singleton, Tally.mixed_add] at h
    rw [tally_append_singleton, Tally.strings_add, ih (by omega),
      List.count_append, List.count_singleton]
    grind

/-- The counts of votes that fit together. -/
theorem ranked_tally (h : (tally us).mixed = 0) : (tally us).ranked = standing us := by
  have hfloats : (tally us).floats =
      if .bool ∈ us then (us.rtakeWhile (· != .bool)).count .float
      else us.count .float + (us.dropWhile (· != .float)).count .int := by
    split
    · next hb => exact floats_tally_of_bool hb
    · next hb => exact floats_tally hb
  rw [Tally.ranked, standing, objects_tally, bools_tally, hfloats, ints_tally, strings_tally h]

/-- If there are votes and none is mixed, then something is counted. -/
theorem exists_mem_standing (hne : us ≠ []) (h : .mixed ∉ us) : ∃ e ∈ standing us, 0 < e.1 := by
  obtain ⟨u, hu⟩ := List.exists_mem_of_ne_nil us hne
  have hcount : 0 < us.count u := List.count_pos_iff.2 hu
  simp only [standing, List.exists_mem_cons_iff, List.not_mem_nil, false_and, exists_false, or_false]
  by_cases hb : 0 < us.count .bool
  · exact .inr (.inl (by omega))
  by_cases hf : 0 < us.count .float
  · have hnone : .bool ∉ us := fun h => hb (List.count_pos_iff.2 h)
    exact .inr (.inr (.inl (by rw [if_neg hnone]; omega)))
  -- Nothing is wider than whole numbers, so these count as well.
  have hnone : ¬(.bool ∈ us ∨ .float ∈ us) := fun h =>
    h.elim (fun h => hb (List.count_pos_iff.2 h)) fun h => hf (List.count_pos_iff.2 h)
  rw [if_neg hnone]
  cases u with
  | mixed => exact absurd hu h
  | object => exact .inl hcount
  | int => exact .inr (.inr (.inr (.inl hcount)))
  | text => exact .inr (.inr (.inr (.inr hcount)))
  | bool => exact absurd hcount hb
  | float => exact absurd hcount hf

/-- What is counted vote by vote wins iff it is the verdict on all of them. -/
theorem winner_tally_eq_verdict (us : List Vote) : (tally us).winner = verdict us := by
  rw [verdict]
  split
  · next h =>
    rcases h with rfl | h
    · rfl
    · rw [Tally.winner, if_pos ((mixed_tally_pos_iff us).2 h)]
  · next h =>
    obtain ⟨hne, hfit⟩ := not_or.1 h
    have hmixed : (tally us).mixed = 0 := by
      have := mt (mixed_tally_pos_iff us).1 hfit
      omega
    -- Something is counted, so the entry with the largest count wins.
    obtain ⟨e, he, hpos⟩ := exists_mem_standing hne (not_or.1 hfit).1
    rw [← ranked_tally hmixed] at he
    rw [Tally.winner_eq_argmax hmixed he hpos, ranked_tally hmixed]

end Counts

/-- Items vote as the table says, and the kind of an array is the verdict on their votes. -/
theorem kindOfItems_eq_verdict (vs : List Json) :
    (∀ v u, vote v = u ↔ Casts v u) ∧ kindOfItems vs = verdict (vs.map vote) := by
  refine ⟨fun _ _ => vote_eq_iff, ?_⟩
  rw [kindOfItems, votes_eq_map, winner_tally_eq_verdict]

/-- A truth value takes over the whole number behind it and discards the fraction in front of it. -/
example : verdict [.int, .float, .bool, .object, .int, .float] = .arrayBool := by decide

end Stencil.Schema
