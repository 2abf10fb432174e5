import Stencil.Proofs.Schema.Groups
import Stencil.Schema.Infer

/-!
# Positions of a schema tree

A position of a sample is given by the keys that lead to it from the root; arrays on the way are
passed through. `valuesAt` are the values that stand there, and `Node.At` says which node of a tree
belongs to a position. What a tree says of a position depends on two things only: the values at the
position, and the shape that merging has left of them.

## Key results

- `children_build`: the positions below a position, from its shape
- `exists_shape_of_at`: what holds of the values and shapes of a tree if positions hand it down
- `build_eq_build_iff`: trees of the same shape are equal iff the tags of their positions are
- `tagOf_eq`: how the values at a position decide on its tag
-/

namespace Stencil.Schema

open Json (Members)

/-! ## Values at a position -/

/-- The values under a key of the objects found in the values. -/
def valuesUnder (k : String) (vs : List Json) : List Json :=
  (vs.flatMap membersIn).filterMap (·.get? k)

/-- The values at the position that the keys lead to, starting from the values. -/
def valuesAt (vs : List Json) : List String → List Json
  | [] => vs
  | k :: ks => valuesAt (valuesUnder k vs) ks

/-- The node stands at the position that the keys lead to. -/
inductive Node.At : Node → List String → Node → Prop
  | root (n : Node) : Node.At n [] n
  | child {n c m : Node} {ks : List String} (mem : c ∈ n.children) (rest : Node.At c ks m) :
    Node.At n (c.key :: ks) m

/-- No keys lead to the root only. -/
theorem Node.at_nil_iff {n m : Node} : n.At [] m ↔ m = n := by
  constructor
  · intro h
    cases h with
    | root => rfl
  · rintro rfl
    exact .root m

/-- The first key leads to a child, the others lead on from there. -/
theorem Node.at_cons_iff {n m : Node} {k : String} {ks : List String} :
    n.At (k :: ks) m ↔ ∃ c ∈ n.children, c.key = k ∧ c.At ks m := by
  constructor
  · intro h
    cases h with
    | child mem rest => exact ⟨_, mem, rfl, rest⟩
  · rintro ⟨c, mem, rfl, rest⟩
    exact .child mem rest

/-- The first keys lead to a position that the second ones pass on their way. -/
def Above (us ks : List String) : Prop := ∃ k ws, ks = us ++ k :: ws

/-- Where there are no values, no keys lead to any. -/
theorem valuesAt_nil (ks : List String) : valuesAt [] ks = [] := by
  induction ks with
  | nil => rfl
  | cons k ks ih => exact ih

/-- Each value is followed along the keys on its own. -/
theorem valuesAt_append (us vs : List Json) (ks : List String) :
    valuesAt (us ++ vs) ks = valuesAt us ks ++ valuesAt vs ks := by
  induction ks generalizing us vs with
  | nil => rfl
  | cons k ks ih =>
    have hunder : valuesUnder k (us ++ vs) = valuesUnder k us ++ valuesUnder k vs := by
      simp [valuesUnder]
    rw [valuesAt, hunder, ih]
    rfl

/-- The objects found in items are those found in each of them. -/
theorem membersInItems_eq_flatMap (vs : List Json) : membersInItems vs = vs.flatMap membersIn := by
  induction vs with
  | nil => rfl
  | cons v vs ih => rw [membersInItems, ih, List.flatMap_cons]

/-- The objects found in an array are those found in its items. -/
theorem membersIn_array (vs : List Json) : membersIn (.array vs) = vs.flatMap membersIn := by
  rw [membersIn, membersInItems_eq_flatMap]

/-- There is no object in a scalar. -/
theorem membersIn_of_isScalar {v : Json} (h : v.isScalar = true) : membersIn v = [] := by
  cases v <;> simp_all [Json.isScalar, membersIn]

@[simp] theorem membersIn_null : membersIn .null = [] := rfl

/-- What passes from an array to its items passes from a value to the objects found in it. -/
theorem of_mem_membersIn {P : Json → Prop} (harray : ∀ vs, P (.array vs) → ∀ v ∈ vs, P v)
    {v : Json} (h : P v) {ms : Members} (hms : ms ∈ membersIn v) : P (.object ms) := by
  induction v using Json.structuralInduction with
  | null => cases hms
  | scalar v hv => rw [membersIn_of_isScalar hv] at hms; cases hms
  | object a _ =>
    rw [membersIn_object, List.mem_singleton] at hms
    exact hms ▸ h
  | array vs ih =>
    rw [membersIn_array] at hms
    obtain ⟨v, hv, hms⟩ := List.mem_flatMap.1 hms
    exact ih v hv (harray vs h v hv) hms

/-- A value stands under a key if an object found in one of the values has it there. -/
theorem mem_valuesUnder {k : String} {vs : List Json} {w : Json} :
    w ∈ valuesUnder k vs ↔ ∃ v ∈ vs, ∃ ms ∈ membersIn v, ms.get? k = some w := by
  rw [valuesUnder, List.mem_filterMap]
  constructor
  · rintro ⟨ms, hms, hw⟩
    obtain ⟨v, hv, hms⟩ := List.mem_flatMap.1 hms
    exact ⟨v, hv, ms, hms, hw⟩
  · rintro ⟨v, hv, ms, hms, hw⟩
    exact ⟨ms, List.mem_flatMap.2 ⟨v, hv, hms⟩, hw⟩

/-- Keys pass through an array to its items. -/
theorem valuesAt_array (vs : List Json) (k : String) (ks : List String) :
    valuesAt [.array vs] (k :: ks) = valuesAt vs (k :: ks) := by
  rw [valuesAt, valuesAt, valuesUnder, List.flatMap_singleton, membersIn_array]
  rfl

/-- To prove something of all values, it is enough to prove it of a value if all members of the
objects found in that value have it. -/
theorem memberInduction {motive : Json → Prop}
    (h : ∀ v, (∀ ms ∈ membersIn v, ∀ m ∈ ms, motive m.2) → motive v) (v : Json) : motive v := by
  -- Arrays are passed through, so the induction is on all members of what is found in a value.
  suffices hall : ∀ v, ∀ ms ∈ membersIn v, ∀ m ∈ ms, motive m.2 from h v (hall v)
  intro v
  induction v using Json.structuralInduction with
  | null => simp
  | scalar v hv => simp [membersIn_of_isScalar hv]
  | array vs ih =>
    intro ms hms
    rw [membersIn_array] at hms
    obtain ⟨v, hv, hms⟩ := List.mem_flatMap.1 hms
    exact ih v hv ms hms
  | object a ih =>
    intro ms hms m hm
    rw [membersIn_object, List.mem_singleton] at hms
    subst hms
    exact h m.2 (ih m hm)

/-! ## The positions below a position -/

mutual

/-- The members that a shape has positions for: its own, or those of the last object of an array. -/
def shownObject? : Json → Option Members
  | .object ms => some ms
  | .array vs => lastObject? vs
  | _ => none

/-- The members of the last object among items, or among the items of arrays in them. -/
def lastObject? : List Json → Option Members
  | [] => none
  | v :: vs => (lastObject? vs).or (shownObject? v)

end

/-- The members of a shape that have positions of their own, where the tag of the shape is given. -/
def branches (tag : Tag) : Json → Members
  | .object ms => ms
  | .array vs => if tag = .arrayObject then (lastObject? vs).getD [] else []
  | _ => []

/-- Later items decide on the last object. -/
theorem lastObject?_append (vs ws : List Json) :
    lastObject? (vs ++ ws) = (lastObject? ws).or (lastObject? vs) := by
  induction vs with
  | nil => rw [List.nil_append, lastObject?, Option.or_none]
  | cons v vs ih => rw [List.cons_append, lastObject?, lastObject?, ih, Option.or_assoc]

/-- The object that a value shows is one of those found in it. -/
theorem mem_membersIn_of_shownObject? {v : Json} {ms : Members} (h : shownObject? v = some ms) :
    ms ∈ membersIn v := by
  induction v using Json.structuralInduction with
  | null => cases h
  | scalar v hv => cases v <;> simp_all [shownObject?, Json.isScalar]
  | object a _ => simpa [shownObject?, eq_comm] using h
  | array vs ih =>
    rw [shownObject?] at h
    rw [membersIn_array]
    induction vs with
    | nil => cases h
    | cons v vs ihvs =>
      rw [List.flatMap_cons, List.mem_append]
      rw [lastObject?, Option.or_eq_some_iff] at h
      -- The last object is among the later items, or it is that of the first.
      rcases h with h | ⟨-, h⟩
      · exact .inr (ihvs (fun w hw => ih w (List.mem_cons_of_mem _ hw)) h)
      · exact .inl (ih v List.mem_cons_self h)

/-- Positions are only shown for members of an object that the shape shows. -/
theorem mem_branches {tag : Tag} {shape : Json} {m : String × Json} (h : m ∈ branches tag shape) :
    ∃ ms, shownObject? shape = some ms ∧ m ∈ ms := by
  cases shape with
  | object ms => exact ⟨ms, rfl, h⟩
  | array vs =>
    rw [branches] at h
    split at h
    · cases hl : lastObject? vs with
      | none => rw [hl] at h; cases h
      | some ms => exact ⟨ms, hl, by simpa [hl] using h⟩
    · cases h
  | _ => cases h

variable {refine : Bool}

/-- Each member is built from the values under its key. -/
theorem buildMembers_eq_map (objects : List Members) (ms : Members) :
    buildMembers refine objects ms =
      ms.map fun m => build refine m.1 (objects.filterMap (·.get? m.1)) m.2 := by
  induction ms with
  | nil => rw [buildMembers, List.map_nil]
  | cons m ms ih => rw [buildMembers, ih, List.map_cons]

/-- What is built from an item are the members of the object that it shows. -/
private theorem buildItem?_eq (objects : List Members) (v : Json) :
    buildItem? refine objects v = (shownObject? v).map (buildMembers refine objects) := by
  induction v using Json.structuralInduction with
  | null => simp [buildItem?, shownObject?]
  | scalar v hv => cases v <;> simp_all [buildItem?, shownObject?, Json.isScalar]
  | object ms _ => simp [buildItem?, shownObject?]
  | array vs ih =>
    rw [buildItem?, shownObject?]
    -- The items one by one: later ones decide, in both functions.
    induction vs with
    | nil => simp [buildLast?, lastObject?]
    | cons v vs ihvs =>
      rw [buildLast?, lastObject?, ih v List.mem_cons_self,
        ihvs fun w hw => ih w (List.mem_cons_of_mem _ hw)]
      cases lastObject? vs <;> simp

/-- What is built from items are the members of the last object. -/
theorem buildLast?_eq (objects : List Members) (vs : List Json) :
    buildLast? refine objects vs = (lastObject? vs).map (buildMembers refine objects) := by
  have h : buildItem? refine objects (.array vs) = _ := buildItem?_eq objects (.array vs)
  rwa [buildItem?, shownObject?] at h

/-- A node has the key that it is built for. -/
@[simp] theorem key_build (key : String) (samples : List Json) (shape : Json) :
    (build refine key samples shape).key = key := by
  cases shape <;> simp [build]

/-- A node has the tag of its values, whatever its shape. -/
@[simp] theorem tag_build (key : String) (samples : List Json) (shape : Json) :
    (build refine key samples shape).tag = tagOf refine samples := by
  cases shape <;> simp [build]

/-- The positions below a position, from its shape. -/
theorem children_build (key : String) (samples : List Json) (shape : Json) :
    (build refine key samples shape).children =
      (branches (tagOf refine samples) shape).map fun m =>
        build refine m.1 (valuesUnder m.1 samples) m.2 := by
  cases shape with
  | object ms => simp only [build, branches, buildMembers_eq_map, valuesUnder]
  | array vs =>
    simp only [build, branches, buildLast?_eq]
    -- Only an array of objects has positions, those of its last object.
    split
    · cases lastObject? vs with
      | none => rfl
      | some ms => exact buildMembers_eq_map _ ms
    · rfl
  | _ => simp [build, branches]

/-- A position is made of its key, the tag of its values, and the positions below it. -/
theorem build_eq (key : String) (samples : List Json) (shape : Json) :
    build refine key samples shape =
      { key, tag := tagOf refine samples
        children := (branches (tagOf refine samples) shape).map fun m =>
          build refine m.1 (valuesUnder m.1 samples) m.2 } := by
  rw [← children_build key]
  cases shape <;> simp [build]

/-- The children have the keys of the members that have positions. -/
theorem keys_children_build (key : String) (vs : List Json) (shape : Json) :
    (build refine key vs shape).children.map (·.key) =
      (branches (tagOf refine vs) shape).keys := by
  rw [children_build, List.map_map]
  exact List.map_congr_left fun m _ => key_build m.1 _ m.2

/-- Only its children tell two nodes of a tree with the same key and tag apart. -/
theorem build_eq_iff {key : String} {us vs : List Json} {s t : Json} :
    build refine key us s = build refine key vs t ↔
      tagOf refine us = tagOf refine vs ∧
        (build refine key us s).children = (build refine key vs t).children := by
  constructor
  · intro h
    refine ⟨?_, by rw [h]⟩
    rw [← tag_build key us s, h, tag_build]
  · rintro ⟨htag, hchildren⟩
    rw [children_build, children_build] at hchildren
    rw [build_eq key us s, build_eq key vs t, hchildren, htag]

/-! ## All positions of a tree -/

/-- The tree of a document is built from the document and from what it is merged into. -/
theorem eq_build_of_infer {doc : Json} {root : Node} (h : infer refine doc = .ok root) :
    root = build refine "" [doc] (collapse doc) := by
  cases doc <;> simp_all [infer]

/-- A node of a tree is built from the values at its position and a shape. What holds of the values
and the shape at the root holds of those at the position, if each position above hands it down. -/
theorem exists_shape_of_at {P : List Json → Json → Prop} {C : List Json → Prop}
    (hdown : ∀ samples shape, P samples shape → C samples →
      ∀ m ∈ branches (tagOf refine samples) shape, P (valuesUnder m.1 samples) m.2)
    {key : String} {samples : List Json} {shape : Json} (hP : P samples shape) {ks : List String}
    {n : Node} (hat : (build refine key samples shape).At ks n)
    (hC : ∀ us, Above us ks → C (valuesAt samples us)) :
    ∃ shape', n = build refine n.key (valuesAt samples ks) shape' ∧
      P (valuesAt samples ks) shape' := by
  -- Induction along the keys; the values and the shape are those of the position reached so far.
  induction ks generalizing key samples shape with
  | nil =>
    cases hat
    exact ⟨shape, by rw [key_build]; rfl, hP⟩
  | cons k ks ih =>
    cases hat with
    | @child _ c _ _ mem rest =>
      -- The child is built from the values under its key, so the rest of the keys starts there.
      rw [children_build] at mem
      obtain ⟨m, hm, rfl⟩ := List.mem_map.1 mem
      rw [key_build] at *
      have hhere := hC [] ⟨m.1, ks, rfl⟩
      refine ih (hdown samples shape hP hhere m hm) rest fun us hus => ?_
      obtain ⟨k', ws, rfl⟩ := hus
      exact hC (m.1 :: us) ⟨k', ws, rfl⟩

/-- Trees of the same shape are equal iff the tags of their positions are. -/
theorem build_eq_build_iff {key : String} {us vs : List Json} {shape : Json} :
    build refine key us shape = build refine key vs shape ↔
      ∀ ks n, (build refine key vs shape).At ks n →
        tagOf refine (valuesAt us ks) = tagOf refine (valuesAt vs ks) := by
  induction shape using memberInduction generalizing key us vs with
  | h shape ih =>
    -- The statement for the children, which have smaller shapes.
    have hchild : ∀ m ∈ branches (tagOf refine vs) shape,
        build refine m.1 (valuesUnder m.1 us) m.2 = build refine m.1 (valuesUnder m.1 vs) m.2 ↔
          ∀ ks n, (build refine m.1 (valuesUnder m.1 vs) m.2).At ks n →
            tagOf refine (valuesAt us (m.1 :: ks)) = tagOf refine (valuesAt vs (m.1 :: ks)) := by
      intro m hm
      obtain ⟨ms, hms, hm⟩ := mem_branches hm
      exact ih ms (mem_membersIn_of_shownObject? hms) m hm
    rw [build_eq_iff]
    constructor
    · rintro ⟨htag, hchildren⟩ ks n hat
      cases hat with
      | root => exact htag
      | child mem rest =>
        rw [children_build] at mem
        obtain ⟨m, hm, rfl⟩ := List.mem_map.1 mem
        rw [key_build] at *
        rw [children_build, children_build, htag, List.map_inj_left] at hchildren
        exact (hchild m hm).1 (hchildren m hm) _ _ rest
    · intro h
      -- The tag of the position comes first, as it decides which members have positions.
      have htag : tagOf refine us = tagOf refine vs := h [] _ (.root _)
      refine ⟨htag, ?_⟩
      rw [children_build, children_build, htag, List.map_inj_left]
      intro m hm
      -- A position of the child is one of the tree, with one more key in front.
      refine (hchild m hm).2 fun ks n hat => ?_
      have hmem : build refine m.1 (valuesUnder m.1 vs) m.2 ∈
          (build refine key vs shape).children := by
        rw [children_build]
        exact List.mem_map.2 ⟨m, hm, rfl⟩
      simpa using h _ n (.child hmem hat)

/-! ## The tag of a position -/

/-- Null has no items. -/
theorem itemsOf_eq_nil {v : Json} (h : v.isNull = true) : itemsOf v = [] := by
  cases v <;> simp_all [Json.isNull, itemsOf]

/-- No value leads iff all are null. -/
theorem isNull_lead_iff {vs : List Json} :
    (lead vs).isNull = true ↔ ∀ v ∈ vs, v.isNull = true := by
  induction vs with
  | nil => simp [lead, Json.isNull]
  | cons v vs ih => cases v <;> simp_all [lead, Json.isNull]

/-- The first list decides, unless it is all null. -/
theorem lead_append (vs ws : List Json) :
    lead (vs ++ ws) = if (lead vs).isNull then lead ws else lead vs := by
  induction vs with
  | nil => rfl
  | cons v vs ih =>
    cases v with
    | null => exact ih
    | _ => rfl

/-- The leading value is one of the values. -/
theorem lead_mem {vs : List Json} (h : (lead vs).isNull = false) : lead vs ∈ vs := by
  induction vs with
  | nil => cases h
  | cons v vs ih =>
    cases v with
    | null => exact List.mem_cons_of_mem _ (ih h)
    | _ => exact List.mem_cons_self

/-- The leading value is the first one left when nulls are filtered out. -/
private theorem head?_filter_eq (vs : List Json) :
    (vs.filter (!·.isNull)).head?.getD .null = lead vs := by
  induction vs with
  | nil => rfl
  | cons v vs ih => cases v <;> simp_all [lead, Json.isNull]

/-- How the values at a position decide on its tag. -/
theorem tagOf_eq (vs : List Json) :
    tagOf refine vs =
      if ∀ v ∈ vs, v.isNull = true then .null
      else if ∀ v ∈ vs, v.isNull = true ∨ v.isArray = true then kindOfItems (vs.flatMap itemsOf)
      else kindOf refine (lead vs) := by
  -- Filtering out nulls takes no item away.
  have hitems : (vs.filter (!·.isNull)).flatMap itemsOf = vs.flatMap itemsOf := by
    induction vs with
    | nil => rfl
    | cons v vs ih => cases hv : v.isNull <;> simp [hv, ih, itemsOf_eq_nil]
  have hlead := head?_filter_eq vs
  rw [tagOf]
  cases hf : vs.filter (!·.isNull) with
  | nil =>
    have hnull : ∀ v ∈ vs, v.isNull = true := by simpa [List.filter_eq_nil_iff] using hf
    rw [if_pos hnull]
  | cons v rest =>
    -- Something is left by the filter, so not all values are null.
    have hmem : ∀ w, w ∈ v :: rest ↔ w ∈ vs ∧ w.isNull = false := by
      intro w
      rw [← hf, List.mem_filter]
      simp
    have hnull : ¬ ∀ v ∈ vs, v.isNull = true := by
      intro h
      obtain ⟨hv, hn⟩ := (hmem v).1 List.mem_cons_self
      simp [h v hv] at hn
    -- The first value left by the filter is the one that decides.
    rw [hf] at hlead hitems
    obtain rfl : v = lead vs := hlead
    rw [if_neg hnull]
    refine ite_congr (propext ?_) (fun _ => by rw [hitems]) fun _ => rfl
    -- Both conditions say that all values besides null are arrays.
    rw [List.all_eq_true]
    constructor
    · intro h w hw
      cases hn : w.isNull with
      | true => exact .inl rfl
      | false => exact .inr (h w ((hmem w).2 ⟨hw, hn⟩))
    · intro h w hw
      obtain ⟨hw, hn⟩ := (hmem w).1 hw
      exact (h w hw).resolve_left (by simp [hn])

/-- The items of a single array decide on its tag. -/
theorem tagOf_singleton_array (vs : List Json) :
    tagOf refine [.array vs] = kindOfItems vs := by
  simp [tagOf_eq, Json.isNull, Json.isArray, itemsOf]

end Stencil.Schema
