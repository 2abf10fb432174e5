import Stencil.Proofs.Json.Same
import Stencil.Proofs.Schema.Voting

/-!
# Where the positions of a schema tree come from

Merging takes values over, drops values and puts values together, but it makes nothing up: whatever
stands at some position of a merged value stands there in one of the values that were merged. So
each position of a schema tree is witnessed by a value of the sample.

## Key results

- `reaches_mergePair`: what stands in a merged value stood in one of the two
- `Witnessed`: the shape of a position has no position below it that the values there lack
- `exists_witnessed_of_at`: this holds of all positions of a tree
- `infer_provenance`: each node has values, other keys than its siblings, and the tag of its values
-/

namespace Stencil.Schema

open Json (Members DistinctKeys)
open Merge

/-! ## Reaching a value -/

/-- A value of the kind is reached when the keys are followed, through arrays as well. -/
def Reaches (P : Json → Prop) : List String → Json → Prop
  | [], v => P v
  | k :: ks, v => ∃ ms ∈ membersIn v, ∃ w, (k, w) ∈ ms ∧ Reaches P ks w

/-- No merge makes a value of this kind out of two that are not, and null is not of this kind unless
every value is. -/
structure Inherited (P : Json → Prop) : Prop where
  merge : ∀ {acc next}, P (mergePair acc next) → P acc ∨ P next
  null : P .null → ∀ v, P v

theorem inherited_any : Inherited fun _ => True := ⟨fun _ => .inl trivial, fun _ _ => trivial⟩

/-- Merging makes no object out of anything but objects. -/
theorem inherited_object : Inherited fun v => v.isObject = true := by
  refine ⟨?_, fun h => nomatch h⟩
  intro acc next h
  -- Of all ways to merge, only those that meet an object on either side give one.
  cases acc with
  | object a => exact .inl rfl
  | null =>
    cases next with
    | object b => exact .inr rfl
    | array b => rw [mergePair_null_left, collapse_array] at h; cases h
    | null => rw [mergePair_null_right] at h; cases h
    | _ => rw [mergePair_null_left, collapse_of_isScalar rfl] at h; cases h
  | array a =>
    cases next with
    | object b => exact .inr rfl
    | array b => rw [mergePair_array_array] at h; cases h
    | null => rw [mergePair_null_right] at h; cases h
    | _ => rw [mergePair_scalar_right (by simp) rfl] at h; cases h
  | _ => rw [mergePair_of_isScalar rfl] at h; cases h

section Reaches

variable {P : Json → Prop} {k : String} {ks : List String}

/-- In an object, the first key leads to what stands under it. -/
theorem reaches_object {ms : Members} :
    Reaches P (k :: ks) (.object ms) ↔ ∃ w, (k, w) ∈ ms ∧ Reaches P ks w := by
  simp [Reaches]

/-- Arrays are passed through to one of their items. -/
theorem reaches_array {vs : List Json} :
    Reaches P (k :: ks) (.array vs) ↔ ∃ v ∈ vs, Reaches P (k :: ks) v := by
  simp only [Reaches, membersIn_array]
  constructor
  · rintro ⟨ms, hms, hw⟩
    obtain ⟨v, hv, hms⟩ := List.mem_flatMap.1 hms
    exact ⟨v, hv, ms, hms, hw⟩
  · rintro ⟨v, hv, ms, hms, hw⟩
    exact ⟨ms, List.mem_flatMap.2 ⟨v, hv, hms⟩, hw⟩

/-- No key leads anywhere in null. -/
theorem not_reaches_null : ¬ Reaches P (k :: ks) .null := by
  simp [Reaches]

/-! ## Merging makes nothing up -/

/-- Whatever is reached in a value into which this one was merged was reached in either of them. -/
private def Adds (P : Json → Prop) (next : Json) : Prop :=
  ∀ acc ks, Representative acc → Reaches P ks (mergePair acc next) →
    Reaches P ks acc ∨ Reaches P ks next

/-- What is reached in merged members was reached in one of the two objects, if this holds of each
value that is merged in. -/
private theorem reaches_joinMembers_of_adds (hP : Inherited P) {a b : Members}
    (ha : Representative (.object a)) (hb : ∀ m ∈ b, Adds P m.2)
    (h : Reaches P (k :: ks) (.object (joinMembers a b))) :
    Reaches P (k :: ks) (.object a) ∨ Reaches P (k :: ks) (.object b) := by
  induction b generalizing a with
  | nil => exact .inl h
  | cons m b ih =>
    have hm := hb m List.mem_cons_self
    rw [joinMembers_cons] at h
    rcases ih (representative_joinMembers ha [m]) (fun m' h' => hb m' (List.mem_cons_of_mem _ h')) h
      with hinsert | hrest
    · obtain ⟨w, hw, hr⟩ := reaches_object.1 hinsert
      -- The keys lead through the member that has just been merged, or through another one.
      rcases Members.mem_of_mem_insert hw with heq | hold
      · obtain ⟨rfl, rfl⟩ := Prod.mk.inj heq
        rcases hm _ _ (ha.getD _) hr with hr | hr
        · cases hk : a.get? m.1 with
          | some v =>
            rw [hk] at hr
            exact .inl (reaches_object.2 ⟨v, Members.mem_of_get? hk, hr⟩)
          | none =>
            -- The key is new: nothing is below it yet, and its value counts as this member's.
            rw [hk] at hr
            cases ks with
            | nil => exact .inr (reaches_object.2 ⟨m.2, List.mem_cons_self, hP.null hr _⟩)
            | cons => exact absurd hr not_reaches_null
        · exact .inr (reaches_object.2 ⟨m.2, List.mem_cons_self, hr⟩)
      · exact .inl (reaches_object.2 ⟨w, hold, hr⟩)
    · obtain ⟨w, hw, hr⟩ := reaches_object.1 hrest
      exact .inr (reaches_object.2 ⟨w, List.mem_cons_of_mem _ hw, hr⟩)

/-- What is reached in the members that an item adds is reached in the item. -/
private theorem reaches_of_objectOf? {v : Json} {ms : Members} (hms : objectOf? v = some ms)
    (hv : v.isObject = false → Adds P v) (h : Reaches P (k :: ks) (.object ms)) :
    Reaches P (k :: ks) v := by
  cases v with
  | object ms' => exact Option.some.inj hms ▸ h
  | array vs =>
    -- The array adds the members of what it is reduced to when it is merged into null.
    have hc : Reaches P (k :: ks) (mergePair .null (.array vs)) := by
      rw [mergePair_null_left, collapse_array, lone?_eq_some_iff.1 hms]
      exact reaches_array.2 ⟨_, List.mem_singleton_self _, h⟩
    exact (hv rfl _ _ .null hc).resolve_left not_reaches_null
  | _ => simp [objectOf?] at hms

/-- What items add to a reduction stood in them. -/
private theorem reaches_foldl_add_of_adds (hP : Inherited P) {r : Reduction} (hr : Reduced r)
    {ws : List Json} (hitems : ∀ w ∈ ws, w.isObject = false → Adds P w)
    (hmembers : ∀ ms ∈ objectsOf ws, ∀ m ∈ ms, Adds P m.2)
    (h : Reaches P (k :: ks) (.array (ws.foldl (Reduction.add mergePair) r).toList)) :
    Reaches P (k :: ks) (.array r.toList) ∨ Reaches P (k :: ks) (.array ws) := by
  obtain ⟨v, hv, hreach⟩ := reaches_array.1 h
  rcases mem_toList_foldl_add hv with hold | hother | rfl
  · exact .inl (reaches_array.2 ⟨v, hold, hreach⟩)
  · -- A new item that is no object was merged into null on its own.
    obtain ⟨u, hu, rfl⟩ := List.mem_map.1 hother
    obtain ⟨hu, hnone⟩ := List.mem_filter.1 hu
    have hobject := isObject_eq_false_of_objectOf? (Option.isNone_iff_eq_none.1 hnone)
    have hreach := (hitems u hu hobject _ _ .null hreach).resolve_left not_reaches_null
    exact .inr (reaches_array.2 ⟨u, hu, hreach⟩)
  · -- The merged object takes in the members of all items at once.
    have hflat : ∀ m ∈ (objectsOf ws).flatten, Adds P m.2 := by
      intro m hm
      obtain ⟨ms, hms, hm⟩ := List.mem_flatten.1 hm
      exact hmembers ms hms m hm
    rcases reaches_joinMembers_of_adds hP (representative_getD hr.object) hflat hreach
      with hold | hnew
    · -- If there was no merged object, nothing was reached in it.
      cases ho : r.object with
      | none => rw [ho] at hold; simp [reaches_object] at hold
      | some a =>
        rw [ho] at hold
        exact .inl (reaches_array.2 ⟨.object a, by simp [Reduction.toList, ho], hold⟩)
    · obtain ⟨w, hw, hr⟩ := reaches_object.1 hnew
      obtain ⟨ms, hms, hw⟩ := List.mem_flatten.1 hw
      obtain ⟨u, hu, hums⟩ := List.mem_filterMap.1 hms
      exact .inr (reaches_array.2 ⟨u, hu,
        reaches_of_objectOf? hums (hitems u hu) (reaches_object.2 ⟨w, hw, hr⟩)⟩)

/-- What stands in a merged value stood in one of the two values. -/
theorem reaches_mergePair (hP : Inherited P) {acc next : Json} {ks : List String}
    (hacc : Representative acc) (h : Reaches P ks (mergePair acc next)) :
    Reaches P ks acc ∨ Reaches P ks next := by
  -- The induction is on the value merged in, for whatever it is merged into.
  suffices hadds : Adds P next from hadds _ _ hacc h
  clear h hacc
  induction next using levelInduction with
  | null => intro acc ks _ h; rw [mergePair_null_right] at h; exact .inl h
  | scalar v hv =>
    intro acc ks _ h
    by_cases hnull : acc = .null
    · rw [hnull, mergePair_null_left, collapse_of_isScalar hv] at h
      exact .inr h
    · rw [mergePair_scalar_right hnull hv] at h
      exact .inl h
  | object b ih =>
    intro acc ks hacc h
    cases ks with
    | nil => exact hP.merge h
    | cons k ks =>
      cases acc with
      | null =>
        rw [mergePair_null_left, collapse_object] at h
        rcases reaches_joinMembers_of_adds hP representative_empty ih h with h | h
        · simp [reaches_object] at h
        · exact .inr h
      | object a =>
        rw [mergePair_object_object] at h
        exact reaches_joinMembers_of_adds hP hacc ih h
      | array a =>
        rw [mergePair_array_object] at h
        -- Only an array of a single object takes the members in.
        cases hl : lone? a with
        | none => rw [hl] at h; exact .inl h
        | some m =>
          obtain rfl := lone?_eq_some_iff.1 hl
          have ha := representative_lone_iff.1 hacc
          have hjoin : Reaches P (k :: ks) (.object (joinMembers m b)) := by
            simpa [reaches_array, lone?] using h
          simpa [reaches_array] using reaches_joinMembers_of_adds hP ha ih hjoin
      | _ => rw [mergePair_of_isScalar rfl] at h; exact .inl h
  | array ws hitems hmembers hlone =>
    intro acc ks hacc h
    cases ks with
    | nil => exact hP.merge h
    | cons k ks =>
      -- What is reached in the reduced array is reached in its items, as it starts from none.
      have hself : Reaches P (k :: ks) (.array (mergeElements ws)) →
          Reaches P (k :: ks) (.array ws) := fun h =>
        (reaches_foldl_add_of_adds hP .empty hitems hmembers h).resolve_left
          (by simp [reaches_array, Reduction.empty, Reduction.toList])
      cases acc with
      | null =>
        rw [mergePair_null_left, collapse_array] at h
        exact .inr (hself h)
      | array a =>
        obtain ⟨r, hr, rfl⟩ := hacc.exists_reduced
        rw [mergePair_array_array, hr.mergeElements_append] at h
        exact reaches_foldl_add_of_adds hP hr hitems hmembers h
      | object a =>
        rw [mergePair_object_array] at h
        cases hl : lone? (mergeElements ws) with
        | none => rw [hl] at h; exact .inl h
        | some m =>
          rw [hl, Option.elim_some] at h
          refine (reaches_joinMembers_of_adds hP hacc (hlone m hl) h).imp_right fun hm => hself ?_
          rw [lone?_eq_some_iff.1 hl]
          exact reaches_array.2 ⟨_, List.mem_singleton_self _, hm⟩
      | _ => rw [mergePair_of_isScalar rfl] at h; exact .inl h

/-- What is reached in a value that has been reduced was reached before. -/
theorem reaches_collapse (hP : Inherited P) {v : Json} {ks : List String}
    (h : Reaches P ks (collapse v)) : Reaches P ks v := by
  rcases reaches_mergePair hP .null h with hnull | hv
  · cases ks with
    | nil => exact hP.null hnull v
    | cons => exact absurd hnull not_reaches_null
  · exact hv

end Reaches

/-! ## Witnesses for a shape -/

/-- The shape is in representative form, and whatever is reached in it is reached in one of the
values. -/
structure Witnessed (vs : List Json) (shape : Json) : Prop where
  representative : Representative shape
  distinct : ∀ v ∈ vs, DistinctKeys v
  reached : ∀ {P}, Inherited P → ∀ ks, Reaches P ks shape → ∃ v ∈ vs, Reaches P ks v

/-- If a value repeats no key, neither do the objects found in it. -/
theorem distinctKeys_of_mem_membersIn {v : Json} (h : DistinctKeys v) {ms : Members}
    (hms : ms ∈ membersIn v) : DistinctKeys (.object ms) :=
  of_mem_membersIn (fun _ => DistinctKeys.array_iff.1) h hms

/-- The objects found in a representative value are representative. -/
theorem representative_of_mem_membersIn {v : Json} (h : Representative v) {ms : Members}
    (hms : ms ∈ membersIn v) : Representative (.object ms) :=
  of_mem_membersIn (fun _ => Representative.array_inv) h hms

/-- If values repeat no key, neither does what stands under a key in them. -/
theorem distinctKeys_valuesUnder {vs : List Json} (h : ∀ v ∈ vs, DistinctKeys v) (k : String) :
    ∀ w ∈ valuesUnder k vs, DistinctKeys w := by
  intro w hw
  obtain ⟨v, hv, ms, hms, hget⟩ := mem_valuesUnder.1 hw
  have hobject := DistinctKeys.object_iff.1 (distinctKeys_of_mem_membersIn (h v hv) hms)
  exact hobject.2 _ (Members.mem_of_get? hget)

/-- The members that have positions make up a representative object. -/
theorem representative_branches {shape : Json} (h : Representative shape) (tag : Tag) :
    Representative (.object (branches tag shape)) := by
  cases shape with
  | object ms => exact h
  | array vs =>
    rw [branches]
    split
    · cases hl : lastObject? vs with
      | none => exact representative_empty
      | some ms => exact representative_of_mem_membersIn h (mem_membersIn_of_shownObject? hl)
    · exact representative_empty
  | _ => exact representative_empty

/-- A sample is a witness for what it is reduced to. -/
theorem witnessed_collapse {v : Json} (h : DistinctKeys v) : Witnessed [v] (collapse v) where
  representative := representative_collapse v
  distinct := List.forall_mem_singleton.2 h
  reached := fun hP _ hr => ⟨v, List.mem_singleton_self v, reaches_collapse hP hr⟩

/-- The values and shapes of the positions below a witnessed one are witnessed. -/
theorem Witnessed.below {vs : List Json} {shape : Json} (h : Witnessed vs shape) {tag : Tag}
    {m : String × Json} (hm : m ∈ branches tag shape) : Witnessed (valuesUnder m.1 vs) m.2 where
  representative := (representative_branches h.representative tag).object_inv.2 m hm
  distinct := distinctKeys_valuesUnder h.distinct m.1
  reached := by
    intro P hP ks hr
    obtain ⟨ms, hms, hm⟩ := mem_branches hm
    -- Seen from above, the value is reached with one more key in front.
    have habove : Reaches P (m.1 :: ks) shape :=
      ⟨ms, mem_membersIn_of_shownObject? hms, m.2, hm, hr⟩
    obtain ⟨v, hv, os, hos, w, hw, hr⟩ := h.reached hP _ habove
    have hkeys := DistinctKeys.object_iff.1 (distinctKeys_of_mem_membersIn (h.distinct v hv) hos)
    exact ⟨w, mem_valuesUnder.2 ⟨v, hv, os, hos, Members.get?_of_mem hkeys.1 hw⟩, hr⟩

/-- A shape has a witness. -/
theorem Witnessed.ne_nil {vs : List Json} {shape : Json} (h : Witnessed vs shape) : vs ≠ [] := by
  obtain ⟨v, hv, -⟩ := h.reached inherited_any [] trivial
  exact List.ne_nil_of_mem hv

/-! ## The positions of a tree -/

variable {refine : Bool} {doc : Json} {root : Node} {ks : List String}

/-- All positions of the tree of a sample are witnessed. -/
theorem exists_witnessed_of_at (hd : DistinctKeys doc) (h : infer refine doc = .ok root) {n : Node}
    (hat : root.At ks n) : ∃ shape, n = build refine n.key (valuesAt [doc] ks) shape ∧
      Witnessed (valuesAt [doc] ks) shape := by
  rw [eq_build_of_infer h] at hat
  exact exists_shape_of_at (C := fun _ => True) (fun _ _ hw _ _ hm => hw.below hm)
    (witnessed_collapse hd) hat fun _ _ => trivial

/-- A child stands at the position of its parent with its own key behind it. -/
theorem Node.At.concat {n m c : Node} {ks : List String} (h : n.At ks m) (hc : c ∈ m.children) :
    n.At (ks ++ [c.key]) c := by
  induction h with
  | root n => exact .child hc (.root c)
  | child mem _ ih => exact .child mem (ih hc)

/-- Each node below the root of the tree of a sample has values that stand at its position, and no
other node beside it has its key. Its tag is null iff they all are, that of all their items if they
are all arrays or null, and otherwise that of the first one that is not null. -/
theorem infer_provenance (hd : DistinctKeys doc) (h : infer refine doc = .ok root)
    {parent n : Node} {before after : List Node} (hat : root.At ks parent)
    (hn : parent.children = before ++ n :: after) :
    let vs := valuesAt [doc] (ks ++ [n.key])
    vs ≠ [] ∧ (∀ s ∈ before ++ after, s.key ≠ n.key) ∧
      (n.tag = .null ↔ ∀ v ∈ vs, v.isNull = true) ∧
      (¬ (∀ v ∈ vs, v.isNull = true) → (∀ v ∈ vs, v.isNull = true ∨ v.isArray = true) →
        n.tag = kindOfItems (vs.flatMap itemsOf)) ∧
      (¬ (∀ v ∈ vs, v.isNull = true ∨ v.isArray = true) → n.tag = kindOf refine (lead vs)) := by
  intro vs
  have hmem : n ∈ parent.children := hn ▸ List.mem_append_right _ List.mem_cons_self
  obtain ⟨shape, hbuild, hw⟩ := exists_witnessed_of_at hd h (hat.concat hmem)
  have htag : n.tag = tagOf refine vs := by rw [hbuild, tag_build]
  refine ⟨hw.ne_nil, ?siblings, ?null, ?arrays, ?other⟩
  case siblings =>
    -- The children have the keys of an object in the shape of the parent.
    obtain ⟨shape', hparent, hw'⟩ := exists_witnessed_of_at hd h hat
    have hkeys := (representative_branches hw'.representative
      (tagOf refine (valuesAt [doc] ks))).object_inv.1
    rw [← keys_children_build, ← hparent, hn, List.map_append, List.map_cons,
      List.perm_middle.nodup_iff, List.nodup_cons, ← List.map_append] at hkeys
    exact fun s hs heq => hkeys.1 (heq ▸ List.mem_map.2 ⟨s, hs, rfl⟩)
  case null => rw [htag, tagOf_eq_null_iff]
  case arrays =>
    intro hnull harrays
    rw [htag, tagOf_eq, if_neg hnull, if_pos harrays]
  case other =>
    intro harrays
    have hnull : ¬ ∀ v ∈ vs, v.isNull = true := fun h => harrays fun v hv => .inl (h v hv)
    rw [htag, tagOf_eq, if_neg hnull, if_neg harrays]

/-- Values at a position come from objects of the sample and from those in a nested array. -/
theorem infer_provenance_sibling_arrays :
    infer false (.array [.object [("k", .null)],
        .array [.object [("k", .array [.bool true])], .object [("j", .bool false)]],
        .object [("k", .array [])]]) =
      .ok { key := "", tag := .arrayObject,
            children := [{ key := "k", tag := .arrayBool }, { key := "j", tag := .bool }] } ∧
    valuesAt [.array [.object [("k", .null)],
        .array [.object [("k", .array [.bool true])], .object [("j", .bool false)]],
        .object [("k", .array [])]]] ["k"] ≠ [] ∧
    Tag.arrayBool = kindOfItems ((valuesAt [.array [.object [("k", .null)],
        .array [.object [("k", .array [.bool true])], .object [("j", .bool false)]],
        .object [("k", .array [])]]] ["k"]).flatMap itemsOf) := by
  have hd : DistinctKeys (.array [.object [("k", .null)],
      .array [.object [("k", .array [.bool true])], .object [("j", .bool false)]],
      .object [("k", .array [])]]) := by
    simp [DistinctKeys.object_iff, DistinctKeys.array_iff, DistinctKeys.null,
      DistinctKeys.scalar (v := .bool _) rfl]
  -- The node for `k` is the first of the two children.
  have hinfer : infer false (.array [.object [("k", .null)],
      .array [.object [("k", .array [.bool true])], .object [("j", .bool false)]],
      .object [("k", .array [])]]) =
    .ok { key := "", tag := .arrayObject,
          children := [] ++ { key := "k", tag := .arrayBool } :: [{ key := "j", tag := .bool }] } :=
    rfl
  obtain ⟨hvalues, -, -, harrays, -⟩ := infer_provenance hd hinfer (.root _) rfl
  exact ⟨hinfer, hvalues, harrays (by decide) (by decide)⟩

end Stencil.Schema
