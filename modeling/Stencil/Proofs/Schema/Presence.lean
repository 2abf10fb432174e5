import Stencil.Proofs.Schema.Gathering
import Stencil.Proofs.Schema.Provenance

/-!
# Values that are present

A record may lack a property, or have null for it. Neither leaves a trace: in the tree of a list of
records, what is said of a property is said by the values that are present under its key, whatever
else the records hold.

Null adds nothing to a merged value, votes for nothing and has no object in it, so it can be left
out of the values at any position.

## Key results

- `build_filter_isNull`: nulls among the values of a position do not matter
- `infer_objects`: the tree of a list of objects
- `children_infer_objects`: its property under a key, from the values that are present
- `child_eq_of_presentUnder_eq`: two lists with the same values present under a key agree on it
-/

namespace Stencil

namespace Json.Members

/-- Among members with distinct keys, a key picks out one. -/
theorem filter_key {ms : Members} (hd : ms.keys.Nodup) {k : String} {v : Json}
    (h : ms.get? k = some v) : ms.filter (·.1 == k) = [(k, v)] := by
  induction ms with
  | nil => cases h
  | cons m ms ih =>
    obtain ⟨k', w⟩ := m
    rw [keys_cons, List.nodup_cons] at hd
    rw [get?_cons] at h
    by_cases hk : k' = k
    · subst hk
      obtain rfl : w = v := by simpa using h
      -- The key does not come again.
      have hrest : ms.filter (·.1 == k') = [] := by
        rw [List.filter_eq_nil_iff]
        intro m hm hmk
        exact hd.1 (beq_iff_eq.1 hmk ▸ List.mem_map.2 ⟨m, hm, rfl⟩)
      simp [hrest]
    · rw [if_neg hk] at h
      simp [hk, ih hd.2 h]

end Json.Members

namespace Schema

open Json (Members DistinctKeys)
open Merge

/-- The values under a key of objects, in order, that are not null. -/
def presentUnder (k : String) (os : List Members) : List Json :=
  (os.filterMap (·.get? k)).filter (!·.isNull)

/-! ## Nulls do not matter -/

variable {refine : Bool}

/-- Nulls add nothing, wherever they stand. -/
theorem foldl_mergePair_filter_isNull (acc : Json) (vs : List Json) :
    (vs.filter (!·.isNull)).foldl mergePair acc = vs.foldl mergePair acc := by
  induction vs generalizing acc with
  | nil => rfl
  | cons v vs ih =>
    cases v with
    | null =>
      have hskip : (Json.null :: vs).filter (!·.isNull) = vs.filter (!·.isNull) := rfl
      rw [hskip, ih, List.foldl_cons, mergePair_null_right]
    | _ => exact ih _

/-- There are no objects in nulls. -/
theorem flatMap_membersIn_filter_isNull (vs : List Json) :
    (vs.filter (!·.isNull)).flatMap membersIn = vs.flatMap membersIn := by
  induction vs with
  | nil => rfl
  | cons v vs ih =>
    cases v with
    | null => exact ih
    | _ => exact congrArg (membersIn _ ++ ·) ih

/-- The tag of a position disregards nulls. -/
theorem tagOf_filter_isNull (vs : List Json) :
    tagOf refine (vs.filter (!·.isNull)) = tagOf refine vs := by
  simp only [tagOf, List.filter_filter, Bool.and_self]

/-- Nothing stands under a key of null. -/
theorem valuesUnder_filter_isNull (k : String) (vs : List Json) :
    valuesUnder k (vs.filter (!·.isNull)) = valuesUnder k vs := by
  rw [valuesUnder, flatMap_membersIn_filter_isNull, valuesUnder]

/-- Nulls among the values of a position change neither its tag nor what is below it. -/
theorem build_filter_isNull (key : String) (vs : List Json) (shape : Json) :
    build refine key (vs.filter (!·.isNull)) shape = build refine key vs shape := by
  rw [build_eq key (vs.filter (!·.isNull)) shape, build_eq key vs shape, tagOf_filter_isNull]
  simp only [valuesUnder_filter_isNull]

/-! ## Lists of objects -/

/-- Objects add their members. -/
theorem objectsOf_map_object (os : List Members) : objectsOf (os.map .object) = os := by
  induction os with
  | nil => rfl
  | cons o os ih =>
    rw [List.map_cons, objectsOf_cons, ih]
    rfl

/-- Objects leave no other items. -/
theorem othersOf_map_object (os : List Members) : othersOf (os.map .object) = [] := by
  rw [othersOf_eq_nil_iff]
  intro v hv
  obtain ⟨ms, -, rfl⟩ := List.mem_map.1 hv
  rfl

/-- A list of objects is reduced to one. -/
theorem mergeElements_map_object {os : List Members} (h : os ≠ []) :
    mergeElements (os.map .object) = [.object (joinMembers [] os.flatten)] := by
  rw [mergeElements, elements, foldl_add_eq, objectsOf_map_object, othersOf_map_object,
    foldl_addMembers _ _ h]
  rfl

/-- A list of objects is tagged as such. -/
theorem kindOfItems_map_object {os : List Members} (h : os ≠ []) :
    kindOfItems (os.map .object) = .arrayObject := by
  obtain ⟨o, os, rfl⟩ := List.exists_cons_of_ne_nil h
  -- All votes are for objects.
  have hvotes : votes ((o :: os).map .object) = List.replicate (os.length + 1) .object := by
    rw [votes_eq_map, List.map_map, List.eq_replicate_iff]
    refine ⟨by simp, fun u hu => ?_⟩
    obtain ⟨ms, -, rfl⟩ := List.mem_map.1 hu
    rfl
  rw [kindOfItems, hvotes, winner_tally_replicate]
  rfl

/-- The objects found in objects are these objects. -/
theorem flatMap_membersIn_map_object (os : List Members) :
    (os.map Json.object).flatMap membersIn = os := by
  induction os with
  | nil => rfl
  | cons o os ih => rw [List.map_cons, List.flatMap_cons, ih, membersIn_object]; rfl

/-- The values under a key of a list of objects. -/
theorem valuesUnder_array_map_object (k : String) (os : List Members) :
    valuesUnder k [.array (os.map .object)] = os.filterMap (·.get? k) := by
  rw [valuesUnder, List.flatMap_singleton, membersIn_array, flatMap_membersIn_map_object]

/-- The tree of a list of objects has a property for each key, made from the values under it. -/
theorem infer_objects {os : List Members} (h : os ≠ []) :
    infer refine (.array (os.map .object)) =
      .ok { key := "", tag := .arrayObject
            children := (joinMembers [] os.flatten).map fun m =>
              build refine m.1 (os.filterMap (·.get? m.1)) m.2 } := by
  have htag : tagOf refine [.array (os.map .object)] = .arrayObject := by
    rw [tagOf_singleton_array, kindOfItems_map_object h]
  have hshape : collapse (.array (os.map .object)) =
      .array [.object (joinMembers [] os.flatten)] := by
    rw [collapse_array, mergeElements_map_object h]
  -- The one object of the shape has all positions.
  rw [infer, hshape, build_eq, htag]
  simp only [valuesUnder_array_map_object]
  rfl

/-! ## The property under a key -/

/-- If no object repeats a key, a column has one value of each object that has the key. -/
theorem column_flatten {os : List Members} (h : ∀ o ∈ os, o.keys.Nodup) (k : String) :
    column k os.flatten = os.filterMap (·.get? k) := by
  induction os with
  | nil => rfl
  | cons o os ih =>
    obtain ⟨ho, hos⟩ := List.forall_mem_cons.1 h
    have happend : column k (o ++ os.flatten) = column k o ++ column k os.flatten := by
      simp [column]
    rw [List.flatten_cons, happend, ih hos, column_of_nodup ho]
    cases hk : o.get? k <;> simp [hk]

/-- The value under a key of the object that objects are merged into. -/
theorem get?_joinMembers_flatten {os : List Members} (hd : ∀ o ∈ os, o.keys.Nodup) {k : String}
    (hk : presentUnder k os ≠ []) :
    (joinMembers [] os.flatten).get? k = some (merge (presentUnder k os)) := by
  have hne : os.filterMap (·.get? k) ≠ [] := by
    intro hnil
    rw [presentUnder, hnil] at hk
    exact hk rfl
  -- The values in the column are merged one after another, and nulls add nothing.
  rw [get?_joinMembers, column_flatten hd, foldl_addValue _ hne, presentUnder, merge,
    foldl_mergePair_filter_isNull]
  rfl

/-- If a list of objects repeats no key, neither does any of the objects. -/
theorem nodup_keys_of_distinctKeys {os : List Members}
    (h : DistinctKeys (.array (os.map .object))) : ∀ o ∈ os, o.keys.Nodup := by
  intro o ho
  exact (DistinctKeys.object_iff.1 (DistinctKeys.array_iff.1 h _ (List.mem_map_of_mem ho))).1

/-- In the tree of a list of objects, there is one property under a key that has a value, and it is
made from the values that are present there. -/
theorem children_infer_objects {os : List Members} (hd : DistinctKeys (.array (os.map .object)))
    {k : String} (hk : presentUnder k os ≠ []) :
    ∃ root, infer refine (.array (os.map .object)) = .ok root ∧
      root.children.filter (·.key == k) =
        [build refine k (presentUnder k os) (merge (presentUnder k os))] := by
  have hne : os ≠ [] := by
    rintro rfl
    exact hk rfl
  refine ⟨_, infer_objects hne, ?_⟩
  have hkey : ((·.key == k) : Node → Bool) ∘
      (fun m : String × Json => build refine m.1 (os.filterMap (·.get? m.1)) m.2) = (·.1 == k) := by
    funext m
    rw [Function.comp_apply, key_build]
  have hkeys : (joinMembers [] os.flatten).keys.Nodup := nodup_keys_joinMembers (by simp) _
  have hget := get?_joinMembers_flatten (nodup_keys_of_distinctKeys hd) hk
  -- Siblings have distinct keys, so one of them is left.
  rw [List.filter_map, hkey, Members.filter_key hkeys hget, List.map_singleton, presentUnder,
    build_filter_isNull]

/-- Two lists of objects in which the same values are present under a key, in the same order, have
the same property under it, with all that is below it. Nulls, objects without the key and all other
keys do not matter. -/
theorem child_eq_of_presentUnder_eq {as bs : List Members}
    (has : DistinctKeys (.array (as.map .object))) (hbs : DistinctKeys (.array (bs.map .object)))
    {k : String} (heq : presentUnder k as = presentUnder k bs) (hk : presentUnder k as ≠ []) :
    ∃ root root' n,
      infer refine (.array (as.map .object)) = .ok root ∧
      infer refine (.array (bs.map .object)) = .ok root' ∧
      root.children.filter (·.key == k) = [n] ∧ root'.children.filter (·.key == k) = [n] := by
  obtain ⟨root, hroot, hchild⟩ := @children_infer_objects refine as has k hk
  obtain ⟨root', hroot', hchild'⟩ := @children_infer_objects refine bs hbs k (heq ▸ hk)
  exact ⟨root, root', _, hroot, hroot', hchild, heq ▸ hchild'⟩

/-- A null, another key and an object without the key are of no account. -/
theorem child_eq_of_presentUnder_eq_gaps :
    presentUnder "k" [[("k", .null), ("j", .bool true)],
        [("k", .array [.object [("a", .null)]])], []] =
      presentUnder "k" [[("k", .array [.object [("a", .null)]])]] ∧
    presentUnder "k" [[("k", .null), ("j", .bool true)],
        [("k", .array [.object [("a", .null)]])], []] ≠ [] ∧
    ∃ root root' n,
      infer false (.array [.object [("k", .null), ("j", .bool true)],
        .object [("k", .array [.object [("a", .null)]])], .object []]) = .ok root ∧
      infer false (.array [.object [("k", .array [.object [("a", .null)]])]]) = .ok root' ∧
      root.children.filter (·.key == "k") = [n] ∧ root'.children.filter (·.key == "k") = [n] := by
  have heq : presentUnder "k" [[("k", .null), ("j", .bool true)],
      [("k", .array [.object [("a", .null)]])], []] =
    presentUnder "k" [[("k", .array [.object [("a", .null)]])]] := rfl
  have hne : presentUnder "k" [[("k", .null), ("j", .bool true)],
      [("k", .array [.object [("a", .null)]])], []] ≠ [] := List.cons_ne_nil _ _
  refine ⟨heq, hne, child_eq_of_presentUnder_eq ?_ ?_ heq hne⟩
  · simp [DistinctKeys.object_iff, DistinctKeys.array_iff, DistinctKeys.null,
      DistinctKeys.scalar (v := .bool true) rfl]
  · simp [DistinctKeys.object_iff, DistinctKeys.array_iff, DistinctKeys.null]

end Schema
end Stencil
