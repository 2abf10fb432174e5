import Stencil.Proofs.Schema.Groups

/-!
# Merging in groups

What a group may hold behind a scalar, an object or an array is said by merging it. This module gives
a condition that only looks at the values: a group may be merged on its own if its values agree in
kind, position by position, which is what `Uniform` says.

## Key results

- `Uniform.groups`: uniform groups may be merged on their own
- `merge_append_of_uniform`: so may any group, if no value or a scalar stands before it
-/

namespace Stencil.Schema

open Json (Members)
open Merge

/-! ## Values that agree in kind -/

/-- The values agree in kind, position by position. What adds nothing agrees with everything, but the
first value that is not null decides on the kind. Lists of objects are told from other lists because
an object can be merged with the former. -/
inductive Uniform : List Json → Prop
  | scalars {vs : List Json} (first : lead vs = .null ∨ (lead vs).isScalar = true)
    (idle : ∀ v ∈ vs, isIdle v = true) : Uniform vs
  | objects {vs : List Json} {b : Members} (first : lead vs = .object b)
    (arrays : ∀ ws, .array ws ∈ vs → ws = []) (columns : ∀ k, Uniform (column k (groupMembers vs))) :
    Uniform vs
  | objectLists {vs : List Json} {b : List Json} (first : lead vs = .array b)
    (objects : ∀ ms, .object ms ∈ vs → ms = []) (lists : ∀ ws, .array ws ∈ vs → othersOf ws = [])
    (own : ∀ ws, .array ws ∈ vs → ∀ k, Uniform (column k (addedMembers ws)))
    (columns : ∀ k, Uniform (column k (addedMembers (groupItems vs)))) : Uniform vs
  | mixedLists {vs : List Json} {b : List Json} (first : lead vs = .array b)
    (objects : ∀ ms, .object ms ∈ vs → ms = [])
    (lists : ∀ ws, .array ws ∈ vs → ∀ ms, objectOf? (.array ws) = some ms → ms = [])
    (columns : ∀ k, Uniform (column k (addedMembers (groupItems vs)))) : Uniform vs

/-! ## Arrays that consist of objects -/

/-- All items together consist of objects iff each array does. -/
private theorem othersOf_groupItems_eq_nil_iff {vs : List Json} :
    othersOf (groupItems vs) = [] ↔ ∀ ws, .array ws ∈ vs → othersOf ws = [] := by
  have hmem : ∀ {w vs}, w ∈ othersOf vs ↔ ∃ u ∈ vs, (objectOf? u).isNone = true ∧ collapse u = w := by
    simp [othersOf, and_assoc]
  simp only [List.eq_nil_iff_forall_not_mem, hmem, mem_groupItems]
  constructor
  · rintro h ws hws w ⟨u, hu, hw⟩
    exact h w ⟨u, ⟨ws, hws, hu⟩, hw⟩
  · rintro h w ⟨u, ⟨ws, hws, hu⟩, hw⟩
    exact h ws hws w ⟨u, hu, hw⟩

/-- If no array is reduced to an object with members, neither are all items together. -/
private theorem objectOf?_groupItems {vs : List Json}
    (h : ∀ ws, .array ws ∈ vs → ∀ ms, objectOf? (.array ws) = some ms → ms = []) {ms : Members}
    (hms : objectOf? (.array (groupItems vs)) = some ms) : ms = [] := by
  rw [objectOf?_array] at hms
  split at hms
  · next hothers =>
    have hlists := othersOf_groupItems_eq_nil_iff.1 hothers
    have hempty : ∀ b ∈ objectsOf (groupItems vs), b = [] := by
      intro b hb
      obtain ⟨u, hu, hub⟩ := List.mem_filterMap.1 hb
      obtain ⟨ws, hws, huw⟩ := mem_groupItems.1 hu
      have hbws : b ∈ objectsOf ws := List.mem_filterMap.2 ⟨u, huw, hub⟩
      -- The array of that object has no other items, so it is reduced to an object.
      have hjoin := h ws hws (joinMembers [] (objectsOf ws).flatten) (by
        rw [objectOf?_array, if_pos (hlists ws hws), mergedObject?,
          foldl_addMembers _ _ (List.ne_nil_of_mem hbws)]
        rfl)
      exact List.flatten_eq_nil_iff.1 (eq_nil_of_joinMembers hjoin) b hbws
    -- So the merged object of all items is merged from empty ones.
    rw [eq_joinMembers_of_mergedObject? hms, List.flatten_eq_nil_iff.2 hempty]
    rfl
  · cases hms

/-- Lists of objects add the same members to an object one by one and all together. -/
private theorem joinMembers_lists {vs : List Json} (hobjects : ∀ ms, .object ms ∈ vs → ms = [])
    (hlists : ∀ ws, .array ws ∈ vs → othersOf ws = [])
    (h : ∀ ws, .array ws ∈ vs → ∀ k, Groups (column k (addedMembers ws))) {a : Members}
    (ha : Representative (.object a)) :
    joinMembers a (addedMembers vs) = joinMembers a (addedMembers (groupItems vs)) := by
  induction vs generalizing a with
  | nil => rfl
  | cons v vs ih =>
    have hrest := fun {a} => @ih (fun ms hm => hobjects ms (List.mem_cons_of_mem _ hm))
      (fun ws hw => hlists ws (List.mem_cons_of_mem _ hw))
      (fun ws hw => h ws (List.mem_cons_of_mem _ hw)) a
    rw [addedMembers_cons]
    cases v with
    | array ws =>
      -- The array is merged on its own first, which its columns allow.
      have hws : (objectOf? (.array ws)).getD [] = joinMembers [] (addedMembers ws) := by
        rw [objectOf?_array, if_pos (hlists ws List.mem_cons_self)]
        exact getD_mergedObject? ws
      rw [hws, joinMembers_append, joinMembers_of_groups ha (h ws List.mem_cons_self),
        hrest (representative_joinMembers ha _), groupItems_array, addedMembers_append,
        joinMembers_append]
    | object ms =>
      obtain rfl := hobjects ms List.mem_cons_self
      exact hrest ha
    | _ => exact hrest ha

/-- Empty objects add nothing to an array of one object. -/
private theorem addedToLone_eq {vs : List Json} (h : ∀ ms, .object ms ∈ vs → ms = []) :
    addedToLone vs = addedMembers (groupItems vs) := by
  induction vs with
  | nil => rfl
  | cons v vs ih =>
    have hrest := ih fun ms hm => h ms (List.mem_cons_of_mem _ hm)
    cases v with
    | array ws =>
      rw [addedToLone, hrest, ite_self, groupItems_array, addedMembers_append]
    | object ms =>
      obtain rfl := h ms List.mem_cons_self
      exact hrest
    | _ => exact hrest

/-! ## Uniform groups -/

/-- Uniform groups may be merged on their own. -/
theorem Uniform.groups {vs : List Json} (h : Uniform vs) : Groups vs := by
  induction h with
  | scalars first idle => exact groups_scalars first idle
  | objects first arrays _ ih => exact (groups_iff_of_object first).2 ⟨arrays, ih⟩
  | @objectLists vs _ first objects lists _ _ own columns =>
    refine (groups_iff_of_array first).2 ⟨merge_arrays first objects, columns, ?lone, ?object⟩
    case lone =>
      rw [addedToLone_eq objects]
      exact ⟨rfl, columns⟩
    case object =>
      -- The items of all arrays are reduced to one object, as are those of each array.
      rw [objectOf?_array, if_pos (othersOf_groupItems_eq_nil_iff.2 lists), getD_mergedObject?]
      refine (joinTo_iff (representative_joinMembers representative_empty _)).2 fun a ha => ?_
      rw [joinMembers_lists objects lists own ha, joinMembers_of_groups ha columns]
  | @mixedLists vs _ first objects lists _ columns =>
    refine (groups_iff_of_array first).2 ⟨merge_arrays first objects, columns, ?lone, ?object⟩
    case lone =>
      rw [addedToLone_eq objects]
      exact ⟨rfl, columns⟩
    case object =>
      -- No value adds members to an object, and the items of all arrays do not either.
      have hadded : addedMembers vs = [] := by
        refine List.flatten_eq_nil_iff.2 fun ms hms => ?_
        obtain ⟨v, hv, hvms⟩ := List.mem_filterMap.1 hms
        cases v with
        | object b => exact objects ms (Option.some.inj hvms ▸ hv)
        | array ws => exact lists ws hv ms hvms
        | _ => cases hvms
      have hjoined : (objectOf? (.array (groupItems vs))).getD [] = [] := by
        cases ho : objectOf? (.array (groupItems vs)) with
        | none => rfl
        | some ms => exact objectOf?_groupItems lists ho
      rw [hadded, hjoined]
      exact ⟨rfl, fun k => groups_scalars (.inl rfl) nofun⟩

/-- A uniform group may be merged on its own, whatever stands before it. So may any group if nothing
but null and then a scalar stands before it, or null alone. -/
theorem merge_append_of_uniform (xs : List Json) {ys : List Json}
    (h : lead xs = .null ∨ (lead xs).isScalar = true ∨ Uniform ys) :
    merge (xs ++ ys) = mergePair (merge xs) (merge ys) := by
  have happend : merge (xs ++ ys) = ys.foldl mergePair (merge xs) := List.foldl_append
  rcases h with hnull | hscalar | huniform
  · -- Nothing has been accumulated, so the group is merged on its own.
    rw [happend, merge_scalars (.inl hnull), hnull]
    exact (collapse_of_representative (representative_merge ys)).symm
  · -- A scalar drops all that comes behind it, merged or not.
    rw [happend, merge_scalars (.inr hscalar), mergePair_of_isScalar hscalar]
    exact foldl_mergePair_eq_self fun v _ => mergePair_of_isScalar hscalar v
  · exact merge_append_iff.2 huniform.groups xs

/-- Scalars agree in kind, whatever they are. -/
private theorem uniform_of_scalars {vs : List Json} (h : ∀ v ∈ vs, v.isScalar = true) :
    Uniform vs := by
  -- Behind the first one, the others add nothing.
  have hidle : ∀ v ∈ vs, isIdle v = true := by
    intro v hv
    have := h v hv
    cases v <;> simp_all [Json.isScalar, isIdle]
  refine .scalars ?_ hidle
  cases vs with
  | nil => exact .inl rfl
  | cons v vs =>
    have hv := h v List.mem_cons_self
    cases v with
    | null | object _ | array _ => cases hv
    | _ => exact .inr rfl

/-- A column of members whose values are scalars. -/
private theorem uniform_column {ms : Members} (h : ∀ m ∈ ms, m.2.isScalar = true) (k : String) :
    Uniform (column k ms) :=
  uniform_of_scalars fun v hv => h (k, v) (mem_column.1 hv)

/-- Lists of objects, one of them nested, behind an array with another item. -/
theorem merge_append_of_uniform_object_lists :
    Uniform [.array [.object [("b", .bool true)]], .null,
      .array [.array [.object [("c", .string "x")]]]] ∧
    merge ([.array [.null]] ++ [.array [.object [("b", .bool true)]], .null,
        .array [.array [.object [("c", .string "x")]]]]) =
      mergePair (merge [.array [.null]]) (merge [.array [.object [("b", .bool true)]], .null,
        .array [.array [.object [("c", .string "x")]]]]) := by
  have h : Uniform [.array [.object [("b", .bool true)]], .null,
      .array [.array [.object [("c", .string "x")]]]] := by
    -- Both arrays are lists of objects once their items are reduced, and each key stands in one of
    -- them.
    refine .objectLists rfl (by simp) ?lists ?own fun k => uniform_column (by decide) k
    case lists =>
      intro ws hws
      obtain rfl | rfl : ws = [.object [("b", .bool true)]] ∨
        ws = [.array [.object [("c", .string "x")]]] := by simpa using hws
      · rfl
      · rfl
    case own =>
      intro ws hws k
      obtain rfl | rfl : ws = [.object [("b", .bool true)]] ∨
        ws = [.array [.object [("c", .string "x")]]] := by simpa using hws
      · exact uniform_column (by decide) k
      · exact uniform_column (by decide) k
  exact ⟨h, merge_append_of_uniform _ (.inr (.inr h))⟩

/-- Groups that mix kinds cannot be merged on their own: a scalar before an object, a list of objects
before an object and after it, a list of objects before a mixed list. -/
theorem merge_append_ne :
    merge ([.object []] ++ [.bool true, .object [("a", .bool true)]]) ≠
      mergePair (merge [.object []]) (merge [.bool true, .object [("a", .bool true)]]) ∧
    merge ([.array [.bool true]] ++ [.array [.object []], .object [("a", .bool true)]]) ≠
      mergePair (merge [.array [.bool true]])
        (merge [.array [.object []], .object [("a", .bool true)]]) ∧
    merge ([.array [.bool true]] ++ [.object [], .array [.object [("a", .bool true)]]]) ≠
      mergePair (merge [.array [.bool true]])
        (merge [.object [], .array [.object [("a", .bool true)]]]) ∧
    merge ([.object []] ++ [.array [.object [("a", .bool true)]], .array [.bool true]]) ≠
      mergePair (merge [.object []])
        (merge [.array [.object [("a", .bool true)]], .array [.bool true]]) := by
  refine ⟨fun h => ?_, fun h => ?_, fun h => ?_, fun h => ?_⟩
  · change Json.object [("a", .bool true)] = .object [] at h
    simp at h
  · change Json.array [.bool true, .object []] =
      .array [.bool true, .object [("a", .bool true)]] at h
    simp at h
  · change Json.array [.bool true, .object [("a", .bool true)]] = .array [.bool true] at h
    simp at h
  · change Json.object [("a", .bool true)] = .object [] at h
    simp at h

end Stencil.Schema
