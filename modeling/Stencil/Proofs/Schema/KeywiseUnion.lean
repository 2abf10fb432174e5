import Mathlib.Data.List.Induction
import Stencil.Proofs.Lists
import Stencil.Proofs.Schema.Coherence

/-!
# Merging objects key by key

Objects are merged into the union of their members. Nothing but the values under a key has a say in
what stands under it, and the value that is merged there is made in the same way as the whole.

## Key results

- `foldl_addKey_eq_eraseDups`: the keys of a union are the distinct keys, as they are first seen
- `sameForm_merge`: merged values have the form of the first one that is not null
- `merge_keywise`: objects are merged key by key
-/

namespace Stencil.Schema

open Json (Members)

/-- The keys that are added to none are the distinct ones, in the order in which they are first seen. -/
theorem foldl_addKey_eq_eraseDups (ks : List String) : ks.foldl addKey [] = ks.eraseDups := by
  -- The last key is the last one to be added.
  induction ks using List.reverseRecOn with
  | nil => rfl
  | append_singleton ks k ih =>
    rw [List.foldl_append, ih, List.eraseDups_append_singleton]
    rfl

/-- All values of a list are merged into its representative. -/
theorem mergedFrom_merge (vs : List Json) : MergedFrom vs (merge vs) := by
  induction vs using List.reverseRecOn with
  | nil => exact .nil
  | append_singleton vs v ih =>
    rw [merge_append_singleton]
    exact .value ih v

/-- Merged values have the form of the first one that is not null. -/
theorem sameForm_merge (vs : List Json) : SameForm (merge vs) (lead vs) :=
  (mergedFrom_merge vs).sameForm

/-- The value under a key of the object that members are merged into. -/
theorem get?_joinMembers_of_mem {ms : Members} {k : String} (h : k ∈ ms.keys) :
    (joinMembers [] ms).get? k = some (merge (column k ms)) := by
  have hne : column k ms ≠ [] := by
    obtain ⟨m, hm, rfl⟩ := List.mem_map.1 h
    exact List.ne_nil_of_mem (mem_column.2 hm)
  -- The key is new, so its column is merged into null.
  rw [get?_joinMembers, foldl_addValue _ hne]
  rfl

/-- Merged values have the form of the first one that is not null, which is left alone if it is a
scalar. If it is an object, and there are only objects besides null (scalars and empty arrays make no
difference), then they are merged key by key: the keys are those of all objects in the order in which
they are first seen, and under each of them stands what the values under it are merged into. -/
theorem merge_keywise (vs : List Json) :
    SameForm (merge vs) (lead vs) ∧
    ((lead vs).isScalar = true → merge vs = lead vs) ∧
    ((lead vs).isObject = true → (∀ ws, .array ws ∈ vs → ws = []) →
      ∃ ms : Members, merge vs = .object ms ∧ ms.keys = (groupMembers vs).keys.eraseDups ∧
        ∀ k ∈ (groupMembers vs).keys, ms.get? k = some (merge (column k (groupMembers vs)))) := by
  refine ⟨sameForm_merge vs, fun h => merge_scalars (.inr h), fun hobject harrays => ?_⟩
  obtain ⟨b, hb⟩ : ∃ b, lead vs = .object b := by
    cases hl : lead vs <;> rw [hl] at hobject <;> first | exact ⟨_, rfl⟩ | cases hobject
  have hmerge : merge vs = .object (joinMembers [] (groupMembers vs)) := by
    rw [merge_of_object hb, addedMembers_eq_groupMembers harrays]
  -- All members are merged into none, so the first occurrence of a key decides on its place.
  refine ⟨_, hmerge, ?keys, fun k hk => get?_joinMembers_of_mem hk⟩
  case keys => rw [keys_joinMembers, Members.keys_nil, foldl_addKey_eq_eraseDups]

/-- Under `a`, null makes way for an object, and a text behind it adds nothing. -/
theorem merge_keywise_nulls :
    let vs : List Json :=
      [.null, .object [("b", .bool true), ("a", .null)], .object [("a", .object [("c", .null)])],
        .null, .object [("d", .array []), ("a", .string "x"), ("b", .bool false)]]
    (lead vs).isObject = true ∧ (∀ ws, .array ws ∈ vs → ws = []) ∧
    ∃ ms : Members, merge vs = .object ms ∧ ms.keys = ["b", "a", "d"] ∧
      ms.get? "a" = some (.object [("c", .null)]) := by
  intro vs
  have harrays : ∀ ws, .array ws ∈ vs → ws = [] := by simp [vs]
  obtain ⟨-, -, hobjects⟩ := merge_keywise vs
  obtain ⟨ms, hms, hkeys, hget⟩ := hobjects rfl harrays
  exact ⟨rfl, harrays, ms, hms, hkeys.trans (by decide), (hget "a" (by decide)).trans rfl⟩

end Stencil.Schema
