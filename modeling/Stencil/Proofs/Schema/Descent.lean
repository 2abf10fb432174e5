import Mathlib.Data.List.Forall2
import Stencil.Proofs.Json.Reading
import Stencil.Proofs.Schema.Classes

/-!
# Descending into a sample

The tree of an object is put together from the trees of its values: below the root, each key has the
tree that its value has on its own. Arrays of one item around the object hide nothing of it, however
many there are.

## Key results

- `placed_iff`: the position of a value that stands alone under its key
- `children_infer_object`: the positions below an object are those of its values
- `children_infer_nest`: arrays of one item around an object leave its positions as they are
- `infer_compositional`: both, for the tree of a sample
-/

namespace Stencil.Schema

open Json (Members DistinctKeys)
open Merge

variable {refine : Bool}

/-! ## Keys -/

/-- The position under a key whose value is the only one: the tree that the value has on its own,
apart from its key, or a leaf with the tag of the value if it has none. -/
inductive Placed (refine : Bool) (k : String) : Json → Node → Prop
  | tree {v : Json} {n : Node} (h : infer refine v = .ok n) : Placed refine k v { n with key := k }
  | leaf {v : Json} (h : v.IsLeaf) : Placed refine k v { key := k, tag := kindOf refine v }

/-- The key of a position makes no difference to anything else in it. -/
theorem build_withKey (k key : String) (vs : List Json) (shape : Json) :
    { build refine key vs shape with key := k } = build refine k vs shape := by
  rw [build_eq key, build_eq k]

/-- A leaf has its own tag and no positions below it. -/
private theorem build_leaf {v : Json} (h : v.IsLeaf) (k : String) :
    build refine k [v] (collapse v) = { key := k, tag := kindOf refine v } := by
  have htag : tagOf refine [v] = kindOf refine v := by
    rcases h with rfl | h
    · rfl
    · cases v with
      | null | object _ | array _ => cases h
      | _ => rfl
  -- A scalar is its own representative, and null is dropped: neither has members.
  have hchildren : branches (tagOf refine [v]) (collapse v) = [] := by
    rcases h with rfl | h
    · rfl
    · rw [collapse_of_isScalar h]
      cases v with
      | null | object _ | array _ => cases h
      | _ => rfl
  rw [build_eq, hchildren, htag, List.map_nil]

/-- A single value under a key has the position that is built from it. -/
theorem placed_iff {k : String} {v : Json} {n : Node} :
    Placed refine k v n ↔ n = build refine k [v] (collapse v) := by
  constructor
  · intro h
    cases h with
    | tree h => rw [eq_build_of_infer h, build_withKey]
    | leaf h => rw [build_leaf h]
  · rintro rfl
    -- Objects and arrays have a tree of their own, null and scalars are leaves.
    cases v with
    | object _ | array _ =>
      rw [← build_withKey k ""]
      exact .tree rfl
    | null =>
      rw [build_leaf (.inl rfl)]
      exact .leaf (.inl rfl)
    | _ =>
      rw [build_leaf (.inr rfl)]
      exact .leaf (.inr rfl)

/-- The positions below an object are those of its values, in order. -/
theorem children_infer_object {o : Members} (hd : o.keys.Nodup) :
    (build refine "" [.object o] (collapse (.object o))).children =
      o.map fun m => build refine m.1 [m.2] (collapse m.2) := by
  have hshape : joinMembers [] o = o.map fun m => (m.1, collapse m.2) := joinMembers_of_nodup hd
  rw [collapse_object, hshape, children_build, branches, List.map_map]
  refine List.map_congr_left fun m hm => ?_
  -- Keys are distinct, so the only value under the key is that of the member.
  have hvalue : valuesUnder m.1 [.object o] = [m.2] := by
    rw [valuesUnder_object, Members.get?_of_mem hd hm, Option.toList_some]
  rw [Function.comp_apply, hvalue]

/-! ## Arrays of one item -/

/-- A value in so many arrays of one item, one in another. -/
def nest : Nat → Json → Json
  | 0, v => v
  | n + 1, v => .array [nest n v]

/-- Arrays around a value make no difference to the objects found in it. -/
theorem membersIn_nest (n : Nat) (v : Json) : membersIn (nest n v) = membersIn v := by
  induction n with
  | zero => rfl
  | succ n ih => rw [nest, membersIn_array, List.flatMap_singleton, ih]

/-- Nor to what stands under a key. -/
theorem valuesUnder_nest (k : String) (n : Nat) (v : Json) :
    valuesUnder k [nest n v] = valuesUnder k [v] := by
  simp only [valuesUnder, List.flatMap_singleton, membersIn_nest]

/-- Whatever stands around an object counts as the object. -/
theorem kindOfItems_nest (n : Nat) (o : Members) :
    kindOfItems [nest n (.object o)] = .arrayObject := by
  -- An array of one item votes for what its item votes for.
  have hvote : vote (nest n (.object o)) = .object := by
    induction n with
    | zero => rfl
    | succ n ih =>
      rw [nest, vote, votes_eq_map, List.map_singleton, ih]
      rfl
  rw [kindOfItems, votes_eq_map, List.map_singleton, hvote]
  rfl

/-- All arrays but one are dissolved, and the object is merged once. -/
theorem collapse_nest (n : Nat) (o : Members) :
    collapse (nest (n + 1) (.object o)) = .array [.object (joinMembers [] o)] := by
  induction n with
  | zero => exact collapse_array [.object o]
  | succ n ih =>
    -- The inner array is reduced to the object, so it counts as one.
    have hinner : objectOf? (nest (n + 1) (.object o)) = some (joinMembers [] o) := by
      rw [nest, collapse_array] at ih
      rw [nest, objectOf?, Json.array.inj ih]
      rfl
    have hfixed : joinMembers [] (joinMembers [] o) = joinMembers [] o :=
      joinMembers_nil_left (representative_joinMembers representative_empty o)
    have hobjects : objectsOf [nest (n + 1) (.object o)] = [joinMembers [] o] := by
      simp [objectsOf, hinner]
    have hothers : othersOf [nest (n + 1) (.object o)] = [] := by
      simp [othersOf, hinner]
    rw [nest, collapse_array, mergeElements, elements, foldl_add_eq, hothers, hobjects]
    simp [addMembers, Reduction.empty, Reduction.toList, hfixed]

/-- In arrays of one item, an object has the positions that it has on its own. -/
theorem children_infer_nest (n : Nat) (o : Members) :
    infer refine (nest (n + 1) (.object o)) =
      .ok { key := "", tag := .arrayObject
            children := (build refine "" [.object o] (collapse (.object o))).children } := by
  have htag : tagOf refine [nest (n + 1) (.object o)] = .arrayObject := by
    rw [nest, tagOf_singleton_array, kindOfItems_nest]
  -- The shape shows the same object as that of the object alone.
  have hbranches : branches .arrayObject (.array [.object (joinMembers [] o)]) =
      branches (tagOf refine [.object o]) (collapse (.object o)) := by
    rw [collapse_object]
    rfl
  have hinfer : infer refine (nest (n + 1) (.object o)) =
      .ok (build refine "" [nest (n + 1) (.object o)] (collapse (nest (n + 1) (.object o)))) := rfl
  rw [hinfer, build_eq, htag, collapse_nest, hbranches, children_build]
  simp only [valuesUnder_nest]

/-! ## Trees -/

/-- The tree of an object has one position for each key, in order, which is the one that the value
under the key has on its own; and in any number of arrays of one item, the object has a tree with
the same positions, tagged as a list of objects. -/
theorem infer_compositional {o : Members} (hd : o.keys.Nodup) (refine : Bool) :
    ∃ root, infer refine (.object o) = .ok root ∧ root.children.map (·.key) = o.keys ∧
      List.Forall₂ (fun m c => Placed refine m.1 m.2 c) o root.children ∧
      ∀ n, ∃ nested, infer refine (nest (n + 1) (.object o)) = .ok nested ∧
        nested.tag = .arrayObject ∧ nested.children = root.children := by
  refine ⟨_, rfl, ?_, ?_, fun n => ⟨_, children_infer_nest n o, rfl, rfl⟩⟩
  · rw [children_infer_object hd, List.map_map]
    exact List.map_congr_left fun m _ => key_build m.1 [m.2] _
  · rw [children_infer_object hd, List.forall₂_map_right_iff, List.forall₂_same]
    exact fun m _ => placed_iff.2 rfl

/-- The array under `a` votes on its own items, and the text under `d` is refined. -/
theorem infer_compositional_subtypes :
    (Members.keys [("a", .array [.null, .object [("b", .array [.object []])]]),
      ("c", .object [("a", .null)]), ("d", .string "1h")]).Nodup ∧
    ∃ root, infer true (.object [("a", .array [.null, .object [("b", .array [.object []])]]),
        ("c", .object [("a", .null)]), ("d", .string "1h")]) = .ok root ∧
      root.children.map (·.key) = ["a", "c", "d"] ∧
      List.Forall₂ (fun m c => Placed true m.1 m.2 c)
        [("a", .array [.null, .object [("b", .array [.object []])]]),
          ("c", .object [("a", .null)]), ("d", .string "1h")] root.children ∧
      ∀ n, ∃ nested, infer true (nest (n + 1) (.object
          [("a", .array [.null, .object [("b", .array [.object []])]]),
            ("c", .object [("a", .null)]), ("d", .string "1h")])) = .ok nested ∧
        nested.tag = .arrayObject ∧ nested.children = root.children := by
  have hkeys : (Members.keys [("a", .array [.null, .object [("b", .array [.object []])]]),
      ("c", .object [("a", .null)]), ("d", .string "1h")]).Nodup := by decide
  exact ⟨hkeys, infer_compositional hkeys true⟩

end Stencil.Schema
