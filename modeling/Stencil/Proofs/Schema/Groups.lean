import Stencil.Proofs.Schema.Repetition

/-!
# Groups of values

Merging is a fold from the left, and what a value adds depends on the kind of what was accumulated
before it: a scalar or a value of another kind is dropped. So a group of values cannot always be
merged on its own first. Whether it can depends on the first value of the group that is not null: this
module says what a group may hold behind a scalar, behind an object and behind an array.

Behind an array there is most to say. The values of such a group may be merged into an object, into
an array of one object or into an array that has other items, and each of them takes in another part
of the group.

## Key results

- `joinMembers_of_groups`: members may be merged on their own if each column may
- `foldl_add_of_groups`: items may be reduced on their own if each column of their objects may
- `foldl_mergePair_object`, `foldl_mergePair_lone`, `foldl_mergePair_array`: what an object, an array
  of one object and an array with other items take in
- `merge_sibling_arrays`: arrays side by side are merged item by item
- `groups_iff_of_scalar`, `groups_iff_of_object`, `groups_iff_of_array`: what a group may hold behind
  a scalar, behind an object and behind an array
- `merge_append_iff`: these groups are the ones that may be merged on their own behind any values
-/

namespace Stencil.Schema

open Json (Members)
open Merge

/-! ## Groups and their parts -/

/-- The values may be merged on their own before they are merged into what stands before them. -/
def Groups (vs : List Json) : Prop :=
  ∀ acc, Representative acc → vs.foldl mergePair acc = mergePair acc (merge vs)

/-- The first value that is not null. -/
def lead : List Json → Json
  | [] => .null
  | .null :: vs => lead vs
  | v :: _ => v

/-- The members of all objects among the values. -/
def groupMembers (vs : List Json) : Members :=
  vs.flatMap fun | .object ms => ms | _ => []

/-- The items of all arrays among the values. -/
def groupItems (vs : List Json) : List Json :=
  vs.flatMap fun | .array ws => ws | _ => []

/-- The members that the items of an array add to its merged object. -/
def addedMembers (vs : List Json) : Members := (objectsOf vs).flatten

/-- Whether a value adds nothing to one that is there already. -/
def isIdle : Json → Bool
  | .object ms => ms.isEmpty
  | .array vs => vs.isEmpty
  | _ => true

/-- The members that values add to an array of one object. It takes in objects as long as it has no
other items. -/
def addedToLone : List Json → Members
  | [] => []
  | .array ws :: vs =>
    addedMembers ws ++ if othersOf ws = [] then addedToLone vs else addedMembers (groupItems vs)
  | .object ms :: vs => ms ++ addedToLone vs
  | _ :: vs => addedToLone vs

/-- Members that may be merged on their own, key by key, and come to the members `ns`. -/
structure JoinTo (ms ns : Members) : Prop where
  joined : joinMembers [] ms = ns
  columns : ∀ k, Groups (column k ms)

/-! ## Leaving out repetitions in two stages -/

/-- Appending what is new, in two stages: if what a step leaves out of the second list is left out
behind the first one as well, the second list may be made on its own. -/
private theorem foldl_two_stages {α : Type} {f : List α → α → List α} {P : α → Prop}
    (hf : ∀ us ds w, (∀ d ∈ ds, P d) → P w →
      f ds w = ds ++ [w] ∨ f ds w = ds ∧ f (ds.foldl f us) w = ds.foldl f us)
    (us : List α) {ds ws : List α} (hds : ∀ d ∈ ds, P d) (hws : ∀ w ∈ ws, P w) :
    (ws.foldl f ds).foldl f us = ws.foldl f (ds.foldl f us) := by
  -- Induction on what is still to be appended; the second list grows with it.
  induction ws generalizing ds with
  | nil => rfl
  | cons w ws ih =>
    have hw := hws w List.mem_cons_self
    have hrest : ∀ w ∈ ws, P w := fun w hw => hws w (List.mem_cons_of_mem _ hw)
    rw [List.foldl_cons, List.foldl_cons]
    rcases hf us ds w hds hw with h | ⟨h, hself⟩
    · have hds' : ∀ d ∈ ds ++ [w], P d :=
        List.forall_mem_append.2 ⟨hds, List.forall_mem_singleton.2 hw⟩
      rw [h, ih hds' hrest, List.foldl_append]
      rfl
    · rw [h, hself, ih hds hrest]

/-- Keys that are new to an object may be collected on their own first. -/
theorem foldl_addKey_foldl (ks ls : List String) :
    (ls.foldl addKey []).foldl addKey ks = ls.foldl addKey ks := by
  refine foldl_two_stages (f := addKey) (P := fun _ => True) ?_ ks (by simp) (by simp)
  intro us ds w _ _
  -- A key that is left out stands among those collected so far, so it is left out behind `ks` too.
  by_cases h : w ∈ ds
  · exact .inr ⟨if_pos h, if_pos (mem_foldl_addKey.2 (.inr h))⟩
  · exact .inl (if_neg h)

/-- Repetitions among values may be left out before the values are appended to others. -/
private theorem foldl_pushNew_distinct (us : List Json) {ws : List Json}
    (hws : ∀ w ∈ ws, w.same w = true) :
    (distinct ws).foldl pushNew us = ws.foldl pushNew us := by
  refine foldl_two_stages (f := pushNew) (P := fun w => w.same w = true) ?_ us (by simp) hws
  intro us ds w hds _
  -- What occurs among the distinct values occurs as well once they are appended.
  by_cases h : w.occursIn ds = true
  · exact .inr ⟨if_pos h, if_pos (occursIn_foldl_pushNew hds (.inr h))⟩
  · exact .inl (if_neg h)

/-! ## Members and items as groups -/

/-- What members that have been merged on their own leave in a column. -/
private theorem foldl_column_joinMembers (k : String) (ms : Members) (acc : Json) :
    (column k (joinMembers [] ms)).foldl mergePair acc = mergePair acc (merge (column k ms)) := by
  have hd : (joinMembers [] ms).keys.Nodup := nodup_keys_joinMembers (by simp) ms
  rw [column_of_nodup hd, get?_joinMembers]
  -- The key is new to the merged members, or its whole column has become one value.
  by_cases hc : column k ms = []
  · rw [hc]
    exact (mergePair_null_right acc).symm
  · rw [foldl_addValue _ hc]
    rfl

/-- Members may be merged on their own first if each of their columns may. -/
theorem joinMembers_of_groups {a ms : Members} (ha : Representative (.object a))
    (h : ∀ k, Groups (column k ms)) : joinMembers a (joinMembers [] ms) = joinMembers a ms := by
  -- Both sides have the same keys in the same order, and the same value under each.
  refine Members.eq_of_getD_eq (nodup_keys_joinMembers ha.object_inv.1 _) ?_ fun k => ?_
  · rw [keys_joinMembers, keys_joinMembers, keys_joinMembers, Members.keys_nil, foldl_addKey_foldl]
  · rw [getD_joinMembers, getD_joinMembers, foldl_column_joinMembers, h k _ (ha.getD k)]

/-- The columns of members that may always be merged on their own first may, too. -/
theorem groups_of_joinMembers {ms : Members}
    (h : ∀ a, Representative (.object a) → joinMembers a (joinMembers [] ms) = joinMembers a ms)
    (k : String) : Groups (column k ms) := by
  intro acc hacc
  -- What happens to a value in a column is to be seen in an object with that key.
  have ha : Representative (.object [(k, acc)]) :=
    .object (by simp) (List.forall_mem_singleton.2 hacc)
  have hvalue := congrArg (fun ms : Members => (ms.get? k).getD .null) (h _ ha)
  rw [getD_joinMembers, getD_joinMembers, foldl_column_joinMembers] at hvalue
  simpa [Members.get?_cons] using hvalue.symm

/-- Objects may be merged into one on their own first if each of their columns may be. -/
theorem addMembers_of_groups {o : Option Members}
    (ho : ∀ ms, o = some ms → Representative (.object ms)) {bs : List Members}
    (h : ∀ k, Groups (column k bs.flatten)) :
    (bs.foldl addMembers none).toList.foldl addMembers o = bs.foldl addMembers o := by
  by_cases hbs : bs = []
  · rw [hbs]; rfl
  · rw [foldl_addMembers none bs hbs, foldl_addMembers o bs hbs,
      ← joinMembers_of_groups (representative_getD ho) h]
    rfl

/-- Members come to `ns` on their own iff they do so behind the members of every object. -/
theorem joinTo_iff {ms ns : Members} (hns : Representative (.object ns)) :
    JoinTo ms ns ↔ ∀ a, Representative (.object a) → joinMembers a ms = joinMembers a ns := by
  constructor
  · rintro ⟨rfl, hcolumns⟩ a ha
    exact (joinMembers_of_groups ha hcolumns).symm
  · intro h
    -- Behind the empty object they are merged on their own.
    have hjoined : joinMembers [] ms = ns := by
      rw [h [] representative_empty, joinMembers_nil_left hns]
    refine ⟨hjoined, groups_of_joinMembers fun a ha => ?_⟩
    rw [hjoined, h a ha]

/-- Items may be reduced on their own first if each column of the objects among them may be merged
on its own. -/
theorem foldl_add_of_groups {r : Reduction} (hr : Reduced r) {vs : List Json}
    (h : ∀ k, Groups (column k (addedMembers vs))) :
    (mergeElements vs).foldl (Reduction.add mergePair) r =
      vs.foldl (Reduction.add mergePair) r := by
  have hv : Reduced (vs.foldl (Reduction.add mergePair) .empty) := Reduced.empty.foldl_add vs
  -- Of what the items are reduced to, the others and the merged object make up the two groups.
  obtain ⟨hothers, hobjects⟩ := hv.groups
  rw [mergeElements, elements, foldl_add_eq r, foldl_add_eq r, hothers, hobjects, foldl_add_eq]
  congr 1
  · exact foldl_pushNew_distinct r.others fun w hw => same_self_of_mem_othersOf hw
  · exact addMembers_of_groups hr.object h

/-- The first item adds the members of the object that it is or is reduced to. -/
theorem addedMembers_cons (v : Json) (vs : List Json) :
    addedMembers (v :: vs) = (objectOf? v).getD [] ++ addedMembers vs := by
  cases h : objectOf? v <;> simp [addedMembers, objectsOf, h]

/-- Items side by side add their members one after the other. -/
theorem addedMembers_append (vs ws : List Json) :
    addedMembers (vs ++ ws) = addedMembers vs ++ addedMembers ws := by
  rw [addedMembers, objectsOf_append, List.flatten_append]
  rfl

/-- What items do to a reduction that has a merged object. -/
theorem foldl_add_some (us : List Json) (a : Members) (vs : List Json) :
    vs.foldl (Reduction.add mergePair) ⟨us, some a⟩ =
      ⟨(othersOf vs).foldl pushNew us, some (joinMembers a (addedMembers vs))⟩ := by
  rw [foldl_add_eq, foldl_addMembers_some, addedMembers]

/-- The members of the merged object, once items have been added. -/
theorem getD_object_foldl_add (r : Reduction) (vs : List Json) :
    (vs.foldl (Reduction.add mergePair) r).object.getD [] =
      joinMembers (r.object.getD []) (addedMembers vs) := by
  rw [foldl_add_eq, getD_foldl_addMembers, addedMembers]

/-- The members that items come to, if any of them adds members. -/
theorem getD_mergedObject? (vs : List Json) :
    (mergedObject? vs).getD [] = joinMembers [] (addedMembers vs) :=
  getD_foldl_addMembers none (objectsOf vs)

/-- Items that have been reduced add the members that all of them come to. -/
theorem addedMembers_mergeElements (vs : List Json) :
    addedMembers (mergeElements vs) = joinMembers [] (addedMembers vs) := by
  have hr : Reduced (vs.foldl (Reduction.add mergePair) .empty) := Reduced.empty.foldl_add vs
  rw [mergeElements, elements, addedMembers, hr.groups.2]
  refine Eq.trans ?_ (getD_object_foldl_add .empty vs)
  cases (vs.foldl (Reduction.add mergePair) .empty).object <;> simp

/-- Items that have been reduced keep the other items, without repetitions. -/
theorem othersOf_mergeElements (vs : List Json) :
    othersOf (mergeElements vs) = distinct (othersOf vs) := by
  have hr : Reduced (vs.foldl (Reduction.add mergePair) .empty) := Reduced.empty.foldl_add vs
  rw [mergeElements, elements, hr.groups.1, foldl_add_eq]
  rfl

/-- Merging loses no key, so only no members are merged into none. -/
theorem eq_nil_of_joinMembers {ms : Members} (h : joinMembers [] ms = []) : ms = [] := by
  refine List.eq_nil_iff_forall_not_mem.2 fun m hm => ?_
  have hkey : m.1 ∈ (joinMembers [] ms).keys := by
    rw [keys_joinMembers]
    exact mem_foldl_addKey.2 (.inr (List.mem_map.2 ⟨m, hm, rfl⟩))
  rw [h] at hkey
  cases hkey

/-! ## What an object, an array and a scalar take in -/

/-- The items of an array come before those of the arrays behind it. -/
theorem groupItems_array (b vs : List Json) :
    groupItems (.array b :: vs) = b ++ groupItems vs := rfl

/-- Empty objects and arrays add nothing to what is there already, nor do scalars. -/
theorem mergePair_of_isIdle {acc v : Json} (hacc : Representative acc) (h : acc ≠ .null)
    (hv : isIdle v = true) : mergePair acc v = acc := by
  cases v with
  | null => exact mergePair_null_right acc
  | object ms =>
    obtain rfl := List.isEmpty_iff.1 hv
    cases acc with
    | null => exact absurd rfl h
    | object a => exact mergePair_object_object a []
    | array a =>
      rw [mergePair_array_object]
      -- Only an array of one object takes in the empty object, and nothing comes of it.
      cases hl : lone? a with
      | none => rfl
      | some m => rw [lone?_eq_some_iff.1 hl]; rfl
    | _ => exact mergePair_of_isScalar rfl _
  | array vs =>
    obtain rfl := List.isEmpty_iff.1 hv
    cases acc with
    | null => exact absurd rfl h
    | object a => exact mergePair_object_array a []
    | array a =>
      -- A representative array is reduced already, and no items are added to it.
      obtain ⟨r, hr, rfl⟩ := hacc.exists_reduced
      rw [mergePair_array_array, hr.mergeElements_append]
      rfl
    | _ => exact mergePair_of_isScalar rfl _
  | _ => exact mergePair_scalar_right h rfl

/-- The items are those of the arrays among the values. -/
theorem mem_groupItems {vs : List Json} {w : Json} :
    w ∈ groupItems vs ↔ ∃ ws, .array ws ∈ vs ∧ w ∈ ws := by
  rw [groupItems, List.mem_flatMap]
  constructor
  · rintro ⟨v, hv, hw⟩
    cases v with
    | array ws => exact ⟨ws, hv, hw⟩
    | _ => cases hw
  · rintro ⟨ws, hws, hw⟩
    exact ⟨.array ws, hws, hw⟩

/-- The members of the object that an array is reduced to, if all its items are objects or arrays
that are reduced to one. -/
theorem objectOf?_array (vs : List Json) :
    objectOf? (.array vs) = if othersOf vs = [] then mergedObject? vs else none := by
  have h := lone?_toList (Reduced.empty.foldl_add vs)
  rw [foldl_add_eq] at h
  -- One object is left iff there are no other items, also before repetitions are left out.
  rw [objectOf?, mergeElements, elements, foldl_add_eq, h]
  exact ite_congr (propext distinct_eq_nil_iff) (fun _ => rfl) fun _ => rfl

/-- An object takes in objects, and arrays that are reduced to one. -/
theorem mergePair_object (a : Members) (v : Json) :
    mergePair (.object a) v = .object (joinMembers a ((objectOf? v).getD [])) := by
  cases v with
  | null => exact mergePair_null_right _
  | object b => exact mergePair_object_object a b
  | array ws =>
    rw [mergePair_object_array, objectOf?]
    cases lone? (mergeElements ws) <;> rfl
  | _ => exact mergePair_scalar_right (by simp) rfl

/-- An object takes in the members that the values add, one value after the other. -/
theorem foldl_mergePair_object (a : Members) (vs : List Json) :
    vs.foldl mergePair (.object a) = .object (joinMembers a (addedMembers vs)) := by
  induction vs generalizing a with
  | nil => rfl
  | cons v vs ih =>
    rw [List.foldl_cons, mergePair_object, ih, addedMembers_cons, joinMembers_append]

/-- Behind an object, only objects and what is reduced to one leave something. -/
theorem merge_of_object {vs : List Json} {b : Members} (first : lead vs = .object b) :
    merge vs = .object (joinMembers [] (addedMembers vs)) := by
  induction vs with
  | nil => cases first
  | cons v vs ih =>
    cases v with
    | null => exact ih first
    | object b =>
      rw [merge, List.foldl_cons, mergePair_null_left, collapse_object, foldl_mergePair_object,
        addedMembers_cons, joinMembers_append]
      rfl
    | _ => cases first

/-- An array with other items than one object takes in the items of arrays only, and so does any
array if the objects are empty. -/
theorem foldl_mergePair_array {vs : List Json} {r : Reduction} (hr : Reduced r)
    (h : r.others ≠ [] ∨ ∀ ms, .object ms ∈ vs → ms = []) :
    vs.foldl mergePair (.array r.toList) =
      .array ((groupItems vs).foldl (Reduction.add mergePair) r).toList := by
  induction vs generalizing r with
  | nil => rfl
  | cons v vs ih =>
    -- The condition is one on the rest, too, as other items stay once they are there.
    have hrest : ∀ {r' : Reduction}, (r.others ≠ [] → r'.others ≠ []) →
        r'.others ≠ [] ∨ ∀ ms, .object ms ∈ vs → ms = [] :=
      fun hr' => h.imp hr' fun h ms hm => h ms (List.mem_cons_of_mem _ hm)
    rw [List.foldl_cons]
    cases v with
    | array ws =>
      rw [mergePair_array_array, hr.mergeElements_append, groupItems_array, List.foldl_append]
      refine ih (hr.foldl_add ws) (hrest fun hne => ?_)
      rw [foldl_add_eq]
      exact foldl_pushNew_ne_nil hne _
    | object ms =>
      have hkept : mergePair (.array r.toList) (.object ms) = .array r.toList := by
        -- The object is dropped behind other items, or it is empty.
        rcases h with hne | hempty
        · rw [mergePair_array_object, lone?_toList hr, if_neg hne]
          rfl
        · obtain rfl := hempty ms List.mem_cons_self
          exact mergePair_of_isIdle hr.representative (by simp) rfl
      rw [hkept, ih hr (hrest id)]
      rfl
    | _ =>
      rw [mergePair_of_isIdle hr.representative (by simp) rfl, ih hr (hrest id)]
      rfl

/-- What becomes of an array of one object: the object takes in members until there are other items,
which come before it. -/
theorem foldl_mergePair_lone {a : Members} (ha : Representative (.object a)) (vs : List Json) :
    vs.foldl mergePair (.array [.object a]) =
      .array (distinct (othersOf (groupItems vs)) ++
        [.object (joinMembers a (addedToLone vs))]) := by
  induction vs generalizing a with
  | nil => rfl
  | cons v vs ih =>
    rw [List.foldl_cons]
    cases v with
    | object b =>
      rw [mergePair_array_object, lone?, Option.elim_some, ih (representative_joinMembers ha b),
        addedToLone, joinMembers_append]
      rfl
    | array ws =>
      have hr : Reduced ⟨[], some a⟩ := Reduced.of_object ha
      have hws : ws.foldl (Reduction.add mergePair) ⟨[], some a⟩ =
          ⟨distinct (othersOf ws), some (joinMembers a (addedMembers ws))⟩ :=
        foldl_add_some [] a ws
      have hstep : mergePair (.array [.object a]) (.array ws) =
          .array (Reduction.toList
            ⟨distinct (othersOf ws), some (joinMembers a (addedMembers ws))⟩) := by
        rw [mergePair_array_array, ← hws]
        exact congrArg Json.array (hr.mergeElements_append ws)
      rw [hstep, groupItems_array, othersOf_append, addedToLone]
      by_cases ho : othersOf ws = []
      · -- The array still consists of one object.
        rw [if_pos ho, ho, List.nil_append, joinMembers_append]
        exact ih (representative_joinMembers ha _)
      · -- From here on only the items of arrays count.
        rw [if_neg ho, foldl_mergePair_array (hws ▸ hr.foldl_add ws)
            (.inl (mt distinct_eq_nil_iff.1 ho)), foldl_add_some, joinMembers_append, distinct,
          distinct, List.foldl_append]
        rfl
    | _ =>
      rw [mergePair_of_isIdle (representative_lone_iff.2 ha) (by simp) rfl, ih ha]
      rfl

/-- An array stays an array, and its other items are those that the arrays add. -/
private theorem exists_foldl_mergePair_array {r : Reduction} (hr : Reduced r) (vs : List Json) :
    ∃ s, Reduced s ∧ s.others = (othersOf (groupItems vs)).foldl pushNew r.others ∧
      vs.foldl mergePair (.array r.toList) = .array s.toList := by
  induction vs generalizing r with
  | nil => exact ⟨r, hr, rfl, rfl⟩
  | cons v vs ih =>
    rw [List.foldl_cons]
    cases v with
    -- The items of an array are added to what there is.
    | array ws =>
      obtain ⟨s, hs, hothers, hfold⟩ := ih (hr.foldl_add ws)
      refine ⟨s, hs, ?_, ?_⟩
      · rw [hothers, foldl_add_eq, groupItems_array, othersOf_append, List.foldl_append]
      · rw [mergePair_array_array, hr.mergeElements_append, hfold]
    | object ms =>
      rw [mergePair_array_object, lone?_toList hr]
      obtain ⟨others, object⟩ := r
      -- An object is merged into an array only if there is nothing else in the array.
      by_cases hnone : others = []
      · subst hnone
        cases object with
        | none => exact ih hr
        | some a => exact ih (Reduced.of_object (representative_joinMembers (hr.object a rfl) ms))
      · rw [if_neg hnone]
        exact ih hr
    | _ =>
      rw [mergePair_of_isIdle hr.representative (by simp) rfl]
      exact ih hr

/-- The first array of a group is merged into an array without items. -/
private theorem merge_of_array {vs b : List Json} (first : lead vs = .array b) :
    merge vs = vs.foldl mergePair (.array []) := by
  induction vs with
  | nil => cases first
  | cons v vs ih =>
    rw [List.foldl_cons]
    cases v with
    | null => rw [mergePair_null_right]; exact ih first
    | array ws =>
      rw [mergePair_array_array, List.nil_append, merge, List.foldl_cons, mergePair_null_left,
        collapse_array]
    | _ => cases first

/-- Arrays, and objects without members behind them, are merged into what all items are reduced
to. -/
theorem merge_arrays {vs b : List Json} (first : lead vs = .array b)
    (h : ∀ ms, .object ms ∈ vs → ms = []) : merge vs = .array (mergeElements (groupItems vs)) := by
  rw [merge_of_array first]
  exact foldl_mergePair_array Reduced.empty (.inr h)

/-- Items that have been reduced already are reduced together with more items as if they had not. -/
theorem mergeElements_append_left (xs ys : List Json) :
    mergeElements (mergeElements xs ++ ys) = mergeElements (xs ++ ys) := by
  -- Reducing the first items again gives the reduction that they come from.
  have hxs : Reduced (xs.foldl (Reduction.add mergePair) .empty) := Reduced.empty.foldl_add xs
  calc mergeElements (mergeElements xs ++ ys)
      = (ys.foldl (Reduction.add mergePair) (xs.foldl (Reduction.add mergePair) .empty)).toList :=
        hxs.mergeElements_append ys
    _ = mergeElements (xs ++ ys) := by rw [mergeElements, elements, List.foldl_append]

/-- Items that have been reduced are left as they are. -/
theorem mergeElements_mergeElements (vs : List Json) :
    mergeElements (mergeElements vs) = mergeElements vs := by
  simpa using mergeElements_append_left vs []

/-- The items of a list of arrays. -/
private theorem groupItems_map_array (as : List (List Json)) :
    groupItems (as.map .array) = as.flatten := by
  induction as with
  | nil => rfl
  | cons a as ih => rw [List.map_cons, groupItems_array, ih, List.flatten_cons]

/-- Arrays side by side are merged into what all their items together are reduced to, and it makes
no difference whether the items of the first ones have been reduced before. -/
theorem merge_sibling_arrays :
    (∀ (a : List Json) (as : List (List Json)),
      merge ((a :: as).map .array) = .array (mergeElements (a :: as).flatten)) ∧
    ∀ xs ys : List Json, mergeElements (mergeElements xs ++ ys) = mergeElements (xs ++ ys) := by
  refine ⟨fun a as => ?_, mergeElements_append_left⟩
  have hobjects : ∀ ms, .object ms ∈ (a :: as).map Json.array → ms = [] := by simp
  rw [merge_arrays (b := a) rfl hobjects, groupItems_map_array]

/-- A scalar keeps out all that comes behind it. -/
theorem merge_scalars {vs : List Json}
    (first : lead vs = .null ∨ (lead vs).isScalar = true) : merge vs = lead vs := by
  induction vs with
  | nil => rfl
  | cons v vs ih =>
    cases v with
    | null => exact ih first
    | object _ | array _ => rcases first with h | h <;> cases h
    | _ =>
      rw [merge, List.foldl_cons, mergePair_null_left, collapse_of_isScalar rfl,
        foldl_mergePair_eq_self fun w _ => mergePair_of_isScalar rfl w]
      rfl

/-! ## Groups that begin with a scalar or an object -/

/-- Only objects and arrays can tell whether a group has been merged on its own. -/
private theorem groups_of_object_array {vs : List Json}
    (hobject : ∀ a, Representative (.object a) →
      vs.foldl mergePair (.object a) = mergePair (.object a) (merge vs))
    (harray : ∀ r, Reduced r →
      vs.foldl mergePair (.array r.toList) = mergePair (.array r.toList) (merge vs)) :
    Groups vs := by
  intro acc hacc
  cases acc with
  | null => exact (collapse_of_representative (representative_merge vs)).symm
  | object a => exact hobject a hacc
  | array a =>
    obtain ⟨r, hr, rfl⟩ := hacc.exists_reduced
    exact harray r hr
  | _ =>
    rw [mergePair_of_isScalar rfl]
    exact foldl_mergePair_eq_self fun v _ => mergePair_of_isScalar rfl v

/-- Values that add nothing to what is there may be merged on their own. -/
theorem groups_scalars {vs : List Json}
    (first : lead vs = .null ∨ (lead vs).isScalar = true) (idle : ∀ v ∈ vs, isIdle v = true) :
    Groups vs := by
  have hlead : isIdle (lead vs) = true := by
    cases hl : lead vs with
    | object _ | array _ => rw [hl] at first; rcases first with h | h <;> cases h
    | _ => rfl
  -- Nothing is added to a value that is there, neither by the values nor by what they are merged
  -- to.
  have hkept : ∀ acc, Representative acc → acc ≠ .null →
      vs.foldl mergePair acc = mergePair acc (merge vs) := by
    intro acc hacc hne
    rw [merge_scalars first, mergePair_of_isIdle hacc hne hlead]
    exact foldl_mergePair_eq_self fun v hv => mergePair_of_isIdle hacc hne (idle v hv)
  exact groups_of_object_array (fun a ha => hkept _ ha (by simp))
    fun r hr => hkept _ hr.representative (by simp)

/-- Only what adds nothing may stand behind a scalar. -/
theorem groups_iff_of_scalar {vs : List Json} (first : (lead vs).isScalar = true) :
    Groups vs ↔ ∀ v ∈ vs, isIdle v = true := by
  refine ⟨fun h v hv => ?_, groups_scalars (.inr first)⟩
  -- The group is merged to its scalar, which adds nothing; so none of the values may.
  have hkept : ∀ acc, Representative acc → acc ≠ .null → mergePair acc v = acc := by
    intro acc hacc hne
    have hgroup := h acc hacc
    rw [merge_scalars (.inr first), mergePair_scalar_right hne first] at hgroup
    exact (foldl_mergePair_eq_self_iff hacc).1 hgroup v hv
  cases v with
  | object b =>
    -- Any member would be seen in the empty object.
    have hempty := hkept (.object []) representative_empty (by simp)
    rw [mergePair_object_object] at hempty
    rw [eq_nil_of_joinMembers (Json.object.inj hempty)]
    rfl
  | array ws =>
    -- Any item would be seen in the empty array.
    have hempty := hkept (.array []) Reduced.empty.representative (by simp)
    rw [mergePair_array_array, List.nil_append] at hempty
    rw [eq_nil_of_mergeElements (Json.array.inj hempty)]
    rfl
  | _ => rfl

/-- The members that objects add, if there are no items among the values. -/
theorem addedMembers_eq_groupMembers {vs : List Json} (h : ∀ ws, .array ws ∈ vs → ws = []) :
    addedMembers vs = groupMembers vs := by
  induction vs with
  | nil => rfl
  | cons v vs ih =>
    rw [addedMembers_cons, ih fun ws hw => h ws (List.mem_cons_of_mem _ hw)]
    cases v with
    | array ws =>
      obtain rfl := h ws List.mem_cons_self
      rfl
    | _ => rfl

/-- Without items, an array of one object stays one, and takes in all objects. -/
private theorem addedToLone_eq_groupMembers {vs : List Json} (h : ∀ ws, .array ws ∈ vs → ws = []) :
    addedToLone vs = groupMembers vs := by
  induction vs with
  | nil => rfl
  | cons v vs ih =>
    have hrest := ih fun ws hw => h ws (List.mem_cons_of_mem _ hw)
    cases v with
    | array ws =>
      obtain rfl := h ws List.mem_cons_self
      exact hrest
    | object ms => exact congrArg (ms ++ ·) hrest
    | _ => exact hrest

/-- Objects whose columns are groups may be merged on their own. -/
private theorem groups_objects {vs : List Json} {b : Members} (first : lead vs = .object b)
    (harrays : ∀ ws, .array ws ∈ vs → ws = []) (h : ∀ k, Groups (column k (groupMembers vs))) :
    Groups vs := by
  have hadded := addedMembers_eq_groupMembers harrays
  refine groups_of_object_array (fun a ha => ?_) fun r hr => ?_
  · rw [foldl_mergePair_object, merge_of_object first, mergePair_object_object, hadded,
      joinMembers_of_groups ha h]
  · rw [merge_of_object first, mergePair_array_object, hadded]
    -- An array takes in objects only if it consists of one.
    cases hl : lone? r.toList with
    | none =>
      refine foldl_mergePair_eq_self fun v hv => ?_
      have hidle : ∀ {w}, isIdle w = true → mergePair (.array r.toList) w = .array r.toList :=
        mergePair_of_isIdle hr.representative (by simp)
      cases v with
      | object b => rw [mergePair_array_object, hl]; rfl
      | array ws => obtain rfl := harrays ws hv; exact hidle rfl
      | _ => exact hidle rfl
    | some a =>
      have ha := hr.representative
      rw [lone?_eq_some_iff.1 hl, representative_lone_iff] at ha
      have hitems : groupItems vs = [] := by
        refine List.eq_nil_iff_forall_not_mem.2 fun w hw => ?_
        obtain ⟨ws, hws, hw⟩ := mem_groupItems.1 hw
        rw [harrays ws hws] at hw
        cases hw
      rw [lone?_eq_some_iff.1 hl, foldl_mergePair_lone ha, hitems,
        addedToLone_eq_groupMembers harrays, Option.elim_some, joinMembers_of_groups ha h]
      rfl

/-- Behind an object there may be objects whose columns are groups, and what adds nothing. -/
theorem groups_iff_of_object {vs : List Json} {b : Members} (first : lead vs = .object b) :
    Groups vs ↔
      (∀ ws, .array ws ∈ vs → ws = []) ∧ ∀ k, Groups (column k (groupMembers vs)) := by
  constructor
  · intro h
    have harrays : ∀ ws, .array ws ∈ vs → ws = [] := by
      intro ws hws
      have hempty : Representative (.array []) := Reduced.empty.representative
      -- An empty array does not take in the object, so it must not take in the items either.
      have hgroup := h (.array []) hempty
      rw [merge_of_object first, mergePair_array_object] at hgroup
      have hitems := (foldl_mergePair_eq_self_iff hempty).1 hgroup _ hws
      rw [mergePair_array_array, List.nil_append] at hitems
      exact eq_nil_of_mergeElements (Json.array.inj hitems)
    refine ⟨harrays, groups_of_joinMembers fun a ha => ?_⟩
    have hgroup := h (.object a) ha
    rw [foldl_mergePair_object, merge_of_object first, mergePair_object_object,
      addedMembers_eq_groupMembers harrays] at hgroup
    exact (Json.object.inj hgroup).symm
  · exact fun ⟨harrays, h⟩ => groups_objects first harrays h

/-! ## Groups that begin with an array -/

/-- An array of null, with an object behind it or without. -/
private theorem Reduced.null_object {o : Option Members}
    (ho : ∀ ms, o = some ms → Representative (.object ms)) : Reduced ⟨[.null], o⟩ where
  items := List.forall_mem_singleton.2 .null
  noObject := List.forall_mem_singleton.2 rfl
  distinct := List.pairwise_singleton _ _
  noLoneObject := List.forall_mem_singleton.2 nofun
  object := ho

/-- A group that begins with an array must not add objects to it: behind an array with other items
they are dropped. -/
private theorem merge_eq_of_groups {vs b : List Json} (first : lead vs = .array b)
    (h : Groups vs) : merge vs = .array (mergeElements (groupItems vs)) := by
  obtain ⟨s, hs, hothers, hmerge⟩ := exists_foldl_mergePair_array Reduced.empty vs
  have hmerge : merge vs = .array s.toList := (merge_of_array first).trans hmerge
  have hr : Reduced ⟨[.null], none⟩ := Reduced.null_object nofun
  -- Behind an array of null, the group adds the objects of its items, its representative its own.
  have hgroup := h _ hr.representative
  rw [foldl_mergePair_array hr (.inl (by simp)), hmerge, mergePair_array_array,
    hr.mergeElements_append] at hgroup
  have hobject := congrArg Reduction.object
    ((hr.foldl_add _).eq_of_toList_eq (hr.foldl_add _) (Json.array.inj hgroup))
  rw [foldl_add_eq, foldl_add_eq, hs.groups.2] at hobject
  -- The representative's object has been merged already.
  have hown : s.object.toList.foldl addMembers none = s.object := by
    cases ho : s.object with
    | none => rfl
    | some ms => exact congrArg some (joinMembers_nil_left (hs.object ms ho))
  have hreduced : s.object = mergedObject? (groupItems vs) := hown.symm.trans hobject.symm
  rw [hmerge, mergeElements, elements, foldl_add_eq, Reduction.toList, hothers, hreduced]
  rfl

/-- What the representative of a group of arrays adds to an object. -/
private theorem mergePair_object_merge {vs : List Json}
    (hmerge : merge vs = .array (mergeElements (groupItems vs))) (a : Members) :
    mergePair (.object a) (merge vs) =
      .object (joinMembers a ((objectOf? (.array (groupItems vs))).getD [])) := by
  rw [hmerge, mergePair_object, objectOf?, objectOf?, mergeElements_mergeElements]

/-- What the representative of a group of arrays adds to any array. -/
private theorem mergePair_array_merge {vs : List Json}
    (hmerge : merge vs = .array (mergeElements (groupItems vs))) {r : Reduction} (hr : Reduced r) :
    mergePair (.array r.toList) (merge vs) =
      .array ((mergeElements (groupItems vs)).foldl (Reduction.add mergePair) r).toList := by
  rw [hmerge, mergePair_array_array, hr.mergeElements_append]

/-- What the representative of a group of arrays adds to an array of one object. -/
private theorem mergePair_lone_merge {vs : List Json}
    (hmerge : merge vs = .array (mergeElements (groupItems vs))) {a : Members}
    (ha : Representative (.object a)) :
    mergePair (.array [.object a]) (merge vs) =
      .array (distinct (othersOf (groupItems vs)) ++
        [.object (joinMembers a (joinMembers [] (addedMembers (groupItems vs))))]) := by
  have hr : Reduced ⟨[], some a⟩ := Reduced.of_object ha
  refine (mergePair_array_merge hmerge hr).trans ?_
  -- Merging the items once more leaves out no further repetitions.
  rw [foldl_add_some, othersOf_mergeElements, addedMembers_mergeElements,
    foldl_pushNew_distinct [] fun w hw => same_self_of_mem_othersOf hw]
  rfl

/-- Behind an array, a group may hold what adds the same members to an object, to an array of one
object and to an array with other items as its representative does. The representative is what the
items of the arrays are reduced to: objects must not add to it. -/
theorem groups_iff_of_array {vs b : List Json} (first : lead vs = .array b) :
    Groups vs ↔
      merge vs = .array (mergeElements (groupItems vs)) ∧
      (∀ k, Groups (column k (addedMembers (groupItems vs)))) ∧
      JoinTo (addedToLone vs) (joinMembers [] (addedMembers (groupItems vs))) ∧
      JoinTo (addedMembers vs) ((objectOf? (.array (groupItems vs))).getD []) := by
  have hjoined : Representative (.object (joinMembers [] (addedMembers (groupItems vs)))) :=
    representative_joinMembers representative_empty _
  have hobject : Representative (.object ((objectOf? (.array (groupItems vs))).getD [])) :=
    representative_getD fun ms hms => representative_of_objectOf? hms
  rw [joinTo_iff hjoined, joinTo_iff hobject]
  constructor
  · intro h
    have hmerge := merge_eq_of_groups first h
    refine ⟨hmerge, groups_of_joinMembers fun a ha => ?mixed, fun a ha => ?lone,
      fun a ha => ?object⟩
    -- Each of the three conditions is read off from what the group may be merged into.
    case mixed =>
      have hr : Reduced ⟨[.null], some a⟩ := Reduced.null_object fun _ hms =>
        Option.some.inj hms ▸ ha
      have hgroup := h _ hr.representative
      rw [foldl_mergePair_array hr (.inl (by simp)), mergePair_array_merge hmerge hr] at hgroup
      have hobjects := congrArg (fun r : Reduction => r.object.getD [])
        ((hr.foldl_add _).eq_of_toList_eq (hr.foldl_add _) (Json.array.inj hgroup))
      rw [getD_object_foldl_add, getD_object_foldl_add, addedMembers_mergeElements] at hobjects
      exact hobjects.symm
    case lone =>
      have hgroup := h _ (representative_lone_iff.2 ha)
      rw [foldl_mergePair_lone ha, mergePair_lone_merge hmerge ha] at hgroup
      simpa using hgroup
    case object =>
      have hgroup := h _ ha
      rw [foldl_mergePair_object, mergePair_object_merge hmerge] at hgroup
      exact Json.object.inj hgroup
  · rintro ⟨hmerge, hmixed, hlone, hobj⟩
    -- Conversely, what a group is merged into falls under one of the three, or has no items at all.
    refine groups_of_object_array (fun a ha => ?object) fun r hr => ?array
    case object =>
      rw [foldl_mergePair_object, mergePair_object_merge hmerge, hobj a ha]
    case array =>
      by_cases hothers : r.others = []
      · obtain ⟨others, object⟩ := r
        obtain rfl : others = [] := hothers
        cases object with
        | none =>
          -- Merged into an empty array, the group is merged on its own.
          have hown : mergePair (.array []) (merge vs) = merge vs := by
            rw [hmerge, mergePair_array_array, List.nil_append, mergeElements_mergeElements]
          exact (merge_of_array first).symm.trans hown.symm
        | some a =>
          have ha := hr.object a rfl
          refine (foldl_mergePair_lone ha vs).trans ?_
          rw [hlone a ha]
          exact (mergePair_lone_merge hmerge ha).symm
      · rw [foldl_mergePair_array hr (.inl hothers), mergePair_array_merge hmerge hr,
          foldl_add_of_groups hr hmixed]

/-! ## Merging behind any values -/

/-- Groups are the lists of values that may be merged on their own, whatever stands before them. -/
theorem merge_append_iff {ys : List Json} :
    (∀ xs, merge (xs ++ ys) = mergePair (merge xs) (merge ys)) ↔ Groups ys := by
  have happend : ∀ xs, merge (xs ++ ys) = ys.foldl mergePair (merge xs) :=
    fun xs => List.foldl_append
  constructor
  · intro h acc hacc
    -- A representative value is what it is merged to.
    have hown : merge [acc] = acc := collapse_of_representative hacc
    rw [← hown, ← happend, h]
  · intro h xs
    rw [happend, h _ (representative_merge xs)]

end Stencil.Schema
