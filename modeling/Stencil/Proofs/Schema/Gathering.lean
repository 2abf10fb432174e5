import Stencil.Proofs.Schema.Voting

/-!
# Which objects of an array have their keys in the tree

Merging goes into a nested array only if it holds nothing but objects; any other nested array stays
an item of its own, and the objects in it stay there. So of the objects found in an array, the tree
shows the keys of those that are `gathered` into one. Only if there are none does it show those of a
nested array.

## Key results

- `isSome_objectOf?`: which items are merged into the object of their array
- `gathered_of_unmixed`: when all objects in an array are gathered
- `keys_mergedObject?`: the merged object has the distinct keys of the gathered objects
- `membersIn_collapse_eq_nil_iff`: merging neither loses the last object nor makes up one
- `exists_shows`: an array with an object in it shows objects
- `keys_children_array`: the root of an array of objects has the distinct keys of what it shows
-/

namespace Stencil.Schema

open Json (Members)
open Merge

mutual

/-- Whether an item counts as an object: it is one, or an array that has items and whose items all
count as objects. -/
def countsAsObject : Json → Bool
  | .object _ => true
  | .array vs => !vs.isEmpty && allCountAsObjects vs
  | _ => false

/-- Whether all items count as objects. -/
def allCountAsObjects : List Json → Bool
  | [] => true
  | v :: vs => countsAsObject v && allCountAsObjects vs

end

/-- The objects that are merged into one when the items of an array are reduced. -/
def gathered (vs : List Json) : List Members := (vs.filter countsAsObject).flatMap membersIn

/-- The distinct keys of objects, in the order in which they are first seen. -/
def distinctKeys (os : List Members) : List String := (os.flatMap Members.keys).foldl addKey []

/-- All items count as objects if each of them does. -/
theorem allCountAsObjects_iff {vs : List Json} :
    allCountAsObjects vs = true ↔ ∀ v ∈ vs, countsAsObject v = true := by
  induction vs with
  | nil => simp [allCountAsObjects]
  | cons v vs ih => rw [allCountAsObjects, Bool.and_eq_true, ih, List.forall_mem_cons]

/-- An array counts as an object if it has items and all of them do. -/
theorem countsAsObject_array {vs : List Json} :
    countsAsObject (.array vs) = true ↔ vs ≠ [] ∧ ∀ v ∈ vs, countsAsObject v = true := by
  rw [countsAsObject, Bool.and_eq_true, allCountAsObjects_iff]
  simp

/-! ## Items that are merged -/

/-- No other items are left iff each item adds members to the merged object. -/
theorem othersOf_eq_nil_iff {vs : List Json} :
    othersOf vs = [] ↔ ∀ v ∈ vs, (objectOf? v).isSome = true := by
  simp [othersOf, List.filter_eq_nil_iff, Option.isSome_iff_ne_none]

/-- There is a merged object iff an item adds members to it. -/
theorem mergedObject?_isSome {vs : List Json} :
    (mergedObject? vs).isSome = true ↔ objectsOf vs ≠ [] := by
  rw [mergedObject?]
  by_cases h : objectsOf vs = []
  · simp [h]
  · rw [foldl_addMembers _ _ h]
    simp [h]

/-- An item adds members to the object of its array iff it counts as an object. -/
theorem isSome_objectOf? (v : Json) : (objectOf? v).isSome = countsAsObject v := by
  induction v using Json.structuralInduction with
  | null => rfl
  | scalar v hv => cases v <;> simp_all [objectOf?, countsAsObject, Json.isScalar]
  | object ms _ => rfl
  | array vs ih =>
    -- The array is reduced to an object iff no other items are left, which the items decide.
    have hall : othersOf vs = [] ↔ ∀ v ∈ vs, countsAsObject v = true := by
      rw [othersOf_eq_nil_iff]
      exact forall_congr' fun v => forall_congr' fun hv => by rw [ih v hv]
    rw [Bool.eq_iff_iff, countsAsObject_array, ← hall, objectOf?_array]
    split
    · next hothers =>
      rw [mergedObject?_isSome]
      constructor
      · rintro hobjects
        exact ⟨fun hnil => hobjects (by rw [hnil]; rfl), hothers⟩
      · rintro ⟨hne, -⟩ hobjects
        -- An item would have to be in one of the two groups.
        obtain ⟨v, hv⟩ := List.exists_mem_of_ne_nil vs hne
        have hnone := List.filterMap_eq_nil_iff.1 hobjects v hv
        have hsome := othersOf_eq_nil_iff.1 hothers v hv
        rw [hnone] at hsome
        cases hsome
    · next hothers => simp [hothers]

/-- What counts as an object has one in it. -/
theorem membersIn_ne_nil_of_countsAsObject {v : Json} (h : countsAsObject v = true) :
    membersIn v ≠ [] := by
  induction v using Json.structuralInduction with
  | object ms _ => simp
  | array vs ih =>
    obtain ⟨hne, hall⟩ := countsAsObject_array.1 h
    obtain ⟨v, hv⟩ := List.exists_mem_of_ne_nil vs hne
    obtain ⟨ms, hms⟩ := List.exists_mem_of_ne_nil _ (ih v hv (hall v hv))
    rw [membersIn_array]
    exact List.ne_nil_of_mem (List.mem_flatMap.2 ⟨v, hv, hms⟩)
  | null => cases h
  | scalar v hv => cases v <;> simp_all [countsAsObject, Json.isScalar]

/-- The objects of the first item are gathered first, if it counts as one. -/
theorem gathered_cons (v : Json) (vs : List Json) :
    gathered (v :: vs) = (if countsAsObject v then membersIn v else []) ++ gathered vs := by
  by_cases h : countsAsObject v = true <;> simp [gathered, h]

/-- Nothing is gathered iff no item adds members. -/
theorem gathered_eq_nil_iff {vs : List Json} : gathered vs = [] ↔ objectsOf vs = [] := by
  rw [gathered, List.flatMap_eq_nil_iff, objectsOf, List.filterMap_eq_nil_iff]
  refine ⟨fun h v hv => ?_, fun h v hv => ?_⟩
  · rw [← Option.not_isSome_iff_eq_none, isSome_objectOf?]
    exact fun hc => membersIn_ne_nil_of_countsAsObject hc (h v (List.mem_filter.2 ⟨hv, hc⟩))
  · obtain ⟨hv, hc⟩ := List.mem_filter.1 hv
    rw [← isSome_objectOf?, h v hv] at hc
    cases hc

/-- Each item that has an object in it counts as one. -/
def Unmixed (vs : List Json) : Prop := ∀ v ∈ vs, membersIn v = [] ∨ countsAsObject v = true

/-- Nothing is mixed in an array that counts as an object. -/
theorem unmixed_of_countsAsObject {vs : List Json} (h : countsAsObject (.array vs) = true) :
    Unmixed vs :=
  fun v hv => .inr ((countsAsObject_array.1 h).2 v hv)

/-- All objects in an array are gathered if none is in an item that does not count as an object. -/
theorem gathered_of_unmixed {vs : List Json} (h : Unmixed vs) :
    gathered vs = membersIn (.array vs) := by
  rw [membersIn_array]
  induction vs with
  | nil => rfl
  | cons v vs ih =>
    rw [gathered_cons, ih fun w hw => h w (List.mem_cons_of_mem _ hw), List.flatMap_cons]
    -- The item has no object in it, or all of its objects are gathered.
    rcases h v List.mem_cons_self with hnone | hcounts
    · rw [hnone, ite_self]
    · rw [if_pos hcounts]

/-! ## Their keys -/

/-- The members that items add bring in the keys of all gathered objects, if each item does so for
its own. -/
private theorem foldl_keys_objectsOf {vs : List Json} (ks : List String)
    (h : ∀ v ∈ vs, ∀ ms, objectOf? v = some ms → ∀ ks,
      ms.keys.foldl addKey ks = ((membersIn v).flatMap Members.keys).foldl addKey ks) :
    ((objectsOf vs).flatMap Members.keys).foldl addKey ks =
      ((gathered vs).flatMap Members.keys).foldl addKey ks := by
  induction vs generalizing ks with
  | nil => rfl
  | cons v vs ih =>
    have hrest := fun ks => ih ks fun w hw => h w (List.mem_cons_of_mem _ hw)
    have hcounts := isSome_objectOf? v
    rw [objectsOf_cons, gathered_cons, List.flatMap_append, List.flatMap_append,
      List.foldl_append, List.foldl_append, hrest]
    -- An item that adds no members does not count, so nothing is gathered from it.
    cases ho : objectOf? v with
    | none => rw [ho] at hcounts; simp [← hcounts]
    | some ms =>
      rw [ho] at hcounts
      rw [← hcounts, Option.isSome_some, if_pos rfl, ← h v List.mem_cons_self ms ho]
      simp

/-- The members that an item adds bring in the keys of all objects found in it. -/
theorem foldl_keys_objectOf? {v : Json} {ms : Members} (h : objectOf? v = some ms)
    (ks : List String) :
    ms.keys.foldl addKey ks = ((membersIn v).flatMap Members.keys).foldl addKey ks := by
  induction v using Json.structuralInduction generalizing ms ks with
  | null => cases h
  | scalar v hv => cases v <;> simp_all [objectOf?, Json.isScalar]
  | object a _ =>
    obtain rfl := Option.some.inj h
    simp
  | array vs ih =>
    have hcounts : countsAsObject (.array vs) = true := by rw [← isSome_objectOf?, h]; rfl
    have hunmixed := unmixed_of_countsAsObject hcounts
    rw [objectOf?_array] at h
    split at h
    · -- The array is reduced to the merged object of its items, for which this is known.
      rw [eq_joinMembers_of_mergedObject? h, keys_joinMembers, Members.keys_nil,
        foldl_addKey_foldl, Members.keys, List.map_flatten, ← gathered_of_unmixed hunmixed,
        ← foldl_keys_objectsOf ks fun v hv ms hms ks => ih v hv hms ks]
      rfl
    · cases h

/-- The merged object of an array has the distinct keys of the gathered objects. -/
theorem keys_mergedObject? {vs : List Json} {ms : Members} (h : mergedObject? vs = some ms) :
    ms.keys = distinctKeys (gathered vs) := by
  rw [eq_joinMembers_of_mergedObject? h, keys_joinMembers, Members.keys_nil, Members.keys,
    List.map_flatten, distinctKeys, ← foldl_keys_objectsOf [] fun v _ ms hms => foldl_keys_objectOf? hms]
  rfl

/-! ## Objects are neither lost altogether nor made up -/

/-- Values that are the same up to the order of members both have an object in them, or neither. -/
theorem membersIn_eq_nil_iff_of_same {u v : Json} (h : u.same v = true) :
    membersIn u = [] ↔ membersIn v = [] := by
  induction u using Json.structuralInduction generalizing v with
  | null => cases v <;> simp_all [Json.same]
  | scalar u hu => cases u <;> cases v <;> simp_all [Json.same, Json.isScalar, membersIn]
  | object a _ => cases v <;> simp_all [Json.same]
  | array us ih =>
    cases v with
    | array vs =>
      rw [Json.same] at h
      rw [membersIn_array, membersIn_array]
      -- Arrays are compared item by item, so both lists are taken apart together.
      induction us generalizing vs with
      | nil => cases vs <;> simp_all [Json.sameItems]
      | cons u us ihus =>
        cases vs with
        | nil => simp [Json.sameItems] at h
        | cons v vs =>
          rw [Json.sameItems, Bool.and_eq_true] at h
          rw [List.flatMap_cons, List.flatMap_cons, List.append_eq_nil_iff, List.append_eq_nil_iff,
            ih u List.mem_cons_self h.1,
            ihus (fun w hw => ih w (List.mem_cons_of_mem _ hw)) vs h.2]
    | _ => simp [Json.same] at h

/-- If no item counts as an object, every item is left, once. -/
theorem mergeElements_of_gathered {vs : List Json} (h : gathered vs = []) :
    mergeElements vs = distinct (vs.map collapse) := by
  have hobjects := gathered_eq_nil_iff.1 h
  -- Every item is one of the others.
  have hothers : othersOf vs = vs.map collapse := by
    rw [othersOf, List.filter_eq_self.2]
    exact fun v hv => by rw [List.filterMap_eq_nil_iff.1 hobjects v hv]; rfl
  rw [mergeElements, elements, foldl_add_eq, hobjects, hothers]
  simp [Reduction.toList, Reduction.empty, distinct]

/-- What items are reduced to: the others without repetitions, then the merged object. -/
theorem mergeElements_eq (vs : List Json) :
    mergeElements vs = distinct (othersOf vs) ++ ((mergedObject? vs).map Json.object).toList := by
  rw [mergeElements, elements, foldl_add_eq]
  rfl

/-- A value occurs among reduced items iff it occurs among them when repetitions are left out. -/
theorem occursIn_distinct (w : Json) (vs : List Json) :
    w.occursIn (distinct (vs.map collapse)) = w.occursIn (vs.map collapse) := by
  have hself : ∀ v ∈ vs.map collapse, v.same v = true := by
    intro u hu
    obtain ⟨v, -, rfl⟩ := List.mem_map.1 hu
    exact same_self_collapse v
  rw [Bool.eq_iff_iff]
  refine ⟨fun h => ?_, fun h => occursIn_foldl_pushNew hself (.inr h)⟩
  obtain ⟨u, hu, heq⟩ := List.any_eq_true.1 h
  exact List.any_eq_true.2 ⟨u, (mem_foldl_pushNew hu).resolve_left (by simp), heq⟩

/-- Reducing a value leaves an object in it iff there was one. -/
theorem membersIn_collapse_eq_nil_iff (v : Json) :
    membersIn (collapse v) = [] ↔ membersIn v = [] := by
  induction v using Json.structuralInduction with
  | null => rw [collapse_null]
  | scalar v hv => rw [collapse_of_isScalar hv]
  | object ms _ => simp [collapse_object]
  | array vs ih =>
    rw [collapse_array]
    -- Without a gathered object all items are left; with one, the merged object is.
    by_cases hg : gathered vs = []
    · rw [mergeElements_of_gathered hg, membersIn_array, membersIn_array, List.flatMap_eq_nil_iff,
        List.flatMap_eq_nil_iff]
      refine ⟨fun h v hv => ?_, fun h w hw => ?_⟩
      · -- What the item is reduced to is left, or the same value is.
        have hocc : (collapse v).occursIn (distinct (vs.map collapse)) = true := by
          rw [occursIn_distinct]
          exact List.any_eq_true.2 ⟨_, List.mem_map.2 ⟨v, hv, rfl⟩, same_self_collapse v⟩
        obtain ⟨w, hw, heq⟩ := List.any_eq_true.1 hocc
        exact (ih v hv).1 ((membersIn_eq_nil_iff_of_same heq).1 (h w hw))
      · obtain ⟨v, hv, rfl⟩ := List.mem_map.1 ((mem_foldl_pushNew hw).resolve_left (by simp))
        exact (ih v hv).2 (h v hv)
    · refine iff_of_false (fun h => ?_) fun h => hg ?_
      · -- The merged object is there to be found.
        have hsome := mergedObject?_isSome.2 (mt gathered_eq_nil_iff.2 hg)
        obtain ⟨ms, hms⟩ := Option.isSome_iff_exists.1 hsome
        rw [mergeElements_eq, hms, membersIn_array] at h
        simp at h
      · rw [membersIn_array] at h
        rw [gathered]
        exact List.flatMap_eq_nil_iff.2 fun v hv =>
          List.flatMap_eq_nil_iff.1 h v (List.mem_filter.1 hv).1

/-! ## What an array shows -/

/-- The objects that an array shows: those that are gathered; if there are none, those that its last
nested array with an object in it shows, where items do not count that are the same as an earlier
item once they are reduced. -/
inductive Shows : List Json → List Members → Prop
  | gathered {vs : List Json} (some : gathered vs ≠ []) : Shows vs (gathered vs)
  | nested {us vs ws : List Json} {os : List Members}
    (none : Schema.gathered (us ++ .array vs :: ws) = [])
    (new : (collapse (.array vs)).occursIn (us.map collapse) = false)
    (last : ∀ w ∈ ws, membersIn w ≠ [] →
      (collapse w).occursIn ((us ++ [Json.array vs]).map collapse) = true)
    (shows : Shows vs os) : Shows (us ++ .array vs :: ws) os

/-- A value without objects shows none. -/
theorem shownObject?_eq_none {v : Json} (h : membersIn v = []) : shownObject? v = none := by
  cases hs : shownObject? v with
  | none => rfl
  | some ms =>
    have hms := mem_membersIn_of_shownObject? hs
    rw [h] at hms
    cases hms

/-- Neither do items without objects. -/
theorem lastObject?_eq_none {vs : List Json} (h : ∀ v ∈ vs, membersIn v = []) :
    lastObject? vs = none :=
  shownObject?_eq_none (v := Json.array vs) (by
    rw [membersIn_array]
    exact List.flatMap_eq_nil_iff.2 h)

/-- What is appended are values that did not occur before. -/
theorem exists_foldl_pushNew (us vs : List Json) :
    ∃ ws, vs.foldl pushNew us = us ++ ws ∧ ∀ w ∈ ws, w ∈ vs ∧ w.occursIn us = false := by
  induction vs generalizing us with
  | nil => exact ⟨[], by simp, by simp⟩
  | cons v vs ih =>
    rw [List.foldl_cons, pushNew]
    -- A value that occurs is skipped, a new one is the first that is appended.
    cases hv : v.occursIn us with
    | true =>
      obtain ⟨ws, heq, hws⟩ := ih us
      exact ⟨ws, by simpa using heq, fun w hw => (hws w hw).imp_left (List.mem_cons_of_mem _)⟩
    | false =>
      obtain ⟨ws, heq, hws⟩ := ih (us ++ [v])
      refine ⟨v :: ws, by simpa using heq, List.forall_mem_cons.2 ⟨⟨List.mem_cons_self, hv⟩, ?_⟩⟩
      intro w hw
      obtain ⟨hmem, hnew⟩ := hws w hw
      rw [Json.occursIn, List.any_append, Bool.or_eq_false_iff] at hnew
      exact ⟨List.mem_cons_of_mem _ hmem, hnew.1⟩

/-- The last object of a reduced array has the distinct keys of the objects that the array shows. -/
theorem keys_lastObject?_of_shows {vs : List Json} {os : List Members} (h : Shows vs os) :
    ∃ ms, lastObject? (mergeElements vs) = some ms ∧ ms.keys = distinctKeys os := by
  induction h with
  | @gathered vs some =>
    -- The merged object comes last.
    have hsome := mergedObject?_isSome.2 (mt gathered_eq_nil_iff.2 some)
    obtain ⟨ms, hms⟩ := Option.isSome_iff_exists.1 hsome
    refine ⟨ms, ?_, keys_mergedObject? hms⟩
    rw [mergeElements_eq, hms, lastObject?_append]
    rfl
  | @nested us vs ws os none new last _ ih =>
    obtain ⟨ms, hms, hkeys⟩ := ih
    refine ⟨ms, ?_, hkeys⟩
    rw [← occursIn_distinct] at new
    -- Behind the nested array, nothing is left that has an object in it.
    obtain ⟨es, hes, hall⟩ := exists_foldl_pushNew
      (distinct (us.map collapse) ++ [collapse (.array vs)]) (ws.map collapse)
    have hdistinct : distinct ((us ++ .array vs :: ws).map collapse) =
        distinct (us.map collapse) ++ [collapse (.array vs)] ++ es := by
      rw [← hes, distinct, List.map_append, List.foldl_append, List.map_cons, List.foldl_cons,
        ← distinct, pushNew, new]
      rfl
    have hes : ∀ e ∈ es, membersIn e = [] := by
      intro e he
      obtain ⟨hmem, hnew⟩ := hall e he
      obtain ⟨w, hw, rfl⟩ := List.mem_map.1 hmem
      rw [membersIn_collapse_eq_nil_iff]
      -- An item with an object in it repeats an earlier one, so it would not have been appended.
      refine Decidable.by_contra fun hne => ?_
      have hocc := last w hw hne
      rw [List.map_append, Json.occursIn, List.any_append, ← Json.occursIn,
        ← occursIn_distinct] at hocc
      rw [Json.occursIn, List.any_append, ← Json.occursIn] at hnew
      exact Bool.false_ne_true (hnew.symm.trans hocc)
    rw [mergeElements_of_gathered none, hdistinct, lastObject?_append, lastObject?_eq_none hes,
      lastObject?_append, collapse_array]
    simp [lastObject?, shownObject?, hms]

/-- Of items behind others, either each that has an object in it repeats one of those, or there is a
last one with an object in it that repeats none of the items before it. -/
private theorem repeated_or_exists_last (us vs : List Json) :
    (∀ v ∈ vs, membersIn v ≠ [] → (collapse v).occursIn (us.map collapse) = true) ∨
      ∃ us' v ws, vs = us' ++ v :: ws ∧ membersIn v ≠ [] ∧
        (collapse v).occursIn ((us ++ us').map collapse) = false ∧
        ∀ w ∈ ws, membersIn w ≠ [] →
          (collapse w).occursIn ((us ++ us' ++ [v]).map collapse) = true := by
  -- Induction on the items, each of which then stands before those that are left.
  induction vs generalizing us with
  | nil => exact .inl (by simp)
  | cons x vs ih =>
    rcases ih (us ++ [x]) with hall | ⟨us', v, ws, rfl, hne, hnew, hlast⟩
    · have hsplit : ∀ w ∈ vs, membersIn w ≠ [] →
          (collapse w).occursIn (us.map collapse) = true ∨
            (collapse x).same (collapse w) = true := by
        intro w hw hne
        have hocc := hall w hw hne
        rw [List.map_append, Json.occursIn, List.any_append, Bool.or_eq_true] at hocc
        simpa [Json.occursIn] using hocc
      by_cases hx : membersIn x = []
      · -- No item with an object in it is the same as one without.
        refine .inl (List.forall_mem_cons.2 ⟨fun hne => absurd hx hne, fun w hw hne => ?_⟩)
        refine (hsplit w hw hne).resolve_right fun hsame => hne ?_
        rw [← membersIn_collapse_eq_nil_iff, ← membersIn_eq_nil_iff_of_same hsame,
          membersIn_collapse_eq_nil_iff, hx]
      · cases hocc : (collapse x).occursIn (us.map collapse) with
        | true =>
          -- What repeats this item repeats what it repeats.
          refine .inl (List.forall_mem_cons.2 ⟨fun _ => hocc, fun w hw hne => ?_⟩)
          refine (hsplit w hw hne).elim id fun hsame => ?_
          obtain ⟨u, hu, hux⟩ := List.any_eq_true.1 hocc
          exact List.any_eq_true.2 ⟨u, hu, Json.same_trans hux hsame⟩
        | false => exact .inr ⟨[], x, vs, rfl, hx, by simpa using hocc, by simpa using hall⟩
    · exact .inr ⟨x :: us', v, ws, rfl, hne, by simpa using hnew, by simpa using hlast⟩

/-- An array with an object in it shows objects. -/
theorem exists_shows {vs : List Json} (h : membersIn (.array vs) ≠ []) : ∃ os, Shows vs os := by
  induction hv : Json.array vs using Json.structuralInduction generalizing vs with
  | array vs' ih =>
    obtain rfl := Json.array.inj hv
    by_cases hg : gathered vs = []
    · -- No object is gathered, so the last item with an object in it that is new has to show one.
      rcases repeated_or_exists_last [] vs with hall | ⟨us, v, ws, rfl, hne, hnew, hlast⟩
      · -- Nothing stands before the first item, so none has an object in it.
        refine absurd ?_ h
        rw [membersIn_array, List.flatMap_eq_nil_iff]
        exact fun v hv => Decidable.not_not.1 fun hne => Bool.false_ne_true (hall v hv hne)
      · cases v with
        | array us' =>
          obtain ⟨os, hos⟩ := ih (.array us') (by simp) hne rfl
          exact ⟨os, .nested hg hnew hlast hos⟩
        | object ms => simp [gathered, countsAsObject] at hg
        | null => exact absurd rfl hne
        | _ => exact absurd (membersIn_of_isScalar rfl) hne
    · exact ⟨_, .gathered hg⟩
  | null => cases hv
  | scalar v hs => subst hv; cases hs
  | object ms _ => cases hv

/-! ## The root of an array of objects -/

/-- The root of an array that is tagged as an array of objects has, in order, the distinct keys of
the objects that the array shows. -/
theorem keys_children_array {refine : Bool} {vs : List Json} {root : Node}
    (h : infer refine (.array vs) = .ok root) (htag : root.tag = .arrayObject) :
    (∃ os, Shows vs os) ∧
      ∀ os, Shows vs os → root.children.map (·.key) = distinctKeys os := by
  obtain rfl := eq_build_of_infer h
  rw [tag_build] at htag
  have hkind : kindOfItems vs = .arrayObject := by rwa [tagOf_singleton_array] at htag
  refine ⟨exists_shows (membersIn_ne_nil_of_arrayObject hkind), fun os hos => ?_⟩
  obtain ⟨ms, hms, hkeys⟩ := keys_lastObject?_of_shows hos
  rw [keys_children_build, htag, collapse_array, branches, if_pos rfl, hms]
  exact hkeys

/-- The last array repeats the first one, so the one in between is shown. -/
theorem keys_children_array_nested :
    Shows [.array [.bool true, .object [("a", .null)]], .array [.bool true, .object [("b", .null)]],
      .array [.bool true, .object [("a", .null)]]] [[("b", .null)]] ∧
    ∃ root, infer false (.array [.array [.bool true, .object [("a", .null)]],
        .array [.bool true, .object [("b", .null)]],
        .array [.bool true, .object [("a", .null)]]]) = .ok root ∧
      root.tag = .arrayObject ∧ root.children.map (·.key) = ["b"] := by
  have hshows : Shows ([.array [.bool true, .object [("a", .null)]]] ++
      .array [.bool true, .object [("b", .null)]] ::
        [.array [.bool true, .object [("a", .null)]]]) [[("b", .null)]] := by
    refine .nested rfl rfl (fun w hw _ => ?_) (.gathered (by simp [gathered, countsAsObject]))
    obtain rfl := List.mem_singleton.1 hw
    rfl
  have hinfer : infer false (.array [.array [.bool true, .object [("a", .null)]],
      .array [.bool true, .object [("b", .null)]],
      .array [.bool true, .object [("a", .null)]]]) =
    .ok { key := "", tag := .arrayObject, children := [{ key := "b", tag := .null }] } := rfl
  exact ⟨hshows, _, hinfer, rfl, (keys_children_array hinfer rfl).2 _ hshows⟩

/-- An object beside other things in a nested array is left out. -/
theorem exists_not_mem_keys_children :
    ∃ root, infer false (.array [.array [.number (.whole 1), .object [("a", .number (.whole 1))]],
        .object [("b", .number (.whole 1))]]) = .ok root ∧ root.tag = .arrayObject ∧
      "a" ∈ (membersIn (.array [.array [.number (.whole 1), .object [("a", .number (.whole 1))]],
        .object [("b", .number (.whole 1))]])).flatMap Members.keys ∧
      "a" ∉ root.children.map (·.key) :=
  ⟨_, rfl, rfl, by decide, by decide⟩

end Stencil.Schema
