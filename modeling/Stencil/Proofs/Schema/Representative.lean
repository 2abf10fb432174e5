import Stencil.Proofs.Json.Same
import Stencil.Proofs.Schema.MergeReduction

/-!
# Representative form

Merging puts values into `Representative` form: the objects of an array are merged into one that
stands last, no item of an array occurs twice, and no array inside an array consists of one object.

A representative array is what a `Reduced` reduction holds, and reducing it again gives the same
reduction. So merging something into the array goes on from there.

## Key results

- `collapse_of_representative`: representative values are fixed points of `collapse`
- `mergePair_self`: merging a representative value into itself changes nothing
- `representative_mergePair`: merging any value into a representative one keeps the form
- `representative_invariant`: the form is an invariant of the whole merge engine
-/

namespace Stencil.Schema

open Json (Members DistinctKeys)
open Merge

/-- The form of merged values. Items and the values of members are representative themselves. -/
inductive Representative : Json → Prop
  | null : Representative .null
  | scalar {v : Json} (h : v.isScalar = true) : Representative v
  | object {ms : Members} (keys : ms.keys.Nodup) (values : ∀ m ∈ ms, Representative m.2) :
    Representative (.object ms)
  | array {vs : List Json} (items : ∀ v ∈ vs, Representative v)
    (objectLast : ∀ v ∈ vs.dropLast, v.isObject = false)
    (distinct : (vs.filter fun v => !v.isObject).Pairwise fun v w => v.same w = false)
    (noLoneObject : ∀ v ∈ vs, ∀ ms, v ≠ .array [.object ms]) : Representative (.array vs)

/-- Representative values repeat no key. -/
theorem Representative.distinctKeys {v : Json} (h : Representative v) : DistinctKeys v := by
  induction h with
  | null => exact .null
  | scalar h => exact .scalar h
  | object keys _ ih => exact .object keys ih
  | array _ _ _ _ ih => exact .array ih

/-- What is known of a representative object. -/
theorem Representative.object_inv {ms : Members} (h : Representative (.object ms)) :
    ms.keys.Nodup ∧ ∀ m ∈ ms, Representative m.2 := by
  cases h with
  | scalar h => simp [Json.isScalar] at h
  | object keys values => exact ⟨keys, values⟩

/-- The items of a representative array are representative. -/
theorem Representative.array_inv {vs : List Json} (h : Representative (.array vs)) :
    ∀ v ∈ vs, Representative v := by
  cases h with
  | scalar h => simp [Json.isScalar] at h
  | array items _ _ _ => exact items

/-- So is the value under a key, or null if there is none. -/
theorem Representative.getD {ms : Members} (h : Representative (.object ms)) (k : String) :
    Representative ((ms.get? k).getD .null) := by
  cases hk : ms.get? k with
  | none => exact .null
  | some v => exact h.object_inv.2 _ (Members.mem_of_get? hk)

/-- The object that merging starts from is representative. -/
theorem representative_empty : Representative (.object []) := .object (by simp) (by simp)

/-- So is an object that may not be there, if its members count as none then. -/
theorem representative_getD {o : Option Members}
    (h : ∀ ms, o = some ms → Representative (.object ms)) :
    Representative (.object (o.getD [])) := by
  cases o with
  | none => exact representative_empty
  | some ms => exact h ms rfl

/-- Nothing is lost when new values are appended: what occurs in either list still occurs. -/
theorem occursIn_foldl_pushNew {us ds : List Json} {w : Json}
    (hds : ∀ d ∈ ds, d.same d = true) (h : w.occursIn us = true ∨ w.occursIn ds = true) :
    w.occursIn (ds.foldl pushNew us) = true := by
  induction ds generalizing us with
  | nil => simpa [Json.occursIn] using h
  | cons d ds ih =>
    have hrest : ∀ d ∈ ds, d.same d = true := fun d hd => hds d (List.mem_cons_of_mem _ hd)
    -- Appending takes nothing away.
    have hkeep : w.occursIn us = true → w.occursIn (pushNew us d) = true := by
      intro hw
      unfold pushNew
      split
      · exact hw
      · rw [Json.occursIn, List.any_append, Bool.or_eq_true]; exact .inl hw
    -- The item itself stands at the end, or one that is the same stood there before.
    have hnew : d.occursIn (pushNew us d) = true := by
      unfold pushNew
      split
      · next hd => exact hd
      · rw [Json.occursIn, List.any_append, Bool.or_eq_true]
        exact .inr (by simpa using hds d List.mem_cons_self)
    rw [List.foldl_cons]
    rcases h with h | h
    · exact ih hrest (.inl (hkeep h))
    · rw [Json.occursIn, List.any_cons, Bool.or_eq_true] at h
      rcases h with h | h
      · obtain ⟨u, hu, hud⟩ := List.any_eq_true.1 hnew
        exact ih hrest (.inl (List.any_eq_true.2 ⟨u, hu, Json.same_trans hud h⟩))
      · exact ih hrest (.inr h)

/-! ## The reduction behind a representative array -/

/-- A reduction whose items make up a representative array. -/
structure Reduced (r : Reduction) : Prop where
  items : ∀ v ∈ r.others, Representative v
  noObject : ∀ v ∈ r.others, v.isObject = false
  distinct : r.others.Pairwise fun v w => v.same w = false
  noLoneObject : ∀ v ∈ r.others, ∀ ms, v ≠ .array [.object ms]
  object : ∀ ms, r.object = some ms → Representative (.object ms)

/-- The reduction that every array starts from. -/
theorem Reduced.empty : Reduced .empty := by constructor <;> simp [Reduction.empty]

theorem filter_noObject {vs : List Json} (h : ∀ v ∈ vs, v.isObject = false) :
    (vs.filter fun v => !v.isObject) = vs :=
  List.filter_eq_self.2 fun v hv => by rw [h v hv, Bool.not_false]

/-- The items of such a reduction are a representative array. -/
theorem Reduced.representative {r : Reduction} (h : Reduced r) :
    Representative (.array r.toList) := by
  obtain ⟨others, object⟩ := r
  -- Only the end of the array differs: the merged object, or the last of the other items.
  cases object with
  | none =>
    rw [Reduction.toList, Option.map_none, Option.toList_none, List.append_nil]
    refine .array h.items (fun v hv => h.noObject v ((List.dropLast_sublist _).subset hv)) ?_
      h.noLoneObject
    rw [filter_noObject h.noObject]
    exact h.distinct
  | some ms =>
    rw [Reduction.toList, Option.map_some, Option.toList_some]
    refine .array ?_ ?_ ?_ ?_
    · exact List.forall_mem_append.2 ⟨h.items, List.forall_mem_singleton.2 (h.object ms rfl)⟩
    · rw [List.dropLast_concat]
      exact h.noObject
    · rw [List.filter_append, filter_noObject h.noObject]
      simpa [Json.isObject] using h.distinct
    · refine List.forall_mem_append.2 ⟨h.noLoneObject, List.forall_mem_singleton.2 ?_⟩
      exact fun _ heq => Json.noConfusion heq

/-- Every representative array holds the items of such a reduction. -/
theorem Representative.exists_reduced {vs : List Json} (h : Representative (.array vs)) :
    ∃ r, Reduced r ∧ vs = r.toList := by
  cases h with
  | scalar h => simp [Json.isScalar] at h
  | array items objectLast distinct noLoneObject =>
    -- Whether there is a merged object is to be seen at the end of the array.
    rcases List.eq_nil_or_concat vs with rfl | ⟨init, last, rfl⟩
    · exact ⟨.empty, .empty, rfl⟩
    rw [List.concat_eq_append] at *
    rw [List.dropLast_concat] at objectLast
    rw [List.filter_append, filter_noObject objectLast] at distinct
    cases hl : last.isObject with
    | true =>
      cases last with
      | object ms =>
        -- The last item is the merged object, and all before it are others.
        refine ⟨⟨init, some ms⟩, ⟨fun v hv => items v (by simp [hv]), objectLast,
          (List.pairwise_append.1 distinct).1, fun v hv => noLoneObject v (by simp [hv]), ?_⟩, rfl⟩
        rintro _ ⟨rfl⟩
        exact items _ (by simp)
      | _ => simp [Json.isObject] at hl
    | false =>
      -- No item is an object, so there is no merged object.
      have hno : ∀ v ∈ init ++ [last], v.isObject = false :=
        List.forall_mem_append.2 ⟨objectLast, List.forall_mem_singleton.2 hl⟩
      refine ⟨⟨init ++ [last], none⟩, ⟨items, hno, ?_, noLoneObject, by simp⟩, ?_⟩
      · simpa [hl] using distinct
      · simp [Reduction.toList]

/-- The items of such a reduction determine it. -/
theorem Reduced.eq_of_toList_eq {r r' : Reduction} (h : Reduced r) (h' : Reduced r')
    (heq : r.toList = r'.toList) : r = r' := by
  -- The other items are those that are no objects, so both reductions have the same.
  have hfilter : ∀ {r : Reduction}, Reduced r →
      (r.toList.filter fun v => !v.isObject) = r.others := by
    intro r hr
    rw [Reduction.toList, List.filter_append, filter_noObject hr.noObject]
    cases r.object <;> simp [Json.isObject]
  have hothers : r.others = r'.others := by rw [← hfilter h, heq, hfilter h']
  rw [Reduction.toList, Reduction.toList, hothers] at heq
  have hobject := List.append_cancel_left heq
  obtain ⟨others, object⟩ := r
  obtain ⟨others', object'⟩ := r'
  cases object <;> cases object' <;> simp_all

/-- The items are one object iff the reduction has no others. -/
theorem lone?_toList {r : Reduction} (hr : Reduced r) :
    lone? r.toList = if r.others = [] then r.object else none := by
  obtain ⟨others, object⟩ := r
  cases others with
  | nil => cases object <;> rfl
  | cons v vs =>
    rw [if_neg (by simp), Reduction.toList]
    cases v with
    | object ms => simpa [Json.isObject] using hr.noObject (.object ms) List.mem_cons_self
    | _ => rfl

/-- A single representative object. -/
theorem Reduced.of_object {ms : Members} (h : Representative (.object ms)) :
    Reduced ⟨[], some ms⟩ :=
  { Reduced.empty with object := fun _ hms => Option.some.inj hms ▸ h }

/-- An array of one object is representative iff the object is. -/
theorem representative_lone_iff {ms : Members} :
    Representative (.array [.object ms]) ↔ Representative (.object ms) := by
  constructor
  · intro h
    cases h with
    | scalar h => simp [Json.isScalar] at h
    | array items _ _ _ => exact items _ (List.mem_singleton_self _)
  · exact fun h => (Reduced.of_object h).representative

/-! ## Representative values are fixed points -/

/-- New members that are fixed points are put at the end as they are. -/
private theorem joinMembers_eq_append {a b : Members} (hd : (a ++ b : Members).keys.Nodup)
    (hb : ∀ m ∈ b, collapse m.2 = m.2) : joinMembers a b = a ++ b := by
  have hfixed : (b.map fun m => (m.1, collapse m.2)) = b.map id :=
    List.map_congr_left fun m hm => Prod.ext rfl (hb m hm)
  rw [joinMembers_of_nodup hd, hfixed, List.map_id]

/-- Values that are all different are appended as they are. -/
private theorem foldl_pushNew_eq_append {acc vs : List Json}
    (h : (acc ++ vs).Pairwise fun v w => v.same w = false) : vs.foldl pushNew acc = acc ++ vs := by
  induction vs generalizing acc with
  | nil => simp
  | cons v vs ih =>
    -- The value differs from all that stand before it.
    have hv : v.occursIn acc = false := by
      rw [Json.occursIn, List.any_eq_false]
      intro w hw
      simpa using (List.pairwise_append.1 h).2.2 w hw v List.mem_cons_self
    rw [List.foldl_cons, pushNew, hv, if_neg (by simp), ih (by simpa using h)]
    simp

/-- A reduced item that is neither an object nor an array of one adds nothing to the merged
object. -/
private theorem objectOf?_eq_none {v : Json} (hv : v.isObject = false)
    (hlone : ∀ ms, v ≠ .array [.object ms]) (hfix : collapse v = v) : objectOf? v = none := by
  cases v with
  | object ms => simp [Json.isObject] at hv
  | array vs =>
    rw [collapse_array] at hfix
    rw [objectOf?, Json.array.inj hfix]
    cases hl : lone? vs with
    | none => rfl
    | some ms => exact absurd (congrArg Json.array (lone?_eq_some_iff.1 hl)) (hlone ms)
  | _ => rfl

/-- The two groups of items, once the items are known to be fixed points. -/
private theorem Reduced.groups_of_fixed {r : Reduction} (h : Reduced r)
    (hfix : ∀ v ∈ r.toList, collapse v = v) :
    othersOf r.toList = r.others ∧ objectsOf r.toList = r.object.toList := by
  -- None of the others counts as an object, and reducing them changes nothing.
  have hnone : ∀ v ∈ r.others, objectOf? v = none := fun v hv =>
    objectOf?_eq_none (h.noObject v hv) (h.noLoneObject v hv) (hfix v (List.mem_append_left _ hv))
  have hothers : othersOf r.others = r.others := by
    rw [othersOf, List.filter_eq_self.2 fun v hv => by rw [hnone v hv]; rfl]
    exact (List.map_congr_left fun v hv => hfix v (List.mem_append_left _ hv)).trans
      (List.map_id _)
  have hobjects : objectsOf r.others = [] := List.filterMap_eq_nil_iff.2 hnone
  rw [Reduction.toList, othersOf_append, objectsOf_append, hothers, hobjects]
  cases r.object <;> simp

/-- Reducing the items of such a reduction gives it back, if they are fixed points. -/
private theorem Reduced.foldl_toList {r : Reduction} (h : Reduced r)
    (hfix : ∀ v ∈ r.toList, collapse v = v) :
    r.toList.foldl (Reduction.add mergePair) .empty = r := by
  obtain ⟨hothers, hobjects⟩ := h.groups_of_fixed hfix
  have hdistinct : r.others.foldl pushNew [] = r.others :=
    foldl_pushNew_eq_append (by simpa using h.distinct)
  rw [foldl_add_eq, hothers, hobjects, Reduction.empty, hdistinct]
  obtain ⟨others, object⟩ := r
  cases object with
  | none => rfl
  | some ms =>
    have hms := hfix (.object ms) (by simp [Reduction.toList])
    rw [collapse_object] at hms
    simp [addMembers, Json.object.inj hms]

/-- Representative values are fixed points of `collapse`. -/
theorem collapse_of_representative {v : Json} (h : Representative v) : collapse v = v := by
  induction h with
  | null => exact collapse_null
  | scalar h => exact collapse_of_isScalar h
  | object keys values ih =>
    rw [collapse_object, joinMembers_eq_append (a := []) keys ih, List.nil_append]
  | array items objectLast distinct noLoneObject ih =>
    -- The array is what a reduction holds, and reducing that gives it back.
    obtain ⟨r, hr, rfl⟩ :=
      (Representative.array items objectLast distinct noLoneObject).exists_reduced
    rw [collapse_array, mergeElements, elements, hr.foldl_toList ih]

/-- The items of such a reduction are fixed points. -/
private theorem Reduced.collapse_item {r : Reduction} (h : Reduced r) :
    ∀ v ∈ r.toList, collapse v = v := by
  intro v hv
  exact collapse_of_representative (h.representative.array_inv v hv)

/-- The two groups of items of a reduction in this form. -/
theorem Reduced.groups {r : Reduction} (h : Reduced r) :
    othersOf r.toList = r.others ∧ objectsOf r.toList = r.object.toList :=
  h.groups_of_fixed h.collapse_item

/-- Merging items into a representative array goes on from the reduction behind it. -/
theorem Reduced.mergeElements_append {r : Reduction} (h : Reduced r) (ws : List Json) :
    mergeElements (r.toList ++ ws) = (ws.foldl (Reduction.add mergePair) r).toList := by
  rw [mergeElements, elements, List.foldl_append, h.foldl_toList h.collapse_item]

/-! ## Merging keeps the form -/

/-- Merging the value into a representative one gives a representative one. -/
private def Keeps (v : Json) : Prop := ∀ acc, Representative acc → Representative (mergePair acc v)

/-- Merging members keeps the form if merging each of their values does. -/
private theorem joinMembers_of_keeps {a b : Members} (ha : Representative (.object a))
    (hb : ∀ m ∈ b, Keeps m.2) : Representative (.object (joinMembers a b)) := by
  induction b generalizing a with
  | nil => exact ha
  | cons m b ih =>
    obtain ⟨hkeys, hvalues⟩ := ha.object_inv
    refine ih (.object (Members.nodup_keys_insert hkeys _ _) fun m' hm' => ?_) fun m' hm' =>
      hb m' (List.mem_cons_of_mem _ hm')
    -- The member that has just been merged, or one that was there before.
    rcases Members.mem_of_mem_insert hm' with rfl | hm'
    · exact hb m List.mem_cons_self _ (ha.getD m.1)
    · exact hvalues m' hm'

/-- Reducing an item that adds nothing to the merged object does not make it an object, nor an array
of one object. -/
theorem collapse_of_objectOf?_eq_none {v : Json} (h : objectOf? v = none) :
    (collapse v).isObject = false ∧ ∀ ms, collapse v ≠ .array [.object ms] := by
  cases v with
  | object ms => simp [objectOf?] at h
  | array vs =>
    rw [collapse_array]
    refine ⟨rfl, fun ms hms => ?_⟩
    rw [objectOf?, Json.array.inj hms] at h
    simp [lone?] at h
  | null => rw [collapse_null]; exact ⟨rfl, fun _ h => Json.noConfusion h⟩
  | _ => rw [collapse_of_isScalar rfl]; exact ⟨rfl, fun _ h => Json.noConfusion h⟩

/-- Appending an item that is reduced keeps the form, as it is left out if it occurs already. -/
private theorem Reduced.push {r : Reduction} (h : Reduced r) {v : Json} (hv : Representative v)
    (hvo : v.isObject = false) (hvl : ∀ ms, v ≠ .array [.object ms]) : Reduced (r.push v) := by
  unfold Reduction.push
  -- An item that occurs already is left out.
  split
  · exact h
  · next hnew =>
    refine ⟨?_, ?_, ?_, ?_, h.object⟩
    · exact List.forall_mem_append.2 ⟨h.items, List.forall_mem_singleton.2 hv⟩
    · exact List.forall_mem_append.2 ⟨h.noObject, List.forall_mem_singleton.2 hvo⟩
    · refine List.pairwise_append.2 ⟨h.distinct, List.pairwise_singleton _ _, ?_⟩
      -- The new item differs from all that have been there.
      intro w hw v' hv'
      rw [List.mem_singleton.1 hv']
      simp only [Json.occursIn, List.any_eq_true, not_exists, not_and] at hnew
      simpa using hnew w hw
    · exact List.forall_mem_append.2 ⟨h.noLoneObject, List.forall_mem_singleton.2 hvl⟩

/-- Adding an item keeps the form if merging what it holds does. -/
private theorem Reduced.add_of_keeps {r : Reduction} (h : Reduced r) {v : Json}
    (hv : v.isObject = false → Keeps v)
    (hms : ∀ ms, objectOf? v = some ms → ∀ m ∈ ms, Keeps m.2) : Reduced (r.add mergePair v) := by
  rw [add_eq]
  -- The item is pushed to the others, or its members go into the merged object.
  cases ho : objectOf? v with
  | none =>
    obtain ⟨hobject, hlone⟩ := collapse_of_objectOf?_eq_none ho
    exact h.push (hv (isObject_eq_false_of_objectOf? ho) .null .null) hobject hlone
  | some ms =>
    refine { h with object := fun ms' h' => ?_ }
    obtain rfl := Option.some.inj h'
    exact joinMembers_of_keeps (representative_getD h.object) (hms ms ho)

/-- So does adding several. -/
private theorem Reduced.foldl_add_of_keeps {r : Reduction} (h : Reduced r) {ws : List Json}
    (hws : ∀ w ∈ ws, w.isObject = false → Keeps w)
    (hms : ∀ ms ∈ objectsOf ws, ∀ m ∈ ms, Keeps m.2) :
    Reduced (ws.foldl (Reduction.add mergePair) r) := by
  induction ws generalizing r with
  | nil => exact h
  | cons w ws ih =>
    have hobjects := objectsOf_cons w ws
    refine ih (h.add_of_keeps (hws w List.mem_cons_self) fun ms ho => hms ms ?_)
      (fun w' hw' => hws w' (List.mem_cons_of_mem _ hw')) fun ms hm => hms ms ?_
    · simp [hobjects, ho]
    · simp [hobjects, hm]

/-- Merging any value into a representative one keeps the form. -/
theorem representative_mergePair {acc : Json} (hacc : Representative acc) (next : Json) :
    Representative (mergePair acc next) := by
  -- The accumulated value varies, so the induction is on what is merged into it.
  suffices h : Keeps next from h acc hacc
  induction next using levelInduction with
  | null => intro acc hacc; rwa [mergePair_null_right]
  | scalar v hv =>
    intro acc hacc
    by_cases h : acc = .null
    · rw [h, mergePair_null_left, collapse_of_isScalar hv]; exact .scalar hv
    · rwa [mergePair_scalar_right h hv]
  | object b ih =>
    intro acc hacc
    cases acc with
    | null =>
      rw [mergePair_null_left, collapse_object]
      exact joinMembers_of_keeps representative_empty ih
    | object a => rw [mergePair_object_object]; exact joinMembers_of_keeps hacc ih
    | array a =>
      rw [mergePair_array_object]
      cases hl : lone? a with
      | none => exact hacc
      | some m =>
        obtain rfl := lone?_eq_some_iff.1 hl
        rw [representative_lone_iff] at hacc
        exact representative_lone_iff.2 (joinMembers_of_keeps hacc ih)
    | _ => rwa [mergePair_of_isScalar rfl]
  | array ws hitems hmembers hlone =>
    intro acc hacc
    cases acc with
    | null =>
      rw [mergePair_null_left, collapse_array]
      exact (Reduced.empty.foldl_add_of_keeps hitems hmembers).representative
    | array a =>
      -- Reducing goes on from the reduction that the array came from.
      obtain ⟨r, hr, rfl⟩ := hacc.exists_reduced
      rw [mergePair_array_array, hr.mergeElements_append]
      exact (hr.foldl_add_of_keeps hitems hmembers).representative
    | object a =>
      rw [mergePair_object_array]
      cases hl : lone? (mergeElements ws) with
      | none => exact hacc
      | some m => exact joinMembers_of_keeps hacc (hlone m hl)
    | _ => rwa [mergePair_of_isScalar rfl]

/-- Merging any members into a representative object keeps the form. -/
theorem representative_joinMembers {a : Members} (ha : Representative (.object a)) (b : Members) :
    Representative (.object (joinMembers a b)) :=
  joinMembers_of_keeps ha fun m _ _ hacc => representative_mergePair hacc m.2

/-- Every value on its own becomes representative. -/
theorem representative_collapse (v : Json) : Representative (collapse v) :=
  representative_mergePair .null v

/-- So it is the same as itself, which a value that repeats a key need not be. -/
theorem same_self_collapse (v : Json) : (collapse v).same (collapse v) = true :=
  (representative_collapse v).distinctKeys.same_self

/-- The object that an array is reduced to is representative. -/
theorem representative_of_objectOf? {vs : List Json} {ms : Members}
    (h : objectOf? (.array vs) = some ms) : Representative (.object ms) := by
  have hrep := representative_collapse (.array vs)
  rw [collapse_array, lone?_eq_some_iff.1 h] at hrep
  exact representative_lone_iff.1 hrep

/-- Members of a representative object are left as they are. -/
theorem joinMembers_nil_left {ms : Members} (h : Representative (.object ms)) :
    joinMembers [] ms = ms := by
  have hc := collapse_of_representative h
  rw [collapse_object] at hc
  exact Json.object.inj hc

/-- Reduced items are the same as themselves. -/
theorem same_self_of_mem_othersOf {vs : List Json} {w : Json} (h : w ∈ othersOf vs) :
    w.same w = true := by
  obtain ⟨v, _, rfl⟩ := List.mem_map.1 h
  exact same_self_collapse v

/-- Merging any values, one after the other, keeps the form. -/
theorem representative_foldl_mergePair {acc : Json} (hacc : Representative acc) (vs : List Json) :
    Representative (vs.foldl mergePair acc) := by
  induction vs generalizing acc with
  | nil => exact hacc
  | cons v vs ih => exact ih (representative_mergePair hacc v)

/-- What values are merged to is representative. -/
theorem representative_merge (vs : List Json) : Representative (merge vs) :=
  representative_foldl_mergePair .null vs

/-- Adding any item to a reduction keeps the form. -/
theorem Reduced.add {r : Reduction} (h : Reduced r) (v : Json) : Reduced (r.add mergePair v) :=
  h.add_of_keeps (fun _ _ hacc => representative_mergePair hacc v)
    fun _ _ m _ _ hacc => representative_mergePair hacc m.2

/-- Adding any items to a reduction keeps the form. -/
theorem Reduced.foldl_add {r : Reduction} (h : Reduced r) (vs : List Json) :
    Reduced (vs.foldl (Reduction.add mergePair) r) := by
  induction vs generalizing r with
  | nil => exact h
  | cons v vs ih => exact ih (h.add v)

/-- Merging a representative value into itself changes nothing. -/
theorem mergePair_self {v : Json} (h : Representative v) : mergePair v v = v := by
  -- Each member finds itself under its key.
  have hobject : ∀ {ms : Members}, Representative (.object ms) →
      (∀ m ∈ ms, mergePair m.2 m.2 = m.2) → joinMembers ms ms = ms := fun hms ih =>
    joinMembers_eq_self fun m hm => ⟨m.2, Members.get?_of_mem hms.object_inv.1 hm, ih m hm⟩
  induction h with
  | null => rw [mergePair_null_right]
  | scalar h => exact mergePair_of_isScalar h _
  | object keys values ih => rw [mergePair_object_object, hobject (.object keys values) ih]
  | array items objectLast distinct noLoneObject ih =>
    obtain ⟨r, hr, rfl⟩ :=
      (Representative.array items objectLast distinct noLoneObject).exists_reduced
    obtain ⟨hothers, hobjects⟩ := hr.groups
    -- All items occur already, and the object is merged into itself.
    have hocc : ∀ v ∈ r.others, v.occursIn r.others = true := fun v hv =>
      List.any_eq_true.2 ⟨v, hv, (hr.items v hv).distinctKeys.same_self⟩
    rw [mergePair_array_array, hr.mergeElements_append, foldl_add_eq, hothers, hobjects,
      foldl_pushNew_eq_self hocc]
    obtain ⟨others, object⟩ := r
    cases object with
    | none => rfl
    | some ms =>
      have hself := ih (.object ms) (by simp [Reduction.toList])
      rw [mergePair_object_object] at hself
      simp [addMembers, Json.object.inj hself]

/-- Representative form is an invariant of the merge engine: every function of it gives
representative values, and nothing changes when these are collapsed or merged again. -/
theorem representative_invariant :
    (∀ v, Representative (collapse v)) ∧
    (∀ vs, Representative (merge vs)) ∧
    (∀ vs, Representative (.array (mergeElements vs))) ∧
    (∀ acc next, Representative acc → Representative (mergePair acc next)) ∧
    ∀ m, Representative m → collapse m = m ∧ merge [m, m] = m := by
  refine ⟨representative_collapse, representative_merge, fun vs => ?_,
    fun acc next h => representative_mergePair h next, fun m h => ?_⟩
  · rw [← collapse_array]
    exact representative_collapse (.array vs)
  · have hc := collapse_of_representative h
    refine ⟨hc, ?_⟩
    simp only [merge, List.foldl_cons, List.foldl_nil, mergePair_null_left, hc, mergePair_self h]

/-- An array of a scalar, an empty array and an object takes in a list of objects. -/
theorem representative_invariant_mixed_array :
    Representative (.array [.bool true, .array [], .object [("k", .array [.null])]]) ∧
    Representative (mergePair (.array [.bool true, .array [], .object [("k", .array [.null])]])
      (.array [.object [("k", .string "x")]])) ∧
    collapse (.array [.bool true, .array [], .object [("k", .array [.null])]]) =
      .array [.bool true, .array [], .object [("k", .array [.null])]] := by
  have h : Representative (.array [.bool true, .array [], .object [("k", .array [.null])]]) := by
    refine .array ?items (by decide) (by decide) (by simp)
    rw [List.forall_mem_cons, List.forall_mem_cons, List.forall_mem_singleton]
    have hnulls : Representative (.array [.null]) :=
      .array (List.forall_mem_singleton.2 .null) (by decide) (by decide) (by simp)
    exact ⟨.scalar rfl, .array (by simp) (by decide) (by decide) (by simp),
      .object (by decide) (List.forall_mem_singleton.2 hnulls)⟩
  exact ⟨h, representative_invariant.2.2.2.1 _ _ h, (representative_invariant.2.2.2.2 _ h).1⟩

end Stencil.Schema
