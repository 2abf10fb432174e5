import Stencil.Proofs.Schema.MergeEquations

/-!
# Reducing the items of an array, and merging objects key by key

Reducing an array treats its items in two groups: those that add members to the merged object, and
all others, of which repetitions are left out. Merging the members of objects treats each key on its
own: what stands under a key depends only on the `column` of values that are merged into it.

## Key results

- `foldl_add_eq`: what items do to a reduction, group by group
- `mem_toList_foldl_add`: what a reduction holds once items have been added
- `get?_joinMembers`: the value under a key is merged from the column of that key
- `keys_joinMembers`: the keys depend on the keys alone
- `levelInduction`: induction on values along the calls of the merge engine
-/

namespace Stencil.Schema

open Json (Members Shallow)
open Merge

/-! ## Two groups of items -/

/-- The members that an item adds to the merged object of its array, if it adds any. An array adds
those of the object that it is reduced to. -/
def objectOf? : Json → Option Members
  | .object ms => some ms
  | .array vs => lone? (mergeElements vs)
  | _ => none

/-- The members that items add to the merged object, item by item. -/
def objectsOf (vs : List Json) : List Members := vs.filterMap objectOf?

/-- The items that add nothing to the merged object, each of them reduced. -/
def othersOf (vs : List Json) : List Json :=
  (vs.filter fun v => (objectOf? v).isNone).map collapse

/-- Append a value unless it occurs already. -/
def pushNew (vs : List Json) (v : Json) : List Json := if v.occursIn vs then vs else vs ++ [v]

/-- The values without repetitions. -/
def distinct (vs : List Json) : List Json := vs.foldl pushNew []

/-- Merge the members of one more object into those merged so far, if there are any. -/
def addMembers (o : Option Members) (ms : Members) : Option Members :=
  some (joinMembers (o.getD []) ms)

/-- The members of the merged object of items, if one of them adds members to it. -/
def mergedObject? (vs : List Json) : Option Members := (objectsOf vs).foldl addMembers none

/-- What adds no members is no object. -/
theorem isObject_eq_false_of_objectOf? {v : Json} (h : objectOf? v = none) :
    v.isObject = false := by
  cases v <;> simp_all [Json.isObject, objectOf?]

/-- The first item adds its members first, if it adds any. -/
theorem objectsOf_cons (v : Json) (vs : List Json) :
    objectsOf (v :: vs) = (objectOf? v).toList ++ objectsOf vs := by
  cases h : objectOf? v <;> simp [objectsOf, h]

@[simp] theorem objectsOf_nil : objectsOf [] = [] := rfl

@[simp] theorem othersOf_nil : othersOf [] = [] := rfl

@[simp] theorem objectsOf_singleton_object (ms : Members) : objectsOf [.object ms] = [ms] := rfl

@[simp] theorem othersOf_singleton_object (ms : Members) : othersOf [.object ms] = [] := rfl

/-- Items side by side add their members one after the other. -/
theorem objectsOf_append (vs ws : List Json) :
    objectsOf (vs ++ ws) = objectsOf vs ++ objectsOf ws :=
  List.filterMap_append

/-- Likewise for the other items. -/
theorem othersOf_append (vs ws : List Json) : othersOf (vs ++ ws) = othersOf vs ++ othersOf ws := by
  simp [othersOf]

/-- What one item does to a reduction. -/
theorem add_eq (r : Reduction) (v : Json) :
    r.add mergePair v =
      (objectOf? v).elim (r.push (collapse v)) fun ms => r.addObject mergePair ms := by
  cases v with
  | object ms => rfl
  | array vs =>
    have hc : mergePair .null (.array vs) = .array (mergeElements vs) := collapse_array vs
    simp only [Reduction.add, hc, objectOf?, collapse_array]
    -- The array adds members iff one object is all that is left of it.
    split
    · next ms heq => rw [Json.array.inj heq]; rfl
    · next hne =>
      cases hl : lone? (mergeElements vs) with
      | none => rfl
      | some ms => exact absurd (congrArg Json.array (lone?_eq_some_iff.1 hl)) (hne ms)
  | null => simp only [Reduction.add, objectOf?, Option.elim_none, collapse_null]
  | _ =>
    rw [collapse_of_isScalar rfl]
    rfl

/-- What items do to a reduction. -/
theorem foldl_add_eq (r : Reduction) (vs : List Json) :
    vs.foldl (Reduction.add mergePair) r =
      ⟨(othersOf vs).foldl pushNew r.others, (objectsOf vs).foldl addMembers r.object⟩ := by
  induction vs generalizing r with
  | nil => rfl
  | cons v vs ih =>
    rw [List.foldl_cons, add_eq, ih]
    cases h : objectOf? v with
    | none =>
      simp only [Option.elim_none, Reduction.push, othersOf, objectsOf, h, Option.isNone_none,
        List.filter_cons_of_pos, List.map_cons, List.foldl_cons, pushNew, List.filterMap_cons_none]
      split <;> rfl
    | some ms =>
      simp [othersOf, objectsOf, h, Reduction.addObject, addMembers, joinMembers]

/-- An item leaves something in a reduction. -/
theorem toList_add_ne_nil (r : Reduction) (v : Json) : (r.add mergePair v).toList ≠ [] := by
  rw [add_eq]
  cases objectOf? v with
  | some ms => simp [Reduction.addObject, Reduction.toList]
  | none =>
    rw [Option.elim_none, Reduction.push]
    split
    · next hocc =>
      -- The item occurs already, so there are others.
      have hne : r.others ≠ [] := by
        rintro hnil
        rw [hnil] at hocc
        cases hocc
      simp [Reduction.toList, hne]
    · simp [Reduction.toList]

/-- Items leave something in a reduction, unless it is empty and there are none. -/
theorem toList_foldl_add_ne_nil {r : Reduction} {ws : List Json}
    (h : r.toList ≠ [] ∨ ws ≠ []) : (ws.foldl (Reduction.add mergePair) r).toList ≠ [] := by
  induction ws generalizing r with
  | nil => exact h.resolve_right fun h => h rfl
  | cons w ws ih => exact ih (.inl (toList_add_ne_nil r w))

/-- Only an array without items is reduced to one. -/
theorem eq_nil_of_mergeElements {vs : List Json} (h : mergeElements vs = []) : vs = [] :=
  Decidable.not_not.1 fun hne => toList_foldl_add_ne_nil (.inr hne) h

/-- Values that occur already change nothing. -/
theorem foldl_pushNew_eq_self {vs ws : List Json} (h : ∀ w ∈ ws, w.occursIn vs = true) :
    ws.foldl pushNew vs = vs := by
  induction ws with
  | nil => rfl
  | cons w ws ih =>
    rw [List.foldl_cons, pushNew, if_pos (h w List.mem_cons_self)]
    exact ih fun w' hw' => h w' (List.mem_cons_of_mem _ hw')

/-- Appending takes nothing away. -/
theorem foldl_pushNew_ne_nil {us : List Json} (h : us ≠ []) (ws : List Json) :
    ws.foldl pushNew us ≠ [] := by
  induction ws generalizing us with
  | nil => exact h
  | cons w ws ih =>
    refine ih ?_
    unfold pushNew
    split <;> simp [h]

/-- What is there after appending was there before, or has been appended. -/
theorem mem_foldl_pushNew {us vs : List Json} {w : Json} (h : w ∈ vs.foldl pushNew us) :
    w ∈ us ∨ w ∈ vs := by
  induction vs generalizing us with
  | nil => exact .inl h
  | cons v vs ih =>
    rcases ih h with hw | hw
    · unfold pushNew at hw
      split at hw
      · exact .inl hw
      · -- It stands before the new value, or is that value.
        rcases List.mem_append.1 hw with hw | hw
        · exact .inl hw
        · exact .inr (List.mem_singleton.1 hw ▸ List.mem_cons_self)
    · exact .inr (List.mem_cons_of_mem _ hw)

/-- Leaving out repetitions leaves something of any values. -/
theorem distinct_eq_nil_iff {vs : List Json} : distinct vs = [] ↔ vs = [] := by
  cases vs with
  | nil => exact iff_of_true rfl rfl
  | cons v vs =>
    have hne : pushNew [] v ≠ [] := by simp [pushNew, Json.occursIn]
    exact iff_of_false (foldl_pushNew_ne_nil hne vs) (by simp)

/-! ## Members, key by key -/

/-- The values that stand under a key, in order. -/
def column (k : String) (ms : Members) : List Json :=
  (ms.filter fun m => m.1 == k).map (·.2)

/-- Append a key unless it is there already. -/
def addKey (ks : List String) (k : String) : List String := if k ∈ ks then ks else ks ++ [k]

/-- Merge one more value into what stands under a key, if anything does. -/
def addValue (o : Option Json) (v : Json) : Option Json := some (mergePair (o.getD .null) v)

/-- The first member is in the column of its key. -/
theorem column_cons (k : String) (m : String × Json) (ms : Members) :
    column k (m :: ms) = if m.1 = k then m.2 :: column k ms else column k ms := by
  by_cases h : m.1 = k <;> simp [column, h]

/-- The values of a column are those that stand under its key. -/
theorem mem_column {k : String} {ms : Members} {v : Json} : v ∈ column k ms ↔ (k, v) ∈ ms := by
  simp [column]

/-- Each column of members with distinct keys is the value under its key. -/
theorem column_of_nodup {ms : Members} (hd : ms.keys.Nodup) (k : String) :
    column k ms = (ms.get? k).toList := by
  induction ms with
  | nil => rfl
  | cons m ms ih =>
    obtain ⟨k', v⟩ := m
    rw [Members.keys_cons, List.nodup_cons] at hd
    rw [column_cons, Members.get?_cons, ih hd.2]
    -- The key stands in front, so it does not come again.
    by_cases h : k' = k
    · subst h
      simp [Members.get?_eq_none_iff.2 hd.1]
    · simp [h]

@[simp] theorem joinMembers_nil (a : Members) : joinMembers a [] = a := rfl

/-- The first member is merged into what stands under its key, or into null. -/
theorem joinMembers_cons (a : Members) (m : String × Json) (b : Members) :
    joinMembers a (m :: b) =
      joinMembers (a.insert m.1 (mergePair ((a.get? m.1).getD .null) m.2)) b := rfl

/-- Members side by side are merged one after the other. -/
theorem joinMembers_append (a b c : Members) :
    joinMembers a (b ++ c) = joinMembers (joinMembers a b) c := by
  simp [joinMembers, members]

/-- Objects are merged into one that is there already as if their members were those of one. -/
theorem foldl_addMembers_some (a : Members) (bs : List Members) :
    bs.foldl addMembers (some a) = some (joinMembers a bs.flatten) := by
  induction bs generalizing a with
  | nil => rfl
  | cons b bs ih =>
    rw [List.foldl_cons, addMembers, Option.getD_some, ih, List.flatten_cons, joinMembers_append]

/-- So are they if there is none yet, unless there are no objects at all. -/
theorem foldl_addMembers (o : Option Members) (bs : List Members) (h : bs ≠ []) :
    bs.foldl addMembers o = some (joinMembers (o.getD []) bs.flatten) := by
  cases bs with
  | nil => exact absurd rfl h
  | cons b bs =>
    rw [List.foldl_cons, addMembers, foldl_addMembers_some, List.flatten_cons, joinMembers_append]

/-- The members that objects come to; no objects come to the members that are there. -/
theorem getD_foldl_addMembers (o : Option Members) (bs : List Members) :
    (bs.foldl addMembers o).getD [] = joinMembers (o.getD []) bs.flatten := by
  by_cases h : bs = []
  · rw [h]; rfl
  · rw [foldl_addMembers o bs h, Option.getD_some]

/-- Once items have been added, what a reduction holds was there already, or it is one of their
others, or the merged object that has taken in all objects among them. -/
theorem mem_toList_foldl_add {r : Reduction} {ws : List Json} {v : Json}
    (h : v ∈ (ws.foldl (Reduction.add mergePair) r).toList) :
    v ∈ r.toList ∨ v ∈ othersOf ws ∨
      v = .object (joinMembers (r.object.getD []) (objectsOf ws).flatten) := by
  rw [foldl_add_eq] at h
  rcases List.mem_append.1 h with hother | hobject
  · exact (mem_foldl_pushNew hother).imp (List.mem_append_left _) .inl
  · -- Without objects among the items, the merged object is the one that was there, if any.
    by_cases hws : objectsOf ws = []
    · rw [hws] at hobject
      exact .inl (List.mem_append_right _ hobject)
    · rw [foldl_addMembers _ _ hws] at hobject
      exact .inr (.inr (List.mem_singleton.1 hobject))

/-- The merged object of items, if there is one, is merged from all members that they add. -/
theorem eq_joinMembers_of_mergedObject? {vs : List Json} {ms : Members}
    (h : mergedObject? vs = some ms) : ms = joinMembers [] (objectsOf vs).flatten := by
  rw [mergedObject?] at h
  simpa [h] using getD_foldl_addMembers none (objectsOf vs)

/-- The value under a key is merged from the column of that key. -/
theorem get?_joinMembers (a b : Members) (k : String) :
    (joinMembers a b).get? k = (column k b).foldl addValue (a.get? k) := by
  induction b generalizing a with
  | nil => rfl
  | cons m b ih =>
    rw [joinMembers_cons, ih, Members.get?_insert, column_cons]
    -- The first member stands under this key, or leaves its value alone.
    by_cases hk : m.1 = k
    · rw [if_pos hk, if_pos hk, List.foldl_cons, addValue, hk]
    · rw [if_neg hk, if_neg hk]

/-- New keys are put at the end, in order. -/
theorem keys_joinMembers (a b : Members) :
    (joinMembers a b).keys = b.keys.foldl addKey a.keys := by
  induction b generalizing a with
  | nil => rfl
  | cons m b ih => rw [joinMembers_cons, ih, Members.keys_insert]; rfl

/-- No key is lost, and none is made up. -/
theorem mem_foldl_addKey {ks ls : List String} {k : String} :
    k ∈ ls.foldl addKey ks ↔ k ∈ ks ∨ k ∈ ls := by
  induction ls generalizing ks with
  | nil => simp
  | cons l ls ih =>
    rw [List.foldl_cons, ih, addKey]
    -- A key that is there already is not added again.
    split
    · next h =>
      rw [List.mem_cons]
      constructor
      · rintro (hk | hk)
        · exact .inl hk
        · exact .inr (.inr hk)
      · rintro (hk | rfl | hk)
        · exact .inl hk
        · exact .inl h
        · exact .inr hk
    · rw [List.mem_append, List.mem_singleton, List.mem_cons, or_assoc]

/-- Merging members repeats no key. -/
theorem nodup_keys_joinMembers {a : Members} (h : a.keys.Nodup) (b : Members) :
    (joinMembers a b).keys.Nodup := by
  induction b generalizing a with
  | nil => exact h
  | cons m b ih => exact ih (Members.nodup_keys_insert h _ _)

/-- Members that are all new are put at the end, each one with its value on its own. -/
theorem joinMembers_of_nodup {a b : Members} (hd : (a ++ b : Members).keys.Nodup) :
    joinMembers a b = a ++ b.map fun m => (m.1, collapse m.2) := by
  induction b generalizing a with
  | nil => simp
  | cons m b ih =>
    -- The first key is new.
    have hk : m.1 ∉ a.keys := by
      intro hm
      rw [Members.keys, List.map_append, List.nodup_append] at hd
      exact hd.2.2 m.1 hm m.1 (by simp) rfl
    rw [joinMembers_cons, Members.get?_eq_none_iff.2 hk, Option.getD_none, mergePair_null_left,
      Members.insert_of_not_mem hk, ih (by simpa [Members.keys] using hd)]
    simp

/-- Members whose values add nothing to what is there change nothing. -/
theorem joinMembers_eq_self {a b : Members}
    (h : ∀ m ∈ b, ∃ w, a.get? m.1 = some w ∧ mergePair w m.2 = w) : joinMembers a b = a := by
  induction b with
  | nil => rfl
  | cons m b ih =>
    obtain ⟨w, hw, hm⟩ := h m List.mem_cons_self
    rw [joinMembers_cons, hw, Option.getD_some, hm, Members.insert_eq_self hw]
    exact ih fun m' hm' => h m' (List.mem_cons_of_mem _ hm')

/-- A column of at least one value is merged into the value that is there, or into null. -/
theorem foldl_addValue (o : Option Json) {vs : List Json} (h : vs ≠ []) :
    vs.foldl addValue o = some (vs.foldl mergePair (o.getD .null)) := by
  induction vs generalizing o with
  | nil => exact absurd rfl h
  | cons v vs ih =>
    cases vs with
    | nil => rfl
    | cons w vs => rw [List.foldl_cons, ih _ (by simp), addValue, Option.getD_some]; rfl

/-- Values that add nothing, one by one, add nothing. -/
theorem foldl_mergePair_eq_self {acc : Json} {vs : List Json}
    (h : ∀ v ∈ vs, mergePair acc v = acc) : vs.foldl mergePair acc = acc := by
  induction vs with
  | nil => rfl
  | cons v vs ih =>
    rw [List.foldl_cons, h v List.mem_cons_self]
    exact ih fun w hw => h w (List.mem_cons_of_mem _ hw)

/-- The same for the value under a key that may not be there, which counts as null. -/
theorem getD_joinMembers (a b : Members) (k : String) :
    ((joinMembers a b).get? k).getD .null =
      (column k b).foldl mergePair ((a.get? k).getD .null) := by
  rw [get?_joinMembers]
  -- A column without values leaves what is there, also if nothing is.
  by_cases h : column k b = []
  · rw [h]; rfl
  · rw [foldl_addValue _ h, Option.getD_some]

/-! ## Induction along the calls of the merge engine -/

/-- The members of the object that an array is reduced to are a level below the array. -/
private theorem shallow_objectOf? {n : Nat} {vs : List Json} {ms : Members}
    (h : Shallow (n + 1) (.array vs)) (hms : objectOf? (.array vs) = some ms) :
    ∀ m ∈ ms, Shallow n m.2 := by
  have hred := mergePair_bounded _ .null _ (.null _) h
  rw [mergePair_null_left, collapse_array, lone?_eq_some_iff.1 hms] at hred
  cases hred with
  | scalar _ h => simp [Json.isScalar] at h
  | array _ hm => exact hm ms (List.mem_singleton_self _)

/-- To prove something of all values, it is enough to prove it of an object whose members have it,
and of an array if it holds of the arrays and scalars among the items, of all that is merged into
the object of the array, and of what that object consists of if the array is reduced to it. -/
theorem levelInduction {motive : Json → Prop} (null : motive .null)
    (scalar : ∀ v, v.isScalar = true → motive v)
    (object : ∀ ms, (∀ m ∈ ms, motive m.2) → motive (.object ms))
    (array : ∀ vs, (∀ v ∈ vs, v.isObject = false → motive v) →
      (∀ ms ∈ objectsOf vs, ∀ m ∈ ms, motive m.2) →
      (∀ ms, objectOf? (.array vs) = some ms → ∀ m ∈ ms, motive m.2) → motive (.array vs))
    (v : Json) : motive v := by
  -- Induction on the number of levels: the object items of an array use up none.
  suffices h : ∀ n v, Shallow n v → motive v from
    h _ v (Json.shallow_of_height_le (Nat.le_refl v.height))
  intro n
  induction n with
  | zero =>
    intro v hv
    cases hv with
    | null => exact null
    | scalar _ h => exact scalar v h
  | succ n ih =>
    intro v hv
    have hshallow := hv
    cases hv with
    | null => exact null
    | scalar _ h => exact scalar v h
    | object h => exact object _ fun m hm => ih _ (h m hm)
    | @array _ vs hitems hmembers =>
      refine array _ (fun v hv hvo => ih v (hitems v hv hvo)) (fun ms hms m hm => ih _ ?_)
        fun ms hms m hm => ih _ (shallow_objectOf? hshallow hms m hm)
      -- The members come from an object item, or from an array that is reduced to one.
      obtain ⟨v, hv, hvms⟩ := List.mem_filterMap.1 hms
      cases v with
      | object ms' => exact hmembers _ (Option.some.inj hvms ▸ hv) m hm
      | array ws => exact shallow_objectOf? (hitems _ hv rfl).succ hvms m hm
      | _ => simp [objectOf?] at hvms

end Stencil.Schema
