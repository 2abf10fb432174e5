import Stencil.Proofs.Schema.Gathering
import Stencil.Proofs.Schema.Provenance

/-!
# Samples whose objects stand together

The tag of a position is decided by all values that stand there, the positions below it by those
that were merged. The two can disagree, because merging leaves out objects: those in an array beside
other things, and those that meet something else. Where the values are `Coherent`, no object is left
out, and what stands below the position is merged from all values there.

## Key results

- `MergedFrom.sameForm`: a merged value has the form of the first value that is not null
- `MergedFrom.assembled`: from coherent values, all objects in them are merged
- `exists_mergedFrom_of_at`: below coherent positions, shapes are merged from all values
- `isComposite_of_children`: which nodes with children are sure to be tagged as having some
-/

namespace Stencil.Schema

open Json (Members DistinctKeys)
open Merge

/-- The value is merged from the values, one after another or in groups. -/
inductive MergedFrom : List Json → Json → Prop
  | nil : MergedFrom [] .null
  | value {vs : List Json} {acc : Json} (h : MergedFrom vs acc) (v : Json) :
    MergedFrom (vs ++ [v]) (mergePair acc v)
  | group {vs ws : List Json} {acc m : Json} (h : MergedFrom vs acc) (h' : MergedFrom ws m) :
    MergedFrom (vs ++ ws) (mergePair acc m)

/-- Merged values are representative. -/
theorem MergedFrom.representative {vs : List Json} {s : Json} (h : MergedFrom vs s) :
    Representative s := by
  induction h with
  | nil => exact .null
  | value _ v ih => exact representative_mergePair ih v
  | group _ _ ih _ => exact representative_mergePair ih _

/-- A merged value holds nothing that none of the values holds. -/
theorem MergedFrom.reaches {P : Json → Prop} (hP : Inherited P) {vs : List Json} {s : Json}
    (h : MergedFrom vs s) {k : String} {ks : List String} (hr : Reaches P (k :: ks) s) :
    ∃ v ∈ vs, Reaches P (k :: ks) v := by
  induction h with
  | nil => exact absurd hr not_reaches_null
  | value h v ih =>
    -- It was reached in what had been accumulated, or in the value merged last.
    rcases reaches_mergePair hP h.representative hr with hr | hr
    · obtain ⟨w, hw, hr⟩ := ih hr
      exact ⟨w, List.mem_append_left _ hw, hr⟩
    · exact ⟨v, by simp, hr⟩
  | group h _ ih ih' =>
    rcases reaches_mergePair hP h.representative hr with hr | hr
    · obtain ⟨w, hw, hr⟩ := ih hr
      exact ⟨w, List.mem_append_left _ hw, hr⟩
    · obtain ⟨w, hw, hr⟩ := ih' hr
      exact ⟨w, List.mem_append_right _ hw, hr⟩

/-! ## The form of a merged value -/

/-- Both are null, or objects, or arrays, or scalars. -/
structure SameForm (u v : Json) : Prop where
  isNull : u.isNull = v.isNull
  isObject : u.isObject = v.isObject
  isArray : u.isArray = v.isArray

theorem SameForm.refl (v : Json) : SameForm v v := ⟨rfl, rfl, rfl⟩

/-- Two values of the form of a third have the same form. -/
theorem SameForm.trans {u v w : Json} (h : SameForm u v) (h' : SameForm v w) : SameForm u w :=
  ⟨h.isNull.trans h'.isNull, h.isObject.trans h'.isObject, h.isArray.trans h'.isArray⟩

/-- Reducing a value keeps its form. -/
theorem sameForm_collapse (v : Json) : SameForm (collapse v) v := by
  cases v with
  | null => rw [collapse_null]; exact .refl _
  | object ms => rw [collapse_object]; exact ⟨rfl, rfl, rfl⟩
  | array vs => rw [collapse_array]; exact ⟨rfl, rfl, rfl⟩
  | _ => rw [collapse_of_isScalar rfl]; exact .refl _

/-- Merging into a value that is not null keeps its form. -/
theorem sameForm_mergePair {acc : Json} (h : acc.isNull = false) (next : Json) :
    SameForm (mergePair acc next) acc := by
  cases acc with
  | null => cases h
  | object a =>
    -- An object takes in members or nothing; either way it stays an object.
    cases next with
    | object b => rw [mergePair_object_object]; exact ⟨rfl, rfl, rfl⟩
    | array b => rw [mergePair_object_array]; exact ⟨rfl, rfl, rfl⟩
    | null => rw [mergePair_null_right]; exact .refl _
    | _ => rw [mergePair_scalar_right (by simp) rfl]; exact .refl _
  | array a =>
    cases next with
    | object b => rw [mergePair_array_object]; exact ⟨rfl, rfl, rfl⟩
    | array b => rw [mergePair_array_array]; exact ⟨rfl, rfl, rfl⟩
    | null => rw [mergePair_null_right]; exact .refl _
    | _ => rw [mergePair_scalar_right (by simp) rfl]; exact .refl _
  | _ => rw [mergePair_of_isScalar rfl]; exact .refl _

theorem eq_null_of_isNull {v : Json} (h : v.isNull = true) : v = .null := by
  cases v <;> simp_all [Json.isNull]

/-- The form of a merged value is that of the first group with a value that is not null. -/
private theorem sameForm_append {vs ws : List Json} {acc m : Json} (h : SameForm acc (lead vs))
    (h' : SameForm m (lead ws)) : SameForm (mergePair acc m) (lead (vs ++ ws)) := by
  rw [lead_append, ← h.isNull]
  cases hn : acc.isNull with
  | true =>
    rw [eq_null_of_isNull hn, mergePair_null_left]
    exact (sameForm_collapse m).trans h'
  | false => exact (sameForm_mergePair hn m).trans h

/-- A merged value has the form of the first value that is not null. -/
theorem MergedFrom.sameForm {vs : List Json} {s : Json} (h : MergedFrom vs s) :
    SameForm s (lead vs) := by
  induction h with
  | nil => exact .refl _
  | value _ v ih => exact sameForm_append ih (by cases v <;> exact .refl _)
  | group _ _ ih ih' => exact sameForm_append ih ih'

/-! ## Objects merged from objects -/

/-- Each member of the object is merged from the values under its key. -/
def Assembled (os : List Members) (ms : Members) : Prop :=
  ∀ k, MergedFrom (os.filterMap (·.get? k)) ((ms.get? k).getD .null)

/-- No objects make up one without members. -/
theorem assembled_nil : Assembled [] [] := fun _ => .nil

/-- If no key is repeated, each value is merged with the one under its key. -/
private theorem getD_joinMembers_of_nodup {b : Members} (hb : b.keys.Nodup) (a : Members)
    (k : String) : ((joinMembers a b).get? k).getD .null =
      mergePair ((a.get? k).getD .null) ((b.get? k).getD .null) := by
  rw [getD_joinMembers, column_of_nodup hb]
  cases b.get? k with
  | none => exact (mergePair_null_right _).symm
  | some v => rfl

/-- One more object is merged in. -/
theorem Assembled.object {os : List Members} {a b : Members} (h : Assembled os a)
    (hb : b.keys.Nodup) : Assembled (os ++ [b]) (joinMembers a b) := by
  intro k
  rw [getD_joinMembers_of_nodup hb, List.filterMap_append]
  cases hk : b.get? k with
  | none => simpa [hk] using h k
  | some v => simpa [hk] using (h k).value v

/-- An object that was merged from others is merged in. -/
theorem Assembled.group {os os' : List Members} {a b : Members} (h : Assembled os a)
    (h' : Assembled os' b) (hb : b.keys.Nodup) : Assembled (os ++ os') (joinMembers a b) := by
  intro k
  rw [getD_joinMembers_of_nodup hb, List.filterMap_append]
  exact (h k).group (h' k)

/-- Merging these members in means merging in the objects. -/
def Offers (os : List Members) (ms : Members) : Prop :=
  ∀ {os' a}, Assembled os' a → Assembled (os' ++ os) (joinMembers a ms)

/-- Merging these items in, one by one, means merging in the objects. -/
def OffersAll (os : List Members) (vs : List Json) : Prop :=
  ∀ {os' o}, Assembled os' (o.getD []) →
    Assembled (os' ++ os) (((objectsOf vs).foldl addMembers o).getD [])

/-- Items offer all objects in them, if those that add nothing have no objects in them. -/
theorem offersAll_membersIn {vs : List Json}
    (hvs : ∀ v ∈ vs, membersIn v = [] ∨ ∃ ms, objectOf? v = some ms ∧ Offers (membersIn v) ms) :
    OffersAll (vs.flatMap membersIn) vs := by
  -- The items one by one: what is offered so far is part of what has been assembled.
  induction vs with
  | nil => intro os o h; simpa using h
  | cons v vs ih =>
    intro os o h
    rw [objectsOf_cons, List.flatMap_cons, List.foldl_append, ← List.append_assoc]
    refine ih (fun w hw => hvs w (List.mem_cons_of_mem _ hw)) ?_
    rcases hvs v List.mem_cons_self with hnone | ⟨ms, hms, hoffers⟩
    · -- Without an object in it, the item does not count as one and adds no members.
      have hcounts := mt membersIn_ne_nil_of_countsAsObject (not_not_intro hnone)
      rw [← isSome_objectOf?, Option.not_isSome_iff_eq_none] at hcounts
      simpa [hcounts, hnone] using h
    · rw [hms]
      exact hoffers h

/-- An item that counts as an object offers the objects in it. -/
theorem exists_offers {v : Json} (h : countsAsObject v = true) (hd : DistinctKeys v) :
    ∃ ms, objectOf? v = some ms ∧ Offers (membersIn v) ms := by
  induction v using Json.structuralInduction with
  | null => cases h
  | scalar v hv => cases v <;> simp_all [countsAsObject, Json.isScalar]
  | object ms _ =>
    refine ⟨ms, rfl, fun h => ?_⟩
    rw [membersIn_object]
    exact h.object (DistinctKeys.object_iff.1 hd).1
  | array vs ih =>
    obtain ⟨-, hall⟩ := countsAsObject_array.1 h
    obtain ⟨ms, hms⟩ := Option.isSome_iff_exists.1 ((isSome_objectOf? (.array vs)).trans h)
    -- All items count as objects, so the members of the array are assembled from them.
    have hmerged : Assembled (membersIn (.array vs)) ms := by
      have hoffers : OffersAll (vs.flatMap membersIn) vs := offersAll_membersIn fun v hv =>
        .inr (ih v hv (hall v hv) (DistinctKeys.array_iff.1 hd v hv))
      have hfold := hoffers (o := none) assembled_nil
      rw [objectOf?_array] at hms
      split at hms
      · rw [List.nil_append, ← membersIn_array, ← mergedObject?, hms] at hfold
        exact hfold
      · cases hms
    -- The members of a list of objects are a group of their own, merged before they are merged in.
    refine ⟨ms, hms, fun h => h.group hmerged ?_⟩
    exact (representative_of_objectOf? hms).object_inv.1

/-! ## Coherent values -/

/-- The values keep their objects apart from everything else. Nulls aside, there are none in them,
or the values are objects and lists of objects, or they are arrays in which each item with an object
in it counts as one. -/
inductive Coherent (vs : List Json) : Prop
  | plain (h : ∀ v ∈ vs, membersIn v = [])
  | objects (h : ∀ v ∈ vs, v = .null ∨ countsAsObject v = true)
  | arrays (h : ∀ v ∈ vs, v = .null ∨ ∃ ws, v = .array ws ∧ Unmixed ws)

/-- An array in which nothing is mixed offers all objects in it. -/
theorem Unmixed.offersAll {vs : List Json} (h : Unmixed vs) (hd : ∀ v ∈ vs, DistinctKeys v) :
    OffersAll (vs.flatMap membersIn) vs :=
  offersAll_membersIn fun v hv => (h v hv).imp_right fun hc => exists_offers hc (hd v hv)

/-! ### Objects and lists of objects -/

/-- Nothing but one object with the members is left, if anything is. -/
inductive Alone : Members → Json → Prop
  | null : Alone [] .null
  | object (ms : Members) : Alone ms (.object ms)
  | array (ms : Members) : Alone ms (.array [.object ms])

/-- The one object is what the shape shows. -/
theorem Alone.shown {ms : Members} {s : Json} (h : Alone ms s) : (shownObject? s).getD [] = ms := by
  cases h <;> rfl

/-- An object or a list of objects is merged in. -/
private theorem alone_mergePair {os os' : List Members} {a ms : Members} {acc v : Json}
    (h : Assembled os a) (ha : Alone a acc) (hrep : Representative acc)
    (hms : objectOf? v = some ms) (hone : Offers os' ms)
    (hall : ∀ ws, v = .array ws → OffersAll os' ws) :
    ∃ a', Assembled (os ++ os') a' ∧ Alone a' (mergePair acc v) := by
  cases v with
  | object b =>
    obtain rfl := Option.some.inj hms
    refine ⟨joinMembers a b, hone h, ?_⟩
    -- The accumulated value is null, the object itself, or a list of it.
    cases ha with
    | null => rw [mergePair_null_left, collapse_object]; exact .object _
    | object => rw [mergePair_object_object]; exact .object _
    | array => rw [mergePair_array_object]; exact .array _
  | array ws =>
    have hreduced : mergeElements ws = [.object ms] := lone?_eq_some_iff.1 hms
    cases ha with
    | null =>
      rw [mergePair_null_left, collapse_array, hreduced]
      have hjoin := hone h
      rw [joinMembers_nil_left (representative_of_objectOf? hms)] at hjoin
      exact ⟨ms, hjoin, .array ms⟩
    | object =>
      rw [mergePair_object_array, hreduced]
      exact ⟨joinMembers a ms, hone h, .object _⟩
    | array =>
      -- Two lists: the items are merged in one by one, not as the object they are reduced to.
      have hr : Reduced ⟨[], some a⟩ := Reduced.of_object (representative_lone_iff.1 hrep)
      have hothers : othersOf ws = [] := by
        rw [objectOf?_array] at hms
        split at hms
        · assumption
        · cases hms
      have hobjects : objectsOf ws ≠ [] := by
        rw [← mergedObject?_isSome]
        rw [objectOf?_array, if_pos hothers] at hms
        rw [hms]; rfl
      have hfold := hall ws rfl (o := some a) h
      rw [foldl_addMembers _ _ hobjects] at hfold
      -- What is left of both lists is one object again.
      refine ⟨_, hfold, ?_⟩
      have hmerge := hr.mergeElements_append ws
      rw [foldl_add_eq, hothers, foldl_addMembers _ _ hobjects] at hmerge
      rw [mergePair_array_array, show [Json.object a] = (⟨[], some a⟩ : Reduction).toList from rfl,
        hmerge]
      exact .array _
  | _ => cases hms

/-- From objects and lists of objects, one object is merged with all objects in them. -/
theorem MergedFrom.exists_alone {vs : List Json} {s : Json} (h : MergedFrom vs s)
    (hvs : ∀ v ∈ vs, v = .null ∨ countsAsObject v = true) (hd : ∀ v ∈ vs, DistinctKeys v) :
    ∃ a, Assembled (vs.flatMap membersIn) a ∧ Alone a s := by
  induction h with
  | nil => exact ⟨[], assembled_nil, .null⟩
  | @value vs acc h v ih =>
    rw [List.forall_mem_append, List.forall_mem_singleton] at hvs hd
    obtain ⟨a, ha, hacc⟩ := ih hvs.1 hd.1
    rw [List.flatMap_append, List.flatMap_singleton]
    -- The value merged last is null and adds nothing, or it counts as an object.
    rcases hvs.2 with rfl | hcounts
    · rw [mergePair_null_right]
      exact ⟨a, by simpa using ha, hacc⟩
    · obtain ⟨ms, hms, hone⟩ := exists_offers hcounts hd.2
      refine alone_mergePair ha hacc h.representative hms hone ?_
      rintro ws rfl
      rw [membersIn_array]
      exact (unmixed_of_countsAsObject hcounts).offersAll (DistinctKeys.array_iff.1 hd.2)
  | @group vs ws acc m h h' ih ih' =>
    rw [List.forall_mem_append] at hvs hd
    obtain ⟨a, ha, hacc⟩ := ih hvs.1 hd.1
    obtain ⟨b, hb, hm⟩ := ih' hvs.2 hd.2
    have hrep := h'.representative
    rw [List.flatMap_append]
    cases hm with
    | null =>
      rw [mergePair_null_right]
      exact ⟨a, ha.group hb (by simp), hacc⟩
    | object =>
      refine alone_mergePair ha hacc h.representative rfl ?_ (by simp)
      exact fun h => h.group hb hrep.object_inv.1
    | array =>
      have hone : Offers (ws.flatMap membersIn) b :=
        fun h => h.group hb (representative_lone_iff.1 hrep).object_inv.1
      -- The group has been reduced already, so reducing it again leaves its object.
      have hlone : objectOf? (.array [.object b]) = some b := by
        have hc := collapse_of_representative hrep
        rw [collapse_array] at hc
        rw [objectOf?, Json.array.inj hc]
        rfl
      refine alone_mergePair ha hacc h.representative hlone hone fun us hus => ?_
      obtain rfl := Json.array.inj hus
      exact fun h => hone h

/-! ### Arrays that may hold other things -/

/-- An array with the items is left, if anything is, and only its object has members. -/
structure Apart (r : Reduction) (s : Json) : Prop where
  reduced : Reduced r
  eq : s = .null ∧ r = .empty ∨ s = .array r.toList
  others : ∀ v ∈ r.others, membersIn v = []

/-- The merged object is what the shape shows, as the other items have no object in them. -/
theorem Apart.shown {r : Reduction} {s : Json} (h : Apart r s) :
    (shownObject? s).getD [] = r.object.getD [] := by
  rcases h.eq with ⟨rfl, rfl⟩ | rfl
  · rfl
  · rw [shownObject?, Reduction.toList, lastObject?_append, lastObject?_eq_none h.others]
    cases r.object <;> rfl

/-- An array is merged in, item by item. -/
private theorem Apart.mergePair {os os' : List Members} {r : Reduction} {acc : Json}
    (h : Apart r acc) (hr : Assembled os (r.object.getD [])) {ws : List Json}
    (hothers : ∀ w ∈ othersOf ws, membersIn w = []) (hall : OffersAll os' ws) :
    ∃ r', Assembled (os ++ os') (r'.object.getD []) ∧
      Apart r' (Schema.mergePair acc (.array ws)) := by
  refine ⟨ws.foldl (Reduction.add Schema.mergePair) r, ?_, h.reduced.foldl_add ws, .inr ?_, ?_⟩
  · rw [foldl_add_eq]
    exact hall hr
  · rcases h.eq with ⟨rfl, rfl⟩ | rfl
    · rw [mergePair_null_left, collapse_array]; rfl
    · rw [mergePair_array_array, h.reduced.mergeElements_append]
  · rw [foldl_add_eq]
    -- The other items are those from before and those of the array.
    exact fun v hv => (mem_foldl_pushNew hv).elim (h.others v) (hothers v)

/-- Where nothing is mixed, the other items have no object in them. -/
private theorem Unmixed.membersIn_othersOf {vs : List Json} (h : Unmixed vs) :
    ∀ w ∈ othersOf vs, membersIn w = [] := by
  intro w hw
  obtain ⟨v, hv, rfl⟩ := List.mem_map.1 hw
  obtain ⟨hv, hnone⟩ := List.mem_filter.1 hv
  rw [membersIn_collapse_eq_nil_iff]
  refine (h v hv).resolve_right fun hc => ?_
  rw [← isSome_objectOf?] at hc
  simp_all

/-- From arrays whose other items have no objects in them, one object is merged with all objects. -/
theorem MergedFrom.exists_apart {vs : List Json} {s : Json} (h : MergedFrom vs s)
    (hvs : ∀ v ∈ vs, v = .null ∨ ∃ ws, v = .array ws ∧ Unmixed ws)
    (hd : ∀ v ∈ vs, DistinctKeys v) :
    ∃ r, Assembled (vs.flatMap membersIn) (r.object.getD []) ∧ Apart r s := by
  induction h with
  | nil => exact ⟨.empty, assembled_nil, .empty, .inl ⟨rfl, rfl⟩, by simp [Reduction.empty]⟩
  | @value vs acc h v ih =>
    rw [List.forall_mem_append, List.forall_mem_singleton] at hvs hd
    obtain ⟨r, hr, hacc⟩ := ih hvs.1 hd.1
    rw [List.flatMap_append, List.flatMap_singleton]
    rcases hvs.2 with rfl | ⟨ws, rfl, hws⟩
    · rw [mergePair_null_right]
      exact ⟨r, by simpa using hr, hacc⟩
    · rw [membersIn_array]
      exact hacc.mergePair hr hws.membersIn_othersOf
        (hws.offersAll (DistinctKeys.array_iff.1 hd.2))
  | @group vs ws acc m h h' ih ih' =>
    rw [List.forall_mem_append] at hvs hd
    obtain ⟨r, hr, hacc⟩ := ih hvs.1 hd.1
    obtain ⟨r', hr', hm⟩ := ih' hvs.2 hd.2
    rw [List.flatMap_append]
    -- The second group has left nothing, or an array that is reduced already.
    rcases hm.eq with ⟨rfl, rfl⟩ | rfl
    · rw [mergePair_null_right]
      exact ⟨r, hr.group hr' (by simp [Reduction.empty]), hacc⟩
    · obtain ⟨hothers, hobjects⟩ := hm.reduced.groups
      refine hacc.mergePair hr (hothers ▸ hm.others) fun {os o} h => ?_
      rw [hobjects]
      cases ho : r'.object with
      | none =>
        rw [ho] at hr'
        exact h.group hr' (by simp)
      | some b =>
        rw [ho] at hr'
        exact h.group hr' (hm.reduced.object b ho).object_inv.1

/-- From coherent values, all objects in them are merged. -/
theorem MergedFrom.assembled {vs : List Json} {s : Json} (h : MergedFrom vs s) (hvs : Coherent vs)
    (hd : ∀ v ∈ vs, DistinctKeys v) :
    Assembled (vs.flatMap membersIn) ((shownObject? s).getD []) := by
  cases hvs with
  | plain hvs =>
    -- A member that is shown would have to be reached in one of the values.
    have hnone : (shownObject? s).getD [] = [] := by
      refine List.eq_nil_iff_forall_not_mem.2 fun m hm => ?_
      cases hs : shownObject? s with
      | none => rw [hs] at hm; cases hm
      | some ms =>
        rw [hs] at hm
        have hreach : Reaches (fun _ => True) [m.1] s :=
          ⟨ms, mem_membersIn_of_shownObject? hs, m.2, hm, trivial⟩
        obtain ⟨v, hv, os, hos, -⟩ := h.reaches inherited_any hreach
        rw [hvs v hv] at hos
        cases hos
    rw [hnone, List.flatMap_eq_nil_iff.2 hvs]
    exact assembled_nil
  | objects hvs =>
    obtain ⟨a, ha, hs⟩ := h.exists_alone hvs hd
    rwa [hs.shown]
  | arrays hvs =>
    obtain ⟨r, hr, hs⟩ := h.exists_apart hvs hd
    rwa [hs.shown]

/-! ## The positions of a tree -/

variable {refine : Bool} {doc : Json} {root n : Node} {ks : List String}

/-- If the positions above one are coherent, its shape is merged from all values that stand
there. -/
theorem exists_mergedFrom_of_at (hd : DistinctKeys doc) (h : infer refine doc = .ok root)
    (hat : root.At ks n) (hC : ∀ us, Above us ks → Coherent (valuesAt [doc] us)) :
    ∃ shape, n = build refine n.key (valuesAt [doc] ks) shape ∧
      MergedFrom (valuesAt [doc] ks) shape := by
  -- One level down: the values of a member are those under its key, in coherent values.
  have hdown : ∀ vs s, (MergedFrom vs s ∧ ∀ v ∈ vs, DistinctKeys v) → Coherent vs →
      ∀ m ∈ branches (tagOf refine vs) s,
        MergedFrom (valuesUnder m.1 vs) m.2 ∧ ∀ v ∈ valuesUnder m.1 vs, DistinctKeys v := by
    rintro vs s ⟨hm, hd⟩ hvs m hmem
    obtain ⟨ms, hms, hmem⟩ := mem_branches hmem
    have hkeys := (representative_of_mem_membersIn hm.representative
      (mem_membersIn_of_shownObject? hms)).object_inv.1
    -- The values under the key are those that the shape of the member is merged from.
    have hcolumn := hm.assembled hvs hd m.1
    rw [hms, Option.getD_some, Members.get?_of_mem hkeys hmem] at hcolumn
    exact ⟨hcolumn, distinctKeys_valuesUnder hd m.1⟩
  rw [eq_build_of_infer h] at hat
  obtain ⟨shape, hn, hm, -⟩ := exists_shape_of_at hdown
    ⟨.value .nil doc, List.forall_mem_singleton.2 hd⟩ hat hC
  exact ⟨shape, hn, hm⟩

/-- Refining a text does not make its tag composite. -/
private theorem isComposite_kindOf (v : Json) :
    (kindOf refine v).isComposite = (kind v).isComposite := by
  cases v with
  | string s =>
    rw [kindOf]
    split
    · cases hr : Moment.refine? s with
      | none => rfl
      | some t =>
        have hall : ∀ t ∈ Tag.extended, t.isComposite = false := by decide
        exact hall t (Moment.mem_extended_of_refine? hr)
    · rfl
  | _ => rfl

/-- If an object stands at a position, its tag is composite iff that of the first value is that is
not null. -/
theorem isComposite_tagOf_of_object {vs : List Json} (h : ∃ v ∈ vs, v.isObject = true) :
    (tagOf refine vs).isComposite = (kind (lead vs)).isComposite := by
  -- With an object among the values, the leading one decides on the tag.
  have harrays : ¬ ∀ v ∈ vs, v.isNull = true ∨ v.isArray = true := by
    obtain ⟨v, hv, hobject⟩ := h
    intro hall
    cases v with
    | object => exact absurd (hall _ hv) (by simp [Json.isNull, Json.isArray])
    | _ => cases hobject
  have hnull : ¬ ∀ v ∈ vs, v.isNull = true := fun h => harrays fun v hv => .inl (h v hv)
  rw [tagOf_eq, if_neg hnull, if_neg harrays, isComposite_kindOf]

/-- Positions are shown for an object, and for what is tagged as an array of objects. -/
theorem branches_ne_nil {tag : Tag} {shape : Json} (h : branches tag shape ≠ []) :
    shape.isObject = true ∨ tag = .arrayObject := by
  cases shape with
  | object ms => exact .inl rfl
  | array ws =>
    rw [branches] at h
    split at h
    · exact .inr ‹_›
    · exact absurd rfl h
  | _ => exact absurd rfl h

/-- A node with children is tagged as having some, unless an object stands at its position behind a
value of another kind. If the positions above it are coherent, none does. -/
theorem isComposite_of_children (hd : DistinctKeys doc) (h : infer refine doc = .ok root)
    (hat : root.At ks n) (hn : n.children ≠ []) :
    let vs := valuesAt [doc] ks
    (n.tag.isComposite = true ↔
      ((∃ v ∈ vs, v.isObject = true) → (kind (lead vs)).isComposite = true)) ∧
    ((∀ us, Above us ks → Coherent (valuesAt [doc] us)) → n.tag.isComposite = true) := by
  intro vs
  -- The shape of the node is an object, or its tag is composite anyway.
  have hcases : ∀ shape, n = build refine n.key vs shape →
      shape.isObject = true ∨ n.tag = .arrayObject := by
    intro shape hbuild
    rw [hbuild, tag_build]
    refine branches_ne_nil fun hnil => hn ?_
    rw [hbuild, children_build, hnil, List.map_nil]
  obtain ⟨shape, hbuild, hw⟩ := exists_witnessed_of_at hd h hat
  have htag : n.tag = tagOf refine vs := by rw [hbuild, tag_build]
  constructor
  · -- Without an object among the values, the shape is none either, so the tag is that of an array.
    by_cases hobject : ∃ v ∈ vs, v.isObject = true
    · rw [htag, isComposite_tagOf_of_object hobject]
      exact ⟨fun h _ => h, fun h => h hobject⟩
    · refine iff_of_true ?_ fun h => absurd h hobject
      rcases hcases shape hbuild with hshape | harray
      · exact absurd (hw.reached inherited_object [] hshape) hobject
      · rw [harray]; rfl
  · intro hC
    -- Merged from all values there, the shape is an object only if the first of them is one.
    obtain ⟨shape', hbuild', hm⟩ := exists_mergedFrom_of_at hd h hat hC
    rcases hcases shape' hbuild' with hshape | harray
    · have hlead : (lead vs).isObject = true := hm.sameForm.isObject ▸ hshape
      obtain ⟨ms, hms⟩ : ∃ ms, lead vs = .object ms := by
        cases hl : lead vs with
        | object ms => exact ⟨ms, rfl⟩
        | _ => rw [hl] at hlead; cases hlead
      have hmem : lead vs ∈ vs := lead_mem (by rw [hms]; rfl)
      rw [htag, isComposite_tagOf_of_object ⟨_, hmem, hlead⟩, hms]
      rfl
    · rw [harray]; rfl

/-- Lists of objects below a mixed array: the positions above the node are coherent. -/
theorem isComposite_of_children_lists :
    ∃ root n, infer false (.object [("a", .array [.array [.bool true],
        .array [.object [("b", .object [("c", .null)])]],
        .object [("b", .array [.array [.object [("c", .bool true)]]])]])]) = .ok root ∧
      root.At ["a", "b"] n ∧ n.children ≠ [] ∧ n.tag.isComposite = true := by
  have hd : DistinctKeys (.object [("a", .array [.array [.bool true],
      .array [.object [("b", .object [("c", .null)])]],
      .object [("b", .array [.array [.object [("c", .bool true)]]])]])]) := by
    simp [DistinctKeys.object_iff, DistinctKeys.array_iff, DistinctKeys.null,
      DistinctKeys.scalar (v := .bool true) rfl]
  have hat (b : Node) : Node.At
      { key := "", tag := .object,
        children := [{ key := "a", tag := .arrayObject, children := [b] }] } ["a", b.key] b :=
    .child (c := { key := "a", tag := .arrayObject, children := [b] }) List.mem_cons_self
      (.child List.mem_cons_self (.root b))
  have hb := hat { key := "b", tag := .object, children := [{ key := "c", tag := .bool }] }
  have hinfer : infer false (.object [("a", .array [.array [.bool true],
      .array [.object [("b", .object [("c", .null)])]],
      .object [("b", .array [.array [.object [("c", .bool true)]]])]])]) = .ok _ := rfl
  refine ⟨_, _, hinfer, hb, by simp, (isComposite_of_children hd hinfer hb (by simp)).2 ?_⟩
  -- The root and the position `a` are above the node.
  rintro us ⟨k, ws, hus⟩
  rcases us with _ | ⟨u, _ | ⟨u', us⟩⟩
  · refine .objects fun v hv => .inr ?_
    obtain rfl := List.mem_singleton.1 hv
    rfl
  · obtain ⟨rfl, -⟩ := List.cons.inj hus
    refine .arrays fun v hv => .inr ?_
    obtain rfl := List.mem_singleton.1 hv
    exact ⟨_, rfl, by simp [Unmixed, membersIn, membersInItems, countsAsObject, allCountAsObjects]⟩
  · simp at hus

/-- Of the objects here, only the second one is merged, but the first one decides on the tag. -/
theorem not_isComposite_of_children :
    ∃ root n, infer false (.array [.array [.number (.whole 1), .object [("k", .number (.whole 5))]],
        .object [("k", .object [("a", .number (.whole 1))])]]) = .ok root ∧
      root.At ["k"] n ∧ n.children ≠ [] ∧ n.tag.isComposite = false := by
  have hat (k : Node) : Node.At { key := "", tag := .arrayObject, children := [k] } [k.key] k :=
    .child List.mem_cons_self (.root k)
  exact ⟨_, _, rfl, hat { key := "k", tag := .int, children := [{ key := "a", tag := .int }] },
    List.cons_ne_nil _ _, rfl⟩

end Stencil.Schema
