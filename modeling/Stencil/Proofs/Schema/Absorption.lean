import Stencil.Proofs.Schema.Repetition

/-!
# Samples without empty arrays

An object that meets an empty array is left out, but it is merged in when it comes again and the
array has got an object by then. Nothing else is ever merged in late: a sample without an empty
array is covered once it has been merged, and stays so whatever is merged afterwards.

## Key results

- `filled_mergePair`: merging brings in no empty array
- `Covers.mergePair_left`: what is covered stays covered
- `covers_mergePair`: what has been merged is covered
- `merge_append_of_subset`: samples without empty arrays add nothing when they come again
-/

namespace Stencil.Schema

open Json (Members)
open Merge

/-- No empty array occurs in the value. -/
inductive Filled : Json → Prop
  | null : Filled .null
  | scalar {v : Json} (h : v.isScalar = true) : Filled v
  | object {ms : Members} (values : ∀ m ∈ ms, Filled m.2) : Filled (.object ms)
  | array {vs : List Json} (ne_nil : vs ≠ []) (items : ∀ v ∈ vs, Filled v) : Filled (.array vs)

/-- The values in an object without empty arrays hold none. -/
theorem Filled.object_inv {ms : Members} (h : Filled (.object ms)) : ∀ m ∈ ms, Filled m.2 := by
  cases h with
  | scalar h => simp [Json.isScalar] at h
  | object values => exact values

/-- An array without empty arrays is not empty, and its items hold none. -/
theorem Filled.array_inv {vs : List Json} (h : Filled (.array vs)) :
    vs ≠ [] ∧ ∀ v ∈ vs, Filled v := by
  cases h with
  | scalar h => simp [Json.isScalar] at h
  | array ne_nil items => exact ⟨ne_nil, items⟩

/-- The value under a key holds no empty array either. -/
theorem Filled.getD {ms : Members} (h : Filled (.object ms)) (k : String) :
    Filled ((ms.get? k).getD .null) := by
  cases hk : ms.get? k with
  | none => exact .null
  | some v => exact h.object_inv _ (Members.mem_of_get? hk)

/-! ## Merging brings in no empty array -/

/-- Merging the value into one without empty arrays gives one without empty arrays. -/
private def Fills (v : Json) : Prop :=
  ∀ acc, Representative acc → Filled acc → Filled (mergePair acc v)

/-- Merging members brings in no empty array if merging their values does not. -/
private theorem filled_joinMembers_of_fills {a b : Members} (ha : Representative (.object a))
    (hfa : Filled (.object a)) (hb : ∀ m ∈ b, Fills m.2) : Filled (.object (joinMembers a b)) := by
  induction b generalizing a with
  | nil => exact hfa
  | cons m b ih =>
    rw [joinMembers_cons]
    refine ih (representative_joinMembers ha [m]) (.object fun m' hm' => ?_) fun m' hm' =>
      hb m' (List.mem_cons_of_mem _ hm')
    -- The member that has just been merged, or one that was there before.
    rcases Members.mem_of_mem_insert hm' with rfl | hm'
    · exact hb m List.mem_cons_self _ (ha.getD m.1) (hfa.getD m.1)
    · exact hfa.object_inv m' hm'

/-- The merged object holds no empty array, and no members if there is none. -/
private theorem filled_object_getD {r : Reduction} (hfr : ∀ v ∈ r.toList, Filled v) :
    Filled (.object (r.object.getD [])) := by
  cases ho : r.object with
  | none => exact .object (by simp)
  | some a => exact hfr _ (by simp [Reduction.toList, ho])

/-- Adding items brings in no empty array if none of what they add holds one. -/
private theorem filled_foldl_add_of_fills {r : Reduction} (hr : Reduced r)
    (hfr : ∀ v ∈ r.toList, Filled v) {ws : List Json} (hothers : ∀ w ∈ othersOf ws, Filled w)
    (hobjects : ∀ ms ∈ objectsOf ws, ∀ m ∈ ms, Fills m.2) :
    ∀ v ∈ (ws.foldl (Reduction.add mergePair) r).toList, Filled v := by
  intro v hv
  rcases mem_toList_foldl_add hv with hold | hother | rfl
  · exact hfr v hold
  · exact hothers v hother
  · -- The merged object takes in the members of all items at once.
    refine filled_joinMembers_of_fills (representative_getD hr.object) (filled_object_getD hfr) ?_
    intro m hm
    obtain ⟨ms, hms, hm⟩ := List.mem_flatten.1 hm
    exact hobjects ms hms m hm

/-- The members that items add hold no empty arrays, if the items hold none. -/
private theorem filled_of_objectsOf {ws : List Json} (hws : ∀ w ∈ ws, Filled w)
    (hcollapse : ∀ w ∈ ws, w.isObject = false → Filled (collapse w)) {ms : Members}
    (hms : ms ∈ objectsOf ws) : Filled (.object ms) := by
  obtain ⟨w, hw, hwms⟩ := List.mem_filterMap.1 hms
  cases w with
  | object ms' => exact Option.some.inj hwms ▸ hws _ hw
  | array vs =>
    have hvs := hcollapse _ hw rfl
    rw [collapse_array, lone?_eq_some_iff.1 hwms] at hvs
    exact hvs.array_inv.2 _ (List.mem_singleton_self _)
  | _ => simp [objectOf?] at hwms

/-- Merging values without empty arrays gives a value without empty arrays. -/
theorem filled_mergePair {acc next : Json} (hacc : Representative acc) (hfa : Filled acc)
    (hfn : Filled next) : Filled (mergePair acc next) := by
  suffices h : Fills next from h acc hacc hfa
  induction next using levelInduction with
  | null => intro acc _ hfa; rwa [mergePair_null_right]
  | scalar v hv =>
    intro acc _ hfa
    by_cases h : acc = .null
    · rw [h, mergePair_null_left, collapse_of_isScalar hv]; exact .scalar hv
    · rwa [mergePair_scalar_right h hv]
  | object b ih =>
    have hb : ∀ m ∈ b, Fills m.2 := fun m hm => ih m hm (hfn.object_inv m hm)
    intro acc hacc hfa
    cases acc with
    | null =>
      rw [mergePair_null_left, collapse_object]
      exact filled_joinMembers_of_fills representative_empty (.object (by simp)) hb
    | object a => rw [mergePair_object_object]; exact filled_joinMembers_of_fills hacc hfa hb
    | array a =>
      rw [mergePair_array_object]
      cases hl : lone? a with
      | none => exact hfa
      | some m =>
        -- The array consists of one object, which takes in the members.
        obtain rfl := lone?_eq_some_iff.1 hl
        have hm : Filled (.object m) := hfa.array_inv.2 _ (List.mem_singleton_self _)
        exact .array (by simp) (List.forall_mem_singleton.2
          (filled_joinMembers_of_fills (representative_lone_iff.1 hacc) hm hb))
    | _ => rwa [mergePair_of_isScalar rfl]
  | array ws hitems hmembers hlone =>
    obtain ⟨hne, hws⟩ := hfn.array_inv
    -- The items that are no objects, and the members of the others, hold no empty array once
    -- merged.
    have hcollapse : ∀ w ∈ ws, w.isObject = false → Filled (collapse w) := fun w hw hwo =>
      hitems w hw hwo (hws w hw) .null .null .null
    have hothers : ∀ w ∈ othersOf ws, Filled w := by
      intro w hw
      obtain ⟨u, hu, rfl⟩ := List.mem_map.1 hw
      obtain ⟨hu, hnone⟩ := List.mem_filter.1 hu
      exact hcollapse u hu (isObject_eq_false_of_objectOf? (Option.isNone_iff_eq_none.1 hnone))
    have hobjects : ∀ ms ∈ objectsOf ws, ∀ m ∈ ms, Fills m.2 := fun ms hms m hm =>
      hmembers ms hms m hm ((filled_of_objectsOf hws hcollapse hms).object_inv m hm)
    -- The array has items, so something is left of it whatever it is added to.
    have hfold : ∀ {r : Reduction}, Reduced r → (∀ v ∈ r.toList, Filled v) →
        Filled (.array (ws.foldl (Reduction.add mergePair) r).toList) := fun hr hfr =>
      .array (toList_foldl_add_ne_nil (.inr hne))
        (filled_foldl_add_of_fills hr hfr hothers hobjects)
    have hself : Filled (.array (mergeElements ws)) :=
      hfold .empty (by simp [Reduction.empty, Reduction.toList])
    intro acc hacc hfa
    cases acc with
    | null => rwa [mergePair_null_left, collapse_array]
    | array a =>
      obtain ⟨r, hr, rfl⟩ := hacc.exists_reduced
      rw [mergePair_array_array, hr.mergeElements_append]
      exact hfold hr hfa.array_inv.2
    | object a =>
      rw [mergePair_object_array]
      cases hl : lone? (mergeElements ws) with
      | none => exact hfa
      | some m =>
        rw [lone?_eq_some_iff.1 hl] at hself
        have hm : Filled (.object m) := hself.array_inv.2 _ (List.mem_singleton_self _)
        exact filled_joinMembers_of_fills hacc hfa fun m' hm' =>
          hlone m hl m' hm' (hm.object_inv m' hm')
    | _ => rwa [mergePair_of_isScalar rfl]

/-- The members that items add hold no empty arrays. -/
theorem filled_of_mem_objectsOf {ws : List Json} (hws : ∀ w ∈ ws, Filled w) {ms : Members}
    (hms : ms ∈ objectsOf ws) : Filled (.object ms) :=
  filled_of_objectsOf hws (fun w hw _ => filled_mergePair .null .null (hws w hw)) hms

/-- Nor do all of them together. -/
private theorem filled_flatten_objectsOf {ws : List Json} (hws : ∀ w ∈ ws, Filled w) :
    Filled (.object (objectsOf ws).flatten) := by
  refine .object fun m hm => ?_
  obtain ⟨ms, hms, hm⟩ := List.mem_flatten.1 hm
  exact (filled_of_mem_objectsOf hws hms).object_inv m hm

/-- Nor does the object that an array is reduced to. -/
theorem filled_of_objectOf? {ws : List Json} (hws : Filled (.array ws)) {ms : Members}
    (hms : objectOf? (.array ws) = some ms) : Filled (.object ms) := by
  -- It is what the array would add as an item.
  have hmem : ms ∈ objectsOf [.array ws] :=
    List.mem_filterMap.2 ⟨_, List.mem_singleton_self _, hms⟩
  exact filled_of_mem_objectsOf (List.forall_mem_singleton.2 hws) hmem

/-- Merging several values without empty arrays brings in none. -/
theorem filled_foldl_mergePair {acc : Json} (hacc : Representative acc) (hfa : Filled acc)
    {vs : List Json} (hvs : ∀ v ∈ vs, Filled v) : Filled (vs.foldl mergePair acc) := by
  induction vs generalizing acc with
  | nil => exact hfa
  | cons v vs ih =>
    exact ih (representative_mergePair hacc v)
      (filled_mergePair hacc hfa (hvs v List.mem_cons_self)) fun w hw =>
        hvs w (List.mem_cons_of_mem _ hw)

/-! ## What is merged into objects and arrays -/

/-- Merging into an object is merging members into it, none if the value is dropped. -/
private theorem exists_joinMembers (a : Members) {next : Json} (hfn : Filled next) :
    ∃ s, Filled (.object s) ∧ mergePair (.object a) next = .object (joinMembers a s) := by
  have hdropped : Filled (.object []) := .object (by simp)
  cases next with
  | null => exact ⟨[], hdropped, mergePair_null_right _⟩
  | object b => exact ⟨b, hfn, mergePair_object_object a b⟩
  | array ws =>
    rw [mergePair_object_array]
    cases hl : lone? (mergeElements ws) with
    | none => exact ⟨[], hdropped, rfl⟩
    | some m => exact ⟨m, filled_of_objectOf? hfn hl, rfl⟩
  | _ => exact ⟨[], hdropped, mergePair_scalar_right (by simp) rfl⟩

/-- The second reduction holds all items of the first, more members in the object at most. -/
private structure Extends (r r' : Reduction) : Prop where
  others : ∀ w : Json, w.occursIn r.others = true → w.occursIn r'.others = true
  object : ∀ a, r.object = some a →
    ∃ s, Filled (.object s) ∧ r'.object = some (joinMembers a s)

private theorem Extends.refl (r : Reduction) : Extends r r where
  others := fun _ h => h
  object := fun _ ha => ⟨[], .object (by simp), ha⟩

/-- An array that has items and consists of one object in the end has done so all the time. -/
private theorem Extends.exists_lone {r r' : Reduction} (h : Extends r r') (hr : Reduced r)
    (hr' : Reduced r') (hne : r.toList ≠ []) {ms : Members} (hms : lone? r'.toList = some ms) :
    ∃ a s, lone? r.toList = some a ∧ Filled (.object s) ∧ ms = joinMembers a s := by
  rw [lone?_toList hr'] at hms
  split at hms
  · next hothers' =>
    -- Items that are no objects are never given up.
    have hothers : r.others = [] := by
      refine List.eq_nil_iff_forall_not_mem.2 fun v hv => ?_
      have hocc := h.others v
        (List.any_eq_true.2 ⟨v, hv, (hr.items v hv).distinctKeys.same_self⟩)
      rw [hothers'] at hocc
      cases hocc
    cases ho : r.object with
    | none => exact absurd (by simp [Reduction.toList, hothers, ho]) hne
    | some a =>
      obtain ⟨s, hfs, hobject⟩ := h.object a ho
      rw [hobject] at hms
      exact ⟨a, s, by rw [lone?_toList hr, if_pos hothers, ho], hfs, (Option.some.inj hms).symm⟩
  · cases hms

/-- Adding items extends a reduction. -/
private theorem extends_foldl_add {r : Reduction} {ws : List Json} (hws : ∀ w ∈ ws, Filled w) :
    Extends r (ws.foldl (Reduction.add mergePair) r) := by
  rw [foldl_add_eq]
  constructor
  · intro w hw
    exact occursIn_foldl_pushNew (fun u hu => same_self_of_mem_othersOf hu) (.inl hw)
  · intro a ha
    refine ⟨(objectsOf ws).flatten, filled_flatten_objectsOf hws, ?_⟩
    rw [ha, foldl_addMembers_some]

/-- Merging into a representative array extends the reduction behind it. -/
private theorem exists_extends {r : Reduction} (hr : Reduced r) {next : Json} (hfn : Filled next) :
    ∃ r', Reduced r' ∧ Extends r r' ∧ mergePair (.array r.toList) next = .array r'.toList := by
  cases next with
  | null => exact ⟨r, hr, .refl r, mergePair_null_right _⟩
  | array ws =>
    refine ⟨_, hr.foldl_add ws, extends_foldl_add hfn.array_inv.2, ?_⟩
    rw [mergePair_array_array, hr.mergeElements_append]
  | object b =>
    rw [mergePair_array_object, lone?_toList hr]
    split
    · next hothers =>
      -- An array without items drops the object.
      cases ho : r.object with
      | none => exact ⟨r, hr, .refl r, rfl⟩
      | some a =>
        have ha := hr.object a ho
        -- The one object of the array takes in the members, and there are still no others.
        refine ⟨⟨[], some (joinMembers a b)⟩, ?_, ⟨?_, ?_⟩, rfl⟩
        · exact Reduced.of_object (representative_joinMembers ha b)
        · rw [hothers]; exact fun _ h => h
        · rw [ho]
          rintro _ ⟨rfl⟩
          exact ⟨b, hfn, rfl⟩
    · exact ⟨r, hr, .refl r, rfl⟩
  | _ => exact ⟨r, hr, .refl r, mergePair_scalar_right (by simp) rfl⟩

/-! ## What is covered stays covered -/

/-- Whatever covers the value still does when more is merged into it. -/
private def Persists (w : Json) : Prop :=
  ∀ {acc next : Json}, Representative acc → Filled acc → Filled next → Covers acc w →
    Covers (mergePair acc next) w

/-- What is covered stays covered when several values are merged in. -/
private theorem covers_foldl_of_persists {w : Json} (hw : Persists w) {acc : Json}
    (hacc : Representative acc) (hfa : Filled acc) {vs : List Json} (hvs : ∀ v ∈ vs, Filled v)
    (h : Covers acc w) : Covers (vs.foldl mergePair acc) w := by
  induction vs generalizing acc with
  | nil => exact h
  | cons v vs ih =>
    have hv := hvs v List.mem_cons_self
    exact ih (representative_mergePair hacc v) (filled_mergePair hacc hfa hv)
      (fun u hu => hvs u (List.mem_cons_of_mem _ hu)) (hw hacc hfa hv h)

/-- Members that are covered by an object stay so when more members are merged into it. -/
private theorem covers_joinMembers_of_persists {a b s : Members}
    (ha : Representative (.object a)) (hfa : Filled (.object a)) (hfs : Filled (.object s))
    (hb : ∀ m ∈ b, Persists m.2) (h : Covers (.object a) (.object b)) :
    Covers (.object (joinMembers a s)) (.object b) := by
  rw [covers_object_object_iff] at h ⊢
  intro m hm
  obtain ⟨hkey, hvalue⟩ := h m hm
  -- No key is lost, and what stands under it has only been merged with more values.
  constructor
  · rw [keys_joinMembers]
    exact mem_foldl_addKey.2 (.inl hkey)
  · rw [getD_joinMembers]
    exact covers_foldl_of_persists (hb m hm) (ha.getD m.1) (hfa.getD m.1)
      (fun v hv => hfs.object_inv (m.1, v) (mem_column.1 hv)) hvalue

/-- A value that is there does not become null. -/
private theorem mergePair_ne_null {acc : Json} (hacc : Representative acc) (h : acc ≠ .null)
    (next : Json) : mergePair acc next ≠ .null := by
  intro hnull
  -- It is left alone or becomes larger, and nothing is smaller than null.
  rcases mergePair_eq_self_or_grows hacc next with heq | hlt
  · exact h (heq ▸ hnull)
  · rw [hnull] at hlt
    exact absurd hlt (Nat.not_lt_zero _)

/-- What is covered stays covered. -/
theorem Covers.mergePair_left {acc next w : Json} (h : Covers acc w) (hacc : Representative acc)
    (hfa : Filled acc) (hfn : Filled next) : Covers (mergePair acc next) w := by
  -- What covers it varies along the way, so the induction is on what is covered.
  suffices hw : Persists w from hw hacc hfa hfn h
  clear h hacc hfa hfn
  induction w using levelInduction with
  | null => exact fun _ _ _ _ => .null _
  | scalar w hw =>
    intro acc next hacc _ _ h
    refine .scalarRight (mergePair_ne_null hacc ?_ next) hw
    rintro rfl
    rw [covers_null_left_iff.1 h] at hw
    cases hw
  | object b ih =>
    intro acc next hacc hfa hfn h
    cases acc with
    | null => cases covers_null_left_iff.1 h
    | object a =>
      obtain ⟨s, hfs, heq⟩ := exists_joinMembers a hfn
      rw [heq]
      exact covers_joinMembers_of_persists hacc hfa hfs ih h
    | array vs =>
      obtain ⟨r, hr, rfl⟩ := hacc.exists_reduced
      obtain ⟨r', hr', hext, heq⟩ := exists_extends hr hfn
      rw [heq, covers_array_object_iff]
      intro ms hms
      -- If the array consists of one object now, it did before, and only members have been added.
      obtain ⟨a, s, hl, hfs, rfl⟩ := hext.exists_lone hr hr' hfa.array_inv.1 hms
      have hc := covers_array_object_iff.1 h a hl
      rw [lone?_eq_some_iff.1 hl] at hacc hfa
      exact covers_joinMembers_of_persists (representative_lone_iff.1 hacc)
        (hfa.array_inv.2 _ (List.mem_singleton_self _)) hfs ih hc
    | _ => rwa [mergePair_of_isScalar rfl]
  | array ws _ hmembers hlone =>
    intro acc next hacc hfa hfn h
    cases acc with
    | null => cases covers_null_left_iff.1 h
    | object a =>
      obtain ⟨s, hfs, heq⟩ := exists_joinMembers a hfn
      rw [heq, covers_object_array_iff]
      intro ms hms
      exact covers_joinMembers_of_persists hacc hfa hfs (hlone ms hms)
        (covers_object_array_iff.1 h ms hms)
    | array vs =>
      obtain ⟨r, hr, rfl⟩ := hacc.exists_reduced
      obtain ⟨r', hr', hext, heq⟩ := exists_extends hr hfn
      rw [covers_array_array_iff] at h
      rw [heq, covers_array_array_iff, find?_toList hr']
      -- The members that items add stay covered by the merged object, the other items still occur.
      refine ⟨fun ms hms => ?_, fun w hw => ?_⟩
      · have hc := h.1 ms hms
        rw [find?_toList hr] at hc
        cases ho : r.object with
        | none =>
          rw [ho] at hc
          cases covers_null_left_iff.1 hc
        | some a =>
          obtain ⟨s, hfs, hobject⟩ := hext.object a ho
          have hfa' : Filled (.object a) := hfa.array_inv.2 _ (by simp [Reduction.toList, ho])
          rw [ho] at hc
          rw [hobject]
          exact covers_joinMembers_of_persists (hr.object a ho) hfa' hfs (hmembers ms hms) hc
      · have ho := isObject_of_mem_othersOf hw
        rw [occursIn_toList_iff ho]
        exact hext.others w ((occursIn_toList_iff ho).1 (h.2 w hw))
    | _ => rwa [mergePair_of_isScalar rfl]

/-! ## What has been merged is covered -/

/-- Members that have been merged into an object are covered by it, if each of their values is. -/
private theorem covers_joinMembers_right {a b : Members} (ha : Representative (.object a))
    (hfa : Filled (.object a)) (hfb : Filled (.object b))
    (hb : ∀ m ∈ b, ∀ {acc}, Representative acc → Filled acc → Covers (mergePair acc m.2) m.2) :
    Covers (.object (joinMembers a b)) (.object b) := by
  rw [covers_object_object_iff]
  intro m hm
  constructor
  · -- The key is there from now on.
    rw [keys_joinMembers]
    exact mem_foldl_addKey.2 (.inr (List.mem_map.2 ⟨m, hm, rfl⟩))
  · have hcolumn : ∀ v ∈ column m.1 b, Filled v := fun v hv =>
      hfb.object_inv (m.1, v) (mem_column.1 hv)
    -- The value is covered when its turn comes, and whatever comes after it.
    obtain ⟨us, vs, huv⟩ := List.append_of_mem (mem_column.2 hm)
    rw [huv] at hcolumn
    rw [getD_joinMembers, huv, List.foldl_append, List.foldl_cons]
    have hacc := representative_foldl_mergePair (ha.getD m.1) us
    have hfacc := filled_foldl_mergePair (ha.getD m.1) (hfa.getD m.1) fun v hv =>
      hcolumn v (List.mem_append_left _ hv)
    exact covers_foldl_of_persists (fun hacc hfa hfn h => h.mergePair_left hacc hfa hfn)
      (representative_mergePair hacc _) (filled_mergePair hacc hfacc (hfb.object_inv m hm))
      (fun v hv => hcolumn v (by simp [hv])) (hb m hm hacc hfacc)

/-- Items that have been added to a reduction are covered by it. -/
private theorem covers_foldl_add {r : Reduction} (hr : Reduced r) (hfr : ∀ v ∈ r.toList, Filled v)
    {ws : List Json} (hfws : ∀ w ∈ ws, Filled w)
    (hws : ∀ ms ∈ objectsOf ws, ∀ m ∈ ms, ∀ {acc}, Representative acc → Filled acc →
      Covers (mergePair acc m.2) m.2) :
    Covers (.array (ws.foldl (Reduction.add mergePair) r).toList) (.array ws) := by
  rw [covers_array_array_iff, find?_toList (hr.foldl_add ws), foldl_add_eq]
  refine ⟨fun ms hms => ?_, fun w hw => ?_⟩
  · rw [foldl_addMembers _ _ (List.ne_nil_of_mem hms)]
    -- The merged object covers all members that are added, so it covers those of each item.
    have hall := covers_joinMembers_right (representative_getD hr.object) (filled_object_getD hfr)
      (filled_flatten_objectsOf hfws) fun m hm => by
        obtain ⟨ms, hms, hm⟩ := List.mem_flatten.1 hm
        exact hws ms hms m hm
    rw [Option.map_some, Option.getD_some, covers_object_object_iff]
    exact fun m hm => covers_object_object_iff.1 hall m (List.mem_flatten.2 ⟨ms, hms, hm⟩)
  · -- Another item occurs among its like, and so behind them.
    have hself : w.occursIn (othersOf ws) = true :=
      List.any_eq_true.2 ⟨w, hw, same_self_of_mem_othersOf hw⟩
    rw [occursIn_toList_iff (isObject_of_mem_othersOf hw)]
    exact occursIn_foldl_pushNew (fun u hu => same_self_of_mem_othersOf hu) (.inr hself)

/-- What has been merged is covered. -/
theorem covers_mergePair {acc next : Json} (hacc : Representative acc) (hfa : Filled acc)
    (hfn : Filled next) : Covers (mergePair acc next) next := by
  induction next using levelInduction generalizing acc with
  | null => exact .null _
  | scalar v hv =>
    by_cases h : acc = .null
    · rw [h, mergePair_null_left, collapse_of_isScalar hv]
      exact .scalar hv v
    · exact .scalarRight (mergePair_ne_null hacc h v) hv
  | object b ih =>
    have hb : ∀ m ∈ b, ∀ {acc}, Representative acc → Filled acc → Covers (mergePair acc m.2) m.2 :=
      fun m hm _ hacc hfa => ih m hm hacc hfa (hfn.object_inv m hm)
    cases acc with
    | null =>
      rw [mergePair_null_left, collapse_object]
      exact covers_joinMembers_right representative_empty (.object (by simp)) hfn hb
    | object a =>
      rw [mergePair_object_object]
      exact covers_joinMembers_right hacc hfa hfn hb
    | array vs =>
      rw [mergePair_array_object]
      cases hl : lone? vs with
      | none =>
        -- The object has been dropped, but such an array covers every object.
        rw [Option.elim_none, covers_array_object_iff, hl]
        exact fun _ h => nomatch h
      | some m =>
        obtain rfl := lone?_eq_some_iff.1 hl
        rw [Option.elim_some, covers_array_object_iff]
        rintro _ ⟨rfl⟩
        exact covers_joinMembers_right (representative_lone_iff.1 hacc)
          (hfa.array_inv.2 _ (List.mem_singleton_self _)) hfn hb
    | _ => rw [mergePair_of_isScalar rfl]; exact .scalar rfl _
  | array ws _ hmembers hlone =>
    have hfws := hfn.array_inv.2
    have hws : ∀ ms ∈ objectsOf ws, ∀ m ∈ ms, ∀ {acc}, Representative acc → Filled acc →
        Covers (mergePair acc m.2) m.2 := fun ms hms m hm _ hacc hfa =>
      hmembers ms hms m hm hacc hfa ((filled_of_mem_objectsOf hfws hms).object_inv m hm)
    cases acc with
    | null =>
      rw [mergePair_null_left, collapse_array]
      exact covers_foldl_add .empty (by simp [Reduction.empty, Reduction.toList]) hfws hws
    | array vs =>
      obtain ⟨r, hr, rfl⟩ := hacc.exists_reduced
      rw [mergePair_array_array, hr.mergeElements_append]
      exact covers_foldl_add hr hfa.array_inv.2 hfws hws
    | object a =>
      rw [mergePair_object_array]
      cases hl : lone? (mergeElements ws) with
      | none =>
        -- Likewise, an array that is not reduced to an object is dropped and covered.
        rw [Option.elim_none, covers_object_array_iff, objectOf?, hl]
        exact fun _ h => nomatch h
      | some m =>
        have hfm := filled_of_objectOf? hfn hl
        rw [Option.elim_some, covers_object_array_iff, objectOf?, hl]
        rintro _ ⟨rfl⟩
        exact covers_joinMembers_right hacc hfa hfm fun m' hm' _ hacc hfa =>
          hlone m hl m' hm' hacc hfa (hfm.object_inv m' hm')
    | _ => rw [mergePair_of_isScalar rfl]; exact .scalar rfl _

/-! ## Samples that come again -/

/-- What is covered stays covered, whatever comes behind it. -/
private theorem Covers.foldl_left {acc w : Json} (h : Covers acc w) (hacc : Representative acc)
    (hfa : Filled acc) {vs : List Json} (hvs : ∀ v ∈ vs, Filled v) :
    Covers (vs.foldl mergePair acc) w :=
  covers_foldl_of_persists (fun hacc hfa hfn h => h.mergePair_left hacc hfa hfn) hacc hfa hvs h

/-- Samples without empty arrays are covered by what they are merged into. -/
theorem covers_merge {vs : List Json} (hvs : ∀ v ∈ vs, Filled v) {v : Json} (hv : v ∈ vs) :
    Covers (merge vs) v := by
  -- It is covered once its turn has come, and stays so.
  obtain ⟨us, ws, rfl⟩ := List.append_of_mem hv
  have hacc := representative_merge us
  have hfacc : Filled (merge us) := filled_foldl_mergePair .null .null fun u hu =>
    hvs u (List.mem_append_left _ hu)
  have hfv := hvs v hv
  rw [merge, List.foldl_append, List.foldl_cons]
  exact (covers_mergePair hacc hfacc hfv).foldl_left (representative_mergePair hacc v)
    (filled_mergePair hacc hfacc hfv) fun w hw => hvs w (by simp [hw])

/-- Samples without empty arrays add nothing when they come again. -/
theorem merge_append_of_subset {vs ws : List Json} (hvs : ∀ v ∈ vs, Filled v) (hws : ws ⊆ vs) :
    merge (vs ++ ws) = merge vs := by
  rw [merge, List.foldl_append]
  exact foldl_mergePair_eq_self fun w hw =>
    (mergePair_eq_self_iff (representative_merge vs) w).2 (covers_merge hvs (hws hw))

/-- Copies of a sample without empty arrays count once. -/
theorem merge_replicate_of_filled {v : Json} (h : Filled v) (n : Nat) :
    merge (List.replicate (n + 1) v) = merge [v] :=
  merge_append_of_subset (List.forall_mem_singleton.2 h) fun _ hw =>
    List.mem_singleton.2 (List.eq_of_mem_replicate hw)

end Stencil.Schema
