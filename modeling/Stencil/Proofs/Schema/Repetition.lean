import Stencil.Proofs.Schema.Representative

/-!
# Merging the same sample again

Merging never loses anything that the accumulated value holds: a merge that does not leave it alone
makes it larger, in the sense of `weight`. So a value adds nothing to a representative exactly if
each of its parts adds nothing, and this can be said without merging, by `Covers`.

## Key results

- `mergePair_eq_self_or_grows`: merging changes nothing or adds weight
- `mergePair_eq_self_iff`: a value adds nothing to a representative iff the representative covers it
- `merge_replicate_iff`: copies of a sample count once iff its representative covers it
-/

namespace Stencil

namespace Json

mutual

/-- A measure that grows with every item and member and when something takes the place of null. -/
def weight : Json → Nat
  | .null => 0
  | .array vs => weightItems vs + 1
  | .object ms => weightMembers ms + 1
  | _ => 1

/-- The weight of the items of an array. -/
def weightItems : List Json → Nat
  | [] => 0
  | v :: vs => weight v + 1 + weightItems vs

/-- The weight of the members of an object. -/
def weightMembers : Members → Nat
  | [] => 0
  | (_, v) :: ms => weight v + 1 + weightMembers ms

end

/-- A scalar weighs one. -/
theorem weight_of_isScalar {v : Json} (h : v.isScalar = true) : v.weight = 1 := by
  cases v <;> simp_all [isScalar, weight]

/-- The items of two lists weigh what they weigh together. -/
theorem weightItems_append (vs ws : List Json) :
    weightItems (vs ++ ws) = weightItems vs + weightItems ws := by
  induction vs with
  | nil => simp [weightItems]
  | cons v vs ih => rw [List.cons_append, weightItems, weightItems, ih]; omega

/-- So do the members of two objects. -/
theorem weightMembers_append (a b : Members) :
    weightMembers (a ++ b) = weightMembers a + weightMembers b := by
  induction a with
  | nil => simp [weightMembers]
  | cons m a ih => rw [List.cons_append, weightMembers, weightMembers, ih]; omega

/-- Replacing a value changes the weight by the difference. -/
theorem weightMembers_insert {ms : Members} {k : String} {w : Json} (h : ms.get? k = some w)
    (v : Json) : weightMembers (ms.insert k v) + w.weight = weightMembers ms + v.weight := by
  induction ms with
  | nil => simp at h
  | cons m ms ih =>
    obtain ⟨k', v'⟩ := m
    rw [Members.get?_cons] at h
    rw [Members.insert]
    -- The key stands here, or further down.
    split at h
    · next hk =>
      obtain rfl := Option.some.inj h
      rw [if_pos hk, weightMembers, weightMembers]
      omega
    · next hk =>
      have := ih h
      rw [if_neg hk, weightMembers, weightMembers]
      omega

end Json

namespace Schema

open Json (Members)
open Merge

/-! ## Folds that only grow -/

section Growing

variable {α β : Type} {f : α → β → α} {P : α → Prop} {w : α → Nat} {bs : List β}

/-- If no step makes a state smaller, the whole fold leaves it alone or makes it larger. -/
private theorem foldl_grows (hP : ∀ a, P a → ∀ b ∈ bs, P (f a b))
    (hw : ∀ a, P a → ∀ b ∈ bs, f a b = a ∨ w a < w (f a b)) {a : α} (ha : P a) :
    bs.foldl f a = a ∨ w a < w (bs.foldl f a) := by
  induction bs generalizing a with
  | nil => exact .inl rfl
  | cons b bs ih =>
    have hstep := hw a ha b List.mem_cons_self
    have hrest := ih (fun a ha b hb => hP a ha b (List.mem_cons_of_mem _ hb))
      (fun a ha b hb => hw a ha b (List.mem_cons_of_mem _ hb)) (hP a ha b List.mem_cons_self)
    rw [List.foldl_cons]
    -- If either of the two grows, the whole does, since the other does not shrink.
    rcases hstep with hs | hs <;> rcases hrest with hr | hr
    · exact .inl (hr.trans hs)
    · rw [hs] at hr ⊢; exact .inr hr
    · rw [hr]; exact .inr hs
    · exact .inr (Nat.lt_trans hs hr)

/-- A fold that only grows leaves a state alone iff each of its steps does. -/
private theorem foldl_eq_self_iff (hP : ∀ a, P a → ∀ b ∈ bs, P (f a b))
    (hw : ∀ a, P a → ∀ b ∈ bs, f a b = a ∨ w a < w (f a b)) {a : α} (ha : P a) :
    bs.foldl f a = a ↔ ∀ b ∈ bs, f a b = a := by
  induction bs with
  | nil => simp
  | cons b bs ih =>
    have hP' : ∀ a, P a → ∀ b ∈ bs, P (f a b) := fun a ha b hb =>
      hP a ha b (List.mem_cons_of_mem _ hb)
    have hw' : ∀ a, P a → ∀ b ∈ bs, f a b = a ∨ w a < w (f a b) := fun a ha b hb =>
      hw a ha b (List.mem_cons_of_mem _ hb)
    rw [List.foldl_cons, List.forall_mem_cons]
    constructor
    · intro h
      have hb : f a b = a := by
        rcases hw a ha b List.mem_cons_self with hs | hs
        · exact hs
        · -- What the first step adds, the others cannot take away.
          rcases foldl_grows hP' hw' (hP a ha b List.mem_cons_self) with hr | hr
          · exact hr.symm.trans h
          · rw [h] at hr; omega
      rw [hb] at h
      exact ⟨hb, (ih hP' hw').1 h⟩
    · rintro ⟨hb, hbs⟩
      rw [hb]
      exact (ih hP' hw').2 hbs

end Growing

/-! ## Merging only grows -/

/-- Merging the value into a representative one leaves it alone or makes it larger. -/
private def Grows (v : Json) : Prop :=
  ∀ acc, Representative acc → mergePair acc v = acc ∨ acc.weight < (mergePair acc v).weight

/-- Merge one member into an object, as `joinMembers` does it. -/
private def joinMember (a : Members) (m : String × Json) : Members :=
  a.insert m.1 (mergePair ((a.get? m.1).getD .null) m.2)

/-- Merging members is merging one after the other. -/
private theorem foldl_joinMember (a b : Members) : b.foldl joinMember a = joinMembers a b := rfl

/-- Merging one member keeps the form. -/
private theorem representative_joinMember {a : Members} (ha : Representative (.object a))
    (m : String × Json) : Representative (.object (joinMember a m)) :=
  representative_joinMembers ha [m]

/-- A member leaves an object alone or makes it larger, if its value does so to the one there. -/
private theorem joinMember_grows {a : Members} (ha : Representative (.object a))
    {m : String × Json} (hm : Grows m.2) :
    joinMember a m = a ∨ Json.weightMembers a < Json.weightMembers (joinMember a m) := by
  unfold joinMember
  cases hk : a.get? m.1 with
  | none =>
    -- A new key counts even if its value weighs nothing.
    rw [Members.insert_of_not_mem (Members.get?_eq_none_iff.1 hk), Json.weightMembers_append,
      Json.weightMembers]
    exact .inr (by omega)
  | some w =>
    rw [Option.getD_some]
    -- The key is there, so the object grows by what its value grows.
    rcases hm w (ha.object_inv.2 _ (Members.mem_of_get? hk)) with heq | hlt
    · exact .inl (by rw [heq, Members.insert_eq_self hk])
    · have := Json.weightMembers_insert hk (mergePair w m.2)
      exact .inr (by omega)

/-- Members leave an object alone or make it larger, if each of their values does. -/
private theorem joinMembers_grows {a b : Members} (ha : Representative (.object a))
    (hb : ∀ m ∈ b, Grows m.2) :
    joinMembers a b = a ∨ Json.weightMembers a < Json.weightMembers (joinMembers a b) :=
  foldl_grows (P := fun a => Representative (.object a))
    (fun _ ha m _ => representative_joinMember ha m)
    (fun _ ha m hm => joinMember_grows ha (hb m hm)) ha

/-- A new item adds its weight, one that occurs already adds nothing. -/
private theorem pushNew_grows (vs : List Json) (v : Json) :
    pushNew vs v = vs ∨ Json.weightItems vs < Json.weightItems (pushNew vs v) := by
  unfold pushNew
  split
  · exact .inl rfl
  · rw [Json.weightItems_append, Json.weightItems]
    exact .inr (by omega)

/-- So do several items. -/
private theorem foldl_pushNew_grows (vs ws : List Json) :
    ws.foldl pushNew vs = vs ∨ Json.weightItems vs < Json.weightItems (ws.foldl pushNew vs) :=
  foldl_grows (P := fun _ => True) (fun _ _ _ _ => trivial) (fun vs _ w _ => pushNew_grows vs w)
    trivial

/-- What the merged object, if there is one, adds to the weight of an array. -/
private def objectWeight (o : Option Members) : Nat := o.elim 0 fun ms => Json.weightMembers ms + 2

/-- The merged object, if there is one, is representative. -/
private def ObjectReduced (o : Option Members) : Prop :=
  ∀ ms, o = some ms → Representative (.object ms)

/-- The merged object stays representative. -/
private theorem addMembers_reduced {o : Option Members} (ho : ObjectReduced o) (ms : Members) :
    ObjectReduced (addMembers o ms) := by
  intro ms' h
  obtain rfl := Option.some.inj h
  exact representative_joinMembers (representative_getD ho) ms

/-- One more object leaves the merged object alone or makes it larger. -/
private theorem addMembers_grows {o : Option Members} (ho : ObjectReduced o) {ms : Members}
    (hms : ∀ m ∈ ms, Grows m.2) :
    addMembers o ms = o ∨ objectWeight o < objectWeight (addMembers o ms) := by
  cases o with
  -- The first object of all counts even if it is empty.
  | none => exact .inr (by simp [addMembers, objectWeight])
  | some a =>
    simp only [addMembers, Option.getD_some, objectWeight, Option.elim_some]
    rcases joinMembers_grows (ho a rfl) hms with heq | hlt
    · exact .inl (congrArg some heq)
    · exact .inr (by omega)

/-- So do several objects. -/
private theorem foldl_addMembers_grows {o : Option Members} (ho : ObjectReduced o)
    {bs : List Members} (hbs : ∀ ms ∈ bs, ∀ m ∈ ms, Grows m.2) :
    bs.foldl addMembers o = o ∨ objectWeight o < objectWeight (bs.foldl addMembers o) :=
  foldl_grows (f := addMembers) (w := objectWeight) (fun _ ho ms _ => addMembers_reduced ho ms)
    (fun _ ho ms hms => addMembers_grows ho (hbs ms hms)) ho

/-- A reduction weighs what its two groups weigh. -/
private theorem weightItems_toList (r : Reduction) :
    Json.weightItems r.toList = Json.weightItems r.others + objectWeight r.object := by
  rw [Reduction.toList, Json.weightItems_append]
  cases r.object <;> simp [Json.weightItems, Json.weight, objectWeight]

/-- Items leave a reduction alone or make it larger. -/
private theorem foldl_add_grows {r : Reduction} (hr : Reduced r) {ws : List Json}
    (hws : ∀ ms ∈ objectsOf ws, ∀ m ∈ ms, Grows m.2) :
    ws.foldl (Reduction.add mergePair) r = r ∨
      Json.weightItems r.toList <
        Json.weightItems (ws.foldl (Reduction.add mergePair) r).toList := by
  -- The two groups of items grow independently.
  rw [foldl_add_eq, weightItems_toList, weightItems_toList]
  have hobject := foldl_addMembers_grows hr.object hws
  rcases foldl_pushNew_grows r.others (othersOf ws) with ho | ho
  · rcases hobject with hm | hm
    · exact .inl (by rw [ho, hm])
    · exact .inr (by rw [ho]; exact Nat.add_lt_add_left hm _)
  · rcases hobject with hm | hm
    · exact .inr (by rw [hm]; exact Nat.add_lt_add_right ho _)
    · exact .inr (Nat.add_lt_add ho hm)

/-- Merging any value into a representative one leaves it alone or makes it larger. -/
theorem mergePair_eq_self_or_grows {acc : Json} (hacc : Representative acc) (next : Json) :
    mergePair acc next = acc ∨ acc.weight < (mergePair acc next).weight := by
  suffices h : Grows next from h acc hacc
  induction next using levelInduction with
  | null => intro acc _; rw [mergePair_null_right]; exact .inl rfl
  | scalar v hv =>
    intro acc _
    by_cases h : acc = .null
    · rw [h, mergePair_null_left, collapse_of_isScalar hv, Json.weight_of_isScalar hv]
      exact .inr Nat.one_pos
    · -- A scalar is dropped by any value that is there.
      rw [mergePair_scalar_right h hv]; exact .inl rfl
  | object b ih =>
    intro acc hacc
    cases acc with
    | null =>
      rw [mergePair_null_left, collapse_object]
      exact .inr (Nat.succ_pos _)
    | object a =>
      rw [mergePair_object_object]
      rcases joinMembers_grows hacc ih with heq | hlt
      · exact .inl (by rw [heq])
      · exact .inr (by simpa [Json.weight] using hlt)
    | array a =>
      rw [mergePair_array_object]
      -- Only an array of one object takes in the members.
      cases hl : lone? a with
      | none => exact .inl rfl
      | some m =>
        obtain rfl := lone?_eq_some_iff.1 hl
        rcases joinMembers_grows (representative_lone_iff.1 hacc) ih with heq | hlt
        · exact .inl (by rw [Option.elim_some, heq])
        · exact .inr (by simpa [Json.weight, Json.weightItems] using hlt)
    | _ => rw [mergePair_of_isScalar rfl]; exact .inl rfl
  | array ws _ hmembers hlone =>
    intro acc hacc
    cases acc with
    | null =>
      rw [mergePair_null_left, collapse_array]
      exact .inr (Nat.succ_pos _)
    | array a =>
      -- The array is what a reduction holds, so the question is whether that grows.
      obtain ⟨r, hr, rfl⟩ := hacc.exists_reduced
      rw [mergePair_array_array, hr.mergeElements_append]
      rcases foldl_add_grows hr hmembers with heq | hlt
      · exact .inl (by rw [heq])
      · exact .inr (Nat.succ_lt_succ hlt)
    | object a =>
      rw [mergePair_object_array]
      -- An array that is no list of objects is dropped.
      cases hl : lone? (mergeElements ws) with
      | none => exact .inl rfl
      | some m =>
        rcases joinMembers_grows hacc (hlone m hl) with heq | hlt
        · exact .inl (by rw [Option.elim_some, heq])
        · exact .inr (Nat.succ_lt_succ hlt)
    | _ => rw [mergePair_of_isScalar rfl]; exact .inl rfl

/-- Values add nothing one after the other iff each of them adds nothing. -/
theorem foldl_mergePair_eq_self_iff {acc : Json} (hacc : Representative acc) {vs : List Json} :
    vs.foldl mergePair acc = acc ↔ ∀ v ∈ vs, mergePair acc v = acc :=
  foldl_eq_self_iff (P := Representative) (w := Json.weight)
    (fun _ hacc v _ => representative_mergePair hacc v)
    (fun _ hacc v _ => mergePair_eq_self_or_grows hacc v) hacc

/-! ## What adds nothing -/

/-- Members add nothing to an object iff each is there and its value adds nothing to the one there.
-/
theorem joinMembers_eq_self_iff {a b : Members} (ha : Representative (.object a)) :
    joinMembers a b = a ↔
      ∀ m ∈ b, m.1 ∈ a.keys ∧
        mergePair ((a.get? m.1).getD .null) m.2 = (a.get? m.1).getD .null := by
  rw [← foldl_joinMember, foldl_eq_self_iff (P := fun a => Representative (.object a))
    (w := Json.weightMembers) (fun _ ha m _ => representative_joinMember ha m)
    (fun _ ha m _ => joinMember_grows ha fun acc hacc => mergePair_eq_self_or_grows hacc m.2) ha]
  -- What remains is the question for one member: the object is left alone iff its value is.
  refine forall_congr' fun m => forall_congr' fun _ => ?_
  unfold joinMember
  cases hk : a.get? m.1 with
  | none =>
    have hnot := Members.get?_eq_none_iff.1 hk
    rw [Members.insert_of_not_mem hnot]
    simp [hnot]
  | some w =>
    have hmem : m.1 ∈ a.keys := Decidable.not_not.1 fun hnot => by
      rw [Members.get?_eq_none_iff.2 hnot] at hk
      cases hk
    rw [Option.getD_some, and_iff_right hmem]
    constructor
    · intro h
      -- Looking up the key afterwards gives the merged value, which is therefore the old one.
      have hget := Members.get?_insert a m.1 m.1 (mergePair w m.2)
      rw [h, hk, if_pos rfl] at hget
      exact (Option.some.inj hget).symm
    · intro h
      rw [h, Members.insert_eq_self hk]

/-- Items add nothing iff all of them occur already. -/
private theorem foldl_pushNew_eq_self_iff {vs ws : List Json} :
    ws.foldl pushNew vs = vs ↔ ∀ w ∈ ws, w.occursIn vs = true := by
  rw [foldl_eq_self_iff (P := fun _ => True) (w := Json.weightItems) (fun _ _ _ _ => trivial)
    (fun vs _ w _ => pushNew_grows vs w) trivial]
  refine forall_congr' fun w => forall_congr' fun _ => ?_
  unfold pushNew
  split <;> simp_all

/-- Objects add nothing iff the merged object is there and each of them adds nothing to it. -/
private theorem foldl_addMembers_eq_self_iff {o : Option Members} (ho : ObjectReduced o)
    {bs : List Members} :
    bs.foldl addMembers o = o ↔ ∀ ms ∈ bs, ∃ a, o = some a ∧ joinMembers a ms = a := by
  rw [foldl_eq_self_iff (f := addMembers) (w := objectWeight)
    (fun _ ho ms _ => addMembers_reduced ho ms)
    (fun _ ho ms _ => addMembers_grows ho fun m _ acc hacc => mergePair_eq_self_or_grows hacc m.2)
    ho]
  refine forall_congr' fun ms => forall_congr' fun _ => ?_
  cases o <;> simp [addMembers]

/-- Items add nothing to a reduction iff all members that they add are there already, and all their
other reduced items are, too. -/
theorem foldl_add_eq_self_iff {r : Reduction} (hr : Reduced r) {ws : List Json} :
    ws.foldl (Reduction.add mergePair) r = r ↔
      (∀ ms ∈ objectsOf ws, ∃ a, r.object = some a ∧ joinMembers a ms = a) ∧
        ∀ w ∈ othersOf ws, w.occursIn r.others = true := by
  rw [foldl_add_eq, ← foldl_pushNew_eq_self_iff, ← foldl_addMembers_eq_self_iff hr.object]
  -- A reduction is left alone iff both of its parts are.
  obtain ⟨others, object⟩ := r
  rw [Reduction.mk.injEq, and_comm]

/-- The first value covers the second: all that the second would add is there already. -/
inductive Covers : Json → Json → Prop
  | null (v : Json) : Covers v .null
  | scalar {v : Json} (h : v.isScalar = true) (w : Json) : Covers v w
  | scalarRight {v w : Json} (hv : v ≠ .null) (hw : w.isScalar = true) : Covers v w
  | object {a b : Members} (keys : ∀ m ∈ b, m.1 ∈ a.keys)
    (values : ∀ m ∈ b, Covers ((a.get? m.1).getD .null) m.2) : Covers (.object a) (.object b)
  | objectArray {a : Members} {ws : List Json}
    (h : ∀ ms, objectOf? (.array ws) = some ms → Covers (.object a) (.object ms)) :
    Covers (.object a) (.array ws)
  | arrayObject {vs : List Json} {b : Members}
    (h : ∀ ms, lone? vs = some ms → Covers (.object ms) (.object b)) :
    Covers (.array vs) (.object b)
  | array {vs ws : List Json}
    (objects : ∀ ms ∈ objectsOf ws, Covers ((vs.find? Json.isObject).getD .null) (.object ms))
    (others : ∀ w ∈ othersOf ws, w.occursIn vs = true) : Covers (.array vs) (.array ws)

/-- Null covers nothing but null. -/
theorem covers_null_left_iff {w : Json} : Covers .null w ↔ w = .null := by
  constructor
  · intro h
    cases h with
    | null => rfl
    | scalar h => cases h
    | scalarRight hv => exact absurd rfl hv
  · rintro rfl
    exact .null _

/-- An object covers another iff it has all keys of it, and covers what stands under them. -/
theorem covers_object_object_iff {a b : Members} :
    Covers (.object a) (.object b) ↔
      ∀ m ∈ b, m.1 ∈ a.keys ∧ Covers ((a.get? m.1).getD .null) m.2 := by
  constructor
  · intro h
    cases h with
    | scalar h => cases h
    | scalarRight _ hw => cases hw
    | object keys values => exact fun m hm => ⟨keys m hm, values m hm⟩
  · exact fun h => .object (fun m hm => (h m hm).1) fun m hm => (h m hm).2

/-- An object covers an array iff it covers the object that the array is reduced to, if there is
one. -/
theorem covers_object_array_iff {a : Members} {ws : List Json} :
    Covers (.object a) (.array ws) ↔
      ∀ ms, objectOf? (.array ws) = some ms → Covers (.object a) (.object ms) := by
  constructor
  · intro h
    cases h with
    | scalar h => cases h
    | scalarRight _ hw => cases hw
    | objectArray h => exact h
  · exact .objectArray

/-- An array covers an object unless it consists of one that does not. -/
theorem covers_array_object_iff {vs : List Json} {b : Members} :
    Covers (.array vs) (.object b) ↔
      ∀ ms, lone? vs = some ms → Covers (.object ms) (.object b) := by
  constructor
  · intro h
    cases h with
    | scalar h => cases h
    | scalarRight _ hw => cases hw
    | arrayObject h => exact h
  · exact .arrayObject

/-- An array covers another iff its object covers all members that the items of the other add, and
the other items occur in it. -/
theorem covers_array_array_iff {vs ws : List Json} :
    Covers (.array vs) (.array ws) ↔
      (∀ ms ∈ objectsOf ws, Covers ((vs.find? Json.isObject).getD .null) (.object ms)) ∧
        ∀ w ∈ othersOf ws, w.occursIn vs = true := by
  constructor
  · intro h
    cases h with
    | scalar h => cases h
    | scalarRight _ hw => cases hw
    | array objects others => exact ⟨objects, others⟩
  · exact fun h => .array h.1 h.2

/-- The first object among the items is the merged one. -/
theorem find?_toList {r : Reduction} (hr : Reduced r) :
    r.toList.find? Json.isObject = r.object.map .object := by
  have hothers : r.others.find? Json.isObject = none :=
    List.find?_eq_none.2 fun v hv => by simp [hr.noObject v hv]
  rw [Reduction.toList, List.find?_append, hothers]
  cases r.object <;> simp [Json.isObject]

/-- What is left of an item is no object. -/
theorem isObject_of_mem_othersOf {ws : List Json} {w : Json} (h : w ∈ othersOf ws) :
    w.isObject = false := by
  obtain ⟨v, hv, rfl⟩ := List.mem_map.1 h
  have hnone := (List.mem_filter.1 hv).2
  exact (collapse_of_objectOf?_eq_none (Option.isNone_iff_eq_none.1 hnone)).1

/-- What is no object occurs among the items iff it occurs among the others. -/
theorem occursIn_toList_iff {r : Reduction} {w : Json} (hw : w.isObject = false) :
    w.occursIn r.toList = true ↔ w.occursIn r.others = true := by
  -- The merged object is the same as objects only.
  have hobject : ∀ ms, (Json.object ms).same w = false := by
    intro ms
    cases w <;> simp_all [Json.same, Json.isObject]
  rw [Json.occursIn, Reduction.toList, List.any_append, Bool.or_eq_true, Json.occursIn]
  cases r.object <;> simp [hobject]

/-- Members add nothing iff they are covered, if the same holds of each of their values. -/
private theorem joinMembers_eq_self_iff_covers {a b : Members} (ha : Representative (.object a))
    (hb : ∀ m ∈ b, ∀ {acc}, Representative acc → (mergePair acc m.2 = acc ↔ Covers acc m.2)) :
    joinMembers a b = a ↔ Covers (.object a) (.object b) := by
  rw [joinMembers_eq_self_iff ha, covers_object_object_iff]
  exact forall_congr' fun m => forall_congr' fun hm => and_congr_right fun _ =>
    hb m hm (ha.getD m.1)

/-- A value adds nothing to a representative one iff that covers it. -/
theorem mergePair_eq_self_iff {acc : Json} (hacc : Representative acc) (next : Json) :
    mergePair acc next = acc ↔ Covers acc next := by
  induction next using levelInduction generalizing acc with
  | null => exact iff_of_true (mergePair_null_right acc) (.null acc)
  | scalar v hv =>
    by_cases h : acc = .null
    · rw [h, mergePair_null_left, collapse_of_isScalar hv, covers_null_left_iff]
    · exact iff_of_true (mergePair_scalar_right h hv) (.scalarRight h hv)
  | object b ih =>
    cases acc with
    -- Null is left alone by null only.
    | null => rw [mergePair_null_left, collapse_object, covers_null_left_iff]; simp
    | object a =>
      rw [mergePair_object_object, ← joinMembers_eq_self_iff_covers hacc ih, Json.object.injEq]
    | array a =>
      rw [mergePair_array_object, covers_array_object_iff]
      cases hl : lone? a with
      | none => simp
      | some m =>
        obtain rfl := lone?_eq_some_iff.1 hl
        have hjoin := joinMembers_eq_self_iff_covers (representative_lone_iff.1 hacc) ih
        simpa using hjoin
    | _ => exact iff_of_true (mergePair_of_isScalar rfl _) (.scalar rfl _)
  | array ws _ hmembers hlone =>
    cases acc with
    | null => rw [mergePair_null_left, collapse_array, covers_null_left_iff]; simp
    | object a =>
      -- The object that the array is reduced to is what has to be covered.
      rw [mergePair_object_array, covers_object_array_iff, objectOf?]
      cases hl : lone? (mergeElements ws) with
      | none => simp
      | some m => simp [joinMembers_eq_self_iff_covers hacc (hlone m hl)]
    | array a =>
      obtain ⟨r, hr, rfl⟩ := hacc.exists_reduced
      -- The items of a reduction determine it, so the question is about the reduction.
      have hself : (ws.foldl (Reduction.add mergePair) r).toList = r.toList ↔
          ws.foldl (Reduction.add mergePair) r = r :=
        ⟨(hr.foldl_add ws).eq_of_toList_eq hr, fun h => by rw [h]⟩
      rw [mergePair_array_array, hr.mergeElements_append, Json.array.injEq, hself,
        foldl_add_eq_self_iff hr, covers_array_array_iff, find?_toList hr]
      refine and_congr (forall_congr' fun ms => forall_congr' fun hms => ?_)
        (forall_congr' fun w => forall_congr' fun hw =>
          (occursIn_toList_iff (isObject_of_mem_othersOf hw)).symm)
      -- Covering the members of an item takes a merged object.
      cases ho : r.object with
      | none => simp [covers_null_left_iff]
      | some a => simpa using joinMembers_eq_self_iff_covers (hr.object a ho) (hmembers ms hms)
    | _ => exact iff_of_true (mergePair_of_isScalar rfl _) (.scalar rfl _)

/-! ## Copies of a sample -/

/-- Copies of a sample count once iff the representative of the sample covers it. -/
theorem merge_replicate_iff (v : Json) (n : Nat) :
    merge (List.replicate (n + 1) v) = merge [v] ↔ n = 0 ∨ Covers (collapse v) v := by
  have hfold : merge (List.replicate (n + 1) v) =
      (List.replicate n v).foldl mergePair (collapse v) := rfl
  have hone : merge [v] = collapse v := rfl
  rw [hfold, hone, foldl_mergePair_eq_self_iff (representative_collapse v),
    ← mergePair_eq_self_iff (representative_collapse v)]
  -- Any number of further copies adds nothing iff one does.
  cases n with
  | zero => simp
  | succ n => simp only [List.mem_replicate, forall_eq_apply_imp_iff, and_imp]; simp

/-- An object that met an empty array is left out the first time and merged in the second time, when
the array has got an object. -/
theorem merge_replicate_two_ne :
    merge (List.replicate 2 (.array [.object [("k", .array [])],
        .object [("k", .object [("a", .bool true)])],
        .object [("k", .array [.object [("b", .bool true)]])]])) ≠
      merge [.array [.object [("k", .array [])], .object [("k", .object [("a", .bool true)])],
        .object [("k", .array [.object [("b", .bool true)]])]]] := by
  intro h
  -- The first copy gives the array an object, so that the second one can add `a` to it.
  have htwo : merge (List.replicate 2 (.array [.object [("k", .array [])],
      .object [("k", .object [("a", .bool true)])],
      .object [("k", .array [.object [("b", .bool true)]])]])) =
    .array [.object [("k", .array [.object [("b", .bool true), ("a", .bool true)]])]] := rfl
  have hone : merge [.array [.object [("k", .array [])],
      .object [("k", .object [("a", .bool true)])],
      .object [("k", .array [.object [("b", .bool true)]])]]] =
    .array [.object [("k", .array [.object [("b", .bool true)]])]] := rfl
  rw [htwo, hone] at h
  simp at h

end Schema
end Stencil
