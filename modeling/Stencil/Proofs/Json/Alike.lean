import Mathlib.Data.List.Forall2
import Mathlib.Data.List.Perm.Subperm
import Stencil.Proofs.Json.Same

/-!
# Values that differ in the order of members

For values with distinct keys, sameness is symmetric as well, and it can be followed downwards:
arrays are `Alike` item by item, objects key by key. This is what two runs have to keep if they
start from values with their members in different orders.

## Key results

- `same_object_iff`: objects are the same iff the same keys have the same values
- `same_symm`: sameness is symmetric
- `alike_array_iff`, `alike_object_iff`: alike values have alike parts
- `Alike.elim`, `Alike.itemInduction`: the forms that two alike values can have
-/

namespace Stencil

theorem Number.same_symm {m n : Number} (h : m.same n = true) : n.same m = true := by
  cases m <;> cases n <;> simp_all [Number.same]
  exact Binary64.same_symm h

namespace Json

/-- The values have distinct keys, and are the same up to the order of members. -/
structure Alike (u v : Json) : Prop where
  left : DistinctKeys u
  right : DistinctKeys v
  same : u.same v = true

/-- The members have the same distinct keys, in any order, and alike values under them. -/
structure Members.Alike (a b : Members) : Prop where
  left : a.keys.Nodup
  right : b.keys.Nodup
  values : ∀ k, Option.Rel Json.Alike (a.get? k) (b.get? k)

/-! ## Sameness of parts -/

/-- Arrays are the same if their items are, one by one. -/
theorem sameItems_iff {us vs : List Json} :
    sameItems us vs = true ↔ List.Forall₂ (fun u v => u.same v = true) us vs := by
  induction us generalizing vs with
  | nil => cases vs <;> simp [sameItems]
  | cons u us ih =>
    cases vs with
    | nil => simp [sameItems]
    | cons v vs => rw [sameItems, Bool.and_eq_true, ih, List.forall₂_cons]

/-- Two values that may be missing are related iff both are missing or both are there. -/
theorem rel_iff {r : Json → Json → Prop} {o o' : Option Json} :
    Option.Rel r o o' ↔
      (o = none ∧ o' = none) ∨ ∃ v w, o = some v ∧ o' = some w ∧ r v w := by
  constructor
  · intro h
    cases h with
    | some h => exact .inr ⟨_, _, rfl, rfl, h⟩
    | none => exact .inl ⟨rfl, rfl⟩
  · rintro (⟨rfl, rfl⟩ | ⟨v, w, rfl, rfl, h⟩)
    · exact .none
    · exact .some h

/-- If each key has related values, or none, on both sides, then both have the same keys. -/
theorem perm_keys_of_rel {r : Json → Json → Prop} {a b : Members} (ha : a.keys.Nodup)
    (hb : b.keys.Nodup) (h : ∀ k, Option.Rel r (a.get? k) (b.get? k)) : a.keys.Perm b.keys := by
  refine (List.perm_ext_iff_of_nodup ha hb).2 fun k => ?_
  rw [← not_iff_not, ← Members.get?_eq_none_iff, ← Members.get?_eq_none_iff]
  rcases rel_iff.1 (h k) with ⟨ha, hb⟩ | ⟨v, w, ha, hb, -⟩
  · rw [ha, hb]
  · simp [ha, hb]

/-- Objects with distinct keys are the same iff the same keys have the same values. -/
theorem same_object_iff {a b : Members} (ha : a.keys.Nodup) (hb : b.keys.Nodup) :
    (Json.object a).same (.object b) = true ↔
      ∀ k, Option.Rel (fun v w => v.same w = true) (a.get? k) (b.get? k) := by
  rw [same, Bool.and_eq_true, beq_iff_eq, sameMembers_iff]
  constructor
  · rintro ⟨hlength, hmembers⟩ k
    -- The key is in the one, and then in the other with the same value, or it is in neither.
    cases hk : a.get? k with
    | some v =>
      obtain ⟨w, hw, hvw⟩ := hmembers _ (Members.mem_of_get? hk)
      rw [hw]
      exact .some hvw
    | none =>
      -- All keys of the one are keys of the other, and there are as many of them.
      have hsub : a.keys ⊆ b.keys := by
        intro k hk
        obtain ⟨m, hm, rfl⟩ := List.mem_map.1 hk
        obtain ⟨w, hw, -⟩ := hmembers m hm
        exact List.mem_map.2 ⟨_, Members.mem_of_get? hw, rfl⟩
      have hle : b.keys.length ≤ a.keys.length := by
        simp only [Members.keys, List.length_map, hlength, Nat.le_refl]
      have hperm : a.keys.Perm b.keys := (List.subperm_of_subset ha hsub).perm_of_length_le hle
      have hnone : k ∉ b.keys := hperm.mem_iff.not.1 (Members.get?_eq_none_iff.1 hk)
      rw [Members.get?_eq_none_iff.2 hnone]
      exact .none
  · intro h
    have hlength : a.length = b.length := by
      simpa [Members.keys] using (perm_keys_of_rel ha hb h).length_eq
    refine ⟨hlength, fun m hm => ?_⟩
    have hk := h m.1
    rw [Members.get?_of_mem ha hm] at hk
    rcases rel_iff.1 hk with ⟨hnone, -⟩ | ⟨v, w, hv, hw, hvw⟩
    · cases hnone
    · exact ⟨w, hw, Option.some.inj hv ▸ hvw⟩

/-- Among values with distinct keys, sameness is symmetric. -/
theorem same_symm {u v : Json} (hu : DistinctKeys u) (hv : DistinctKeys v) (h : u.same v = true) :
    v.same u = true := by
  induction u using structuralInduction generalizing v with
  | null => cases v <;> simp_all [same]
  | scalar u hs =>
    cases u <;> simp [isScalar] at hs <;> cases v <;> simp_all [same]
    exact Number.same_symm h
  -- Item by item.
  | array us ih =>
    cases v with
    | array vs =>
      rw [same, sameItems_iff] at h ⊢
      rw [DistinctKeys.array_iff] at hu hv
      induction h with
      | nil => exact .nil
      | cons huv _ ihus =>
        rw [List.forall_mem_cons] at hu hv ih
        exact .cons (ih.1 hu.1 hv.1 huv) (ihus ih.2 hu.2 hv.2)
    | _ => simp [same] at h
  -- Key by key.
  | object a ih =>
    cases v with
    | object b =>
      rw [DistinctKeys.object_iff] at hu hv
      rw [same_object_iff hu.1 hv.1] at h
      rw [same_object_iff hv.1 hu.1]
      intro k
      rcases rel_iff.1 (h k) with ⟨ha, hb⟩ | ⟨x, y, ha, hb, hxy⟩
      · exact rel_iff.2 (.inl ⟨hb, ha⟩)
      · have hx := Members.mem_of_get? ha
        have hy := Members.mem_of_get? hb
        exact rel_iff.2 (.inr ⟨y, x, hb, ha, ih _ hx (hu.2 _ hx) (hv.2 _ hy) hxy⟩)
    | _ => simp [same] at h

/-! ## Alike values -/

theorem Alike.symm {u v : Json} (h : Alike u v) : Alike v u :=
  ⟨h.right, h.left, same_symm h.left h.right h.same⟩

theorem Alike.null : Alike .null .null := ⟨.null, .null, rfl⟩

/-- Scalars are alike if they are the same. -/
theorem Alike.scalar {u v : Json} (hu : u.isScalar = true) (hv : v.isScalar = true)
    (h : u.same v = true) : Alike u v := ⟨.scalar hu, .scalar hv, h⟩

/-- Arrays are alike iff their items are, one by one. -/
theorem alike_array_iff {us vs : List Json} :
    Alike (.array us) (.array vs) ↔ List.Forall₂ Alike us vs := by
  constructor
  · rintro ⟨hu, hv, h⟩
    rw [same, sameItems_iff] at h
    rw [DistinctKeys.array_iff] at hu hv
    induction h with
    | nil => exact .nil
    | cons huv _ ih =>
      rw [List.forall_mem_cons] at hu hv
      exact .cons ⟨hu.1, hv.1, huv⟩ (ih hu.2 hv.2)
  · intro h
    -- The items of either side have distinct keys, and they are the same.
    refine ⟨.array ?left, .array ?right, ?same⟩
    case same =>
      rw [same, sameItems_iff]
      exact h.imp fun _ _ h => h.same
    case left =>
      induction h with
      | nil => simp
      | cons huv _ ih => exact List.forall_mem_cons.2 ⟨huv.left, ih⟩
    case right =>
      induction h with
      | nil => simp
      | cons huv _ ih => exact List.forall_mem_cons.2 ⟨huv.right, ih⟩

/-- Alike members are alike the other way round. -/
theorem Members.Alike.symm {a b : Members} (h : a.Alike b) : b.Alike a := by
  refine ⟨h.right, h.left, fun k => ?_⟩
  rcases rel_iff.1 (h.values k) with ⟨hak, hbk⟩ | ⟨v, w, hak, hbk, hvw⟩
  · exact rel_iff.2 (.inl ⟨hbk, hak⟩)
  · exact rel_iff.2 (.inr ⟨w, v, hbk, hak, hvw.symm⟩)

/-- For each member on the one side there is one on the other. -/
theorem Members.Alike.exists_right {a b : Members} (h : a.Alike b) {m : String × Json}
    (hm : m ∈ a) : ∃ w, b.get? m.1 = some w ∧ Json.Alike m.2 w := by
  have hget := Members.get?_of_mem h.left hm
  rcases rel_iff.1 (h.values m.1) with ⟨hak, -⟩ | ⟨v, w, hak, hbk, hvw⟩
  · rw [hget] at hak
    cases hak
  · rw [hget] at hak
    exact ⟨w, hbk, Option.some.inj hak ▸ hvw⟩

/-- Alike members have the same keys, in some order. -/
theorem Members.Alike.perm_keys {a b : Members} (h : a.Alike b) : a.keys.Perm b.keys :=
  perm_keys_of_rel h.left h.right h.values

/-- Without members there is nothing to differ in. -/
theorem Members.Alike.nil : Members.Alike [] [] := ⟨by simp, by simp, fun _ => .none⟩

/-- Objects are alike iff their members are. -/
theorem alike_object_iff {a b : Members} : Alike (.object a) (.object b) ↔ a.Alike b := by
  constructor
  · rintro ⟨ha, hb, h⟩
    rw [DistinctKeys.object_iff] at ha hb
    rw [same_object_iff ha.1 hb.1] at h
    refine ⟨ha.1, hb.1, fun k => ?_⟩
    rcases rel_iff.1 (h k) with ⟨hak, hbk⟩ | ⟨v, w, hak, hbk, hvw⟩
    · exact rel_iff.2 (.inl ⟨hak, hbk⟩)
    · have hv := ha.2 _ (Members.mem_of_get? hak)
      have hw := hb.2 _ (Members.mem_of_get? hbk)
      exact rel_iff.2 (.inr ⟨v, w, hak, hbk, hv, hw, hvw⟩)
  · intro h
    refine ⟨.object h.left fun m hm => ?_, .object h.right fun m hm => ?_, ?_⟩
    · obtain ⟨w, -, hw⟩ := h.exists_right hm
      exact hw.left
    · obtain ⟨w, -, hw⟩ := h.symm.exists_right hm
      exact hw.left
    · rw [same_object_iff h.left h.right]
      intro k
      -- The key is in neither, or has alike values in both.
      rcases rel_iff.1 (h.values k) with ⟨hak, hbk⟩ | ⟨v, w, hak, hbk, hvw⟩
      · exact rel_iff.2 (.inl ⟨hak, hbk⟩)
      · exact rel_iff.2 (.inr ⟨v, w, hak, hbk, hvw.same⟩)

/-- The forms that two alike values can have. -/
theorem Alike.elim {motive : ∀ u v, Alike u v → Prop} (null : motive .null .null .null)
    (scalar : ∀ u v (hu : u.isScalar = true) (hv : v.isScalar = true) (h : u.same v = true),
      motive u v (.scalar hu hv h))
    (array : ∀ us vs (h : List.Forall₂ Alike us vs),
      motive (.array us) (.array vs) (alike_array_iff.2 h))
    (object : ∀ a b (h : Members.Alike a b), motive (.object a) (.object b) (alike_object_iff.2 h))
    {u v : Json} (h : Alike u v) : motive u v h := by
  have hsame := h.same
  -- Values of different kinds are never the same.
  cases u with
  | null => cases v <;> first | exact null | cases hsame
  | array us => cases v <;> first | exact array us _ (alike_array_iff.1 h) | cases hsame
  | object a => cases v <;> first | exact object a _ (alike_object_iff.1 h) | cases hsame
  | bool | number | string => cases v <;> first | exact scalar _ _ rfl rfl hsame | cases hsame

/-- To prove something of all alike values, it may be taken for granted of the items of arrays. -/
theorem Alike.itemInduction {motive : ∀ u v, Alike u v → Prop} (null : motive .null .null .null)
    (scalar : ∀ u v (hu : u.isScalar = true) (hv : v.isScalar = true) (h : u.same v = true),
      motive u v (.scalar hu hv h))
    (array : ∀ us vs (h : List.Forall₂ Alike us vs),
      List.Forall₂ (fun u v => ∃ h : Alike u v, motive u v h) us vs →
      motive (.array us) (.array vs) (alike_array_iff.2 h))
    (object : ∀ a b (h : Members.Alike a b), motive (.object a) (.object b) (alike_object_iff.2 h))
    {u v : Json} (h : Alike u v) : motive u v h := by
  induction u using structuralInduction generalizing v with
  | null => cases h using Alike.elim <;> first | exact null | contradiction
  | scalar u hs => cases h using Alike.elim <;> first | exact scalar _ _ ‹_› ‹_› ‹_› | cases hs
  -- The induction is on the items of the first array, along with those of the second.
  | array us ih =>
    cases h using Alike.elim with
    | array us vs h =>
      refine array us vs h ?_
      clear array
      induction h with
      | nil => exact .nil
      | cons huv _ ihus =>
        rw [List.forall_mem_cons] at ih
        exact .cons ⟨huv, ih.1 huv⟩ (ihus ih.2)
    | scalar _ _ hu => cases hu
  | object a _ =>
    cases h using Alike.elim with
    | object a b h => exact object a b h
    | scalar _ _ hu => cases hu

end Json
end Stencil
