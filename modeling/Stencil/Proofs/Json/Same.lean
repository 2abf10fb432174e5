import Stencil.Proofs.Json.Members

/-!
# Equality up to the order of members

`Json.same` compares objects without regard to the order of their members. It is reflexive on values
whose objects have distinct keys, which all values that are read from a text have, and it is
transitive on all values.

## Key results

- `structuralInduction`: induction on the items of arrays and the members of objects
- `DistinctKeys.same_self`: a value with distinct keys is the same as itself
- `same_trans`: sameness is transitive
-/

namespace Stencil

namespace Number

theorem same_self (n : Number) : n.same n = true := by
  cases n <;> simp [Number.same]

/-- Sameness of numbers is transitive. -/
theorem same_trans {l m n : Number} (h : l.same m = true) (k : m.same n = true) :
    l.same n = true := by
  cases l <;> cases m <;> cases n <;> simp_all [Number.same]
  exact Binary64.same_trans h k

end Number

namespace Json

/-- To prove something of all values, it is enough to prove it of an array whose items have it and
of an object whose members have it. -/
theorem structuralInduction {motive : Json → Prop} (null : motive .null)
    (scalar : ∀ v, v.isScalar = true → motive v)
    (array : ∀ vs, (∀ v ∈ vs, motive v) → motive (.array vs))
    (object : ∀ ms, (∀ m ∈ ms, motive m.2) → motive (.object ms)) (v : Json) : motive v := by
  -- Items and members are smaller than what holds them.
  induction hn : sizeOf v using Nat.strongRecOn generalizing v with
  | ind n ih =>
    subst hn
    cases v with
    | null => exact null
    | array vs =>
      refine array vs fun v hv => ih _ ?_ v rfl
      have := List.sizeOf_lt_of_mem hv
      simp only [Json.array.sizeOf_spec]
      omega
    | object ms =>
      refine object ms fun m hm => ih _ ?_ m.2 rfl
      have := List.sizeOf_lt_of_mem hm
      obtain ⟨k, w⟩ := m
      simp only [Json.object.sizeOf_spec, Prod.mk.sizeOf_spec] at *
      omega
    | _ => exact scalar _ rfl

/-- No object inside the value has a key twice. -/
inductive DistinctKeys : Json → Prop
  | null : DistinctKeys .null
  | scalar {v : Json} (h : v.isScalar = true) : DistinctKeys v
  | array {vs : List Json} (items : ∀ v ∈ vs, DistinctKeys v) : DistinctKeys (.array vs)
  | object {ms : Members} (keys : ms.keys.Nodup) (values : ∀ m ∈ ms, DistinctKeys m.2) :
    DistinctKeys (.object ms)

/-- An array has distinct keys iff its items do. -/
theorem DistinctKeys.array_iff {vs : List Json} :
    DistinctKeys (.array vs) ↔ ∀ v ∈ vs, DistinctKeys v := by
  constructor
  · intro h
    cases h with
    | scalar h => simp [isScalar] at h
    | array items => exact items
  · exact .array

/-- An object has distinct keys iff no key comes twice in it and its values have distinct keys. -/
theorem DistinctKeys.object_iff {ms : Members} :
    DistinctKeys (.object ms) ↔ ms.keys.Nodup ∧ ∀ m ∈ ms, DistinctKeys m.2 := by
  constructor
  · intro h
    cases h with
    | scalar h => simp [isScalar] at h
    | object keys values => exact ⟨keys, values⟩
  · exact fun h => .object h.1 h.2

/-! ## Sameness of arrays and objects -/

/-- Items that are the same as themselves make up arrays that are. -/
theorem sameItems_refl {vs : List Json} (h : ∀ v ∈ vs, v.same v = true) :
    sameItems vs vs = true := by
  induction vs with
  | nil => rfl
  | cons v vs ih =>
    rw [sameItems, h v List.mem_cons_self, ih fun w hw => h w (List.mem_cons_of_mem _ hw)]
    rfl

/-- Each member of the one object stands in the other one under its key, with the same value. -/
theorem sameMembers_iff {a b : Members} :
    sameMembers a b = true ↔ ∀ m ∈ a, ∃ w, b.get? m.1 = some w ∧ m.2.same w = true := by
  induction a with
  | nil => simp [sameMembers]
  | cons m a ih =>
    obtain ⟨k, v⟩ := m
    rw [sameMembers, Bool.and_eq_true, ih, List.forall_mem_cons]
    refine and_congr_left fun _ => ?_
    cases hk : b.get? k <;> simp

/-- A value with distinct keys is the same as itself. -/
theorem DistinctKeys.same_self {v : Json} (h : DistinctKeys v) : v.same v = true := by
  induction h with
  | null => rfl
  | @scalar v h => cases v <;> simp_all [isScalar, same, Number.same_self]
  | array _ ih => rw [same]; exact sameItems_refl ih
  | object hk _ ih =>
    rw [same, beq_self_eq_true, Bool.true_and, sameMembers_iff]
    exact fun m hm => ⟨m.2, Members.get?_of_mem hk hm, ih m hm⟩

/-- Sameness of arrays is transitive if that of their items is. -/
private theorem sameItems_trans {us vs ws : List Json}
    (ht : ∀ u ∈ us, ∀ v w, u.same v = true → v.same w = true → u.same w = true)
    (h : sameItems us vs = true) (k : sameItems vs ws = true) : sameItems us ws = true := by
  -- All three arrays have the same length.
  induction us generalizing vs ws with
  | nil =>
    cases vs with
    | nil => exact k
    | cons v vs => simp [sameItems] at h
  | cons u us ih =>
    cases vs with
    | nil => simp [sameItems] at h
    | cons v vs =>
      cases ws with
      | nil => simp [sameItems] at k
      | cons w ws =>
        rw [sameItems, Bool.and_eq_true] at h k ⊢
        exact ⟨ht u List.mem_cons_self v w h.1 k.1,
          ih (fun u' hu => ht u' (List.mem_cons_of_mem _ hu)) h.2 k.2⟩

/-- Sameness is transitive. -/
theorem same_trans {u v w : Json} (h : u.same v = true) (k : v.same w = true) :
    u.same w = true := by
  induction u using structuralInduction generalizing v w with
  | null => cases v <;> cases w <;> simp_all [same]
  | scalar u hu =>
    cases u <;> simp [isScalar] at hu <;> cases v <;> simp [same] at h <;> cases w <;>
      simp_all [same]
    exact Number.same_trans h k
  | array us ih =>
    cases v <;> simp only [same, Bool.false_eq_true] at h
    cases w <;> simp only [same, Bool.false_eq_true] at k ⊢
    exact sameItems_trans (fun u hu v w => ih u hu) h k
  | object a ih =>
    cases v <;> simp only [same, Bool.false_eq_true, Bool.and_eq_true] at h
    cases w <;> simp only [same, Bool.false_eq_true, Bool.and_eq_true] at k ⊢
    -- The members of the first object are found in the second one, and those in the third.
    refine ⟨by simp_all, sameMembers_iff.2 fun m hm => ?_⟩
    obtain ⟨v, hv, hmv⟩ := sameMembers_iff.1 h.2 m hm
    obtain ⟨w, hw, hvw⟩ := sameMembers_iff.1 k.2 _ (Members.mem_of_get? hv)
    exact ⟨w, hw, ih m hm hmv hvw⟩

end Json
end Stencil
