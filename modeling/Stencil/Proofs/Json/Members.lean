import Stencil.Json.Basic

/-!
# Members of objects

Kinds of values, and what insertion does to the keys and values of an object.

## Key results

- `keys_insert`: an insertion adds its key at the end unless it is there already
- `get?_insert`: looking up a key after an insertion
- `eq_of_getD_eq`: members with distinct keys are determined by their keys and the values under them
-/

namespace Stencil.Json

/-- Whether the value is an object. -/
def isObject : Json → Bool
  | .object _ => true
  | _ => false

/-- Whether the value is a truth value, a number or a text. -/
def isScalar : Json → Bool
  | .bool _ | .number _ | .string _ => true
  | _ => false

namespace Members

@[simp] theorem keys_nil : keys [] = [] := rfl

@[simp] theorem keys_cons (m : String × Json) (ms : Members) :
    keys (m :: ms) = m.1 :: ms.keys := rfl

/-- A member that is found under a key stands among the members. -/
theorem mem_of_get? {ms : Members} {k : String} {v : Json} (h : ms.get? k = some v) :
    (k, v) ∈ ms := by
  induction ms with
  | nil => simp at h
  | cons m ms ih =>
    obtain ⟨k', v'⟩ := m
    rw [get?_cons] at h
    split at h
    · next hk => simp_all
    · exact List.mem_cons_of_mem _ (ih h)

/-- Nothing is found under a key that is not there. -/
theorem get?_eq_none_iff {ms : Members} {k : String} : ms.get? k = none ↔ k ∉ ms.keys := by
  induction ms with
  | nil => simp
  | cons m ms ih =>
    obtain ⟨k', v'⟩ := m
    rw [get?_cons, keys_cons, List.mem_cons, not_or]
    split
    · next hk => simp [hk]
    · next hk => simp [ih, Ne.symm hk]

/-- What stands in front is found first. -/
theorem get?_append (ms ms' : Members) (k : String) :
    get? (ms ++ ms') k = (ms.get? k).or (ms'.get? k) := by
  induction ms with
  | nil => rfl
  | cons m ms ih =>
    obtain ⟨k', v⟩ := m
    rw [List.cons_append, get?_cons, get?_cons]
    split
    · rfl
    · exact ih

/-- Among members for things with names of their own, each is found under the name of its thing. -/
theorem get?_filterMap {α β : Type} {name : α → String} (hname : ∀ a b, name a = name b → a = b)
    (given? : α → Option β) (encode : β → Json) {as : List α} {a : α} (h : a ∈ as) :
    get? (as.filterMap fun a => (given? a).map fun b => (name a, encode b)) (name a) =
      (given? a).map encode := by
  -- If nothing is given for the thing, no other one leaves a member of its name.
  cases hgiven : given? a with
  | none =>
    rw [Option.map_none, get?_eq_none_iff, keys, List.mem_map]
    rintro ⟨m, hm, hk⟩
    obtain ⟨a', -, ha'⟩ := List.mem_filterMap.1 hm
    obtain ⟨b, hb, rfl⟩ := Option.map_eq_some_iff.1 ha'
    obtain rfl := hname _ _ hk
    cases hgiven.symm.trans hb
  | some b =>
    induction as with
    | nil => cases h
    | cons a' as ih =>
      rw [List.filterMap_cons]
      by_cases heq : a' = a
      · rw [heq, hgiven]
        exact if_pos rfl
      · have ha := (List.mem_cons.1 h).resolve_left (Ne.symm heq)
        cases given? a' with
        | none => exact ih ha
        | some b' => exact (if_neg fun hk => heq (hname _ _ hk)).trans (ih ha)

/-- A value that is inserted is found under its key, and all others as before. -/
theorem get?_insert (ms : Members) (k k' : String) (v : Json) :
    (ms.insert k v).get? k' = if k = k' then some v else ms.get? k' := by
  split
  · next h => rw [← h, get?_insert_self]
  · next h => exact get?_insert_of_ne h v ms

/-- What stands among the members after an insertion was there or has been inserted. -/
theorem mem_of_mem_insert {ms : Members} {k : String} {v : Json} {m : String × Json}
    (h : m ∈ ms.insert k v) : m = (k, v) ∨ m ∈ ms := by
  induction ms with
  | nil => simpa [insert] using h
  | cons m' ms ih =>
    obtain ⟨k', v'⟩ := m'
    rw [insert] at h
    split at h
    · next hk =>
      rcases List.mem_cons.1 h with rfl | h
      · exact .inl (by rw [hk])
      · exact .inr (List.mem_cons_of_mem _ h)
    · rcases List.mem_cons.1 h with rfl | h
      · exact .inr List.mem_cons_self
      · exact (ih h).imp_right (List.mem_cons_of_mem _)

/-- An insertion adds its key at the end unless it is there already. -/
theorem keys_insert (ms : Members) (k : String) (v : Json) :
    (ms.insert k v).keys = if k ∈ ms.keys then ms.keys else ms.keys ++ [k] := by
  induction ms with
  | nil => simp [insert]
  | cons m ms ih =>
    obtain ⟨k', v'⟩ := m
    rw [insert]
    -- The first member has the key, or the insertion goes on behind it.
    by_cases hk : k' = k
    · simp [hk]
    · rw [if_neg hk, keys_cons, keys_cons, ih]
      by_cases hm : k ∈ keys ms
      · rw [if_pos hm, if_pos (List.mem_cons_of_mem _ hm)]
      · have hkm : k ∉ k' :: keys ms := List.not_mem_cons_of_ne_of_not_mem (Ne.symm hk) hm
        rw [if_neg hm, if_neg hkm, List.cons_append]

/-- A new key is put at the end. -/
theorem insert_of_not_mem {ms : Members} {k : String} (h : k ∉ ms.keys) (v : Json) :
    ms.insert k v = ms ++ [(k, v)] := by
  induction ms with
  | nil => rfl
  | cons m ms ih =>
    obtain ⟨k', v'⟩ := m
    rw [keys_cons, List.mem_cons, not_or] at h
    rw [insert, if_neg (Ne.symm h.1), ih h.2, List.cons_append]

/-- An insertion makes no key come twice. -/
theorem nodup_keys_insert {ms : Members} (h : ms.keys.Nodup) (k : String) (v : Json) :
    (ms.insert k v).keys.Nodup := by
  rw [keys_insert]
  split
  · exact h
  · next hk =>
    refine List.nodup_append.2 ⟨h, by simp, fun a ha b hb hab => hk ?_⟩
    rwa [← List.mem_singleton.1 hb, ← hab]

/-- Inserting what is there already changes nothing. -/
theorem insert_eq_self {ms : Members} {k : String} {v : Json} (h : ms.get? k = some v) :
    ms.insert k v = ms := by
  induction ms with
  | nil => simp at h
  | cons m ms ih =>
    obtain ⟨k', v'⟩ := m
    rw [get?_cons] at h
    rw [insert]
    split at h
    · next hk => rw [if_pos hk, Option.some.inj h]
    · next hk => rw [if_neg hk, ih h]

/-- Among members with distinct keys, each is found under its key. -/
theorem get?_of_mem {ms : Members} (hd : ms.keys.Nodup) {k : String} {v : Json}
    (h : (k, v) ∈ ms) : ms.get? k = some v := by
  induction ms with
  | nil => simp at h
  | cons m ms ih =>
    obtain ⟨k', v'⟩ := m
    rw [keys_cons, List.nodup_cons] at hd
    rw [get?_cons]
    rcases List.mem_cons.1 h with heq | hm
    · obtain ⟨rfl, rfl⟩ := Prod.mk.inj heq
      rw [if_pos rfl]
    · have hmem : k ∈ keys ms := List.mem_map.2 ⟨_, hm, rfl⟩
      -- The first member has another key, since that of the member looked for comes later.
      have hne : k' ≠ k := fun hk => hd.1 (hk ▸ hmem)
      rw [if_neg hne, ih hd.2 hm]

/-- Members with distinct keys are determined by their keys and the values under them. -/
theorem eq_of_getD_eq {a b : Members} (hd : a.keys.Nodup) (hk : a.keys = b.keys)
    (hv : ∀ k, (a.get? k).getD .null = (b.get? k).getD .null) : a = b := by
  induction a generalizing b with
  | nil =>
    cases b with
    | nil => rfl
    | cons m b => simp at hk
  | cons m a ih =>
    cases b with
    | nil => simp at hk
    | cons m' b =>
      obtain ⟨k, v⟩ := m
      obtain ⟨k', v'⟩ := m'
      simp only [keys_cons, List.cons.injEq] at hk
      obtain ⟨rfl, hk⟩ := hk
      rw [keys_cons, List.nodup_cons] at hd
      -- Under the first key both have their first values.
      have hvv : v = v' := by simpa [get?_cons] using hv k
      rw [hvv, ih hd.2 hk fun k₁ => ?_]
      have hv₁ := hv k₁
      rw [get?_cons, get?_cons] at hv₁
      split at hv₁
      · next heq =>
        -- The first key occurs no more on either side.
        subst heq
        rw [get?_eq_none_iff.2 hd.1, get?_eq_none_iff.2 (hk ▸ hd.1)]
      · exact hv₁

end Members
end Stencil.Json
