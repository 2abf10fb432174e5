import Stencil.Proofs.Json.Alike
import Stencil.Proofs.Schema.MergeEquations

/-!
# Merging values whatever the order of their members

Merging puts keys in the order in which it meets them, so it does not give the same value for two
samples that differ in the order of members. But it gives alike ones: it looks members up by their
keys, compares items without regard to the order of members, and asks for nothing else that depends
on that order.

This is proved of one level of merging, for any way to merge the level below that has the property,
and so holds on all levels.

## Key results

- `alike_members`: alike objects are merged into alike ones
- `alike_elements`: lists of alike items are reduced to lists of alike items
- `alike_step`: one level of merging
- `alike_mergePair`, `alike_collapse`: merging values of any depth
-/

namespace Stencil.Schema

open Json (Members Alike)

namespace Merge

/-- Alike values are merged into alike ones. -/
def Respectful (p : Json → Json → Json) : Prop :=
  ∀ {acc acc' next next'}, Alike acc acc' → Alike next next' → Alike (p acc next) (p acc' next')

variable {p : Json → Json → Json}

/-- What is done with related values, where there are any, is related. -/
theorem rel_elim {α β γ δ : Type} {r : α → β → Prop} {s : γ → δ → Prop} {o : Option α}
    {o' : Option β} (h : Option.Rel r o o') {c : γ} {d : δ} {f : α → γ} {g : β → δ} (hnone : s c d)
    (hsome : ∀ a b, r a b → s (f a) (g b)) : s (o.elim c f) (o'.elim d g) := by
  cases h with
  | none => exact hnone
  | some hab => exact hsome _ _ hab

/-! ## Members -/

/-- The value under a key, where members with distinct keys have been merged in. -/
theorem get?_members {b : Members} (hb : b.keys.Nodup) (a : Members) (k : String) :
    (members p a b).get? k =
      (b.get? k).elim (a.get? k) fun v => some (p ((a.get? k).getD .null) v) := by
  unfold members
  induction b generalizing a with
  | nil => rfl
  | cons m b ih =>
    obtain ⟨k', v⟩ := m
    rw [Members.keys_cons, List.nodup_cons] at hb
    rw [List.foldl_cons, ih hb.2, Members.get?_insert, Members.get?_cons]
    by_cases hk : k' = k
    · subst hk
      -- The key does not come again.
      rw [Members.get?_eq_none_iff.2 hb.1]
      simp
    · simp only [hk, if_false]

/-- Merging members in repeats no key. -/
theorem nodup_keys_members {a : Members} (ha : a.keys.Nodup) (b : Members) :
    (members p a b).keys.Nodup := by
  unfold members
  induction b generalizing a with
  | nil => exact ha
  | cons m b ih => exact ih (Members.nodup_keys_insert ha _ _)

/-- Values that may not be there count as null, which is alike to itself. -/
theorem alike_getD {o o' : Option Json} (h : Option.Rel Alike o o') :
    Alike (o.getD .null) (o'.getD .null) := by
  cases h with
  | some h => exact h
  | none => exact .null

/-- Alike members are merged into alike ones. -/
theorem alike_members (hp : Respectful p) {a a' b b' : Members} (ha : a.Alike a')
    (hb : b.Alike b') : (members p a b).Alike (members p a' b') := by
  refine ⟨nodup_keys_members ha.left b, nodup_keys_members ha.right b', fun k => ?_⟩
  rw [get?_members hb.left, get?_members hb.right]
  -- Neither of the two has the key, or both have alike values under it.
  rcases Json.rel_iff.1 (hb.values k) with ⟨hk, hk'⟩ | ⟨v, w, hk, hk', hvw⟩
  · rw [hk, hk']
    exact ha.values k
  · rw [hk, hk']
    exact .some (hp (alike_getD (ha.values k)) hvw)

/-! ## Items -/

/-- The items are alike one by one, and so are the merged objects, if there are any. -/
structure Reduction.Alike (r r' : Reduction) : Prop where
  others : List.Forall₂ Json.Alike r.others r'.others
  object : Option.Rel Members.Alike r.object r'.object

namespace Reduction

theorem Alike.empty : Reduction.Alike .empty .empty := ⟨.nil, .none⟩

/-- A value occurs among items iff an alike one occurs among alike items. -/
theorem occursIn_congr {v v' : Json} (hv : Json.Alike v v') {vs vs' : List Json}
    (h : List.Forall₂ Json.Alike vs vs') : v.occursIn vs = v'.occursIn vs' := by
  unfold Json.occursIn
  induction h with
  | nil => rfl
  | @cons w w' vs vs' hw _ ih =>
    -- Alike values are the same up to the order of keys, so sameness passes from one pair to the
    -- other.
    have hiff : w.same v = true ↔ w'.same v' = true :=
      ⟨fun h => Json.same_trans hw.symm.same (Json.same_trans h hv.same),
        fun h => Json.same_trans hw.same (Json.same_trans h hv.symm.same)⟩
    rw [List.any_cons, List.any_cons, ih, Bool.eq_iff_iff.2 hiff]

variable {r r' : Reduction}

/-- Alike items are pushed together or left out together. -/
theorem Alike.push (h : r.Alike r') {v v' : Json} (hv : Json.Alike v v') :
    (r.push v).Alike (r'.push v') := by
  unfold Reduction.push
  rw [occursIn_congr hv h.others]
  split
  · exact h
  · exact ⟨List.rel_append h.others (.cons hv .nil), h.object⟩

/-- Alike objects are merged into alike ones. -/
theorem Alike.addObject (hp : Respectful p) (h : r.Alike r') {a b : Members} (hab : a.Alike b) :
    (r.addObject p a).Alike (r'.addObject p b) := by
  have hobject : (r.object.getD []).Alike (r'.object.getD []) := by
    rcases r with ⟨_, _ | a⟩ <;> rcases r' with ⟨_, _ | b⟩ <;> cases h.object
    · exact .nil
    · assumption
  exact ⟨h.others, .some (alike_members hp hobject hab)⟩

end Reduction

/-- The members of the object that an array consists of, if it consists of one object. -/
def loneItem? : Json → Option Members
  | .array vs => lone? vs
  | _ => none

/-- An array that is reduced to a single object adds that object, any other one itself. -/
theorem add_array (r : Reduction) (vs : List Json) :
    r.add p (.array vs) =
      (loneItem? (p .null (.array vs))).elim (r.push (p .null (.array vs))) (r.addObject p) := by
  rw [Reduction.add]
  -- The model matches on what the array is reduced to, `loneItem?` says the same as a function.
  split
  · next ms heq => rw [heq]; rfl
  · next hne =>
    cases hl : loneItem? (p .null (.array vs)) with
    | none => rfl
    | some ms =>
      cases hv : p .null (.array vs) with
      | array ws =>
        rw [hv] at hl
        exact absurd hv (lone?_eq_some_iff.1 hl ▸ hne ms)
      | _ => rw [hv] at hl; cases hl

/-- A scalar is pushed as it is. -/
theorem add_of_isScalar {v : Json} (h : v.isScalar = true) (r : Reduction) :
    r.add p v = r.push v := by
  cases v <;> first | rfl | cases h

/-- A list with a scalar in front does not consist of one object. -/
theorem lone?_cons_of_isScalar {v : Json} (h : v.isScalar = true) (vs : List Json) :
    lone? (v :: vs) = none := by
  cases v <;> first | rfl | cases h

/-- Alike lists consist of alike objects, if they consist of one. -/
theorem alike_lone? {vs ws : List Json} (h : List.Forall₂ Alike vs ws) :
    Option.Rel Members.Alike (lone? vs) (lone? ws) := by
  cases h with
  | nil => exact .none
  | cons hvw hrest =>
    cases hvw using Alike.elim with
    | null => exact .none
    | array => exact .none
    | scalar _ _ hv hw =>
      rw [lone?_cons_of_isScalar hv, lone?_cons_of_isScalar hw]
      exact .none
    | object a b hab =>
      -- Only an object that stands alone counts.
      cases hrest with
      | nil => exact .some hab
      | cons => exact .none

/-- Likewise for values that are reduced to an array of one object. -/
theorem alike_loneItem? {u v : Json} (h : Alike u v) :
    Option.Rel Members.Alike (loneItem? u) (loneItem? v) := by
  cases h using Alike.elim with
  | null => exact .none
  | scalar u v hu hv => cases u <;> cases hu <;> cases v <;> cases hv <;> exact .none
  | object => exact .none
  | array us vs h => exact alike_lone? h

/-- Adding alike items keeps reductions alike. -/
theorem Reduction.Alike.add (hp : Respectful p) {r r' : Reduction} (h : r.Alike r') {v v' : Json}
    (hv : Json.Alike v v') : (r.add p v).Alike (r'.add p v') := by
  cases hv using Json.Alike.elim with
  | null => exact h.push .null
  | scalar v v' hv hv' hs =>
    rw [add_of_isScalar hv, add_of_isScalar hv']
    exact h.push (.scalar hv hv' hs)
  | object a b hab => exact h.addObject hp hab
  | array vs ws hvs =>
    have hred := hp .null (Json.alike_array_iff.2 hvs)
    have hlone := alike_loneItem? hred
    rw [add_array, add_array]
    -- Both are reduced to a single object, or neither is.
    exact rel_elim hlone (h.push hred) fun a b hab => h.addObject hp hab

/-- Alike reductions hold alike items. -/
theorem Reduction.Alike.toList {r r' : Reduction} (h : r.Alike r') :
    List.Forall₂ Json.Alike r.toList r'.toList := by
  rcases r with ⟨others, object⟩
  rcases r' with ⟨others', object'⟩
  cases h.object with
  | none => exact List.rel_append h.others .nil
  | some hab => exact List.rel_append h.others (.cons (Json.alike_object_iff.2 hab) .nil)

/-- Lists of alike items are reduced to lists of alike items. -/
theorem alike_elements (hp : Respectful p) {vs ws : List Json} (h : List.Forall₂ Alike vs ws) :
    List.Forall₂ Alike (elements p vs) (elements p ws) := by
  -- Each item keeps the reductions alike.
  suffices hfold : ∀ {r r' : Reduction}, r.Alike r' →
      (vs.foldl (Reduction.add p) r).Alike (ws.foldl (Reduction.add p) r') from
    (hfold .empty).toList
  induction h with
  | nil => exact fun hr => hr
  | cons hvw _ ih => exact fun hr => ih (hr.add hp hvw)

/-! ## Values -/

/-- One level of merging gives alike values. -/
theorem alike_step (hp : Respectful p) : Respectful (step p) := by
  intro acc acc' next next' hacc hnext
  cases hacc using Alike.elim with
  | null =>
    -- There is nothing yet: the value itself is reduced.
    cases hnext using Alike.elim with
    | null => exact .null
    | scalar _ _ hv hw h =>
      rw [step_null_left_scalar hv, step_null_left_scalar hw]
      exact .scalar hv hw h
    | array vs ws h =>
      rw [step_null_left_array, step_null_left_array]
      exact Json.alike_array_iff.2 (alike_elements hp h)
    | object a b h =>
      rw [step_null_left_object, step_null_left_object]
      exact Json.alike_object_iff.2 (alike_members hp .nil h)
  | scalar _ _ hv hw h =>
    rw [step_of_isScalar hv, step_of_isScalar hw]
    exact .scalar hv hw h
  | array us us' hus =>
    cases hnext using Alike.elim with
    | null => exact Json.alike_array_iff.2 hus
    | scalar _ _ hv hw h =>
      rw [step_scalar_right (by simp) hv, step_scalar_right (by simp) hw]
      exact Json.alike_array_iff.2 hus
    | array vs ws h =>
      rw [step_array_array, step_array_array]
      exact Json.alike_array_iff.2 (alike_elements hp (List.rel_append hus h))
    | object a b hab =>
      rw [step_array_object, step_array_object]
      refine Json.alike_array_iff.2 ?_
      -- Either both arrays take the object in, or both stay as they are.
      exact rel_elim (alike_lone? hus) hus fun m n hmn =>
        .cons (Json.alike_object_iff.2 (alike_members hp hmn hab)) .nil
  | object a a' ha =>
    cases hnext using Alike.elim with
    | null => exact Json.alike_object_iff.2 ha
    | scalar _ _ hv hw h =>
      rw [step_scalar_right (by simp) hv, step_scalar_right (by simp) hw]
      exact Json.alike_object_iff.2 ha
    | array vs ws h =>
      rw [step_object_array, step_object_array]
      refine Json.alike_object_iff.2 ?_
      -- Either both arrays are reduced to an object, or both are dropped.
      exact rel_elim (alike_lone? (alike_elements hp h)) ha fun m n hmn => alike_members hp ha hmn
    | object b b' hb =>
      rw [step_object_object, step_object_object]
      exact Json.alike_object_iff.2 (alike_members hp ha hb)

/-- Merging on any number of levels gives alike values. -/
theorem alike_upTo (n : Nat) : Respectful (upTo n) := by
  induction n with
  | zero => exact alike_step fun h _ => h
  | succ n ih => exact alike_step ih

end Merge

open Merge

/-- Merging alike values gives alike values. -/
theorem alike_mergePair : Respectful mergePair := by
  intro acc acc' next next' hacc hnext
  -- One number of levels is enough for both.
  let n := max (max acc.height acc'.height) (max next.height next'.height)
  rw [mergePair_eq_upTo (n := n) (by omega) (by omega),
    mergePair_eq_upTo (n := n) (by omega) (by omega)]
  exact alike_upTo n hacc hnext

/-- Reducing alike values gives alike values. -/
theorem alike_collapse {v w : Json} (h : Alike v w) : Alike (collapse v) (collapse w) :=
  alike_mergePair .null h

end Stencil.Schema
