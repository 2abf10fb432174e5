import Stencil.Proofs.Schema.KeyOrder
import Stencil.Proofs.Schema.Gathering
import Stencil.Proofs.Schema.Provenance

/-!
# Trees of samples that differ in the order of members

Of two alike samples, the trees differ in the order of siblings only. The values at a position are
alike one by one, so they vote in the same way, and the shapes that are left of them have the same
members in another order.

## Key results

- `tagOf_congr`: alike values give a position the same tag
- `reordered_build`, `reordered_infer`: the trees of alike samples are reordered
-/

namespace Stencil.Schema

open Json (Members Alike)

variable {refine : Bool}

/-- Siblings have distinct keys, and the trees are the same up to the order of siblings. -/
inductive Node.Reordered : Node → Node → Prop
  | intro {n m : Node} (head : { n with children := [] } = { m with children := [] })
      (distinct : (n.children.map (·.key)).Nodup)
      (keys : (n.children.map (·.key)).Perm (m.children.map (·.key)))
      (below : ∀ c ∈ n.children, ∀ d ∈ m.children, c.key = d.key → Node.Reordered c d) :
      Node.Reordered n m

/-! ## Tags -/

/-- Alike numbers are whole together. -/
theorem isWhole_congr {m n : Number} (h : m.same n = true) : m.isWhole = n.isWhole := by
  cases m with
  | whole => cases n <;> first | rfl | cases h
  | real x =>
    cases n with
    | whole => cases h
    | real y =>
      have hpattern : x.pattern = y.pattern := ((Binary64.same_iff x y).1 h).1
      simp only [Number.isWhole, Binary64.isWhole, Binary64.units, hpattern]

/-- Of scalars, only the two zeros are alike and not equal. -/
theorem eq_or_number_of_same {u v : Json} (hu : u.isScalar = true) (h : u.same v = true) :
    u = v ∨ ∃ m n, u = .number m ∧ v = .number n ∧ m.same n = true := by
  -- Only numbers can be written in more than one way.
  cases u with
  | number m =>
    cases v with
    | number n => exact .inr ⟨m, n, rfl, rfl, h⟩
    | _ => cases h
  | bool a =>
    cases v with
    | bool b => exact .inl (congrArg Json.bool (beq_iff_eq.1 h))
    | _ => cases h
  | string a =>
    cases v with
    | string b => exact .inl (congrArg Json.string (beq_iff_eq.1 h))
    | _ => cases h
  | _ => cases hu

/-- Lists of items that vote alike, one by one, have the same votes. -/
theorem votes_congr {us vs : List Json} (h : List.Forall₂ (fun u v => vote u = vote v) us vs) :
    votes us = votes vs := by
  induction h with
  | nil => rfl
  | cons huv _ ih => rw [votes, votes, huv, ih]

/-- Alike values vote for the same. -/
theorem vote_congr {u v : Json} (h : Alike u v) : vote u = vote v := by
  induction h using Alike.itemInduction with
  | null => rfl
  | scalar u v hu _ hs =>
    -- Equal scalars vote alike, and so do numbers that are whole together.
    rcases eq_or_number_of_same hu hs with rfl | ⟨m, n, rfl, rfl, hmn⟩
    · rfl
    · simp only [vote, isWhole_congr hmn]
  | array us vs _ ih => rw [vote, vote, votes_congr (ih.imp fun _ _ huv => huv.2)]
  | object => rfl

/-- Arrays of alike items are of the same kind. -/
theorem kindOfItems_congr {us vs : List Json} (h : List.Forall₂ Alike us vs) :
    kindOfItems us = kindOfItems vs := by
  rw [kindOfItems, kindOfItems, votes_congr (h.imp fun _ _ => vote_congr)]

/-- Alike values have the same tag. -/
theorem kindOf_congr {u v : Json} (h : Alike u v) : kindOf refine u = kindOf refine v := by
  cases h using Alike.elim with
  | null => rfl
  | scalar u v hu hv hs =>
    rcases eq_or_number_of_same hu hs with rfl | ⟨m, n, rfl, rfl, hmn⟩
    · rfl
    · exact if_congr (iff_of_eq (congrArg (· = true) (isWhole_congr hmn))) rfl rfl
  | array us vs h => exact kindOfItems_congr h
  | object => rfl

theorem isNull_of_isScalar {v : Json} (h : v.isScalar = true) : v.isNull = false := by
  cases v <;> first | rfl | cases h

theorem isArray_of_isScalar {v : Json} (h : v.isScalar = true) : v.isArray = false := by
  cases v <;> first | rfl | cases h

theorem itemsOf_of_isScalar {v : Json} (h : v.isScalar = true) : itemsOf v = [] := by
  cases v <;> first | rfl | cases h

/-- A scalar in front leads. -/
theorem lead_cons_of_isScalar {v : Json} (h : v.isScalar = true) (vs : List Json) :
    lead (v :: vs) = v := by
  cases v <;> first | rfl | cases h

/-- Alike values are null together. -/
theorem isNull_congr {u v : Json} (h : Alike u v) : u.isNull = v.isNull := by
  cases h using Alike.elim with
  | scalar _ _ hu hv => rw [isNull_of_isScalar hu, isNull_of_isScalar hv]
  | _ => rfl

/-- Alike values are arrays together. -/
theorem isArray_congr {u v : Json} (h : Alike u v) : u.isArray = v.isArray := by
  cases h using Alike.elim with
  | scalar _ _ hu hv => rw [isArray_of_isScalar hu, isArray_of_isScalar hv]
  | _ => rfl

/-- Alike values have alike items. -/
theorem alike_itemsOf {u v : Json} (h : Alike u v) :
    List.Forall₂ Alike (itemsOf u) (itemsOf v) := by
  cases h using Alike.elim with
  | array us vs h => exact h
  | scalar _ _ hu hv =>
    rw [itemsOf_of_isScalar hu, itemsOf_of_isScalar hv]
    exact .nil
  | _ => exact .nil

/-- The leading values of alike lists are alike. -/
theorem alike_lead {us vs : List Json} (h : List.Forall₂ Alike us vs) :
    Alike (lead us) (lead vs) := by
  induction h with
  | nil => exact .null
  | cons huv _ ih =>
    cases huv using Alike.elim with
    | null => exact ih
    | scalar _ _ hu hv hs =>
      rw [lead_cons_of_isScalar hu, lead_cons_of_isScalar hv]
      exact .scalar hu hv hs
    | array us vs h => exact Json.alike_array_iff.2 h
    | object a b h => exact Json.alike_object_iff.2 h

/-- What alike values have together holds of all values of the one list iff it holds of all of the
other. -/
theorem forall_congr_of_alike {P : Json → Prop} (hP : ∀ {u v}, Alike u v → (P u ↔ P v))
    {us vs : List Json} (h : List.Forall₂ Alike us vs) : (∀ u ∈ us, P u) ↔ ∀ v ∈ vs, P v := by
  induction h with
  | nil => simp
  | cons huv _ ih => rw [List.forall_mem_cons, List.forall_mem_cons, hP huv, ih]

/-- Values that are alike one by one give a position the same tag. -/
theorem tagOf_congr {us vs : List Json} (h : List.Forall₂ Alike us vs) :
    tagOf refine us = tagOf refine vs := by
  have hnull : (∀ u ∈ us, u.isNull = true) ↔ ∀ v ∈ vs, v.isNull = true :=
    forall_congr_of_alike (fun h => by rw [isNull_congr h]) h
  have harrays : (∀ u ∈ us, u.isNull = true ∨ u.isArray = true) ↔
      ∀ v ∈ vs, v.isNull = true ∨ v.isArray = true :=
    forall_congr_of_alike (fun h => by rw [isNull_congr h, isArray_congr h]) h
  have hitems : List.Forall₂ Alike (us.flatMap itemsOf) (vs.flatMap itemsOf) :=
    List.rel_flatMap h fun _ _ => alike_itemsOf
  -- The tag depends on which values are null or arrays, on their items, and on the leading one.
  rw [tagOf_eq, tagOf_eq, kindOfItems_congr hitems, kindOf_congr (alike_lead h)]
  exact if_congr hnull rfl (if_congr harrays rfl rfl)

/-! ## Values below a position -/

/-- The objects found in alike values are alike, one by one. -/
theorem alike_membersIn {u v : Json} (h : Alike u v) :
    List.Forall₂ Members.Alike (membersIn u) (membersIn v) := by
  induction h using Alike.itemInduction with
  | null => exact .nil
  | scalar _ _ hu hv =>
    rw [membersIn_of_isScalar hu, membersIn_of_isScalar hv]
    exact .nil
  | array us vs _ ih =>
    rw [membersIn_array, membersIn_array]
    exact List.rel_flatMap ih fun _ _ huv => huv.2
  | object a b h =>
    rw [membersIn_object, membersIn_object]
    exact .cons h .nil

/-- So are the values under a key. -/
theorem alike_valuesUnder {us vs : List Json} (h : List.Forall₂ Alike us vs) (k : String) :
    List.Forall₂ Alike (valuesUnder k us) (valuesUnder k vs) :=
  List.rel_filterMap (fun _ _ hab => hab.values k) (List.rel_flatMap h fun _ _ => alike_membersIn)

/-! ## Shapes -/

/-- A scalar shows no object. -/
theorem shownObject?_of_isScalar {v : Json} (h : v.isScalar = true) : shownObject? v = none :=
  shownObject?_eq_none (membersIn_of_isScalar h)

/-- Nothing has a position below a scalar. -/
theorem branches_of_isScalar {v : Json} (h : v.isScalar = true) (tag : Tag) :
    branches tag v = [] := by
  cases v <;> first | rfl | cases h

/-- The first object that there is, of alike ones. -/
theorem alike_or {o o' p p' : Option Members} (ho : Option.Rel Members.Alike o o')
    (hp : Option.Rel Members.Alike p p') : Option.Rel Members.Alike (o.or p) (o'.or p') := by
  cases ho with
  | none => exact hp
  | some h => exact .some h

/-- Alike values show alike objects. -/
theorem alike_shownObject? {s t : Json} (h : Alike s t) :
    Option.Rel Members.Alike (shownObject? s) (shownObject? t) := by
  induction h using Alike.itemInduction with
  | null => exact .none
  | scalar _ _ hu hv =>
    rw [shownObject?_of_isScalar hu, shownObject?_of_isScalar hv]
    exact .none
  | array us vs h ih =>
    rw [shownObject?, shownObject?]
    clear h
    -- Item by item: a later object goes first on both sides.
    induction ih with
    | nil => exact .none
    | cons huv _ ihus => exact alike_or ihus huv.2
  | object a b h => exact .some h

/-- Alike shapes have alike members with positions. -/
theorem alike_branches {s t : Json} (h : Alike s t) (tag : Tag) :
    (branches tag s).Alike (branches tag t) := by
  cases h using Alike.elim with
  | object a b h => exact h
  | array us vs h =>
    have hshown := alike_shownObject? (Json.alike_array_iff.2 h)
    rw [branches, branches]
    split
    · rw [shownObject?, shownObject?] at hshown
      -- Only the two objects matter, or that neither is there.
      revert hshown
      generalize lastObject? us = o
      generalize lastObject? vs = o'
      intro hshown
      cases hshown with
      | none => exact .nil
      | some h => exact h
    · exact .nil
  | null => exact .nil
  | scalar _ _ hu hv =>
    rw [branches_of_isScalar hu, branches_of_isScalar hv]
    exact .nil

/-! ## Trees -/

/-- Alike values and shapes are made into trees that differ in the order of siblings only. -/
theorem reordered_build (key : String) {us vs : List Json} (h : List.Forall₂ Alike us vs)
    {s t : Json} (hs : Alike s t) :
    (build refine key us s).Reordered (build refine key vs t) := by
  induction s using memberInduction generalizing key us vs t with
  | h s ih =>
    have htag : tagOf refine us = tagOf refine vs := tagOf_congr h
    have hbranches := alike_branches hs (tagOf refine us)
    refine .intro ?head ?distinct ?keys ?below
    case head =>
      rw [build_eq key us, build_eq key vs, htag]
    case distinct =>
      rw [keys_children_build]
      exact hbranches.left
    case keys =>
      rw [keys_children_build, keys_children_build, ← htag]
      exact hbranches.perm_keys
    case below =>
      intro c hc d hd hkey
      rw [children_build] at hc hd
      obtain ⟨m, hm, rfl⟩ := List.mem_map.1 hc
      obtain ⟨m', hm', rfl⟩ := List.mem_map.1 hd
      rw [key_build, key_build] at hkey
      rw [← htag] at hm'
      -- Under the key of the one there is a value alike, and that is the value of the other.
      obtain ⟨w, hw, halike⟩ := hbranches.exists_right hm
      rw [hkey, Members.get?_of_mem hbranches.right hm'] at hw
      obtain rfl := Option.some.inj hw
      obtain ⟨ms, hms, hmem⟩ := mem_branches hm
      rw [← hkey]
      exact ih ms (mem_membersIn_of_shownObject? hms) m hmem m.1 (alike_valuesUnder h m.1) halike

/-- Samples that differ in the order of members have trees that differ in the order of siblings, or
fail in the same way. -/
theorem reordered_infer {doc doc' : Json} (h : Alike doc doc') :
    (∃ root root', infer refine doc = .ok root ∧ infer refine doc' = .ok root' ∧
      root.Reordered root') ∨
    ∃ p, infer refine doc = .error p ∧ infer refine doc' = .error p := by
  -- The root is made from the sample itself and its shape, which are both alike.
  have htree : (build refine "" [doc] (collapse doc)).Reordered
      (build refine "" [doc'] (collapse doc')) :=
    reordered_build "" (.cons h .nil) (alike_collapse h)
  cases h using Alike.elim with
  | null => exact .inr ⟨_, rfl, rfl⟩
  | scalar _ _ hu hv hs =>
    -- A scalar is no root, and the report only names its tag.
    have hfail : ∀ v : Json, v.isScalar = true →
        infer refine v = .error (.unsupportedRoot (kindOf false v)) := by
      intro v hv
      cases v <;> first | rfl | cases hv
    have hkind : kindOf false doc = kindOf false doc' := kindOf_congr (.scalar hu hv hs)
    exact .inr ⟨_, hfail doc hu, hkind ▸ hfail doc' hv⟩
  | array us vs h => exact .inl ⟨_, _, rfl, rfl, htree⟩
  | object a b h => exact .inl ⟨_, _, rfl, rfl, htree⟩

end Stencil.Schema
