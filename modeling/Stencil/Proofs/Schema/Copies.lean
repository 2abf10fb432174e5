import Stencil.Proofs.Schema.Absorption
import Stencil.Proofs.Schema.Rounds

/-!
# The schema of a sample that is repeated

The schema of an array of copies has the shape of that of a single one, as soon as merging a second
copy changes nothing. The tags are another matter: the arrays at a position vote together, so with
each copy all their votes are cast once more.

## Key results

- `mergeElements_replicate`: the shape does not change if it does not change with the second copy
- `tagOf_flatten_replicate_iff`: which positions keep their tag
- `infer_replicate_iff`: a sample that is repeated has the same schema iff its votes are steady
-/

namespace Stencil.Schema

open Json (Members)
open Merge

variable {v : Json} {n : Nat}

/-! ## The shape -/

/-- If the second copy of an item changes nothing, no more of them do. -/
theorem mergeElements_replicate (h : mergeElements [v, v] = mergeElements [v]) (n : Nat) :
    mergeElements (List.replicate (n + 1) v) = mergeElements [v] := by
  have hr : Reduced (Reduction.empty.add mergePair v) := Reduced.empty.add v
  have hstep : (Reduction.empty.add mergePair v).add mergePair v =
      Reduction.empty.add mergePair v := (hr.add v).eq_of_toList_eq hr h
  -- Once the second copy leaves the reduction alone, so does any further one.
  have hfold : (List.replicate n v).foldl (Reduction.add mergePair)
      (Reduction.empty.add mergePair v) = Reduction.empty.add mergePair v := by
    induction n with
    | zero => rfl
    | succ n ih => rw [List.replicate_succ, List.foldl_cons, hstep, ih]
  rw [mergeElements, elements, List.replicate_succ, List.foldl_cons, hfold]
  rfl

/-- The second copy of an item changes nothing, unless it is an object for which merging is not
idempotent. -/
theorem mergeElements_pair_iff :
    mergeElements [v, v] = mergeElements [v] ↔ (v.isObject = true → merge [v, v] = merge [v]) := by
  have hpair : mergeElements [v, v] = ((Reduction.empty.add mergePair v).add mergePair v).toList :=
    rfl
  have hone : mergeElements [v] = (Reduction.empty.add mergePair v).toList := rfl
  rw [hpair, hone, add_eq, add_eq]
  cases ho : objectOf? v with
  | none =>
    -- What is left of the item occurs already when it comes again.
    rw [isObject_eq_false_of_objectOf? ho]
    simp [Reduction.push, Reduction.empty, Json.occursIn, same_self_collapse]
  | some ms =>
    have hobjects : ((Reduction.empty.addObject mergePair ms).addObject mergePair ms).toList =
        (Reduction.empty.addObject mergePair ms).toList ↔
          joinMembers (joinMembers [] ms) ms = joinMembers [] ms := by
      simp [Reduction.addObject, Reduction.toList, Reduction.empty, joinMembers]
    rw [Option.elim_some, Option.elim_some, hobjects]
    cases v with
    | object b =>
      obtain rfl := Option.some.inj ho
      have hmerge : merge [.object b, .object b] =
          .object (joinMembers (joinMembers [] b) b) := by
        rw [merge, List.foldl_cons, List.foldl_cons, mergePair_null_left, collapse_object,
          mergePair_object_object, List.foldl_nil]
      have hmerge' : merge [.object b] = .object (joinMembers [] b) := collapse_object b
      rw [hmerge, hmerge', Json.object.injEq]
      simp [Json.isObject]
    | array vs =>
      -- The members come from a list of objects and are in representative form already.
      have hself := mergePair_self (representative_of_objectOf? ho)
      rw [mergePair_object_object] at hself
      rw [joinMembers_nil_left (representative_of_objectOf? ho)]
      exact iff_of_true (Json.object.inj hself) (by simp [Json.isObject])
    | _ => cases ho

/-! ## The tags -/

/-- The values at a position of copies are copies of those of a single one. -/
theorem valuesAt_replicate (v : Json) (n : Nat) (ks : List String) :
    valuesAt (List.replicate n v) ks = (List.replicate n (valuesAt [v] ks)).flatten := by
  induction n with
  | zero => exact valuesAt_nil ks
  | succ n ih =>
    rw [List.replicate_succ, List.replicate_succ, List.flatten_cons, ← ih, ← valuesAt_append]
    rfl

/-- The first copy has the leading value. -/
theorem lead_flatten_replicate (n : Nat) (vs : List Json) :
    lead (List.replicate (n + 1) vs).flatten = lead vs := by
  induction n with
  | zero => simp
  | succ n ih =>
    rw [List.replicate_succ, List.flatten_cons, lead_append, ih, ite_self]

/-- The votes of copies are copies of the votes. -/
theorem votes_flatten_replicate (n : Nat) (vs : List Json) :
    votes (List.replicate n vs).flatten = (List.replicate n (votes vs)).flatten := by
  simp only [votes_eq_map, List.map_flatten, List.map_replicate]

/-- Copies of items keep the tag iff their votes are steady. -/
theorem kindOfItems_flatten_replicate_iff (n : Nat) (vs : List Json) :
    kindOfItems (List.replicate (n + 1) vs).flatten = kindOfItems vs ↔
      n = 0 ∨ Steady (votes vs) n := by
  rw [kindOfItems, votes_flatten_replicate]
  cases n with
  | zero => simp [kindOfItems]
  | succ n =>
    rw [tally_rounds, kindOfItems, winner_rounds_eq_iff _ (Nat.succ_pos n)]
    simp

/-- Copies of values keep the tag unless they are arrays whose votes are not steady. -/
theorem tagOf_flatten_replicate_iff {refine : Bool} (n : Nat) (vs : List Json) :
    tagOf refine (List.replicate (n + 1) vs).flatten = tagOf refine vs ↔
      n = 0 ∨ ((∀ w ∈ vs, w.isNull = true ∨ w.isArray = true) →
        Steady (votes (vs.flatMap itemsOf)) n) := by
  -- The copies are all null, or all null or arrays, iff a single one is.
  have hall : ∀ P : Json → Prop, (∀ w ∈ (List.replicate (n + 1) vs).flatten, P w) ↔
      ∀ w ∈ vs, P w := by
    intro P
    simp
  have hitems : (List.replicate (n + 1) vs).flatten.flatMap itemsOf =
      (List.replicate (n + 1) (vs.flatMap itemsOf)).flatten := by
    rw [List.flatMap_def, List.map_flatten, List.map_replicate, List.flatten_flatten,
      List.map_replicate, ← List.flatMap_def]
  rw [tagOf_eq, tagOf_eq, hitems, lead_flatten_replicate]
  simp only [hall]
  by_cases hnull : ∀ w ∈ vs, w.isNull = true
  · have hnone : vs.flatMap itemsOf = [] :=
      List.flatMap_eq_nil_iff.2 fun w hw => itemsOf_eq_nil (hnull w hw)
    rw [if_pos hnull, if_pos hnull, hnone]
    exact iff_of_true rfl (.inr fun _ => .inr (.inl (by simp [votes])))
  · rw [if_neg hnull, if_neg hnull]
    -- Votes are only counted if nothing but arrays stands there; else the leading value decides.
    by_cases harrays : ∀ w ∈ vs, w.isNull = true ∨ w.isArray = true
    · rw [if_pos harrays, if_pos harrays, kindOfItems_flatten_replicate_iff]
      exact or_congr_right ⟨fun h _ => h, fun h => h harrays⟩
    · rw [if_neg harrays, if_neg harrays]
      exact iff_of_true rfl (.inr fun h => absurd h harrays)

/-! ## The schema -/

/-- Copies of a sample have the same schema as a single one iff, at all positions below the root,
the votes of arrays are steady. Nothing else can change: the keys and all other tags are the same,
for a sample that can be merged with itself. -/
theorem infer_replicate_iff (h : v.isObject = true → merge [v, v] = merge [v]) (refine : Bool)
    (n : Nat) :
    infer refine (.array (List.replicate (n + 1) v)) = infer refine (.array [v]) ↔
      n = 0 ∨ ∀ root, infer refine (.array [v]) = .ok root → ∀ k ks m, root.At (k :: ks) m →
        (∀ w ∈ valuesAt [v] (k :: ks), w.isNull = true ∨ w.isArray = true) →
          Steady (votes ((valuesAt [v] (k :: ks)).flatMap itemsOf)) n := by
  have hshape := mergeElements_replicate (mergeElements_pair_iff.2 h) n
  have htop : ∀ vs, infer refine (.array vs) =
      .ok (build refine "" [.array vs] (.array (mergeElements vs))) := by
    intro vs
    rw [← collapse_array]
    rfl
  rw [htop, htop, hshape, Except.ok.injEq, build_eq_build_iff]
  -- The shape is the same, so what remains are the tags of its positions.
  constructor
  · intro htags
    refine Decidable.or_iff_not_imp_left.2 fun hn root hroot k ks m hat => ?_
    have htag := htags (k :: ks) m (Except.ok.inj hroot ▸ hat)
    rw [valuesAt_array, valuesAt_array, valuesAt_replicate] at htag
    exact ((tagOf_flatten_replicate_iff n _).1 htag).resolve_left hn
  · intro hsteady ks m hat
    cases ks with
    | nil =>
      -- At the root, all copies cast the same vote.
      rw [valuesAt, valuesAt, tagOf_singleton_array, tagOf_singleton_array, kindOfItems,
        kindOfItems, votes_eq_map, List.map_replicate, winner_tally_replicate, votes_eq_map]
      rfl
    | cons k ks =>
      rw [valuesAt_array, valuesAt_array, valuesAt_replicate]
      exact (tagOf_flatten_replicate_iff n _).2 (hsteady.imp_right fun h => h _ rfl k ks m hat)

/-- Three copies of a mixed array: a vote for a boolean never gets ahead of two for objects. -/
theorem infer_replicate_iff_outnumbered :
    infer false (.array (List.replicate 3 (.object [("x", .array [.object [("a", .null)],
        .bool true, .object [("a", .array [])]])]))) =
      infer false (.array [.object [("x", .array [.object [("a", .null)],
        .bool true, .object [("a", .array [])]])]]) ∧
    Steady (votes [.object [("a", .null)], .bool true, .object [("a", .array [])]]) 2 := by
  have hx := (infer_replicate_iff (v := .object [("x", .array [.object [("a", .null)],
    .bool true, .object [("a", .array [])]])]) (fun _ => rfl) false 2).1 rfl
  have hat (x : Node) : Node.At { key := "", tag := .arrayObject, children := [x] } [x.key] x :=
    .child List.mem_cons_self (.root x)
  exact ⟨rfl, hx.resolve_left (by decide) _ rfl "x" [] _
    (hat { key := "x", tag := .arrayObject, children := [{ key := "a", tag := .array }] })
    (by decide)⟩

/-- With the second copy, texts come after numbers. -/
theorem infer_replicate_two_ne :
    infer false (.array (List.replicate 2
        (.object [("x", .array [.string "a", .number (.whole 1)])]))) ≠
      infer false (.array [.object [("x", .array [.string "a", .number (.whole 1)])]]) := by
  intro h
  have htwo : infer false (.array (List.replicate 2
      (.object [("x", .array [.string "a", .number (.whole 1)])]))) =
    .ok { key := "", tag := .arrayObject, children := [{ key := "x", tag := .array }] } := rfl
  have hone : infer false (.array [.object [("x", .array [.string "a", .number (.whole 1)])]]) =
    .ok { key := "", tag := .arrayObject, children := [{ key := "x", tag := .arrayInt }] } := rfl
  rw [htwo, hone] at h
  simp at h

end Stencil.Schema
