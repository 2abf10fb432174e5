import Stencil.Proofs.Format.Filling
import Stencil.Proofs.Profile.Builtin
import Stencil.Proofs.Schema.Subtypes

/-!
# Balance while formatting

Formatting renders templates of the profile, and fails if one of them is not balanced. All templates
that a check has seen are balanced, and it has seen those of all tags but the extended ones: a tree in
which texts are refined can still come upon a template that is not.

## Key results

- `named_unbalanced`: for which nodes a checked profile fails for its balance
- `tree_unbalanced`: for which trees it does
-/

namespace Stencil

open Schema (Node)

namespace Schema.Node

/-! ## The tags of a tree -/

/-- Some node of the tree has the tag. -/
def Carries (n : Node) (tag : Tag) : Prop := ∃ c ∈ n :: n.descendants, c.tag = tag

/-- A tree carries a tag iff its root or a tree below it does. -/
theorem carries_iff {n : Node} {tag : Tag} :
    n.Carries tag ↔ n.tag = tag ∨ ∃ c ∈ n.children, c.Carries tag := by
  constructor
  · rintro ⟨d, hd, htag⟩
    rcases List.mem_cons.1 hd with rfl | hd
    · exact .inl htag
    · obtain ⟨c, hc, hd⟩ := mem_descendants.1 hd
      exact .inr ⟨c, hc, d, List.mem_cons.2 hd, htag⟩
  · rintro (htag | ⟨c, hc, d, hd, htag⟩)
    · exact ⟨n, List.mem_cons_self, htag⟩
    · exact ⟨d, List.mem_cons_of_mem n (mem_descendants.2 ⟨c, hc, List.mem_cons.1 hd⟩), htag⟩

/-- Sorting keeps the tags. -/
theorem carries_sorted {n : Node} {tag : Tag} : n.sorted.Carries tag ↔ n.Carries tag := by
  induction n using childInduction with
  | h n ih =>
    have htag : n.sorted.tag = n.tag := by rw [sorted_eq]
    rw [carries_iff, carries_iff, htag]
    refine or_congr_right ⟨?_, ?_⟩
    · rintro ⟨c, hc, h⟩
      obtain ⟨c', hc', rfl⟩ := mem_children_sorted.1 hc
      exact ⟨c', hc', (ih c' hc').1 h⟩
    · rintro ⟨c, hc, h⟩
      exact ⟨c.sorted, mem_children_sorted.2 ⟨c, hc, rfl⟩, (ih c hc).2 h⟩

/-- Once the refinement is taken back, no refined tag is left. -/
theorem not_carries_plain {n : Node} {tag : Tag} (h : tag ∈ Tag.extended) :
    ¬n.plain.Carries tag := by
  -- Taking back the refinement gives no refined tag.
  have htag : ∀ t : Tag, t.plain ≠ tag := by
    intro t
    revert h
    cases t <;> cases tag <;> decide
  induction n using childInduction with
  | h n ih =>
    rw [carries_iff, plain_eq]
    rintro (hn | ⟨c, hc, hcarries⟩)
    · exact htag n.tag hn
    · obtain ⟨c', hc', rfl⟩ := List.mem_map.1 hc
      exact ih c' hc' hcarries

end Schema.Node

/-- Without refinement, no tree has a refined tag. -/
theorem Schema.refine_of_carries {refine : Bool} {doc : Json} {root : Node} {tag : Tag}
    (hroot : Schema.infer refine doc = .ok root) (h : tag ∈ Tag.extended)
    (hcarries : root.Carries tag) : refine = true := by
  cases refine with
  | true => rfl
  | false =>
    -- What is inferred without refinement is the plain tree.
    have hplain : ∃ n : Node, root = n.plain := by
      cases doc with
      | object ms => exact ⟨_, (Except.ok.inj hroot).symm.trans (plain_build _ _ _).symm⟩
      | array vs => exact ⟨_, (Except.ok.inj hroot).symm.trans (plain_build _ _ _).symm⟩
      | _ => cases hroot
    obtain ⟨n, rfl⟩ := hplain
    exact absurd hcarries (Node.not_carries_plain h)

namespace Format

variable {p : Profile} {o : FormatOptions} {n m root : Node} {i : Imbalance}

/-- Giving the root its name, and sorting, keeps the tags. -/
theorem carries_start {tag : Tag} : (start o root).Carries tag ↔ root.Carries tag := by
  have hkey : ∀ key, Node.Carries { root with key := key } tag ↔ root.Carries tag := by
    intro key
    rw [Node.carries_iff, Node.carries_iff]
  rw [start]
  -- Sorted or not, with a key of its own or not.
  split
  · rw [Node.carries_sorted]
    split
    · exact hkey _
    · rfl
  · split
    · exact hkey _
    · rfl

/-! ## Single nodes -/

/-- The profile gives a template for the extended tag that is not balanced. -/
def Unbalanced (p : Profile) (tag : Tag) (i : Imbalance) : Prop :=
  tag ∈ Tag.extended ∧
    ∃ t ∈ [p.types, p.docTypes], ∃ s, t.given? tag = some s ∧ imbalance? s.toList = some i

/-- Templates that hold names only are balanced. -/
theorem not_unbalanced (hp : p.NamesOnly) {tag : Tag} : ¬Unbalanced p tag i := by
  rintro ⟨-, t, ht, s, hgiven, hi⟩
  have hentry : NameTemplate (t.entry tag) := by
    simp only [List.mem_cons, List.not_mem_nil, or_false] at ht
    rcases ht with rfl | rfl
    · exact hp.types tag
    · exact hp.docTypes tag
  rw [TypeTable.entry_of_given hgiven] at hentry
  rw [hentry.imbalance?_eq_none] at hi
  cases hi

/-- Class names do not fail for balance: the check has seen the template. -/
theorem className_ne_unbalanced (hp : p.WellFormed) (key : String) :
    className p o key ≠ .error (.unbalanced i) := by
  intro h
  rw [className] at h
  split at h
  · cases h
  · rw [renderInline_eq_unbalanced_iff, hp.className] at h
    cases h

/-- Nor do file names, which come from a template of the profile or from the default one. -/
theorem fileName_ne_unbalanced (hp : p.WellFormed) : fileName p n ≠ .error (.unbalanced i) := by
  intro h
  have hrender := bind_pure_eq_error_iff.1 h
  rw [renderInline_eq_unbalanced_iff] at hrender
  split at hrender
  · have hdefault : imbalance? defaultFileNameTemplate.toList = none := by decide +kernel
    rw [hdefault] at hrender
    cases hrender
  · rw [hp.fileName] at hrender
    cases hrender

/-- Giving a node its class name does not fail for balance. -/
theorem classed_ne_unbalanced (hp : p.WellFormed) : classed p o n ≠ .error (.unbalanced i) := by
  intro h
  rw [classed] at h
  split at h
  · exact className_ne_unbalanced hp _ (bind_pure_eq_error_iff.1 h)
  · cases h

/-- Giving a node its file name does not fail for balance. -/
theorem filedClass_ne_unbalanced (hp : p.WellFormed) :
    filedClass p n ≠ .error (.unbalanced i) := by
  intro h
  rw [filedClass] at h
  split at h
  · exact fileName_ne_unbalanced hp (bind_pure_eq_error_iff.1 h)
  · cases h

/-- The types of a node fail for balance only through the template of an extended tag. -/
theorem typed_unbalanced (hp : p.WellFormed) (h : typed p n = .error (.unbalanced i)) :
    Unbalanced p n.tag i := by
  -- The type is rendered first, the type for comments afterwards.
  rcases bind_eq_error_iff.1 h with h | ⟨_, -, h⟩
  · obtain ⟨htag, hgiven⟩ := hp.types.exists_given (renderInline_eq_unbalanced_iff.1 h)
    exact ⟨htag, p.types, by simp, hgiven⟩
  · obtain ⟨htag, hgiven⟩ :=
      hp.docTypes.exists_given (renderInline_eq_unbalanced_iff.1 (bind_pure_eq_error_iff.1 h))
    exact ⟨htag, p.docTypes, by simp, hgiven⟩

/-- Only the templates of extended tags can make a node fail. -/
theorem named_unbalanced (hp : p.WellFormed) (h : named p o n = .error (.unbalanced i)) :
    Unbalanced p n.tag i := by
  rw [named_eq] at h
  rcases bind_eq_error_iff.1 h with h | ⟨n₁, hclass, h⟩
  · exact absurd h (classed_ne_unbalanced hp)
  · -- The types are those of the node with its class name, which has the same tag.
    obtain ⟨c?, rfl, -⟩ := classed_inv hclass
    rcases bind_eq_error_iff.1 h with h | ⟨n₂, -, h⟩
    · exact typed_unbalanced (n := { n with className := c? }) hp h
    · exact absurd h (filedClass_ne_unbalanced hp)

/-- A node with a tag whose template is not balanced cannot be named. -/
theorem named_ne_ok (h : Unbalanced p n.tag i) : named p o n ≠ .ok m := by
  intro hnamed
  obtain ⟨c?, s, d, f?, -, -, -, htype, hdocType⟩ := named_steps hnamed
  obtain ⟨-, t, ht, s', hgiven, hi⟩ := h
  have hfails : ∀ name view, renderInline name (t.entry n.tag) view = .error (.unbalanced i) := by
    intro name view
    rwa [TypeTable.entry_of_given hgiven, renderInline_eq_unbalanced_iff]
  simp only [List.mem_cons, List.not_mem_nil, or_false] at ht
  -- One of the two templates could not have been rendered.
  rcases ht with rfl | rfl
  · cases htype.symm.trans (hfails _ _)
  · cases hdocType.symm.trans (hfails _ _)

/-! ## Trees -/

/-- A checked profile fails for its balance only in trees with refined texts, and only if the template
of the refinement is not balanced. Trees with such a text cannot be formatted. -/
theorem tree_unbalanced {refine : Bool} {doc : Json} (hp : p.check = .ok ())
    (hroot : Schema.infer refine doc = .ok root) (o : FormatOptions) :
    (∀ i, tree p o root = .error (.unbalanced i) →
      refine = true ∧ ∃ tag, root.Carries tag ∧ Unbalanced p tag i) ∧
    (∀ tag i, root.Carries tag → Unbalanced p tag i → ∀ t, tree p o root ≠ .ok t) := by
  rw [Profile.check_eq_ok_iff] at hp
  constructor
  · intro i h
    rw [tree_eq] at h
    -- A node has failed, or the name of the root's file.
    rcases bind_eq_error_iff.1 h with h | ⟨m, -, h⟩
    · obtain ⟨c, hc, hnamed⟩ := exists_named_eq_error h
      have hunbalanced := named_unbalanced hp hnamed
      have hcarries : root.Carries c.tag := carries_start.1 ⟨c, hc, rfl⟩
      exact ⟨Schema.refine_of_carries hroot hunbalanced.1 hcarries, c.tag, hcarries, hunbalanced⟩
    · rw [filed] at h
      split at h
      · cases h
      · exact absurd (bind_pure_eq_error_iff.1 h) (fileName_ne_unbalanced hp)
  · -- Formatting would have to get past the node with that tag.
    intro tag i hcarries hunbalanced t h
    obtain ⟨c, hc, rfl⟩ := carries_start.2 hcarries
    rw [tree_eq] at h
    obtain ⟨m, hnodes, -⟩ := bind_eq_ok_iff.1 h
    obtain ⟨c', hc'⟩ := exists_named_of_mem hnodes hc
    exact named_ne_ok hunbalanced hc'

/-- A root with a length of time below it. -/
def durationBelow : Node :=
  { key := "", tag := .object, children := [{ key := "d", tag := .duration }] }

private theorem infer_durationBelow :
    Schema.infer true (.object [("d", .string "1h")]) = .ok durationBelow := by
  have htag : Schema.tagOf true [.string "1h"] = .duration := by decide +kernel
  rw [durationBelow, ← htag]
  rfl

/-- All templates of Go are balanced. -/
theorem tree_ne_unbalanced_go :
    Profile.go.check = .ok () ∧
    Schema.infer true (.object [("d", .string "1h")]) = .ok durationBelow ∧
    ∀ i, tree .go {} durationBelow ≠ .error (.unbalanced i) := by
  have hcheck := Profile.check_builtin .go (by decide)
  refine ⟨hcheck, infer_durationBelow, fun i h => ?_⟩
  obtain ⟨-, tag, -, hunbalanced⟩ := (tree_unbalanced hcheck infer_durationBelow {}).1 i h
  exact not_unbalanced (Profile.namesOnly_of_builtin .go (by decide)) hunbalanced

/-- The check does not see the template for lengths of time, and a tree with one fails. -/
theorem exists_tree_unbalanced :
    let p : Profile :=
      { code := "p"
        types := { TypeTable.uniform "t" with duration := some "\x7b\x7bProperties\x7d\x7d" } }
    p.check = .ok () ∧
    ∃ root, Schema.infer true (.object [("d", .string "1h")]) = .ok root ∧
      tree p {} root = .error (.unbalanced (.unclosed .properties 0)) := by
  intro p
  have hcheck : p.check = .ok () := by decide +kernel
  refine ⟨hcheck, durationBelow, infer_durationBelow, ?_⟩
  -- Only the failure is evaluated, there is no tree to compare.
  have herror : (match tree p {} durationBelow with
      | .error e => some e
      | .ok _ => none) = some (.unbalanced (.unclosed .properties 0)) := by
    decide +kernel
  split at herror
  · next e he => rw [he, Option.some.inj herror]
  · cases herror

end Format

end Stencil
