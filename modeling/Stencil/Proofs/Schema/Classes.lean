import Stencil.Proofs.Lists
import Stencil.Proofs.Schema.Coherence

/-!
# Classes of a tree

`Node.composites` goes down from class to class, so it finds a class only if all nodes above it are
classes too. These are all classes of the tree exactly if none stands below a node that is no class.
Trees in which every node with children is a class are `Regular`; for them nothing is left out.

## Key results

- `composites_sublist`: what is found are classes of the tree, in pre-order
- `composites_eq_iff`: all are found iff none stands below a node that is no class
- `regular_infer`: the tree of a sample is regular if at no position the first value keeps an object
  that stands there from being a class
-/

namespace Stencil.Schema

open Json (Members DistinctKeys)

namespace Node

/-! ## The nodes of a tree -/

mutual

/-- The nodes below a node, in pre-order. -/
def descendants : Node → List Node
  | ⟨_, _, children, _, _, _, _⟩ => withDescendants children

/-- Siblings, each followed by the nodes below it. -/
def withDescendants : List Node → List Node
  | [] => []
  | c :: cs => c :: (descendants c ++ withDescendants cs)

end

/-- The nodes below a node are its children, each followed by the nodes below it. -/
theorem descendants_eq (n : Node) :
    n.descendants = n.children.flatMap fun c => c :: c.descendants := by
  obtain ⟨key, tag, children, className, fileName, typeName, docTypeName⟩ := n
  rw [descendants]
  induction children with
  | nil => rfl
  | cons c cs ih => rw [withDescendants, ih, List.flatMap_cons, List.cons_append]

/-- The key of a node makes no difference to what is below it. -/
@[simp] theorem descendants_withKey (n : Node) (key : String) :
    descendants { n with key } = n.descendants := by
  rw [descendants_eq, descendants_eq]

/-- Nor does its file name. -/
@[simp] theorem descendants_withFileName (n : Node) (fileName : Option String) :
    descendants { n with fileName } = n.descendants := by
  rw [descendants_eq, descendants_eq]

/-- What `composites` finds in a child. -/
def found (c : Node) : List Node := if c.isComposite then c.composites else []

/-- A node comes first, then what is found in its children. -/
theorem composites_eq (n : Node) : n.composites = n :: n.children.flatMap found := by
  obtain ⟨key, tag, children, className, fileName, typeName, docTypeName⟩ := n
  rw [composites]
  congr 1
  induction children with
  | nil => rfl
  | cons c cs ih => rw [compositesOf, ih, List.flatMap_cons, found]

/-- To prove something of all trees, it may be taken for granted of the children. -/
theorem childInduction {motive : Node → Prop}
    (h : ∀ n, (∀ c ∈ n.children, motive c) → motive n) (n : Node) : motive n :=
  @Node.rec motive (fun ns => ∀ n ∈ ns, motive n)
    (fun _ _ _ _ _ _ _ ih => h _ ih) (fun _ hn => absurd hn List.not_mem_nil)
    (fun _ _ hn hns => List.forall_mem_cons.2 ⟨hn, hns⟩) n

/-! ## Classes -/

/-- The classes among the nodes below, in pre-order. -/
def classes (n : Node) : List Node := n.descendants.filter (·.isComposite)

/-- No class stands below a node that is none. -/
def ClassesOnTop (n : Node) : Prop :=
  ∀ c ∈ n.descendants, c.isComposite = false → c.classes = []

/-- The classes below a node, child by child. -/
theorem classes_eq (n : Node) :
    n.classes = n.children.flatMap fun c => if c.isComposite then c :: c.classes else c.classes := by
  simp only [classes]
  rw [descendants_eq, List.filter_flatMap]
  simp only [List.filter_cons]

/-- A node below is a child, or below a child. -/
theorem mem_descendants {n d : Node} :
    d ∈ n.descendants ↔ ∃ c ∈ n.children, d = c ∨ d ∈ c.descendants := by
  rw [descendants_eq, List.mem_flatMap]
  simp only [List.mem_cons]

/-- What is below a node that is below is below. -/
theorem mem_descendants_trans {n c d : Node} (hc : c ∈ n.descendants) (hd : d ∈ c.descendants) :
    d ∈ n.descendants := by
  induction n using childInduction with
  | h n ih =>
    rcases mem_descendants.1 hc with ⟨b, hb, rfl | hc⟩
    · exact mem_descendants.2 ⟨c, hb, .inr hd⟩
    · exact mem_descendants.2 ⟨b, hb, .inr (ih b hb hc)⟩

/-- Without classes, none stands below a node that is none. -/
theorem classesOnTop_of_classes_eq_nil {n : Node} (h : n.classes = []) : n.ClassesOnTop := by
  intro c hc _
  rw [classes, List.filter_eq_nil_iff] at h ⊢
  exact fun d hd => h d (mem_descendants_trans hc hd)

/-- The condition in terms of the children. -/
theorem classesOnTop_iff (n : Node) :
    n.ClassesOnTop ↔
      ∀ c ∈ n.children, (c.isComposite = false → c.classes = []) ∧ c.ClassesOnTop := by
  constructor
  · intro h c hc
    exact ⟨h c (mem_descendants.2 ⟨c, hc, .inl rfl⟩),
      fun d hd => h d (mem_descendants.2 ⟨c, hc, .inr hd⟩)⟩
  · intro h d hd
    rcases mem_descendants.1 hd with ⟨c, hc, rfl | hd⟩
    · exact (h d hc).1
    · exact (h c hc).2 d hd

/-- Going down from class to class finds classes, in pre-order. -/
theorem composites_sublist (n : Node) : n.composites.Sublist (n :: n.classes) := by
  induction n using childInduction with
  | h n ih =>
    rw [composites_eq, classes_eq]
    refine .cons_cons n (List.Sublist.flatMap_right _ fun c hc => ?_)
    -- A child is passed over unless it is a class, its classes being left out then.
    rw [found]
    split
    · exact ih c hc
    · exact List.nil_sublist c.classes

/-- All classes are found iff none stands below a node that is no class. -/
theorem composites_eq_iff (n : Node) : n.composites = n :: n.classes ↔ n.ClassesOnTop := by
  induction n using childInduction with
  | h n ih =>
    -- Child by child, what is found is part of what there is.
    have hsub : ∀ c ∈ n.children,
        (found c).Sublist (if c.isComposite then c :: c.classes else c.classes) := by
      intro c _
      rw [found]
      split
      · exact composites_sublist c
      · exact List.nil_sublist _
    rw [composites_eq, classes_eq, List.cons_inj_right, List.flatMap_eq_iff_of_sublist hsub,
      classesOnTop_iff]
    refine forall₂_congr fun c hc => ?_
    rw [found]
    cases hcomposite : c.isComposite with
    | true => simpa [hcomposite] using ih c hc
    | false =>
      -- Nothing is looked for below the child, so there must be no class.
      rw [if_neg Bool.false_ne_true, if_neg Bool.false_ne_true]
      exact ⟨fun h => ⟨fun _ => h.symm, classesOnTop_of_classes_eq_nil h.symm⟩,
        fun h => (h.1 rfl).symm⟩

/-- Every node of the tree that has children is a class. -/
inductive Regular : Node → Prop
  | intro {n : Node} (here : n.children ≠ [] → n.isComposite = true)
      (below : ∀ c ∈ n.children, Regular c) : Regular n

/-- The nodes of a regular tree are regular. -/
theorem Regular.at {n c : Node} {ks : List String} (h : n.Regular) (hat : n.At ks c) :
    c.Regular := by
  induction hat with
  | root => exact h
  | child mem _ ih =>
    cases h with
    | intro _ below => exact ih (below _ mem)

/-- A tree is regular if each node with children at any of its positions is a class. -/
theorem regular_of_at {n : Node}
    (h : ∀ ks c, n.At ks c → c.children ≠ [] → c.isComposite = true) : n.Regular := by
  induction n using childInduction with
  | h n ih =>
    refine .intro (h [] n (.root n)) fun c hc => ih c hc fun ks d hat => ?_
    exact h (c.key :: ks) d (.child hc hat)

/-- In a regular tree, only classes have children. -/
theorem Regular.children_eq_nil {n : Node} (h : n.Regular) (hn : n.isComposite = false) :
    n.children = [] := by
  cases h with
  | intro here _ =>
    refine Decidable.byContradiction fun hne => ?_
    rw [here hne] at hn
    cases hn

/-- In a regular tree, no class stands below a node that is none. -/
theorem Regular.classesOnTop {n : Node} (h : n.Regular) : n.ClassesOnTop := by
  induction h with
  | @intro n _ below ih =>
    rw [classesOnTop_iff]
    refine fun c hc => ⟨fun hcomposite => ?_, ih c hc⟩
    -- Without children, there is nothing below the child at all.
    rw [classes_eq, (below c hc).children_eq_nil hcomposite, List.flatMap_nil]

end Node

/-! ## Trees of samples -/

/-- Wherever an object stands, the first value that is not null is tagged as one with properties, so
that it does not keep the object from being a class. -/
def ObjectsLead (doc : Json) : Prop :=
  ∀ ks, (∃ v ∈ valuesAt [doc] ks, v.isObject = true) →
    (kind (lead (valuesAt [doc] ks))).isComposite = true

/-- A key of an object leads to at most one value. -/
theorem valuesUnder_object (k : String) (ms : Members) :
    valuesUnder k [.object ms] = (ms.get? k).toList := by
  rw [valuesUnder, List.flatMap_singleton, membersIn_object]
  cases hk : ms.get? k <;> simp [hk]

/-- An object does not keep others from being classes, so it depends on its values. -/
theorem objectsLead_object_iff {ms : Members} (hd : ms.keys.Nodup) :
    ObjectsLead (.object ms) ↔ ∀ m ∈ ms, ObjectsLead m.2 := by
  -- The position under a key has one value, which is a document of its own.
  have hbelow : ∀ k ks, valuesAt [.object ms] (k :: ks) = valuesAt (ms.get? k).toList ks := by
    intro k ks
    rw [valuesAt, valuesUnder_object]
  constructor
  · intro h m hm ks hobject
    have hm := h (m.1 :: ks)
    rw [hbelow, Members.get?_of_mem hd ‹_›] at hm
    exact hm hobject
  · rintro h (_ | ⟨k, ks⟩) hobject
    · rfl
    · rw [hbelow] at hobject ⊢
      cases hk : ms.get? k with
      | some v =>
        rw [hk] at hobject
        exact h _ (Members.mem_of_get? hk) ks hobject
      | none =>
        rw [hk, Option.toList_none, valuesAt_nil] at hobject
        obtain ⟨v, hv, -⟩ := hobject
        cases hv

/-- There are no objects in a scalar. -/
theorem objectsLead_of_isScalar {v : Json} (h : v.isScalar = true) : ObjectsLead v := by
  rintro (_ | ⟨k, ks⟩) ⟨w, hw, hobject⟩
  · rw [List.mem_singleton.1 hw] at hobject
    cases v <;> simp_all [Json.isScalar, Json.isObject]
  · -- No key leads anywhere.
    have hnone : valuesUnder k [v] = [] := by
      rw [valuesUnder, List.flatMap_singleton, membersIn_of_isScalar h]
      rfl
    rw [valuesAt, hnone, valuesAt_nil] at hw
    cases hw

variable {refine : Bool} {doc : Json} {root : Node}

/-- If no object is kept from being a class, the tree of a sample is regular. -/
theorem regular_infer (hd : DistinctKeys doc) (h : infer refine doc = .ok root)
    (hlead : ObjectsLead doc) : root.Regular := by
  refine Node.regular_of_at fun ks n hat hn => ?_
  obtain ⟨shape, hbuild, hw⟩ := exists_witnessed_of_at hd h hat
  have htag : n.tag = tagOf refine (valuesAt [doc] ks) := by rw [hbuild, tag_build]
  -- The node has children, so its shape has positions.
  have hbranches : branches (tagOf refine (valuesAt [doc] ks)) shape ≠ [] := by
    intro hnil
    rw [hbuild, children_build, hnil] at hn
    exact hn rfl
  rw [Node.isComposite, htag]
  rcases branches_ne_nil hbranches with hobject | harray
  · -- The shape is an object, so one of the values it was made of is one as well.
    have hvalue : ∃ v ∈ valuesAt [doc] ks, v.isObject = true :=
      hw.reached inherited_object [] hobject
    rw [isComposite_tagOf_of_object hvalue]
    exact hlead ks hvalue
  · rw [harray]
    rfl

end Stencil.Schema
