import Stencil.Proofs.Format.Filling

/-!
# What formatting changes, and what it leaves alone

Formatting fills in names, and may bring the properties of classes into the order of their keys. All
else of a tree stays as it was: which nodes there are, which keys and tags they have, and the order of
all other children.

An inferred tree has no names yet, so each name that a formatted tree has is one that it has been given.

## Key results

- `arranged_nodes`: what a named tree has in common with the tree before it was sorted
- `complete_named`: which names a single node is given
- `tree_postcondition`: what a formatted tree has in common with the inferred one, and its names
-/

namespace Stencil

open Schema (Node infer build)

namespace Schema.Node

/-- The second tree is the first one up to the names of nodes: each key and tag is kept. So is the order
of children, unless they are the properties of a class and `sort` is set: then they stand in the order
of their keys. -/
inductive Arranged (sort : Bool) : Node → Node → Prop
  | intro {n m : Node} (key : m.key = n.key) (tag : m.tag = n.tag) (cs : List Node)
    (perm : cs.Perm n.children)
    (kept : (sort && n.isComposite) = false → cs = n.children)
    (inOrder : (sort && n.isComposite) = true → cs.Pairwise fun a b => a.key ≤ b.key)
    (below : List.Forall₂ (Arranged sort) cs m.children) : Arranged sort n m

/-- The node has neither a class name nor a file name. -/
def Nameless (n : Node) : Prop := n.className = none ∧ n.fileName = none

/-! ## Sorting, if it is asked for -/

/-- The tree with its classes sorted, if `sort` is set. -/
def sortedIf (sort : Bool) (n : Node) : Node := if sort then n.sorted else n

/-- The children in the order that they have after sorting. -/
def childrenIf (sort : Bool) (n : Node) : List Node :=
  if sort && n.isComposite then byKey n.children else n.children

/-- Sorting goes on below the children once these are in order. -/
theorem sortedIf_eq (sort : Bool) (n : Node) :
    n.sortedIf sort = { n with children := (n.childrenIf sort).map (sortedIf sort) } := by
  cases sort with
  -- Nothing is sorted on any level.
  | false =>
    have hid : sortedIf false = id := rfl
    have hchildren : n.childrenIf false = n.children := rfl
    rw [hid, hchildren, List.map_id]
    cases n
    rfl
  | true =>
    have hsorted : sortedIf true = sorted := rfl
    rw [hsorted, sorted_eq, childrenIf, Bool.true_and]
    -- A class is sorted after its children have been, which gives the same as before.
    split
    · rw [map_sorted_byKey]
    · rfl

/-- The order of children is all that sorting changes. -/
theorem childrenIf_perm (sort : Bool) (n : Node) : (n.childrenIf sort).Perm n.children := by
  unfold childrenIf
  split
  · exact byKey_perm n.children
  · exact .refl n.children

/-- The nodes of a sorted tree are those of the tree, sorted. -/
theorem exists_sortedIf_of_mem {sort : Bool} {n d : Node}
    (hd : d ∈ n.sortedIf sort :: (n.sortedIf sort).descendants) :
    ∃ c ∈ n :: n.descendants, d = c.sortedIf sort := by
  induction n using childInduction with
  | h n ih =>
    -- It is the root, sorted, or it is below a child, which is sorted on its own.
    rcases List.mem_cons.1 hd with rfl | hd
    · exact ⟨n, List.mem_cons_self, rfl⟩
    · obtain ⟨c', hc', hd⟩ := mem_descendants.1 hd
      rw [sortedIf_eq] at hc'
      obtain ⟨c, hc, rfl⟩ := List.mem_map.1 hc'
      have hc : c ∈ n.children := (n.childrenIf_perm sort).mem_iff.1 hc
      obtain ⟨b, hb, rfl⟩ := ih c hc (List.mem_cons.2 hd)
      exact ⟨b, List.mem_cons_of_mem n (mem_descendants.2 ⟨c, hc, List.mem_cons.1 hb⟩), rfl⟩

/-- Sorting gives no names. -/
theorem nameless_sortedIf {sort : Bool} {n : Node} (h : ∀ c ∈ n :: n.descendants, c.Nameless) :
    ∀ d ∈ n.sortedIf sort :: (n.sortedIf sort).descendants, d.Nameless := by
  intro d hd
  obtain ⟨c, hc, rfl⟩ := exists_sortedIf_of_mem hd
  rw [sortedIf_eq]
  exact h c hc

end Schema.Node

/-! ## Inferred trees -/

/-- All nodes of an inferred tree have been built in the same way. -/
theorem Schema.exists_build_of_mem {refine : Bool} {key : String} {samples : List Json}
    {shape : Json} {d : Node}
    (hd : d ∈ build refine key samples shape :: (build refine key samples shape).descendants) :
    ∃ key samples shape, d = build refine key samples shape := by
  -- The induction is on the tree, so that it is named.
  generalize hn : build refine key samples shape = n at hd
  induction n using Node.childInduction generalizing key samples shape with
  | h n ih =>
    rcases List.mem_cons.1 hd with rfl | hd
    · exact ⟨key, samples, shape, hn.symm⟩
    · obtain ⟨c, hc, hd⟩ := Node.mem_descendants.1 hd
      have hbuilt : c ∈ (build refine key samples shape).children := hn ▸ hc
      rw [Schema.children_build] at hbuilt
      obtain ⟨m, -, hm⟩ := List.mem_map.1 hbuilt
      exact ih c hc hm (List.mem_cons.2 hd)

/-- No node of an inferred tree has a name. -/
theorem Schema.nameless_of_infer {refine : Bool} {doc : Json} {root : Node}
    (h : infer refine doc = .ok root) : ∀ d ∈ root :: root.descendants, d.Nameless := by
  intro d hd
  rw [eq_build_of_infer h] at hd
  obtain ⟨key, samples, shape, rfl⟩ := exists_build_of_mem hd
  rw [build_eq]
  exact ⟨rfl, rfl⟩

namespace Format

variable {p : Profile} {o : FormatOptions} {n m : Node}

/-! ## The shape of a named tree -/

/-- A tree that has been sorted and named is the tree before that, up to order and names. -/
theorem arranged_nodes {sort : Bool} (h : nodes p o (n.sortedIf sort) = .ok m) :
    Node.Arranged sort n m := by
  induction n using Node.childInduction generalizing m with
  | h n ih =>
    obtain ⟨⟨hkey, htag⟩, -, -, hchildren⟩ := nodes_inv h
    rw [Node.sortedIf_eq] at hkey htag hchildren
    dsimp only at hkey htag hchildren
    have hperm := n.childrenIf_perm sort
    -- Children are sorted on their own, and then named in the order that they have now.
    have hbelow : List.Forall₂ (Node.Arranged sort) (n.childrenIf sort) m.children := by
      rw [List.forall₂_map_left_iff] at hchildren
      have hmem : ∀ c ∈ n.childrenIf sort, c ∈ n.children := fun c hc => hperm.mem_iff.1 hc
      exact ((List.forall₂_and_left _ _).2 ⟨hmem, hchildren⟩).imp fun c d hcd => ih c hcd.1 hcd.2
    refine .intro hkey htag (n.childrenIf sort) hperm (fun hkept => ?_) (fun hsorted => ?_) hbelow
    · simp only [Node.childrenIf, hkept, Bool.false_eq_true, if_false]
    · simp only [Node.childrenIf, hsorted, if_true]
      exact Node.pairwise_byKey n.children

/-! ## The names of single nodes -/

/-- The node has its types, a class name if it is a class, and a file name if it should have one. What
names of files end in for the profile is there. -/
structure Complete (p : Profile) (hasFile : Bool) (n : Node) : Prop where
  typeName : n.typeName.isSome = true
  docTypeName : n.docTypeName.isSome = true
  className : n.className.isSome = n.isComposite
  fileName : n.fileName.isSome = hasFile
  extension : ∀ f, n.fileName = some f → ∃ stem, f = stem ++ p.extension

/-- Whatever stands in front, names of files end in the same way. -/
theorem fileName_inv {f : String} (h : fileName p n = .ok f) : ∃ stem, f = stem ++ p.extension := by
  obtain ⟨stem, -, h⟩ := bind_eq_ok_iff.1 h
  exact ⟨stem, (Except.ok.inj h).symm⟩

/-- A node without names is given those that it should have, and no others. -/
theorem complete_named (hn : n.Nameless) (h : named p o n = .ok m) : Complete p m.isComposite m := by
  obtain ⟨c?, t, d, f?, rfl, hclass, hother, -, -⟩ := named_steps h
  -- The tag has stayed the same, so `n` tells whether the node is a class.
  show Complete p n.isComposite _
  cases hcomposite : n.isComposite with
  | true =>
    obtain ⟨⟨c, -, rfl⟩, f, hf, rfl⟩ := hclass hcomposite
    refine ⟨rfl, rfl, hcomposite.symm, rfl, fun f' hf' => ?_⟩
    obtain rfl := Option.some.inj hf'
    exact fileName_inv hf
  | false =>
    obtain ⟨rfl, rfl⟩ := hother hcomposite
    -- A node that is no class had no names, and has got none.
    refine ⟨rfl, rfl, ?_, ?_, fun f' hf' => ?_⟩
    · show n.className.isSome = n.isComposite
      rw [hn.1, hcomposite]
      rfl
    · show n.fileName.isSome = false
      rw [hn.2]
      rfl
    · have hnone : n.fileName = some f' := hf'
      rw [hn.2] at hnone
      cases hnone

/-- All nodes of a tree without names are given those that they should have. -/
theorem complete_nodes (hn : ∀ c ∈ n :: n.descendants, c.Nameless) (h : nodes p o n = .ok m) :
    ∀ d ∈ m :: m.descendants, Complete p d.isComposite d := by
  intro d hd
  obtain ⟨c, hc, hcd⟩ := exists_nodes_of_mem_descendants h hd
  obtain ⟨d', hnamed, heq⟩ := exists_named_of_nodes hcd
  have hcomplete := complete_named (hn c hc) hnamed
  -- The children of a node are no part of its names.
  rw [heq]
  exact ⟨hcomplete.1, hcomplete.2, hcomplete.3, hcomplete.4, hcomplete.5⟩

/-! ## Inferred trees, formatted -/

/-- The root of an inferred tree, which has no key, takes the name of the root class. -/
theorem start_of_infer {refine : Bool} {doc : Json} {root : Node}
    (h : infer refine doc = .ok root) :
    start o root = Node.sortedIf o.sortProperties { root with key := rootName o } := by
  have hkey : root.key.isEmpty = true := by
    rw [Schema.eq_build_of_infer h, Schema.key_build]
    rfl
  rw [start, hkey]
  rfl

/-- Formatting an inferred tree keeps its keys and tags, but for the root, which takes the name of the
root class. It keeps the order of children as well, unless properties are sorted. Every node gets its
types, the classes get class names and file names, the root gets a file name in any case, and no other
node gets any of these. -/
theorem tree_postcondition {refine : Bool} {doc : Json} {root t : Node}
    (hroot : infer refine doc = .ok root) (h : tree p o root = .ok t) :
    Node.Arranged o.sortProperties
      { root with
        key := if Text.isBlank o.rootClassName then defaultRootClassName else o.rootClassName } t ∧
    Complete p true t ∧ ∀ d ∈ t.descendants, Complete p d.isComposite d := by
  rw [tree_eq, start_of_infer hroot] at h
  obtain ⟨m, hnodes, hfiled⟩ := bind_eq_ok_iff.1 h
  have harranged := arranged_nodes hnodes
  have hcomplete := complete_nodes (Node.nameless_sortedIf ?nameless) hnodes
  case nameless =>
    -- Neither the key of the root nor the order of children is a name.
    have hnameless := Schema.nameless_of_infer hroot
    rw [List.forall_mem_cons] at hnameless ⊢
    rwa [Node.descendants_withKey]
  -- All that is left to do is to give the root a file if it has none.
  obtain ⟨f, rfl, hf⟩ := filed_inv hfiled
  have hm := hcomplete m List.mem_cons_self
  refine ⟨?_, ⟨hm.1, hm.2, hm.3, rfl, fun f' hf' => ?_⟩, fun d hd => ?_⟩
  · cases harranged with
    | intro key tag cs perm kept inOrder below => exact .intro key tag cs perm kept inOrder below
  · -- The file of the root was its own as a class, or has been made for it.
    obtain rfl := Option.some.inj hf'
    rcases hf with hf | ⟨-, hf⟩
    · exact hm.extension f hf
    · exact fileName_inv hf
  · rw [Node.descendants_withFileName] at hd
    exact hcomplete d (List.mem_cons_of_mem m hd)

/-- The properties of the root are sorted, and those of the class below it, which has moved. -/
theorem tree_postcondition_sorted :
    let doc : Json :=
      .object [("b", .object [("z", .bool true), ("y", .string "s")]), ("a", .array [.null])]
    let p : Profile :=
      { code := "p", fileExtension := "x", classNameTemplate := "C", fileNameTemplate := "f" }
    let o : FormatOptions := { rootClassName := "Doc", sortProperties := true }
    let typed (key : String) (tag : Tag) : Node :=
      { key, tag, typeName := some "", docTypeName := some "" }
    let root : Node :=
      { key := "", tag := .object
        children :=
          [{ key := "b", tag := .object
             children := [{ key := "z", tag := .bool }, { key := "y", tag := .string }] },
            { key := "a", tag := .array }] }
    let t : Node :=
      { typed "Doc" .object with
        className := some "C", fileName := some "f.x"
        children :=
          [typed "a" .array,
            { typed "b" .object with
              className := some "C", fileName := some "f.x"
              children := [typed "y" .string, typed "z" .bool] }] }
    infer false doc = .ok root ∧ tree p o root = .ok t ∧
    Node.Arranged true { root with key := "Doc" } t ∧ Complete p true t := by
  intro doc p o typed root t
  have hroot : infer false doc = .ok root := rfl
  have hname : rootName o = "Doc" := by decide +kernel
  -- The templates for names hold no marks, so they stand for themselves.
  have hclass : ∀ key, className p o key = .ok "C" := by
    intro key
    have hblank : Text.isBlank p.classNameTemplate = false := by decide +kernel
    rw [className, hblank, if_neg Bool.false_ne_true, renderInline_plain (by decide)]
  have hfile : ∀ n, fileName p n = .ok "f.x" := by
    intro n
    have hextension : p.extension = ".x" := by decide +kernel
    have hblank : Text.isBlank p.fileNameTemplate = false := by decide +kernel
    rw [fileName, hextension, hblank, if_neg Bool.false_ne_true, renderInline_plain (by decide)]
    rfl
  -- Both classes are sorted, the one below together with its own properties.
  have hsorted : Node.sorted { root with key := "Doc" } =
      { root with
        key := "Doc"
        children :=
          [{ key := "a", tag := .array },
            { key := "b", tag := .object
              children := [{ key := "y", tag := .string }, { key := "z", tag := .bool }] }] } := by
    simp [root, Node.sorted, Node.sortedAll, List.mergeSort, List.MergeSort.Internal.splitInTwo,
      Tag.isComposite]
  have htree : tree p o root = .ok t := by
    rw [tree_eq, start_of_infer hroot, hname, Node.sortedIf, if_pos rfl, hsorted]
    simp only [nodes, nodesAll, named, hclass, hfile]
    rfl
  obtain ⟨harranged, hcomplete, -⟩ := tree_postcondition hroot htree
  exact ⟨hroot, htree, hname ▸ harranged, hcomplete⟩

end Format

end Stencil
