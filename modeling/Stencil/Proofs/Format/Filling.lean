import Stencil.Format.Tree
import Stencil.Proofs.Computation
import Stencil.Proofs.Directive.Outline
import Stencil.Proofs.Format.Sorting

/-!
# Filling in names

Formatting goes through a tree from the root down and either gives all nodes their names or fails. It
does not touch the shape of the tree: a node that has been named has the key and tag that it had, and
its children are those that it had, named in their order.

## Key results

- `named_steps`: what a named node has got, step by step
- `nodes_inv`: what a named node has to do with the node that it was
- `exists_named_eq_error`, `exists_named_of_mem`: a tree cannot be named if and only if one of its
  nodes cannot
- `formatted_nodes`, `isSome_fileName_of_nodes`: all nodes have types, and all classes have files
- `tree_inv`: what a formatted tree has to do with the tree that it was
- `exists_named_of_mem_tree`: its nodes have the names that they have been given one by one
-/

namespace Stencil

open Schema (Node)

namespace Format

variable {p : Profile} {o : FormatOptions} {n m : Node}

/-! ## The steps for one node -/

/-- The node with its class name, if it is a class. -/
def classed (p : Profile) (o : FormatOptions) (n : Node) : Except Problem Node :=
  if n.isComposite then do
    let c ← className p o n.key
    return { n with className := some c }
  else return n

/-- The node with its types. -/
def typed (p : Profile) (n : Node) : Except Problem Node := do
  let t ← typeName p n
  let d ← docTypeName p { n with typeName := some t }
  return { n with typeName := some t, docTypeName := some d }

/-- The node with its file name, if it is a class. -/
def filedClass (p : Profile) (n : Node) : Except Problem Node :=
  if n.isComposite then do
    let f ← fileName p n
    return { n with fileName := some f }
  else return n

/-- A node gets its class name first, then its types, then its file name. -/
theorem named_eq (p : Profile) (o : FormatOptions) (n : Node) :
    named p o n = (do
      let n₁ ← classed p o n
      let n₂ ← typed p n₁
      filedClass p n₂) := by
  simp only [named, classed, typed, filedClass]
  split
  · simp only [bind_assoc, pure_bind]
  · simp only [bind_assoc, pure_bind]

/-- The class name is made from the key; a node that is no class keeps what it has. -/
theorem classed_inv (h : classed p o n = .ok m) :
    ∃ c?, m = { n with className := c? } ∧
      (n.isComposite = true → ∃ c, className p o n.key = .ok c ∧ c? = some c) ∧
      (n.isComposite = false → c? = n.className) := by
  rw [classed] at h
  split at h
  · next hcomposite =>
    obtain ⟨c, hc, h⟩ := bind_eq_ok_iff.1 h
    obtain rfl := Except.ok.inj h
    exact ⟨some c, rfl, fun _ => ⟨c, hc, rfl⟩, fun hn => by rw [hcomposite] at hn; cases hn⟩
  · next hcomposite =>
    obtain rfl := Except.ok.inj h
    exact ⟨n.className, by cases n; rfl, fun hc => absurd hc hcomposite, fun _ => rfl⟩

/-- The type for comments is made from the node with its type. -/
theorem typed_inv (h : typed p n = .ok m) :
    ∃ t d, typeName p n = .ok t ∧ docTypeName p { n with typeName := some t } = .ok d ∧
      m = { n with typeName := some t, docTypeName := some d } := by
  obtain ⟨t, ht, h⟩ := bind_eq_ok_iff.1 h
  obtain ⟨d, hd, h⟩ := bind_eq_ok_iff.1 h
  exact ⟨t, d, ht, hd, (Except.ok.inj h).symm⟩

/-- A class gets a file name; any other node keeps what it has. -/
theorem filedClass_inv (h : filedClass p n = .ok m) :
    ∃ f?, m = { n with fileName := f? } ∧
      (n.isComposite = true → ∃ f, fileName p n = .ok f ∧ f? = some f) ∧
      (n.isComposite = false → f? = n.fileName) := by
  rw [filedClass] at h
  split at h
  · next hcomposite =>
    obtain ⟨f, hf, h⟩ := bind_eq_ok_iff.1 h
    obtain rfl := Except.ok.inj h
    exact ⟨some f, rfl, fun _ => ⟨f, hf, rfl⟩, fun hn => by rw [hcomposite] at hn; cases hn⟩
  · next hcomposite =>
    obtain rfl := Except.ok.inj h
    exact ⟨n.fileName, by cases n; rfl, fun hc => absurd hc hcomposite, fun _ => rfl⟩

/-- What a node that has been named has got. The types are made with the class name already there, and
the file name with the types. -/
theorem named_steps (h : named p o n = .ok m) :
    ∃ c? t d f?,
      m = { n with className := c?, typeName := some t, docTypeName := some d, fileName := f? } ∧
      (n.isComposite = true → (∃ c, className p o n.key = .ok c ∧ c? = some c) ∧
        ∃ f, fileName p { n with className := c?, typeName := some t, docTypeName := some d } = .ok f ∧
          f? = some f) ∧
      (n.isComposite = false → c? = n.className ∧ f? = n.fileName) ∧
      typeName p { n with className := c? } = .ok t ∧
      docTypeName p { n with className := c?, typeName := some t } = .ok d := by
  -- Take the three steps apart.
  rw [named_eq] at h
  obtain ⟨n₁, hclass, h⟩ := bind_eq_ok_iff.1 h
  obtain ⟨n₂, htypes, hfile⟩ := bind_eq_ok_iff.1 h
  obtain ⟨c?, rfl, hc, hc'⟩ := classed_inv hclass
  obtain ⟨t, d, ht, hd, rfl⟩ := typed_inv htypes
  obtain ⟨f?, rfl, hf, hf'⟩ := filedClass_inv hfile
  -- The steps change neither key nor tag, so they agree on whether the node is a class.
  exact ⟨c?, t, d, f?, rfl, fun h => ⟨hc h, hf h⟩, fun h => ⟨hc' h, hf' h⟩, ht, hd⟩

/-- A node that has been named has the key and tag that it had. It has its types, and a file if it is
a class. -/
theorem named_inv (h : named p o n = .ok m) :
    (m.key = n.key ∧ m.tag = n.tag) ∧
      (m.typeName.isSome = true ∧ m.docTypeName.isSome = true) ∧
        (m.isComposite = true → m.fileName.isSome = true) := by
  obtain ⟨c?, t, d, f?, rfl, hclass, -, -, -⟩ := named_steps h
  refine ⟨⟨rfl, rfl⟩, ⟨rfl, rfl⟩, fun hcomposite => ?_⟩
  obtain ⟨-, f, -, rfl⟩ := hclass hcomposite
  rfl

/-! ## The nodes of a tree -/

/-- Children are named in order, up to the first that cannot be. -/
theorem nodesAll_eq_mapM (ns : List Node) : nodesAll p o ns = ns.mapM (nodes p o) := by
  induction ns with
  | nil => rfl
  | cons n ns ih => rw [nodesAll, List.mapM_cons, ih]

/-- A named tree has the shape that it had. Its root has its types, and a file if it is a class. -/
theorem nodes_inv (h : nodes p o n = .ok m) :
    (m.key = n.key ∧ m.tag = n.tag) ∧ (m.typeName.isSome = true ∧ m.docTypeName.isSome = true) ∧
      (m.isComposite = true → m.fileName.isSome = true) ∧
        List.Forall₂ (fun c d => nodes p o c = .ok d) n.children m.children := by
  -- The root is named first, and then its children, which are put in place of the old ones.
  obtain ⟨key, tag, children, className, file, typeName, docTypeName⟩ := n
  rw [nodes] at h
  obtain ⟨n', hnamed, h⟩ := bind_eq_ok_iff.1 h
  obtain ⟨cs, hcs, h⟩ := bind_eq_ok_iff.1 h
  obtain rfl := Except.ok.inj h
  obtain ⟨hkept, htypes, hfile⟩ := named_inv hnamed
  rw [nodesAll_eq_mapM, mapM_eq_ok_iff] at hcs
  exact ⟨hkept, htypes, hfile, hcs⟩

/-- Each node below a named one has been named as well. -/
theorem exists_nodes_of_mem (h : nodes p o n = .ok m) {d : Node} (hd : d ∈ m.children) :
    ∃ c ∈ n.children, nodes p o c = .ok d := by
  obtain ⟨-, -, -, hchildren⟩ := nodes_inv h
  exact exists_mem_of_forall₂ hchildren.flip hd

/-- Each node of a named tree has been made by naming a node of the tree. -/
theorem exists_nodes_of_mem_descendants (h : nodes p o n = .ok m) {d : Node}
    (hd : d ∈ m :: m.descendants) : ∃ c ∈ n :: n.descendants, nodes p o c = .ok d := by
  induction n using Node.childInduction generalizing m with
  | h n ih =>
    -- It is the root, or it has been named below one of the children.
    rcases List.mem_cons.1 hd with rfl | hd
    · exact ⟨n, List.mem_cons_self, h⟩
    · obtain ⟨d', hd', hmem⟩ := Node.mem_descendants.1 hd
      obtain ⟨c, hc, hcd⟩ := exists_nodes_of_mem h hd'
      obtain ⟨b, hb, hbd⟩ := ih c hc hcd (List.mem_cons.2 hmem)
      refine ⟨b, List.mem_cons_of_mem n (Node.mem_descendants.2 ⟨c, hc, ?_⟩), hbd⟩
      exact List.mem_cons.1 hb

/-- A named tree has the names at its root that the root has been given. -/
theorem exists_named_of_nodes (h : nodes p o n = .ok m) :
    ∃ n', named p o n = .ok n' ∧ m = { n' with children := m.children } := by
  obtain ⟨key, tag, children, className, file, typeName, docTypeName⟩ := n
  rw [nodes] at h
  obtain ⟨n', hnamed, h⟩ := bind_eq_ok_iff.1 h
  obtain ⟨cs, -, h⟩ := bind_eq_ok_iff.1 h
  obtain rfl := Except.ok.inj h
  exact ⟨n', hnamed, rfl⟩

/-- If a tree cannot be named, one of its nodes cannot. -/
theorem exists_named_eq_error {e : Problem} (h : nodes p o n = .error e) :
    ∃ c ∈ n :: n.descendants, named p o c = .error e := by
  induction n using Node.childInduction with
  | h n ih =>
    obtain ⟨key, tag, children, className, file, typeName, docTypeName⟩ := n
    rw [nodes] at h
    -- The root has failed, or one of the trees below it.
    rcases bind_eq_error_iff.1 h with h | ⟨n', -, h⟩
    · exact ⟨_, List.mem_cons_self, h⟩
    · have hbelow := bind_pure_eq_error_iff.1 h
      rw [nodesAll_eq_mapM] at hbelow
      obtain ⟨c, hc, hce⟩ := exists_of_mapM_eq_error hbelow
      obtain ⟨b, hb, hbe⟩ := ih c hc hce
      refine ⟨b, List.mem_cons_of_mem _ (Node.mem_descendants.2 ⟨c, hc, ?_⟩), hbe⟩
      exact List.mem_cons.1 hb

/-- If a tree can be named, all its nodes can. -/
theorem exists_named_of_mem (h : nodes p o n = .ok m) {c : Node} (hc : c ∈ n :: n.descendants) :
    ∃ c', named p o c = .ok c' := by
  induction n using Node.childInduction generalizing m with
  | h n ih =>
    rcases List.mem_cons.1 hc with rfl | hc
    · obtain ⟨c', hnamed, -⟩ := exists_named_of_nodes h
      exact ⟨c', hnamed⟩
    · obtain ⟨b, hb, hc⟩ := Node.mem_descendants.1 hc
      obtain ⟨-, -, -, hchildren⟩ := nodes_inv h
      -- A tree below a named root has been named as well.
      obtain ⟨b', -, hb'⟩ := exists_mem_of_forall₂ hchildren hb
      exact ih b hb hb' (List.mem_cons.2 hc)

/-- All classes of a named tree have files. -/
theorem isSome_fileName_of_nodes (h : nodes p o n = .ok m) :
    ∀ c ∈ m.classes, c.fileName.isSome = true := by
  induction n using Node.childInduction generalizing m with
  | h n ih =>
    intro c hc
    obtain ⟨hc, hcomposite⟩ := List.mem_filter.1 hc
    obtain ⟨d, hd, hc⟩ := Node.mem_descendants.1 hc
    obtain ⟨d', hd', hnamed⟩ := exists_nodes_of_mem h hd
    rcases hc with rfl | hc
    · exact (nodes_inv hnamed).2.2.1 hcomposite
    · exact ih d' hd' hnamed c (List.mem_filter.2 ⟨hc, hcomposite⟩)

/-- All nodes of a named tree have their types. -/
theorem formatted_nodes (h : nodes p o n = .ok m) : Formatted m := by
  induction n using Node.childInduction generalizing m with
  | h n ih =>
    obtain ⟨-, ⟨htype, hdocType⟩, -, -⟩ := nodes_inv h
    refine .mk htype hdocType fun d hd => ?_
    obtain ⟨c, hc, hcd⟩ := exists_nodes_of_mem h hd
    exact ih c hc hcd

/-- If only classes have children, that is so after naming, which keeps tags. -/
theorem regular_nodes (h : nodes p o n = .ok m) (hr : n.Regular) : m.Regular := by
  induction hr generalizing m with
  | @intro n here _ ih =>
    refine .intro (fun hne => ?_) fun d hd => ?_
    · obtain ⟨⟨-, htag⟩, -⟩ := nodes_inv h
      rw [Node.isComposite, htag]
      obtain ⟨d, hd⟩ := List.exists_mem_of_ne_nil _ hne
      obtain ⟨c, hc, -⟩ := exists_nodes_of_mem h hd
      exact here (List.ne_nil_of_mem hc)
    · obtain ⟨c, hc, hcd⟩ := exists_nodes_of_mem h hd
      exact ih c hc hcd

/-! ## Whole trees -/

/-- The tree that is named: its root has a key, and it is sorted if it has to be. -/
def start (o : FormatOptions) (root : Node) : Node :=
  let root := if root.key.isEmpty then { root with key := rootName o } else root
  if o.sortProperties then root.sorted else root

/-- The root with a file, whether it is a class or not. -/
def filed (p : Profile) (root : Node) : Except Problem Node :=
  match root.fileName with
  | some _ => .ok root
  | none => do
    let f ← fileName p root
    return { root with fileName := some f }

theorem tree_eq (p : Profile) (o : FormatOptions) (root : Node) :
    tree p o root = nodes p o (start o root) >>= filed p := rfl

/-- The root keeps the file that it has, or else gets one. -/
theorem filed_inv {root t : Node} (h : filed p root = .ok t) :
    ∃ f, t = { root with fileName := some f } ∧
      (root.fileName = some f ∨ root.fileName = none ∧ fileName p root = .ok f) := by
  rw [filed] at h
  split at h
  · next f hf =>
    obtain rfl := Except.ok.inj h
    exact ⟨f, by cases root; rw [← hf], .inl hf⟩
  · next hnone =>
    obtain ⟨f, hf, h⟩ := bind_eq_ok_iff.1 h
    exact ⟨f, (Except.ok.inj h).symm, .inr ⟨hnone, hf⟩⟩

/-- All nodes of a formatted tree have the names that they have been given, but for the file of the
root. -/
theorem exists_named_of_mem_tree {root t d : Node} (h : tree p o root = .ok t)
    (hd : d ∈ t :: t.descendants) :
    ∃ c ∈ start o root :: (start o root).descendants, ∃ c', named p o c = .ok c' ∧
      ∃ f?, d = { c' with children := d.children, fileName := f? } := by
  rw [tree_eq] at h
  obtain ⟨m, hnodes, h⟩ := bind_eq_ok_iff.1 h
  obtain ⟨f, rfl, -⟩ := filed_inv h
  -- The root may have been given a file afterwards, the other nodes have not been touched again.
  rcases List.mem_cons.1 hd with rfl | hd
  · obtain ⟨c', hnamed, hm⟩ := exists_named_of_nodes hnodes
    exact ⟨_, List.mem_cons_self, c', hnamed, some f, by rw [hm]⟩
  · rw [Node.descendants_withFileName] at hd
    obtain ⟨c, hc, hcd⟩ := exists_nodes_of_mem_descendants hnodes (List.mem_cons_of_mem m hd)
    obtain ⟨c', hnamed, hd⟩ := exists_named_of_nodes hcd
    exact ⟨c, hc, c', hnamed, c'.fileName, hd⟩

/-- Sorting commutes with naming the root. -/
theorem start_of_sort (h : o.sortProperties = true) (root : Node) :
    start o root =
      { root.sorted with
        key := if root.sorted.key.isEmpty then rootName o else root.sorted.key } := by
  rw [start, h, if_pos rfl, Node.key_sorted]
  -- The key of the root is set before sorting or after it.
  split
  · rw [Node.sorted_eq, Node.sorted_eq root]
    rfl
  · rw [Node.sorted_eq]

/-- Trees that are sorted into the same tree are formatted in the same way. -/
theorem tree_congr (h : o.sortProperties = true) {n m : Node} (hs : n.sorted = m.sorted) :
    tree p o n = tree p o m := by
  rw [tree_eq, tree_eq, start_of_sort h, start_of_sort h, hs]

/-- Giving the root a key, and sorting, leave children to classes. -/
theorem regular_start {root : Node} (h : root.Regular) : (start o root).Regular := by
  -- A key tells nothing about children.
  have hkey : Node.Regular (if root.key.isEmpty then { root with key := rootName o } else root) := by
    split
    · cases h with
      | intro here below => exact .intro here below
    · exact h
  rw [start]
  split
  · exact Node.regular_sorted hkey
  · exact hkey

/-- All nodes of a formatted tree have their types, and the root and all classes have files. Only
classes have children if that was so before. -/
theorem tree_inv {root t : Node} (h : tree p o root = .ok t) :
    Formatted t ∧ t.fileName.isSome = true ∧ (∀ c ∈ t.classes, c.fileName.isSome = true) ∧
      (root.Regular → t.Regular) := by
  rw [tree_eq] at h
  obtain ⟨m, hm, h⟩ := bind_eq_ok_iff.1 h
  have hformatted := formatted_nodes hm
  have hclasses := isSome_fileName_of_nodes hm
  have hregular : root.Regular → m.Regular := fun hr => regular_nodes hm (regular_start hr)
  -- The name of a file changes nothing about what is below the root.
  obtain ⟨f, rfl, -⟩ := filed_inv h
  refine ⟨?_, rfl, ?_, fun hr => ?_⟩
  · cases hformatted with
    | mk htype hdocType hchildren => exact .mk htype hdocType hchildren
  · rwa [Node.classes_eq] at hclasses ⊢
  · cases hregular hr with
    | intro here below => exact .intro here below

end Format
end Stencil
