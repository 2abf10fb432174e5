import Mathlib.Data.List.Nodup
import Stencil.Format.Tree
import Stencil.Proofs.Schema.Classes
import Stencil.Proofs.Schema.Reordering

/-!
# Sorting the properties of classes

Sorting brings the properties of classes into the order of their keys, and leaves the children of all
other nodes in theirs. Trees that differ in the order of siblings are therefore sorted into the same
tree exactly if those other nodes list their children in the same order to begin with.

## Key results

- `sorted_eq_iff`: when reordered trees are sorted into the same tree
- `sorted_eq_of_regular`: they are if only classes have children
- `regular_sorted`: sorting does not change which nodes have children
-/

namespace Stencil.Schema.Node

/-! ## One level of sorting -/

/-- Siblings are sorted one by one. -/
theorem sortedAll_eq_map (ns : List Node) : sortedAll ns = ns.map sorted := by
  induction ns with
  | nil => rw [sortedAll, List.map_nil]
  | cons n ns ih => rw [sortedAll, ih, List.map_cons]

/-- Nodes in the order of their keys. -/
def byKey (ns : List Node) : List Node := ns.mergeSort fun a b => a.key ≤ b.key

/-- A node is sorted below its children first, and then its children are brought into order if it is
a class. -/
theorem sorted_eq (n : Node) :
    n.sorted =
      { n with
        children :=
          if n.isComposite then byKey (n.children.map sorted) else n.children.map sorted } := by
  obtain ⟨key, tag, children, className, fileName, typeName, docTypeName⟩ := n
  rw [sorted, sortedAll_eq_map]
  rfl

@[simp] theorem key_sorted (n : Node) : n.sorted.key = n.key := by rw [sorted_eq]

/-- Sorting does not change which nodes are classes. -/
@[simp] theorem isComposite_sorted (n : Node) : n.sorted.isComposite = n.isComposite := by
  rw [sorted_eq]
  rfl

/-- Sorting siblings on their own keeps their keys. -/
theorem keys_map_sorted (ns : List Node) : (ns.map sorted).map (·.key) = ns.map (·.key) := by
  rw [List.map_map]
  exact List.map_congr_left fun n _ => key_sorted n

/-- The children of a sorted node are its children, sorted. -/
theorem mem_children_sorted {n c : Node} :
    c ∈ n.sorted.children ↔ ∃ c' ∈ n.children, c'.sorted = c := by
  rw [sorted_eq]
  dsimp only
  split
  · rw [byKey, List.mem_mergeSort, List.mem_map]
  · exact List.mem_map

/-! ## Lists of siblings -/

/-- Reordered siblings with distinct keys are in the same order if their keys are. -/
theorem eq_of_perm_of_keys {as bs : List Node} (hd : (as.map (·.key)).Nodup) (h : as.Perm bs)
    (hkeys : as.map (·.key) = bs.map (·.key)) : as = bs := by
  have hlength : as.length = bs.length := h.length_eq
  -- At each position both have the same key, which stands for one node only.
  refine List.ext_getElem hlength fun i hi hi' => ?_
  have hkey : as[i].key = bs[i].key := by
    have hget := List.getElem_of_eq hkeys (by simpa using hi)
    simpa using hget
  exact List.inj_on_of_nodup_map hd (List.getElem_mem hi) (h.mem_iff.2 (List.getElem_mem hi')) hkey

/-- Bringing nodes into order keeps them. -/
theorem byKey_perm (ns : List Node) : (byKey ns).Perm ns := List.mergeSort_perm ns _

/-- They are in the order of their keys then. -/
theorem pairwise_byKey (ns : List Node) : (byKey ns).Pairwise fun a b => a.key ≤ b.key := by
  have h := @List.pairwise_mergeSort Node (fun a b => decide (a.key ≤ b.key))
    (fun a b c hab hbc =>
      decide_eq_true (String.le_trans (of_decide_eq_true hab) (of_decide_eq_true hbc)))
    (fun a b => by simpa using String.le_total a.key b.key) ns
  exact h.imp of_decide_eq_true

/-- Siblings may be sorted on their own before or after they are brought into order. -/
theorem map_sorted_byKey (ns : List Node) : (byKey ns).map sorted = byKey (ns.map sorted) := by
  refine List.map_mergeSort fun a _ b _ => ?_
  rw [key_sorted, key_sorted]

/-- Siblings with distinct keys are sorted into the same list iff they are reordered. -/
theorem byKey_eq_iff {as bs : List Node} (hd : (as.map (·.key)).Nodup) :
    byKey as = byKey bs ↔ as.Perm bs := by
  constructor
  · intro h
    exact ((byKey_perm as).symm.trans (.of_eq h)).trans (byKey_perm bs)
  · intro h
    have hab : (byKey as).Perm (byKey bs) := ((byKey_perm as).trans h).trans (byKey_perm bs).symm
    refine hab.eq_of_pairwise (fun a b ha hb hle hle' => ?_) (pairwise_byKey as) (pairwise_byKey bs)
    -- Each key stands for one node only.
    have ha' : a ∈ as := (byKey_perm as).mem_iff.1 ha
    have hb' : b ∈ as := h.mem_iff.2 ((byKey_perm bs).mem_iff.1 hb)
    exact List.inj_on_of_nodup_map hd ha' hb' (String.le_antisymm hle hle')

/-- Sorted on their own, reordered siblings are still reordered iff those with the same key are
sorted into the same tree. -/
theorem perm_map_sorted_iff {cs ds : List Node} (hd : (cs.map (·.key)).Nodup)
    (hkeys : (cs.map (·.key)).Perm (ds.map (·.key))) :
    (cs.map sorted).Perm (ds.map sorted) ↔
      ∀ c ∈ cs, ∀ d ∈ ds, c.key = d.key → c.sorted = d.sorted := by
  have hd' : (ds.map (·.key)).Nodup := hkeys.nodup_iff.1 hd
  constructor
  · intro h c hc d hd hkey
    obtain ⟨d', hmem, heq⟩ := List.mem_map.1 (h.mem_iff.1 (List.mem_map_of_mem hc))
    have hkey' : d'.key = d.key := by rw [← hkey, ← key_sorted, heq, key_sorted]
    -- No other sibling has that key.
    obtain rfl := List.inj_on_of_nodup_map hd' hmem hd hkey'
    exact heq.symm
  · intro h
    have hnodup : ∀ ns : List Node, (ns.map (·.key)).Nodup → (ns.map sorted).Nodup := by
      intro ns hns
      rw [← keys_map_sorted] at hns
      exact hns.of_map
    refine (List.perm_ext_iff_of_nodup (hnodup cs hd) (hnodup ds hd')).2 fun n => ?_
    simp only [List.mem_map]
    constructor
    · rintro ⟨c, hc, rfl⟩
      obtain ⟨d, hd, hkey⟩ := List.mem_map.1 (hkeys.mem_iff.1 (List.mem_map_of_mem hc))
      exact ⟨d, hd, (h c hc d hd hkey.symm).symm⟩
    · rintro ⟨d, hd, rfl⟩
      obtain ⟨c, hc, hkey⟩ := List.mem_map.1 (hkeys.mem_iff.2 (List.mem_map_of_mem hd))
      exact ⟨c, hc, h c hc d hd hkey⟩

/-! ## Trees -/

/-- At each position, nodes that are no classes list their children in the same order. -/
def OrderKept (n m : Node) : Prop :=
  ∀ ks c d, n.At ks c → m.At ks d → c.isComposite = false →
    c.children.map (·.key) = d.children.map (·.key)

/-- The order is kept in a tree iff it is kept at the root and in all trees below it. -/
theorem orderKept_iff (n m : Node) :
    n.OrderKept m ↔
      (n.isComposite = false → n.children.map (·.key) = m.children.map (·.key)) ∧
        ∀ c ∈ n.children, ∀ d ∈ m.children, c.key = d.key → c.OrderKept d := by
  constructor
  · intro h
    refine ⟨h [] n m (.root n) (.root m), fun c hc d hd hkey ks c' d' hat hat' => ?_⟩
    exact h (c.key :: ks) c' d' (.child hc hat) (hkey ▸ .child hd hat')
  · rintro ⟨hhere, hbelow⟩ ks c d hat hat'
    -- A position is the root, or leads through the children of the same key in both trees.
    cases hat with
    | root =>
      obtain rfl := at_nil_iff.1 hat'
      exact hhere
    | @child _ c' _ ks mem rest =>
      obtain ⟨d', mem', hkey, rest'⟩ := at_cons_iff.1 hat'
      exact hbelow c' mem d' mem' hkey.symm ks c d rest rest'

/-- Reordered trees are sorted into the same tree iff their nodes that are no classes list their
children in the same order. -/
theorem sorted_eq_iff {n m : Node} (h : n.Reordered m) : n.sorted = m.sorted ↔ n.OrderKept m := by
  induction h with
  | @intro n m head distinct keys below ih =>
    have hcomposite : n.isComposite = m.isComposite := by
      injection head with _ htag
      exact congrArg Tag.isComposite htag
    -- All but the children is the same anyway.
    have hhead : n.sorted = m.sorted ↔ n.sorted.children = m.sorted.children := by
      rw [sorted_eq n, sorted_eq m]
      injection head with hkey htag _ hclass hfile htype hdoc
      simp only [hkey, htag, hclass, hfile, htype, hdoc, mk.injEq, true_and, and_true]
    have hchildren : (n.children.map sorted).Perm (m.children.map sorted) ↔
        ∀ c ∈ n.children, ∀ d ∈ m.children, c.key = d.key → c.OrderKept d := by
      rw [perm_map_sorted_iff distinct keys]
      exact forall₂_congr fun c hc => forall₂_congr fun d hd => imp_congr_right (ih c hc d hd)
    have hdistinct : ((n.children.map sorted).map (·.key)).Nodup := by rwa [keys_map_sorted]
    rw [hhead, orderKept_iff, ← hchildren, sorted_eq n, sorted_eq m, ← hcomposite]
    -- A class brings its children into order, so that they need only be reordered.
    cases n.isComposite with
    | true => simpa using byKey_eq_iff hdistinct
    | false =>
      simp only [Bool.false_eq_true, if_false, true_implies]
      constructor
      · intro heq
        refine ⟨?_, .of_eq heq⟩
        rw [← keys_map_sorted n.children, heq, keys_map_sorted]
      · rintro ⟨hkeys, hperm⟩
        refine eq_of_perm_of_keys hdistinct hperm ?_
        rw [keys_map_sorted, keys_map_sorted, hkeys]

/-- Reordered trees have reordered trees at each position. -/
theorem Reordered.at {n m c d : Node} {ks : List String} (h : n.Reordered m) (hc : n.At ks c)
    (hd : m.At ks d) : c.Reordered d := by
  induction hc generalizing m with
  | root =>
    obtain rfl := at_nil_iff.1 hd
    exact h
  | child mem _ ih =>
    obtain ⟨d', mem', hkey, rest'⟩ := at_cons_iff.1 hd
    cases h with
    | intro _ _ _ below => exact ih (below _ mem d' mem' hkey.symm) rest'

/-- If only classes have children, there is nothing that is left unsorted. -/
theorem sorted_eq_of_regular {n m : Node} (h : n.Reordered m) (hr : n.Regular) :
    n.sorted = m.sorted := by
  rw [sorted_eq_iff h]
  intro ks c d hc hd hcomposite
  have hnone : c.children = [] := (hr.at hc).children_eq_nil hcomposite
  cases h.at hc hd with
  | intro _ _ keys _ =>
    rw [hnone] at keys ⊢
    exact keys.nil_eq

/-- Sorting does not change which nodes have children. -/
theorem regular_sorted {n : Node} (h : n.Regular) : n.sorted.Regular := by
  induction h with
  | @intro n here _ ih =>
    -- A node that has children after sorting had children before.
    refine .intro (fun hne => ?_) fun c hc => ?_
    · obtain ⟨c, hc⟩ := List.exists_mem_of_ne_nil _ hne
      obtain ⟨c', hc', -⟩ := mem_children_sorted.1 hc
      rw [isComposite_sorted]
      exact here (List.ne_nil_of_mem hc')
    · obtain ⟨c', hc', rfl⟩ := mem_children_sorted.1 hc
      exact ih c' hc'

end Stencil.Schema.Node
