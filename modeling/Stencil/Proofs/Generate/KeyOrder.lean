import Stencil.Proofs.Generate.Steps

/-!
# Output that does not depend on the order of keys

If properties are sorted, two samples that differ in the order of keys should give the same files. The
trees of such samples differ in the order of siblings only, and sorting takes that difference away
wherever the children of classes are concerned. It remains below nodes that have children without
being classes, and can be seen in the output.

## Key results

- `formattedTree_congr`: the samples have the same formatted tree if the sorted trees agree
- `generate_reordered`: when the sorted trees agree, and that the output agrees if they do
-/

namespace Stencil

open Schema (Node infer ObjectsLead)

variable {registry : Registry} {request : Request}

/-- Trees that differ in the order of siblings are formatted in the same way if they are sorted into
the same tree. -/
theorem formattedTree_congr {profile : Profile} {config : Config} {doc doc' : Json}
    (hsort : config.sortProperties = true) (halike : Json.Alike doc doc')
    (htrees : ∀ root root', infer config.detectStringSubtypes doc = .ok root →
      infer config.detectStringSubtypes doc' = .ok root' → root.OrderKept root') :
    formattedTree profile config doc = formattedTree profile config doc' := by
  rw [formattedTree, formattedTree]
  -- Both samples have trees that differ in the order of siblings, or neither has a tree.
  rcases Schema.reordered_infer halike with ⟨root, root', h, h', hreordered⟩ | ⟨p, h, h'⟩
  · have hsorted : root.sorted = root'.sorted :=
      (Node.sorted_eq_iff hreordered).2 (htrees root root' h h')
    rw [h, h']
    exact Format.tree_congr hsort hsorted
  · rw [h, h']

/-- Of two samples that differ in the order of keys, the sorted trees are the same iff nodes that are
no classes list their children in the same order. If so, the output is the same. It is so if no object
is kept from being a class. -/
theorem generate_reordered {data' : String} {doc doc' : Json}
    (hsort : request.config.sortProperties = true) (hdoc : Json.parse request.data = .ok doc)
    (hdoc' : Json.parse data' = .ok doc') (hsame : doc.same doc' = true) :
    (∀ root root', infer request.config.detectStringSubtypes doc = .ok root →
      infer request.config.detectStringSubtypes doc' = .ok root' →
      (root.sorted = root'.sorted ↔ root.OrderKept root')) ∧
    ((∀ root root', infer request.config.detectStringSubtypes doc = .ok root →
        infer request.config.detectStringSubtypes doc' = .ok root' → root.OrderKept root') →
      generate registry request = generate registry { request with data := data' }) ∧
    (ObjectsLead doc → generate registry request = generate registry { request with data := data' }) := by
  have halike : Json.Alike doc doc' :=
    ⟨Json.distinctKeys_of_parse hdoc, Json.distinctKeys_of_parse hdoc', hsame⟩
  have hreordered : ∀ root root', infer request.config.detectStringSubtypes doc = .ok root →
      infer request.config.detectStringSubtypes doc' = .ok root' → root.Reordered root' := by
    intro root root' h h'
    rcases Schema.reordered_infer halike with ⟨n, m, hn, hm, hnm⟩ | ⟨p, hp, -⟩
    · rw [hn] at h
      rw [hm] at h'
      exact Except.ok.inj h ▸ Except.ok.inj h' ▸ hnm
    · rw [hp] at h
      cases h
  have hgenerate : (∀ root root', infer request.config.detectStringSubtypes doc = .ok root →
        infer request.config.detectStringSubtypes doc' = .ok root' → root.OrderKept root') →
      generate registry request = generate registry { request with data := data' } := by
    intro htrees
    -- All other steps are the same for both samples.
    have hformat : ∀ profile, formattedTree profile request.config doc =
        formattedTree profile request.config doc' :=
      fun profile => formattedTree_congr hsort halike htrees
    rw [generate_of_parse hdoc, @generate_of_parse registry { request with data := data' } doc' hdoc']
    simp only [hformat]
  refine ⟨fun root root' h h' => Node.sorted_eq_iff (hreordered root root' h h'), hgenerate, ?_⟩
  intro hlead
  refine hgenerate fun root root' h h' => ?_
  -- Only classes have children, so no node keeps the order of the sample.
  have hregular : root.Regular := Schema.regular_infer halike.left h hlead
  exact (Node.sorted_eq_iff (hreordered root root' h h')).1
    (Node.sorted_eq_of_regular (hreordered root root' h h') hregular)

/-- The properties of two classes may come in any order. -/
theorem generate_reordered_classes :
    let request : Request :=
      { template := "x", data := "\x7b\"b\":\x7b\"d\":true,\"c\":\"x\"\x7d,\"a\":true\x7d"
        config := { lang := some "go", sortProperties := true } }
    let data' := "\x7b\"a\":true,\"b\":\x7b\"c\":\"x\",\"d\":true\x7d\x7d"
    request.config.sortProperties = true ∧
    (∃ doc doc', Json.parse request.data = .ok doc ∧ Json.parse data' = .ok doc' ∧
      doc.same doc' = true ∧ ObjectsLead doc) ∧
    generate .builtin request = generate .builtin { request with data := data' } := by
  intro request data'
  have hdoc : Json.parse request.data =
      .ok (.object [("b", .object [("d", .bool true), ("c", .string "x")]), ("a", .bool true)]) := by
    cbv
  have hdoc' : Json.parse data' =
      .ok (.object [("a", .bool true),
        ("b", .object [("c", .string "x"), ("d", .bool true)])]) := by
    dsimp only [data']
    cbv
  -- There are no arrays, so nothing keeps an object from being a class.
  have hlead : ObjectsLead
      (.object [("b", .object [("d", .bool true), ("c", .string "x")]), ("a", .bool true)]) := by
    have hd : ObjectsLead (.bool true) := Schema.objectsLead_of_isScalar rfl
    have hc : ObjectsLead (.string "x") := Schema.objectsLead_of_isScalar rfl
    have hb : ObjectsLead (.object [("d", .bool true), ("c", .string "x")]) :=
      (Schema.objectsLead_object_iff (by simp)).2 (by simp [hc, hd])
    exact (Schema.objectsLead_object_iff (by simp)).2 (by simp [hb, hd])
  exact ⟨rfl, ⟨_, _, hdoc, hdoc', rfl, hlead⟩,
    (generate_reordered rfl hdoc hdoc' rfl).2.2 hlead⟩

/-! ## Children of nodes that are no classes -/

/-- A template for the children of all properties. -/
def nestedProperties : Outline :=
  .block .properties (.plain _)
    (.block .properties (.plain _) (.placeholder (.name none) (.plain _) .empty) (.plain _) .empty)
    (.plain _) .empty

/-- The text for the children of the node that is no class has them in the order of the sample. -/
theorem generate_outranked {data k k' : String} (hk : k = "a" ∧ k' = "c" ∨ k = "c" ∧ k' = "a")
    (hdoc : Json.parse data =
      .ok (outranked [(k, .bool true), (k', .bool true)])) :
    generate .builtin
        { template := String.ofList nestedProperties.source, data,
          config := uniformConfig false true } =
      .ok [{ fileName := "f", content := k ++ k' }] := by
  -- Sorting stops at the node that is no class.
  have hsorted : ∀ l r : Node, l.sorted = l → r.sorted = r →
      Node.sorted { key := "", tag := .arrayObject
                    children := [{ key := "k", tag := .bool, children := [l, r] }] } =
        { key := "", tag := .arrayObject
          children := [{ key := "k", tag := .bool, children := [l, r] }] } := by
    intro l r hl hr
    simp [Node.sorted, Node.sortedAll, Tag.isComposite, hl, hr]
  let root : Node :=
    { key := "", tag := .arrayObject
      children := [{ key := "k", tag := .bool
                     children := [{ key := k, tag := .bool }, { key := k', tag := .bool }] }] }
  let typed (key : String) (children : List Node) : Node :=
    { key, tag := .bool, children, typeName := some "t", docTypeName := some "t" }
  let tree : Node :=
    { key := "RootClass", tag := .arrayObject, children := [typed "k" [typed k [], typed k' []]]
      className := some "RootClass", fileName := some "f", typeName := some "t"
      docTypeName := some "t" }
  have hblank : Text.isBlank (String.ofList nestedProperties.source) = false := rfl
  have hroot : infer false (outranked [(k, .bool true), (k', .bool true)]) =
      .ok root := by
    rcases hk with ⟨rfl, rfl⟩ | ⟨rfl, rfl⟩ <;> rfl
  have htree : Format.tree (uniformProfile false) { sortProperties := true } root = .ok tree := by
    rw [Format.tree_eq, Format.start_of_sort rfl,
      hsorted _ _ (Node.sorted_leaf k .bool) (Node.sorted_leaf k' .bool)]
    rcases hk with ⟨rfl, rfl⟩ | ⟨rfl, rfl⟩ <;> rfl
  have hcontent : nestedProperties.meaning tree = k.toList ++ k'.toList := by
    simp [nestedProperties, Outline.meaning, Outline.meaningAfter, Region.rounds, Placeholder.text,
      Node.name, tree, typed, Text.trimEnd]
  rw [generate_uniform hblank (by decide) hdoc hroot htree, fileNodes, if_neg Bool.false_ne_true,
    List.map_singleton, hcontent, String.ofList_append, String.ofList_toList, String.ofList_toList]
  rfl

/-- The tag of `k` is that of its first value, and what stands below it is not sorted. -/
theorem generate_reordered_ne :
    let request : Request :=
      { template := String.ofList nestedProperties.source
        data := "[[true,\x7b\"k\":true\x7d],\x7b\"k\":\x7b\"c\":true,\"a\":true\x7d\x7d]"
        config := uniformConfig false true }
    let data' := "[[true,\x7b\"k\":true\x7d],\x7b\"k\":\x7b\"a\":true,\"c\":true\x7d\x7d]"
    request.config.sortProperties = true ∧
    (∃ doc doc', Json.parse request.data = .ok doc ∧ Json.parse data' = .ok doc' ∧
      doc.same doc' = true) ∧
    generate .builtin request ≠ generate .builtin { request with data := data' } := by
  intro request data'
  have hdoc : Json.parse request.data = .ok (outranked [("c", .bool true), ("a", .bool true)]) := by
    cbv
  have hdoc' : Json.parse data' = .ok (outranked [("a", .bool true), ("c", .bool true)]) := by
    dsimp only [data']
    cbv
  -- The two outputs are written out and compared.
  have hfile := generate_outranked (.inr ⟨rfl, rfl⟩) hdoc
  have hfile' := generate_outranked (.inl ⟨rfl, rfl⟩) hdoc'
  refine ⟨rfl, ⟨_, _, hdoc, hdoc', rfl⟩, fun heq => ?_⟩
  have hcontent := Except.ok.inj (hfile.symm.trans (heq.trans hfile'))
  simp at hcontent

end Stencil
