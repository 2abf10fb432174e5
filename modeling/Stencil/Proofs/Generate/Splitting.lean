import Stencil.Proofs.Generate.Steps

/-!
# One file for each class

If the output is split, the root and the classes that are reached from class to class have files, in
pre-order. These are all classes of the tree exactly if none stands below a node that is no class, as
is the case if in the sample no object is kept from being a class. Otherwise there is one file.

## Key results

- `generate_split`: the files of a request that succeeds, and when no class is left out
-/

namespace Stencil

open Schema (Node infer ObjectsLead)

variable {registry : Registry} {request : Request}

/-- A list of files for all classes of a tree is one for the classes that are reached iff there are
no others. -/
theorem forall₂_classes_iff {renderer : Renderer} {split : Bool} {tree : Node}
    {files : List RenderedFile} (h : List.Forall₂ (FileOf renderer split) tree.composites files) :
    List.Forall₂ (FileOf renderer split) (tree :: tree.classes) files ↔ tree.ClassesOnTop := by
  rw [← Node.composites_eq_iff]
  constructor
  · intro hall
    -- There are as many nodes as files on either side, so none is left out.
    have hlength : tree.composites.length = (tree :: tree.classes).length := by
      rw [h.length_eq, hall.length_eq]
    exact (Node.composites_sublist tree).eq_of_length hlength
  · intro heq
    rwa [← heq]

/-- A request that succeeds gives one file for the root, or, if the output is split, one for each of
the classes that are reached from class to class, the root first. These are all classes iff none stands
below a node that is no class, as is the case if no object of the sample is kept from being a class. -/
theorem generate_split {files : List RenderedFile} (h : generate registry request = .ok files) :
    ∃ profile renderer doc tree,
      request.config.profile registry = .ok profile ∧
      Renderer.compile requestTemplateName request.template = .ok renderer ∧
      Json.parse request.data = .ok doc ∧ formattedTree profile request.config doc = .ok tree ∧
      (profile.splitByFiles = false → ∃ f, files = [f] ∧ FileOf renderer false tree f) ∧
      (profile.splitByFiles = true →
        List.Forall₂ (FileOf renderer true) tree.composites files ∧
        (List.Forall₂ (FileOf renderer true) (tree :: tree.classes) files ↔ tree.ClassesOnTop)) ∧
      (ObjectsLead doc → tree.ClassesOnTop) := by
  -- The files of the request are those of the nodes that have files of their own.
  obtain ⟨profile, renderer, doc, tree, hprofile, hrenderer, hdoc, htree, hfiles⟩ := generate_inv h
  refine ⟨profile, renderer, doc, tree, hprofile, hrenderer, hdoc, htree, ?whole, ?split, ?lead⟩
  case whole =>
    intro hsplit
    rw [hsplit, fileNodes, if_neg Bool.false_ne_true] at hfiles
    rcases hfiles with _ | ⟨hfile, _ | _⟩
    exact ⟨_, rfl, hfile⟩
  case split =>
    intro hsplit
    rw [hsplit, fileNodes, if_pos rfl] at hfiles
    exact ⟨hfiles, forall₂_classes_iff hfiles⟩
  case lead =>
    intro hlead
    obtain ⟨root, hroot, hformat⟩ := bind_eq_ok_iff.1 htree
    obtain ⟨-, -, -, hregular⟩ := Format.tree_inv hformat
    have hd := Json.distinctKeys_of_parse hdoc
    exact (hregular (Schema.regular_infer hd hroot hlead)).classesOnTop

/-- A template for the name of a class. -/
def nameOnly : Outline := .placeholder (.name none) (.plain _) .empty

/-- The root and a class below it. -/
theorem generate_split_nested :
    let request : Request :=
      { template := String.ofList nameOnly.source, data := "\x7b\"a\":\x7b\"b\":true\x7d\x7d"
        config := uniformConfig true false }
    generate .builtin request = .ok [⟨"f", "RootClass"⟩, ⟨"f", "A"⟩] ∧
    ∃ renderer tree, List.Forall₂ (FileOf renderer true) (tree :: tree.classes)
      [⟨"f", "RootClass"⟩, ⟨"f", "A"⟩] := by
  intro request
  have hblank : Text.isBlank (String.ofList nameOnly.source) = false := rfl
  have hdoc : Json.parse request.data =
      .ok (.object [("a", .object [("b", .bool true)])]) := by cbv
  -- No array puts anything in front of an object.
  have hlead : ObjectsLead (.object [("a", .object [("b", .bool true)])]) := by
    have hb : ObjectsLead (.bool true) := Schema.objectsLead_of_isScalar rfl
    have ha : ObjectsLead (.object [("b", .bool true)]) :=
      (Schema.objectsLead_object_iff (by simp)).2 (by simp [hb])
    exact (Schema.objectsLead_object_iff (by simp)).2 (by simp [ha])
  have htree : Format.tree (uniformProfile true) { sortProperties := false }
      { key := "", tag := .object
        children := [{ key := "a", tag := .object, children := [{ key := "b", tag := .bool }] }] } =
    .ok { key := "RootClass", tag := .object, className := some "RootClass", fileName := some "f"
          typeName := some "t", docTypeName := some "t"
          children := [{ key := "a", tag := .object, className := some "A", fileName := some "f"
                         typeName := some "t", docTypeName := some "t"
                         children := [{ key := "b", tag := .bool, typeName := some "t"
                                        docTypeName := some "t" }] }] } := rfl
  have hfiles : generate .builtin request = .ok [⟨"f", "RootClass"⟩, ⟨"f", "A"⟩] := by
    rw [generate_uniform hblank (by decide) hdoc rfl htree]
    rfl
  -- The profile and the sample are those that the request names.
  obtain ⟨profile, renderer, doc, tree, hprofile, -, hdoc', -, -, hsplit, hall⟩ := generate_split hfiles
  rw [profile_uniformConfig] at hprofile
  rw [hdoc] at hdoc'
  obtain rfl := Except.ok.inj hprofile
  obtain rfl := Except.ok.inj hdoc'
  exact ⟨hfiles, renderer, tree, (hsplit rfl).2.2 (hall hlead)⟩

/-- The class below the node that is none has no file. -/
theorem generate_split_ne :
    let request : Request :=
      { template := String.ofList nameOnly.source
        data := "[[true,\x7b\"k\":true\x7d],\x7b\"k\":\x7b\"a\":\x7b\"b\":true\x7d\x7d\x7d]"
        config := uniformConfig true false }
    ∃ profile doc tree,
      request.config.profile .builtin = .ok profile ∧ profile.splitByFiles = true ∧
      Json.parse request.data = .ok doc ∧ formattedTree profile request.config doc = .ok tree ∧
      tree.classes.map (·.name) = ["A"] ∧
      generate .builtin request = .ok [⟨"f", "RootClass"⟩] ∧
      ¬∃ renderer, List.Forall₂ (FileOf renderer true) (tree :: tree.classes)
        [⟨"f", "RootClass"⟩] := by
  intro request
  have hblank : Text.isBlank (String.ofList nameOnly.source) = false := rfl
  have hdoc : Json.parse request.data =
      .ok (outranked [("a", .object [("b", .bool true)])]) := by cbv
  have hroot : infer false (outranked [("a", .object [("b", .bool true)])]) =
      .ok { key := "", tag := .arrayObject
            children := [{ key := "k", tag := .bool
                           children := [{ key := "a", tag := .object
                                          children := [{ key := "b", tag := .bool }] }] }] } := rfl
  have htree : Format.tree (uniformProfile true) { sortProperties := false }
      { key := "", tag := .arrayObject
        children := [{ key := "k", tag := .bool
                       children := [{ key := "a", tag := .object
                                      children := [{ key := "b", tag := .bool }] }] }] } =
    .ok { key := "RootClass", tag := .arrayObject, className := some "RootClass"
          fileName := some "f", typeName := some "t", docTypeName := some "t"
          children := [{ key := "k", tag := .bool, typeName := some "t", docTypeName := some "t"
                         children := [{ key := "a", tag := .object, className := some "A"
                                        fileName := some "f", typeName := some "t"
                                        docTypeName := some "t"
                                        children := [{ key := "b", tag := .bool
                                                       typeName := some "t"
                                                       docTypeName := some "t" }] }] }] } := rfl
  have hfiles : generate .builtin request = .ok [⟨"f", "RootClass"⟩] := by
    rw [generate_uniform hblank (by decide) hdoc hroot htree]
    rfl
  refine ⟨_, _, _, profile_uniformConfig true false, rfl, hdoc, formattedTree_uniform hroot htree,
    rfl, hfiles, ?_⟩
  -- There are two nodes, but one file.
  rintro ⟨renderer, hall⟩
  cases hall.length_eq

end Stencil
