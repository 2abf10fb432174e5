import Stencil.Generate.Basic
import Stencil.Proofs.Directive.Rendering
import Stencil.Proofs.Format.Filling
import Stencil.Proofs.Json.Reading
import Stencil.Proofs.Profile.Checking

/-!
# Steps of a request

A request succeeds if all its steps do, and then there is one file for each node that has a file of
its own. For a template that is an outline, the files are known without the template engine.

## Key results

- `generate_of_parse`: the steps that are left once a sample has been read
- `generate_inv`: the steps of a request that has succeeded
- `generate_outline`: the files of a request whose template is an outline
-/

namespace Stencil

open Schema (Node infer)

variable {registry : Registry} {request : Request}

/-- Once its sample has been read, a request depends on the sample through its tree only. -/
theorem generate_of_parse {doc : Json} (h : Json.parse request.data = .ok doc) :
    generate registry request = (do
      needText "template" request.template
      let profile ← request.config.profile registry
      let renderer ← Renderer.compile requestTemplateName request.template
      let _ ← DataFormat.ofText request.config.dataFormat
      let root ← formattedTree profile request.config doc
      (fileNodes root profile.splitByFiles).mapM (renderFile renderer profile.splitByFiles)) := by
  -- A sample that can be read is not blank.
  have hdata : needText "data" request.data = .ok () := by
    rw [needText, Json.isBlank_of_parse h]
    rfl
  have hsample : ∀ format : DataFormat, readSample format request.data = .ok doc := by
    intro format
    cases format
    rw [readSample, h]
    rfl
  simp only [generate, hdata, hsample]
  rfl

/-- The file is named after the node and holds what is rendered for it. -/
def FileOf (renderer : Renderer) (split : Bool) (n : Node) (f : RenderedFile) : Prop :=
  n.fileName = some f.fileName ∧ renderer.render n split = .ok f.content

/-- The nodes with files of their own are the root and classes of the tree. -/
theorem mem_fileNodes {root n : Node} {split : Bool} (h : n ∈ fileNodes root split) :
    n = root ∨ n ∈ root.classes := by
  rw [fileNodes] at h
  -- The output is split, or the root has the only file.
  split at h
  · exact List.mem_cons.1 ((Node.composites_sublist root).subset h)
  · exact .inl (List.mem_singleton.1 h)

/-- What is rendered for a node with a file name is its file. -/
theorem fileOf_of_renderFile {renderer : Renderer} {split : Bool} {n : Node} {f : RenderedFile}
    (hn : n.fileName.isSome = true) (h : renderFile renderer split n = .ok f) :
    FileOf renderer split n f := by
  obtain ⟨content, hcontent, h⟩ := bind_eq_ok_iff.1 h
  obtain rfl := Except.ok.inj h
  obtain ⟨name, hname⟩ := Option.isSome_iff_exists.1 hn
  exact ⟨by rw [hname]; rfl, hcontent⟩

/-- A request that succeeds has gone through all steps. There is one file for each node that has a
file of its own, in their order. -/
theorem generate_inv {files : List RenderedFile} (h : generate registry request = .ok files) :
    ∃ profile renderer doc tree,
      request.config.profile registry = .ok profile ∧
      Renderer.compile requestTemplateName request.template = .ok renderer ∧
      Json.parse request.data = .ok doc ∧
      formattedTree profile request.config doc = .ok tree ∧
      List.Forall₂ (FileOf renderer profile.splitByFiles)
        (fileNodes tree profile.splitByFiles) files := by
  -- Each step has succeeded, so what it has given can be named.
  rw [generate] at h
  obtain ⟨-, -, h⟩ := bind_eq_ok_iff.1 h
  obtain ⟨-, -, h⟩ := bind_eq_ok_iff.1 h
  obtain ⟨profile, hprofile, h⟩ := bind_eq_ok_iff.1 h
  obtain ⟨renderer, hrenderer, h⟩ := bind_eq_ok_iff.1 h
  obtain ⟨format, -, h⟩ := bind_eq_ok_iff.1 h
  obtain ⟨doc, hdoc, h⟩ := bind_eq_ok_iff.1 h
  obtain ⟨tree, htree, h⟩ := bind_eq_ok_iff.1 h
  -- There is one format, so what has been read is what the text says.
  have hparse : Json.parse request.data = .ok doc := by
    cases format
    rw [readSample] at hdoc
    cases hp : Json.parse request.data with
    | ok v =>
      rw [hp] at hdoc
      exact congrArg Except.ok (Except.ok.inj hdoc)
    | error e =>
      rw [hp] at hdoc
      cases hdoc
  refine ⟨profile, renderer, doc, tree, hprofile, hrenderer, hparse, htree, ?_⟩
  obtain ⟨root, -, hformat⟩ := bind_eq_ok_iff.1 htree
  have hfiles := Format.tree_inv hformat
  rw [mapM_eq_ok_iff] at h
  -- The root and the classes have file names, and no other node has a file.
  have hname : ∀ n ∈ fileNodes tree profile.splitByFiles, n.fileName.isSome = true := by
    intro n hn
    rcases mem_fileNodes hn with rfl | hn
    · exact hfiles.2.1
    · exact hfiles.2.2.1 n hn
  exact ((List.forall₂_and_left _ _).2 ⟨hname, h⟩).imp fun n f hf => fileOf_of_renderFile hf.1 hf.2

/-- Rendering an outline for a formatted node, whether the output is split or not. -/
theorem render_outline_split (t : Outline) (ht : t.nesting < Template.Expr.maxDepth) {n : Node}
    (hn : Formatted n) (split : Bool) :
    Renderer.render ⟨requestTemplateName, t.expansion, none⟩ n split =
      .ok (String.ofList (t.meaning n)) := by
  have hrender := Renderer.render_expansion requestTemplateName t hn
  rw [if_pos ht] at hrender
  -- Without a split section, the files of classes are made from the whole template.
  cases split <;> exact hrender

/-- All nodes of a formatted tree are formatted. -/
theorem Formatted.of_mem_descendants {n d : Node} (h : Formatted n) (hd : d ∈ n.descendants) :
    Formatted d := by
  induction h with
  | @mk n _ _ hchildren ih =>
    -- It is a child, or below one.
    rcases Node.mem_descendants.1 hd with ⟨c, hc, rfl | hd⟩
    · exact hchildren d hc
    · exact ih c hc hd

/-- The files of a request whose template is an outline say of each node what the outline does. -/
theorem generate_outline {doc : Json} {t : Outline} {profile : Profile} {format : DataFormat}
    {tree : Node} (htemplate : request.template = String.ofList t.source)
    (hblank : Text.isBlank request.template = false) (ht : t.nesting < Template.Expr.maxDepth)
    (hdoc : Json.parse request.data = .ok doc)
    (hprofile : request.config.profile registry = .ok profile)
    (hformat : DataFormat.ofText request.config.dataFormat = .ok format)
    (htree : formattedTree profile request.config doc = .ok tree) :
    generate registry request =
      .ok ((fileNodes tree profile.splitByFiles).map fun n =>
        { fileName := n.fileName.getD "", content := String.ofList (t.meaning n) }) := by
  have hneed : needText "template" request.template = .ok () := by
    rw [needText, hblank]
    rfl
  have hcompile : Renderer.compile requestTemplateName request.template =
      .ok ⟨requestTemplateName, t.expansion, none⟩ := by
    rw [htemplate]
    exact Renderer.compile_source requestTemplateName t
  obtain ⟨root, -, htree'⟩ := bind_eq_ok_iff.1 htree
  obtain ⟨hformatted, -⟩ := Format.tree_inv htree'
  -- Nodes with files belong to the formatted tree.
  have hnodes : ∀ n ∈ fileNodes tree profile.splitByFiles, Formatted n := by
    intro n hn
    rcases mem_fileNodes hn with rfl | hn
    · exact hformatted
    · exact hformatted.of_mem_descendants (List.mem_filter.1 hn).1
  have hfiles : (fileNodes tree profile.splitByFiles).mapM
      (renderFile ⟨requestTemplateName, t.expansion, none⟩ profile.splitByFiles) =
    .ok ((fileNodes tree profile.splitByFiles).map fun n =>
      { fileName := n.fileName.getD "", content := String.ofList (t.meaning n) }) := by
    rw [mapM_eq_ok_iff, List.forall₂_map_right_iff, List.forall₂_same]
    intro n hn
    rw [renderFile, render_outline_split t ht (hnodes n hn)]
    rfl
  rw [generate_of_parse hdoc, hneed, hprofile, hcompile, hformat]
  show (formattedTree profile request.config doc >>= _) = _
  rw [htree]
  exact hfiles

/-! ## A profile that tells nodes apart by their names only -/

/-- All types and all files have the same name. -/
def uniformProfile (split : Bool) : Profile :=
  { code := "p", splitByFiles := split, types := .uniform "t", docTypes? := some (.uniform "t")
    fileNameTemplate := "f" }

def uniformConfig (split sort : Bool) : Config :=
  { langSettings := some (uniformProfile split), sortProperties := sort }

/-- The settings give this profile: it passes its check. -/
theorem profile_uniformConfig (split sort : Bool) :
    (uniformConfig split sort).profile registry = .ok (uniformProfile split) := by
  have hcheck : (uniformProfile split).check = .ok () := by
    cases split <;> rfl
  show (do (uniformProfile split).check; pure (uniformProfile split).resolved) = _
  rw [hcheck]
  rfl

/-- A sample is formatted as its tree is for this profile. -/
theorem formattedTree_uniform {split sort : Bool} {doc : Json} {root tree : Node}
    (hroot : infer false doc = .ok root)
    (htree : Format.tree (uniformProfile split) { sortProperties := sort } root = .ok tree) :
    formattedTree (uniformProfile split) (uniformConfig split sort) doc = .ok tree := by
  have hoptions : (uniformConfig split sort).options = { sortProperties := sort } := by
    cases split <;> cases sort <;> rfl
  rw [formattedTree, hoptions]
  show (infer false doc >>= _) = _
  rw [hroot]
  exact htree

/-- The files of an outline for this profile. -/
theorem generate_uniform {split sort : Bool} {t : Outline} {data : String} {doc : Json}
    {root tree : Node} (hblank : Text.isBlank (String.ofList t.source) = false)
    (ht : t.nesting < Template.Expr.maxDepth) (hdoc : Json.parse data = .ok doc)
    (hroot : infer false doc = .ok root)
    (htree : Format.tree (uniformProfile split) { sortProperties := sort } root = .ok tree) :
    generate registry
        { template := String.ofList t.source, data, config := uniformConfig split sort } =
      .ok ((fileNodes tree split).map fun n =>
        { fileName := n.fileName.getD "", content := String.ofList (t.meaning n) }) := by
  have hformat : DataFormat.ofText "json" = .ok .json := rfl
  exact @generate_outline registry ⟨String.ofList t.source, data, uniformConfig split sort⟩ doc t
    (uniformProfile split) .json tree rfl hblank ht hdoc (profile_uniformConfig split sort) hformat
    (formattedTree_uniform hroot htree)

/-- A sample in which an object stands behind a truth value that decides on its tag, but is not
merged. -/
def outranked (ms : Json.Members) : Json :=
  .array [.array [.bool true, .object [("k", .bool true)]], .object [("k", .object ms)]]

end Stencil
