import Stencil.Config.Basic
import Stencil.Format.Tree
import Stencil.Render
import Stencil.Schema.Infer

/-! # Generating files

A request holds a template, a sample and a configuration.  It either yields all its files or one
problem.

* `generate_blank_template`  a blank template is the first problem to be reported. -/

namespace Stencil

open Text

/-- A file that has been generated. -/
structure RenderedFile where
  fileName : String
  content : String
  deriving DecidableEq, Repr

/-- What is to be generated. -/
structure Request where
  template : String
  data : String
  config : Config := {}
  deriving DecidableEq, Repr

/-- The name of the template of a request. -/
def requestTemplateName : String := "template"

/-- Succeeds if a part of a request is not blank. -/
def needText (what content : String) : Except Problem Unit :=
  if isBlank content then .error (.empty what) else .ok ()

/-- Read a sample. -/
def readSample (format : DataFormat) (s : String) : Except Problem Json :=
  match format with
  | .json => (Json.parse s).mapError .unfitJson

/-- The formatted tree of a sample. -/
def formattedTree (profile : Profile) (config : Config) (sample : Json) :
    Except Problem Schema.Node := do
  let root ← Schema.infer config.detectStringSubtypes sample
  Format.tree profile config.options root

/-- The file of a node. -/
def renderFile (renderer : Renderer) (split : Bool) (n : Schema.Node) :
    Except Problem RenderedFile := do
  let content ← renderer.render n split
  return { fileName := n.fileName.getD "", content }

/-- Generate the files of a request. -/
def generate (registry : Registry) (request : Request) : Except Problem (List RenderedFile) := do
  -- The order of these steps decides which of several problems is reported.
  needText "template" request.template
  needText "data" request.data
  let profile ← request.config.profile registry
  let renderer ← Renderer.compile requestTemplateName request.template
  let format ← DataFormat.ofText request.config.dataFormat
  let sample ← readSample format request.data
  let root ← formattedTree profile request.config sample
  (fileNodes root profile.splitByFiles).mapM (renderFile renderer profile.splitByFiles)

/-- A blank template is found first, whatever else is wrong with the request. -/
theorem generate_blank_template {request : Request} (h : isBlank request.template = true)
    (registry : Registry) : generate registry request = .error (.empty "template") := by
  simp [generate, needText, h, bind, Except.bind]

/-! ## Requests and responses as data -/

namespace Request

/-- The fields of a request. -/
def fields : List (FieldRule × Shape) :=
  [requiredField "tmpl" .text, requiredField "data" .text,
    optionalField "config" (.record Config.fields)]

/-- The request that a datum holds. -/
def ofDatum (d : Datum) : Request :=
  let text (name : String) : String := ((d.field? fields name).bind Datum.text?).getD ""
  { template := text "tmpl", data := text "data"
    config := ((d.field? fields "config").map Config.ofDatum).getD {} }

/-- How a request is read. -/
def decoder : Decoder Request := ⟨.record fields, ofDatum⟩

end Request

namespace RenderedFile

/-- The fields of a file. -/
def fields : List (FieldRule × Shape) :=
  [requiredField "fileName" .text, requiredField "content" .text]

/-- The file that a datum holds. -/
def ofDatum (d : Datum) : RenderedFile :=
  let text (name : String) : String := ((d.field? fields name).bind Datum.text?).getD ""
  { fileName := text "fileName", content := text "content" }

/-- A file as a JSON value. -/
def toJson (f : RenderedFile) : Json :=
  .object [("fileName", .string f.fileName), ("content", .string f.content)]

end RenderedFile

/-- The files of a request, and the time that they took in nanoseconds. -/
structure Response where
  files : List RenderedFile
  nanos : Nat
  deriving DecidableEq, Repr

namespace Response

/-- The first file of a name. -/
def file? (r : Response) (name : String) : Option RenderedFile :=
  r.files.find? (·.fileName == name)

/-- The fields of a response. -/
def fields : List (FieldRule × Shape) :=
  [requiredField "renderedFiles" (.list (.record RenderedFile.fields)),
    requiredField "renderTime" .natural]

/-- The response that a datum holds. -/
def ofDatum (d : Datum) : Response :=
  { files := (((d.field? fields "renderedFiles").map Datum.items).getD []).map RenderedFile.ofDatum
    nanos := ((d.field? fields "renderTime").bind Datum.natural?).getD 0 }

/-- How a response is read. -/
def decoder : Decoder Response := ⟨.record fields, ofDatum⟩

/-- A response as a JSON value.  Of the time, only as much is told as 64 bits can hold. -/
def toJson (r : Response) : Json :=
  .object [("renderedFiles", .array (r.files.map RenderedFile.toJson)),
    ("renderTime", .number (.whole (r.nanos % 1 <<< 64 : Nat)))]

end Response
end Stencil
