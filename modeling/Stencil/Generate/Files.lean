import Stencil.Generate.Basic
import Stencil.Profile.Load

/-! # Generating files from files

The parts of a request can be in files, and what is generated can be written to a directory.  A
configuration file is a text in YAML if its extension says so, and in JSON otherwise.  Of several files
with one name the last one stays. -/

namespace Stencil

/-! ## Configurations of files -/

namespace Config

/-- The configuration of a text in YAML. -/
def ofYaml (s : String) : Except Problem Config :=
  (decoder.run (Yaml.ofText s)).mapError fun _ => .unfitYaml

/-- The configuration of a text in JSON. -/
def ofJsonText (s : String) : Except Problem Config := (decoder.ofText s).mapError .unfitJson

/-- Whether a file is one in YAML. -/
def isYaml (path : String) : Bool := (Path.ofText path).extension?.any ["yaml", "yml"].contains

/-- The configuration of a file. -/
def load {m : Type → Type} [Monad m] [FileAccess m] (path : String) : ExceptT Problem m Config := do
  let s ← readFile (Problem.ofInput path) path
  MonadExcept.ofExcept (if isYaml path then ofYaml s else ofJsonText s)

end Config

/-! ## Requests whose parts are in files -/

/-- A request whose parts are in files. -/
structure FileRequest where
  templateFile : String
  dataFile : String
  /-- The file of the configuration, which wins over the configuration of the request. -/
  configFile? : Option String := none
  config : Config := {}
  deriving DecidableEq, Repr

variable {m : Type → Type} [Monad m] [FileAccess m]

/-- The request whose parts have been read from files: the template first, then the sample, then the
configuration. -/
def FileRequest.resolve (r : FileRequest) : ExceptT Problem m Request := do
  let input (path : String) : ExceptT Problem m String := readFile (Problem.ofInput path) path
  let template ← input r.templateFile
  let data ← input r.dataFile
  let config ←
    match r.configFile? with
    | some path => Config.load path
    | none => pure r.config
  return { template, data, config }

/-- Generate the files of a request whose parts are in files. -/
def generateFromFiles (registry : Registry) (r : FileRequest) :
    ExceptT Problem m (List RenderedFile) := do
  MonadExcept.ofExcept (generate registry (← r.resolve))

/-! ## Writing files -/

/-- Write files in order: the paths of what has been written. -/
def writeAll (directory : String) : List RenderedFile → ExceptT Problem m (List String)
  | [] => return []
  | f :: fs => do
    let path := Path.join directory f.fileName
    settle (FileAccess.writeText path f.content)
    return path :: (← writeAll directory fs)

/-- Write files into a directory, which is made if it is missing: the paths of what has been written. -/
def writeFiles (directory : String) (fs : List RenderedFile) : ExceptT Problem m (List String) := do
  settle (FileAccess.createDirectories directory)
  writeAll directory fs

end Stencil
