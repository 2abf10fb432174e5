import Stencil.CommandLine.Invocation
import Stencil.Generate.Files
import Stencil.Json.Printer
import Stencil.Schema.Codec

/-! # Running a command

A command either yields an `Output` or one problem.  What it writes to files before a problem stays. -/

namespace Stencil

namespace CommandLine

/-- What a command yields. -/
inductive Output where
  /-- Files to be printed. -/
  | files (fs : List RenderedFile)
  | message (v : Json)
  /-- The files have been written. -/
  | written (paths : List String)
  /-- The service is to be started. -/
  | service (registry : Registry) (port : Nat)

namespace Output

/-- A file below a line with its name. -/
def titled (f : RenderedFile) : String :=
  "// ===== " ++ f.fileName ++ " =====\n" ++ f.content ++ "\n"

/-- The text that is printed.  The time that it took to get there is part of one form of it. -/
def text (layout : Layout) (nanos : Nat) : Output → String
  | .files fs =>
    match layout with
    | .json => (Response.mk fs nanos).toJson.compact ++ "\n"
    | .pretty => String.join (fs.map titled)
  | .message v =>
    match layout with
    | .json => v.compact ++ "\n"
    | .pretty => v.pretty ++ "\n"
  | .written _ | .service .. => ""

end Output

variable {m : Type → Type} [Monad m] [FileAccess m]

/-- Run a job.  A profile of one's own is the target language unless another one is named. -/
def GenerateJob.run (job : GenerateJob) : ExceptT Problem m Output := do
  let (registry, overrides) ←
    match job.profile? with
    | none => pure (Registry.builtin, job.overrides)
    | some path => do
      let p ← Profile.load path
      let registry ← MonadExcept.ofExcept (Registry.builtin.register p)
      pure (registry, { job.overrides with lang := job.overrides.lang <|> some p.code })
  let config ←
    match job.configFile? with
    | none => pure {}
    | some path => Config.load path
  let fs ← generateFromFiles registry
    { templateFile := job.templateFile, dataFile := job.dataFile
      config := config.override overrides }
  match job.out? with
  | none => return .files fs
  | some directory => return .written (← writeFiles directory fs)

/-- The tree of the sample of a file, as a message. -/
def schemaMessage (dataFile : String) (subtypes : Bool) : ExceptT Problem m Output := do
  let s ← readFile (.unreadableData dataFile) dataFile
  let sample ← MonadExcept.ofExcept (readSample .json s)
  let root ← MonadExcept.ofExcept (Schema.infer subtypes sample)
  return .message (.object
    [("type", .string "SCHEMA"), ("nodes", .number (.whole root.nodeCount)), ("root", root.toJson)])

/-- Run a command. -/
def Command.run : Command → ExceptT Problem m Output
  | .generate job => job.run
  | .schema dataFile subtypes => schemaMessage dataFile subtypes
  | .langs code name =>
    return .message (.object
      [("type", .string "LANGS"), ("langs", profileList (Registry.builtin.list code name))])
  | .types => return .message (.object (("type", .string "TYPES") :: tagLists))
  | .serve port profiles => return .service (← Registry.load profiles) port

end CommandLine
end Stencil
