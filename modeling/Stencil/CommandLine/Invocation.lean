import Stencil.CommandLine.Reading
import Stencil.Config.Basic

/-! # What a command line asks for

An `Invocation` is a command with the options that hold for all commands.  Those options can stand in
front of the command or behind it, and the ones behind it win. -/

namespace Stencil.CommandLine

/-- How answers are printed. -/
inductive Layout where
  | json
  | pretty
  deriving DecidableEq, Repr

/-- How much is reported on the way. -/
inductive LogLevel where
  | trace
  | debug
  | info
  | warn
  | error
  deriving DecidableEq, Repr

/-- What is to be generated, and where it goes. -/
structure GenerateJob where
  templateFile : String
  dataFile : String
  configFile? : Option String
  /-- The file of a profile of one's own. -/
  profile? : Option String
  overrides : Overrides
  /-- The directory to write to. -/
  out? : Option String
  deriving DecidableEq, Repr

/-- What can be asked for. -/
inductive Command where
  | generate (job : GenerateJob)
  /-- The tree of a sample. -/
  | schema (dataFile : String) (subtypes : Bool)
  /-- The profiles with a code and a name. -/
  | langs (code name : Option String)
  /-- The tags. -/
  | types
  /-- The service on a port, with profiles of files. -/
  | serve (port : Nat) (profiles : List String)
  deriving DecidableEq, Repr

/-- A command, and the options that hold for all commands. -/
structure Invocation where
  layout : Layout
  logLevel : LogLevel
  command : Command
  deriving DecidableEq, Repr

/-! ## Options -/

/-- The names of the layouts. -/
def Layout.names : List (String × Layout) := [("json", .json), ("pretty", .pretty)]

/-- The names of the levels of reports. -/
def LogLevel.names : List (String × LogLevel) :=
  [("trace", .trace), ("debug", .debug), ("info", .info), ("warn", .warn), ("error", .error)]

/-- The options that hold for all commands. -/
def globalOptions : List OptionRule :=
  [{ long := "format", short? := some 'f', kind := .value (.choice (Layout.names.map (·.1))) },
    { long := "log-level", kind := .value (.choice (LogLevel.names.map (·.1))) },
    { long := "verbose", short? := some 'v', kind := .flag },
    { long := "help", short? := some 'h', kind := .asks .help }]

/-- How a command is given. -/
structure CommandRule where
  name : String
  options : List OptionRule
  /-- The command, once its options have been read. -/
  build : Reading → Command

/-- The command that generates files. -/
def generateRule : CommandRule where
  name := "gen"
  options :=
    [{ long := "template-file", short? := some 't', kind := .value .path, required := true },
      { long := "data-file", short? := some 'd', kind := .value .path, required := true },
      { long := "config-file", short? := some 'c', kind := .value .path },
      { long := "lang", short? := some 'l', kind := .value .text },
      { long := "profile", kind := .value .path },
      { long := "root-class-name", kind := .value .text },
      { long := "prefix-class-name", kind := .value .text },
      { long := "suffix-class-name", kind := .value .text },
      { long := "sort-properties", kind := .flag },
      { long := "detect-string-subtypes", kind := .flag },
      { long := "out", short? := some 'o', kind := .value .path }]
  build r := .generate {
    templateFile := (r.value? "template-file").getD ""
    dataFile := (r.value? "data-file").getD ""
    configFile? := r.value? "config-file"
    profile? := r.value? "profile"
    overrides := {
      lang := r.value? "lang"
      rootClassName := r.value? "root-class-name"
      prefixClassName := r.value? "prefix-class-name"
      suffixClassName := r.value? "suffix-class-name"
      sortProperties := r.has "sort-properties"
      detectStringSubtypes := r.has "detect-string-subtypes" }
    out? := r.value? "out" }

/-- The command that prints the tree of a sample. -/
def schemaRule : CommandRule where
  name := "schema"
  options :=
    [{ long := "data-file", short? := some 'd', kind := .value .path, required := true },
      { long := "detect-string-subtypes", kind := .flag }]
  build r := .schema ((r.value? "data-file").getD "") (r.has "detect-string-subtypes")

/-- The command that lists profiles. -/
def langsRule : CommandRule where
  name := "langs"
  options := [{ long := "code", kind := .value .text }, { long := "name", kind := .value .text }]
  build r := .langs (r.value? "code") (r.value? "name")

/-- The command that lists tags. -/
def typesRule : CommandRule where
  name := "types"
  options := []
  build _ := .types

/-- The port of the service, unless another one is given. -/
def defaultPort : Nat := 8081

/-- The command that starts the service. -/
def serveRule : CommandRule where
  name := "serve"
  options :=
    [{ long := "port", short? := some 'p', kind := .value .port },
      { long := "profile", kind := .value .path, repeatable := true }]
  build r := .serve (((r.value? "port").bind portOf?).getD defaultPort) (r.values "profile")

/-- The commands. -/
def commandRules : List CommandRule := [generateRule, schemaRule, langsRule, typesRule, serveRule]

/-- The command that asks for help with a command. -/
def helpName : String := "help"

/-- What stands in front of the command. -/
def rootLevel : Level where
  options := globalOptions ++ [{ long := "version", short? := some 'V', kind := .asks .version }]
  commands := commandRules.map (·.name) ++ [helpName]

/-- What stands behind the command. -/
def CommandRule.level (rule : CommandRule) : Level where
  options := rule.options ++ globalOptions

/-! ## Reading a command line -/

/-- What the words behind a request for help ask for. -/
def helpWith : List String → Usage
  | [] => .help
  | [name] => if rootLevel.commands.contains name then .help else .unknownCommand
  | _ => .unknownCommand

/-- The invocation of a command, whose options have been read in front of it and behind it. -/
def Invocation.build (rule : CommandRule) (front behind : Reading) : Invocation :=
  let value? (name : String) : Option String := behind.value? name <|> front.value? name
  let layout? := (value? "format").bind (List.lookup · Layout.names)
  let logLevel? := (value? "log-level").bind (List.lookup · LogLevel.names)
  { layout := layout?.getD .pretty
    logLevel := if (value? "verbose").isSome then .debug else logLevel?.getD .info
    command := rule.build behind }

/-- The invocation that words ask for.  What stands behind the command is checked before the last
value in front of it. -/
def Invocation.ofWords (words : List String) : Except Usage Invocation := do
  let (front, rest) ← Reading.read rootLevel {} words
  match rest with
  | none =>
    let front ← front.settle
    .error (if front.given.isEmpty then .nothing else .missingCommand)
  | some (name, words) =>
    match commandRules.find? (·.name == name) with
    | none => .error (helpWith words)
    | some rule =>
      let (behind, _) ← Reading.read rule.level {} words
      let behind ← behind.finish rule.level
      let front ← front.settle
      return Invocation.build rule front behind

end Stencil.CommandLine
