import Stencil.Directive.Balance
import Stencil.FileTree.Basic
import Stencil.Json.Numeral
import Stencil.Tag
import Stencil.Template.Value

/-! # Problems

A `Problem` is the one cause for which a request fails.  Each problem has a wording, and is either the
fault of the request or that of the surroundings. -/

namespace Stencil

/-- Why a request fails. -/
inductive Problem where
  /-- A sample file cannot be read. -/
  | unreadableData (path : String) (fault : FileFault)
  /-- A profile file cannot be read. -/
  | unreadableProfile (path : String) (fault : FileFault)
  /-- There is no built-in profile and no profile file of the name. -/
  | profileNotFound (path : String) (known : List String)
  /-- The text of a profile is not a profile. -/
  | unfitProfile
  /-- A setting that must be given is missing or blank. -/
  | missingField (field : String)
  /-- A setting is a template that is not balanced. -/
  | unbalancedField (field : String) (imbalance : Imbalance)
  | unknownLanguage (lang : String) (available : List String)
  /-- The text of a configuration in YAML is not a configuration. -/
  | unfitYaml
  /-- A JSON text cannot be read. -/
  | unfitJson (fault : Json.Fault)
  | empty (what : String)
  | unsupportedFormat (format : String)
  /-- The sample is neither an object nor an array. -/
  | unsupportedRoot (tag : Tag)
  | unbalanced (imbalance : Imbalance)
  /-- The template of the name cannot be rendered. -/
  | unrenderable (name : String) (failure : Template.Failure)
  | file (fault : FileFault)
  | fileNotFound (path : String)
  deriving DecidableEq, Repr

namespace Problem

/-- Whether the problem is the fault of the request. -/
def isUserError : Problem → Bool
  | .file _ => false
  | _ => true

/-- The wording of a problem. -/
def message : Problem → String
  | .unreadableData path fault =>
    "Configuration error: Failed to read data file '" ++ path ++ "': " ++ fault.message
  | .unreadableProfile path fault =>
    "Configuration error: Failed to read profile file '" ++ path ++ "': " ++ fault.message
  | .profileNotFound path known =>
    "Configuration error: Profile '" ++ path ++ "' not found. Built-in profiles: " ++
      ", ".intercalate known ++ ". Or provide a path to a YAML file."
  | .unfitProfile => "Configuration error: Failed to parse profile YAML"
  | .missingField field => "Missing required config field: " ++ field
  | .unbalancedField field imbalance =>
    "Invalid config value for '" ++ field ++ "': " ++ imbalance.message
  | .unknownLanguage lang available =>
    "Language \"" ++ lang ++ "\" is not supported (available: " ++ ", ".intercalate available ++ ")"
  | .unfitYaml => "Failed to parse YAML"
  | .unfitJson _ => "Failed to parse JSON"
  | .empty what => what ++ " is empty"
  | .unsupportedFormat format =>
    "Data format '" ++ format ++ "' is not supported, only 'json' is allowed"
  | .unsupportedRoot tag =>
    "Unsupported root value: expected a JSON object or array, got " ++ tag.name
  | .unbalanced imbalance => imbalance.message
  | .unrenderable name failure => "Template error in '" ++ name ++ "': " ++ failure.message
  | .file fault => "IO error: " ++ fault.message
  | .fileNotFound path => "File not found: " ++ path

end Problem
end Stencil
