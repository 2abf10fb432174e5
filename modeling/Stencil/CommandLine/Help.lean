import Stencil.CommandLine.Invocation

/-! # Help with the command line

The texts that are printed when words do not ask for anything to be done. -/

namespace Stencil.CommandLine

/-- The name of the program. -/
def programName : String := "gendata"

/-- The version of the program. -/
def programVersion : String := "0.1.0"

/-- How a command is called. -/
def CommandRule.synopsis (rule : CommandRule) : String :=
  let needed := (rule.options.filter (·.required)).map fun o => " --" ++ o.long ++ " <VALUE>"
  programName ++ " " ++ rule.name ++ String.join needed ++ " [OPTIONS]"

/-- How the program is called. -/
def synopsis : String :=
  "Usage:\n" ++ String.join (commandRules.map fun rule => "  " ++ rule.synopsis ++ "\n")

namespace Usage

/-- What is wrong with the words, if anything is. -/
def complaint? : Usage → Option String
  | .help | .version | .nothing => none
  | .missingCommand => some "a command is missing"
  | .unknownCommand => some "there is no such command"
  | .unknownOption => some "there is no such option"
  | .repeatedOption => some "an option is given twice"
  | .missingOption => some "an option that is needed is missing"
  | .missingValue => some "an option needs a value"
  | .needlessValue => some "an option takes no value"
  | .emptyPath => some "a path is empty"
  | .unknownChoice => some "a value is none of those that are possible"
  | .invalidPort => some "a port is no number up to 65535"

/-- What is printed. -/
def text (u : Usage) : String :=
  match u, u.complaint? with
  | .version, _ => programName ++ " " ++ programVersion ++ "\n"
  | _, some complaint => "error: " ++ complaint ++ "\n\n" ++ synopsis
  | _, none => synopsis

/-- The code that the program ends with. -/
def exitCode : Usage → Nat
  | .help | .version => 0
  | _ => 2

end Usage
end Stencil.CommandLine
