import Stencil.Text.Classes

/-! # Options of a command line

An `OptionRule` says how an option is written and what it takes.  A `Level` is the set of options that
can be given at one place: in front of the command or behind it. -/

namespace Stencil.CommandLine

/-- Why words do not ask for anything to be done. -/
inductive Usage where
  /-- Help is asked for. -/
  | help
  /-- The version is asked for. -/
  | version
  /-- Nothing at all is asked for. -/
  | nothing
  | missingCommand
  | unknownCommand
  | unknownOption
  | repeatedOption
  | missingOption
  /-- An option has no value. -/
  | missingValue
  /-- A flag has a value. -/
  | needlessValue
  | emptyPath
  | unknownChoice
  | invalidPort
  deriving DecidableEq, Repr

/-- What a value has to be. -/
inductive ValueRule where
  | text
  | path
  | choice (words : List String)
  | port
  deriving DecidableEq, Repr

/-- What an option does. -/
inductive OptionKind where
  | flag
  /-- The option asks for something instead of a command. -/
  | asks (what : Usage)
  | value (rule : ValueRule)
  deriving DecidableEq, Repr

/-- How an option is written and what it takes. -/
structure OptionRule where
  long : String
  short? : Option Char := none
  kind : OptionKind
  required : Bool := false
  repeatable : Bool := false
  deriving DecidableEq, Repr

/-- The options that can be given at one place, and the commands that can follow them. -/
structure Level where
  options : List OptionRule
  commands : List String := []
  deriving DecidableEq, Repr

/-- The number that decimal digits denote. -/
def naturalOf? (cs : List Char) : Option Nat :=
  if cs.isEmpty || !cs.all Char.isDigit then none
  else some (Text.decimalValue cs)

/-- The port of a text, which may have a sign. -/
def portOf? (s : String) : Option Nat :=
  let port? :=
    match s.toList with
    | '+' :: cs => naturalOf? cs
    | '-' :: cs => (naturalOf? cs).filter (· == 0)
    | cs => naturalOf? cs
  port?.filter (· < 65536)

namespace ValueRule

/-- Succeeds if a text is what a value has to be. -/
def check (s : String) : ValueRule → Except Usage Unit
  | .text => .ok ()
  | .path => if s.isEmpty then .error .emptyPath else .ok ()
  | .choice words => if words.contains s then .ok () else .error .unknownChoice
  | .port => if (portOf? s).isSome then .ok () else .error .invalidPort

end ValueRule

namespace Level

/-- The option of a long name. -/
def long? (level : Level) (name : String) : Option OptionRule :=
  level.options.find? (·.long == name)

/-- The option of a letter. -/
def short? (level : Level) (c : Char) : Option OptionRule :=
  level.options.find? (·.short? == some c)

/-- What is wrong with a word that is neither an option nor a value. -/
def stray (level : Level) : Usage :=
  if level.commands.isEmpty then .unknownOption else .unknownCommand

end Level
end Stencil.CommandLine
