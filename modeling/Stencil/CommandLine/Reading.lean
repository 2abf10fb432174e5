import Stencil.CommandLine.Option

/-! # Reading the words of a command line

Words are read from left to right.  An option without a value on it takes the next word, unless that
word looks like an option.  The value of an option is looked at when the next option is met or the
words end, so a word that nothing answers to is the first thing to be reported. -/

namespace Stencil.CommandLine

/-- What has been read at a level. -/
structure Reading where
  /-- The options that have been given, with their values. -/
  given : List (String × String) := []
  /-- The last option, if its value has not been looked at, and its value, if there has been one. -/
  pending? : Option (OptionRule × Option String) := none
  deriving DecidableEq, Repr

/-- The command behind the options of a level, and the words behind it. -/
abbrev Rest := Option (String × List String)

/-- What a word looks like. -/
inductive Word where
  /-- A long option, and the value on it. -/
  | long (name : String) (value? : Option String)
  /-- Short options in a row. -/
  | short (cs : List Char)
  | plain
  deriving DecidableEq, Repr

/-- What a word looks like. -/
def Word.ofText (s : String) : Word :=
  match s.toList with
  | '-' :: '-' :: cs =>
    let name := String.ofList (cs.takeWhile (· != '='))
    match cs.dropWhile (· != '=') with
    | _ :: value => .long name (some (String.ofList value))
    | [] => .long name none
  | '-' :: c :: cs => .short (c :: cs)
  | _ => .plain

namespace Reading

/-- The values that an option has been given. -/
def values (r : Reading) (long : String) : List String :=
  r.given.filterMap fun g => if g.1 = long then some g.2 else none

/-- The first value that an option has been given. -/
def value? (r : Reading) (long : String) : Option String := (r.values long).head?

/-- Whether an option has been given. -/
def has (r : Reading) (long : String) : Bool := (r.value? long).isSome

/-- Take an option with its value, which is empty for a flag. -/
def take (r : Reading) (o : OptionRule) (value : String) : Except Usage Reading := do
  if r.has o.long && !o.repeatable then .error .repeatedOption
  match o.kind with
  | .flag => pure ()
  | .asks what => .error what
  | .value rule => rule.check value
  return { r with given := r.given ++ [(o.long, value)] }

/-- Look at the value of the last option. -/
def settle (r : Reading) : Except Usage Reading :=
  match r.pending? with
  | none => .ok r
  | some (_, none) => .error .missingValue
  | some (o, some value) => { r with pending? := none }.take o value

/-- Take an option that has been met, with the value on it. -/
def meet (r : Reading) (o : OptionRule) (value? : Option String) : Except Usage Reading := do
  let r ← r.settle
  match o.kind, value? with
  | .value _, none => return { r with pending? := some (o, none) }
  | _, value? => r.take o (value?.getD "")

/-- Take a long option. -/
def readLong (level : Level) (r : Reading) (name : String) (value? : Option String) :
    Except Usage Reading :=
  match level.long? name with
  | none => .error .unknownOption
  | some o =>
    match o.kind, value? with
    | .value _, value? => r.meet o value?
    | _, none => r.meet o none
    | _, some _ => .error .needlessValue

/-- Take short options in a row.  The first one that has a value takes all that is behind it. -/
def readShort (level : Level) (r : Reading) : List Char → Except Usage Reading
  | [] => .ok r
  | c :: cs =>
    match level.short? c with
    | none => .error .unknownOption
    | some o =>
      match o.kind, cs with
      | .value _, [] => r.meet o none
      | .value _, '=' :: value => r.meet o (some (String.ofList value))
      | .value _, value => r.meet o (some (String.ofList value))
      | _, cs => do readShort level (← r.meet o none) cs

/-- Read words up to a command.  Two dashes end the options, and nothing may follow them. -/
def read (level : Level) (r : Reading) : List String → Except Usage (Reading × Rest)
  | [] => .ok (r, none)
  | w :: ws =>
    let awaiting : Option OptionRule :=
      match r.pending? with
      | some (o, none) => some o
      | _ => none
    -- A word that an option waits for is never taken for a command.
    if awaiting.isNone && level.commands.contains w then .ok (r, some (w, ws))
    else if w = "--" then
      match ws with
      | [] => .ok (r, none)
      | w :: _ => .error (if level.commands.contains w then .unknownOption else level.stray)
    else
      match Word.ofText w, awaiting with
      | .long name value?, _ => do read level (← r.readLong level name value?) ws
      | .short cs, _ => do read level (← r.readShort level cs) ws
      | .plain, some o => read level { r with pending? := some (o, some w) } ws
      | .plain, none => .error level.stray

/-- Look at the last value, and check that nothing is missing. -/
def finish (level : Level) (r : Reading) : Except Usage Reading := do
  let r ← r.settle
  if level.options.all fun o => !o.required || r.has o.long then return r
  else .error .missingOption

end Reading
end Stencil.CommandLine
