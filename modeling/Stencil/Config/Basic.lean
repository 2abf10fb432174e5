import Stencil.Format.Options
import Stencil.Profile.Codec
import Stencil.Profile.Registry

/-! # Configuration of a request

A `Config` names the target language, or holds a profile of its own, and the options for names.  What is
given on the command line overrides it. -/

namespace Stencil

open Text

/-- The formats of samples. -/
inductive DataFormat where
  | json
  deriving DecidableEq, Repr

namespace DataFormat

/-- The format of a name; white space around it and letter case do not matter, and no name stands for
JSON. -/
def ofText (s : String) : Except Problem DataFormat :=
  let name := asciiLower (trim s)
  if name = "" || name = "json" then .ok .json else .error (.unsupportedFormat name)

/-- The name of a format. -/
def name : DataFormat → String
  | .json => "json"

end DataFormat

/-- The configuration of a request. -/
structure Config where
  lang : Option String := none
  langSettings : Option Profile := none
  dataFormat : String := "json"
  rootClassName : String := defaultRootClassName
  prefixClassName : String := ""
  suffixClassName : String := ""
  sortProperties : Bool := false
  detectStringSubtypes : Bool := false
  deriving DecidableEq, Repr

/-- What is given on the command line. -/
structure Overrides where
  lang : Option String := none
  rootClassName : Option String := none
  prefixClassName : Option String := none
  suffixClassName : Option String := none
  sortProperties : Bool := false
  detectStringSubtypes : Bool := false
  deriving DecidableEq, Repr

namespace Config

/-- The profile of the target language.  A language that is named wins over a profile of the
configuration's own. -/
def profile (c : Config) (registry : Registry) : Except Problem Profile :=
  match c.lang.filter (!isBlank ·), c.langSettings with
  | some lang, _ => registry.require lang
  | none, some p => do
    p.check
    return p.resolved
  | none, none => .error (.missingField "lang")

/-- The options for names. -/
def options (c : Config) : FormatOptions where
  rootClassName := if isBlank c.rootClassName then defaultRootClassName else c.rootClassName
  prefixClassName := c.prefixClassName
  suffixClassName := c.suffixClassName
  sortProperties := c.sortProperties

/-- The configuration with what is given on the command line. -/
def override (c : Config) (o : Overrides) : Config :=
  { c with
    lang := o.lang <|> c.lang
    rootClassName := o.rootClassName.getD c.rootClassName
    prefixClassName := o.prefixClassName.getD c.prefixClassName
    suffixClassName := o.suffixClassName.getD c.suffixClassName
    sortProperties := o.sortProperties || c.sortProperties
    detectStringSubtypes := o.detectStringSubtypes || c.detectStringSubtypes }

/-- The fields of a configuration. -/
def fields : List (FieldRule × Shape) :=
  [nullableField "lang" .text,
    nullableField "langSettings" (.record Profile.fields),
    optionalField "dataFormat" .text,
    optionalField "rootClassName" .text,
    optionalField "prefixClassName" .text,
    optionalField "suffixClassName" .text,
    optionalField "sortProperties" .flag,
    optionalField "detectStringSubtypes" .flag]

/-- The configuration that a datum holds. -/
def ofDatum (d : Datum) : Config :=
  let text? (name : String) : Option String := (d.field? fields name).bind Datum.text?
  let flag (name : String) : Bool := ((d.field? fields name).bind Datum.flag?).getD false
  { lang := text? "lang"
    langSettings := (d.field? fields "langSettings").map Profile.ofDatum
    dataFormat := (text? "dataFormat").getD "json"
    rootClassName := (text? "rootClassName").getD defaultRootClassName
    prefixClassName := (text? "prefixClassName").getD ""
    suffixClassName := (text? "suffixClassName").getD ""
    sortProperties := flag "sortProperties"
    detectStringSubtypes := flag "detectStringSubtypes" }

/-- How a configuration is read. -/
def decoder : Decoder Config := ⟨.record fields, ofDatum⟩

/-- A configuration as a JSON value. -/
def toJson (c : Config) : Json :=
  .object (
    (c.lang.map fun s => ("lang", .string s)).toList ++
    (c.langSettings.map fun p => ("langSettings", p.toJson)).toList ++
    [("dataFormat", .string c.dataFormat), ("rootClassName", .string c.rootClassName),
      ("prefixClassName", .string c.prefixClassName),
      ("suffixClassName", .string c.suffixClassName),
      ("sortProperties", .bool c.sortProperties),
      ("detectStringSubtypes", .bool c.detectStringSubtypes)])

end Config
end Stencil
