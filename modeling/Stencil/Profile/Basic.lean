import Stencil.Problem

/-! # Language profiles

A `Profile` says how types, classes and files are named in a target language.  Its `TypeTable`s hold a
template for each tag; texts that denote moments have the entry of plain texts unless they are given
one of their own. -/

namespace Stencil

open Text

/-- A template for the type of each tag. -/
structure TypeTable where
  null : String := ""
  bool : String := ""
  int : String := ""
  float : String := ""
  string : String := ""
  object : String := ""
  array : String := ""
  arrayBool : String := ""
  arrayInt : String := ""
  arrayFloat : String := ""
  arrayString : String := ""
  arrayObject : String := ""
  date : Option String := none
  time : Option String := none
  dateTime : Option String := none
  duration : Option String := none
  deriving DecidableEq, Repr

namespace TypeTable

/-- The entry of a tag. -/
def entry (t : TypeTable) : Tag → String
  | .null => t.null
  | .bool => t.bool
  | .int => t.int
  | .float => t.float
  | .string => t.string
  | .object => t.object
  | .array => t.array
  | .arrayBool => t.arrayBool
  | .arrayInt => t.arrayInt
  | .arrayFloat => t.arrayFloat
  | .arrayString => t.arrayString
  | .arrayObject => t.arrayObject
  | .date => t.date.getD t.string
  | .time => t.time.getD t.string
  | .dateTime => t.dateTime.getD t.string
  | .duration => t.duration.getD t.string

end TypeTable

/-- Check that a template of a setting is balanced. -/
def checkTemplate (field template : String) : Except Problem Unit :=
  (checkBalance template.toList).mapError (.unbalancedField field)

/-- Check that the entries of all base tags are there and balanced. -/
def TypeTable.check (t : TypeTable) (field : String) : Except Problem Unit :=
  Tag.base.forM fun tag => do
    let field := field ++ "." ++ tag.name
    if isBlank (t.entry tag) then .error (.missingField field)
    checkTemplate field (t.entry tag)

/-- How code is written in a target language. -/
structure Profile where
  /-- The short name of the language. -/
  code : String
  name : String := ""
  /-- What the names of files end in; the dot in front may be left out. -/
  fileExtension : String := ""
  /-- Each class has a file of its own. -/
  splitByFiles : Bool := false
  types : TypeTable := {}
  /-- The types in comments, if they differ. -/
  docTypes? : Option TypeTable := none
  classNameTemplate : String := ""
  fileNameTemplate : String := ""
  deriving DecidableEq, Repr

namespace Profile

/-- Check that all that is needed is there, and that all templates are balanced. -/
def check (p : Profile) : Except Problem Unit := do
  if isBlank p.code then .error (.missingField "langSettings.code")
  p.types.check "langSettings.typeMapping"
  match p.docTypes? with
  | some t => t.check "langSettings.typeDocMapping"
  | none => .ok ()
  checkTemplate "langSettings.classNameTemplate" p.classNameTemplate
  checkTemplate "langSettings.fileNameTemplate" p.fileNameTemplate

/-- The types in comments. -/
def docTypes (p : Profile) : TypeTable := p.docTypes?.getD p.types

/-- The profile with the types in comments filled in. -/
def resolved (p : Profile) : Profile := { p with docTypes? := some p.docTypes }

/-- What the names of files end in, with the dot, unless it is empty. -/
def extension (p : Profile) : String :=
  let ext := trim p.fileExtension
  if ext.isEmpty || ext.startsWith "." then ext else "." ++ ext

/-- The name to show: that of the language, else its code. -/
def displayName (p : Profile) : String := if p.name.isEmpty then p.code else p.name

end Profile
end Stencil
