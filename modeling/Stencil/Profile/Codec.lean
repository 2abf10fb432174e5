import Stencil.Datum.Shape
import Stencil.Profile.Basic

/-! # Profiles as data

A profile is a record of which only the code has to be given.  Those who ask what there is are given
profiles and tags as JSON values. -/

namespace Stencil

/-- A field that may be left out. -/
def optionalField (name : String) (shape : Shape) : FieldRule × Shape := ({ name }, shape)

/-- A field that has to be given. -/
def requiredField (name : String) (shape : Shape) : FieldRule × Shape :=
  ({ name, required := true }, shape)

/-- A field that may be left out or given as absent. -/
def nullableField (name : String) (shape : Shape) : FieldRule × Shape :=
  ({ name, nullable := true }, shape)

namespace TypeTable

/-- The fields of a table. -/
def fields : List (FieldRule × Shape) :=
  (Tag.base.map fun tag => optionalField tag.name .text) ++
    Tag.extended.map fun tag => nullableField tag.name .text

/-- The table that a datum holds. -/
def ofDatum (d : Datum) : TypeTable :=
  let found (tag : Tag) : Option String := (d.field? fields tag.name).bind Datum.text?
  let entry (tag : Tag) : String := (found tag).getD ""
  { null := entry .null, bool := entry .bool, int := entry .int, float := entry .float
    string := entry .string, object := entry .object, array := entry .array
    arrayBool := entry .arrayBool, arrayInt := entry .arrayInt, arrayFloat := entry .arrayFloat
    arrayString := entry .arrayString, arrayObject := entry .arrayObject
    date := found .date, time := found .time, dateTime := found .dateTime
    duration := found .duration }

/-- The entries of a table that are given for the extended tags. -/
def given? (t : TypeTable) : Tag → Option String
  | .date => t.date
  | .time => t.time
  | .dateTime => t.dateTime
  | .duration => t.duration
  | _ => none

/-- A table as a JSON value. -/
def toJson (t : TypeTable) : Json :=
  .object (
    (Tag.base.map fun tag => (tag.name, .string (t.entry tag))) ++
      Tag.extended.filterMap fun tag => (t.given? tag).map fun s => (tag.name, .string s))

end TypeTable

namespace Profile

/-- The fields of a profile. -/
def fields : List (FieldRule × Shape) :=
  [requiredField "code" .text,
    optionalField "name" .text,
    optionalField "fileExtension" .text,
    ({ name := "splitByFiles", aliases := ["splitObjectByFiles"] }, .flag),
    optionalField "typeMapping" (.record TypeTable.fields),
    nullableField "typeDocMapping" (.record TypeTable.fields),
    optionalField "classNameTemplate" .text,
    optionalField "fileNameTemplate" .text]

/-- The profile that a datum holds. -/
def ofDatum (d : Datum) : Profile :=
  let text (name : String) : String := ((d.field? fields name).bind Datum.text?).getD ""
  { code := text "code", name := text "name", fileExtension := text "fileExtension"
    splitByFiles := ((d.field? fields "splitByFiles").bind Datum.flag?).getD false
    types := ((d.field? fields "typeMapping").map TypeTable.ofDatum).getD {}
    docTypes? := (d.field? fields "typeDocMapping").map TypeTable.ofDatum
    classNameTemplate := text "classNameTemplate", fileNameTemplate := text "fileNameTemplate" }

/-- How a profile is read. -/
def decoder : Decoder Profile := ⟨.record fields, ofDatum⟩

/-- A profile as a JSON value. -/
def toJson (p : Profile) : Json :=
  .object (
    [("code", .string p.code), ("name", .string p.name), ("fileExtension", .string p.fileExtension),
      ("splitByFiles", .bool p.splitByFiles), ("typeMapping", p.types.toJson)] ++
    (p.docTypes?.map fun t => ("typeDocMapping", t.toJson)).toList ++
    [("classNameTemplate", .string p.classNameTemplate),
      ("fileNameTemplate", .string p.fileNameTemplate)])

end Profile

/-! ## What there is to choose from -/

/-- The names of the tags that a profile has to map, and of those that it may map. -/
def tagLists : Json.Members :=
  let names (tags : List Tag) : Json := .array (tags.map fun tag => .string tag.name)
  [("required", names Tag.base), ("optional", names Tag.extended)]

/-- Profiles as a JSON value. -/
def profileList (ps : List Profile) : Json := .array (ps.map Profile.toJson)

end Stencil
