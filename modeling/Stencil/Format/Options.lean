import Stencil.Datum.Shape

/-! # Options for names

What does not depend on the target language: the name of the root class, what stands in front of and
behind every class name, and whether properties are sorted. -/

namespace Stencil

/-- The name of the root class if none is given. -/
def defaultRootClassName : String := "RootClass"

/-- Options for names. -/
structure FormatOptions where
  rootClassName : String := defaultRootClassName
  prefixClassName : String := ""
  suffixClassName : String := ""
  sortProperties : Bool := false
  deriving DecidableEq, Repr

namespace FormatOptions

/-- The fields of the options; all have to be given. -/
def fields : List (FieldRule × Shape) :=
  let required (name : String) (shape : Shape) : FieldRule × Shape :=
    ({ name, required := true }, shape)
  [required "rootClassName" .text, required "prefixClassName" .text,
    required "suffixClassName" .text, required "sortProperties" .flag]

/-- The options that a datum holds. -/
def ofDatum (d : Datum) : FormatOptions :=
  let text (name : String) : String := ((d.field? fields name).bind Datum.text?).getD ""
  { rootClassName := text "rootClassName", prefixClassName := text "prefixClassName"
    suffixClassName := text "suffixClassName"
    sortProperties := ((d.field? fields "sortProperties").bind Datum.flag?).getD false }

/-- How options are read. -/
def decoder : Decoder FormatOptions := ⟨.record fields, ofDatum⟩

/-- Options as a JSON value. -/
def toJson (o : FormatOptions) : Json :=
  .object [("rootClassName", .string o.rootClassName),
    ("prefixClassName", .string o.prefixClassName),
    ("suffixClassName", .string o.suffixClassName), ("sortProperties", .bool o.sortProperties)]

end FormatOptions
end Stencil
