import Stencil.Profile.Basic

/-! # Built-in profiles -/

namespace Stencil.Profile

/-- The directive for the name of a node in a style, as it is written in profiles. -/
def nameIn (style : Naming.Style) : String :=
  "\x7b\x7b " ++ (Directive.name (some style)).keyword ++ " \x7d\x7d"

/-- Names of types that belong to no language. -/
def common : Profile :=
  let types : TypeTable :=
    { null := "null", bool := "bool", int := "int", float := "float", string := "string"
      object := nameIn .camel
      array := "[]", arrayBool := "[]bool", arrayInt := "[]int", arrayFloat := "[]float"
      arrayString := "[]string"
      arrayObject := "[]" ++ nameIn .camel
      date := some "date", time := some "time", dateTime := some "datetime"
      duration := some "duration" }
  { code := "common", name := "Common", types, docTypes? := some types
    classNameTemplate := nameIn .pascal, fileNameTemplate := nameIn .camel }

/-- The types of a dialect of Go, where `anything` is the type of all values. -/
def goTypes (anything : String) : TypeTable :=
  { null := anything, bool := "bool", int := "int", float := "float64", string := "string"
    object := "*" ++ nameIn .pascal
    array := "[]" ++ anything, arrayBool := "[]bool", arrayInt := "[]int"
    arrayFloat := "[]float64", arrayString := "[]string"
    arrayObject := "[]*" ++ nameIn .pascal
    date := some "time.Time", time := some "time.Time", dateTime := some "time.Time"
    duration := some "time.Duration" }

/-- A dialect of Go. -/
def goDialect (code name anything : String) : Profile :=
  { code, name, fileExtension := ".go"
    types := goTypes anything, docTypes? := some (goTypes anything)
    classNameTemplate := nameIn .pascal, fileNameTemplate := nameIn .snake }

/-- Go. -/
def go : Profile := goDialect "go" "Go" "interface\x7b\x7d"

/-- Go with a name for the type of all values. -/
def go120 : Profile := goDialect "go1.20" "Go 1.20+" "any"

/-- The types of PHP; those in comments tell the types of items. -/
def phpTypes (itemsOf : String → String) : TypeTable :=
  { null := "null", bool := "bool", int := "int", float := "float", string := "string"
    object := nameIn .pascal
    array := "array", arrayBool := itemsOf "bool", arrayInt := itemsOf "int"
    arrayFloat := itemsOf "float", arrayString := itemsOf "string"
    arrayObject := itemsOf (nameIn .pascal)
    date := some "\\DateTime", time := some "\\DateTime", dateTime := some "\\DateTime"
    duration := some "\\DateInterval" }

/-- PHP, with a file for each class. -/
def php : Profile :=
  { code := "php", name := "PHP", fileExtension := ".php", splitByFiles := true
    types := phpTypes fun _ => "array", docTypes? := some (phpTypes (· ++ "[]"))
    classNameTemplate := nameIn .pascal, fileNameTemplate := nameIn .pascal }

/-- The built-in profiles, in the order in which they are listed. -/
def builtin : List Profile := [common, go, go120, php]

end Stencil.Profile
