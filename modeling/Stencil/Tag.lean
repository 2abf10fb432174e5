/-! # Type tags

A `Tag` says what kind of value stands at a position of a sample.  The twelve `base` tags come from the
form of the value; the four `extended` tags refine texts.

* `ofName?_name`  a tag is found under its name. -/

namespace Stencil

/-- The kind of a value. -/
inductive Tag where
  | null
  | bool
  | int
  | float
  | string
  | object
  /-- An array whose items are of no one kind. -/
  | array
  | arrayBool
  | arrayInt
  | arrayFloat
  | arrayString
  | arrayObject
  /-- A text that denotes a day. -/
  | date
  /-- A text that denotes a time of day. -/
  | time
  /-- A text that denotes a day and a time of day. -/
  | dateTime
  /-- A text that denotes a length of time. -/
  | duration
  deriving DecidableEq, Repr

namespace Tag

/-- The tags that every profile maps, in the order in which profiles list them. -/
def base : List Tag :=
  [.null, .bool, .int, .float, .string, .object, .array, .arrayBool, .arrayInt, .arrayFloat,
    .arrayString, .arrayObject]

/-- The tags that refine texts. -/
def extended : List Tag := [.date, .time, .dateTime, .duration]

/-- All tags. -/
def all : List Tag := base ++ extended

/-- The name of a tag. -/
def name : Tag → String
  | .null => "null"
  | .bool => "bool"
  | .int => "int"
  | .float => "float"
  | .string => "string"
  | .object => "object"
  | .array => "array"
  | .arrayBool => "arrayBool"
  | .arrayInt => "arrayInt"
  | .arrayFloat => "arrayFloat"
  | .arrayString => "arrayString"
  | .arrayObject => "arrayObject"
  | .date => "date"
  | .time => "time"
  | .dateTime => "dateTime"
  | .duration => "duration"

/-- The tag with a name. -/
def ofName? (s : String) : Option Tag := all.find? (·.name == s)

/-- Whether the tag is one of the array tags. -/
def isArray : Tag → Bool
  | .array | .arrayBool | .arrayInt | .arrayFloat | .arrayString | .arrayObject => true
  | _ => false

/-- Whether the tag is that of a single object. -/
def isObject (t : Tag) : Bool := t == .object

/-- Whether a position with the tag has properties and becomes a class. -/
def isComposite : Tag → Bool
  | .object | .arrayObject => true
  | _ => false

theorem mem_all (t : Tag) : t ∈ all := by cases t <;> decide

/-- A tag is found by its name. -/
theorem ofName?_name (t : Tag) : ofName? t.name = some t := by cases t <;> decide

end Tag
end Stencil
