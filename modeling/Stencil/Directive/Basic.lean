import Stencil.Naming

/-! # Directives

Templates are written with directives, each between two pairs of braces: some stand for a text about
the current node, the others open and close blocks.  A directive expands to a tag of the template
engine; the two that mark the split section expand to nothing of their own.

* `mem_all`  `Directive.all` lists every directive. -/

namespace Stencil

/-- What a directive can open and close. -/
inductive Block where
  /-- Repeated for each property. -/
  | properties
  /-- Kept for arrays. -/
  | isArray
  /-- Kept for objects. -/
  | isObject
  /-- The section that is rendered for each class when the output is split. -/
  | split
  deriving DecidableEq, Repr

/-- The blocks, in the order in which their balance is checked. -/
def Block.all : List Block := [.properties, .isArray, .isObject, .split]

/-- A directive of a template. -/
inductive Directive where
  /-- The name of the node, perhaps in a style. -/
  | name (style : Option Naming.Style)
  /-- The type of the node in the target language. -/
  | type
  /-- The type of the node in comments of the target language. -/
  | docType
  | opening (block : Block)
  | closing (block : Block)
  deriving DecidableEq, Repr

namespace Directive

/-- All directives, in the order in which they are listed. -/
def all : List Directive :=
  (none :: Naming.Style.all.map some).map name ++
    [opening .properties, closing .properties, type, docType, opening .isArray, closing .isArray,
      opening .isObject, closing .isObject, opening .split, closing .split]

/-- No directive is missing from the list. -/
theorem mem_all (d : Directive) : d ∈ all := by
  cases d with
  | name s =>
    cases s with
    | none => decide
    | some s => cases s <;> decide
  | type => decide
  | docType => decide
  | opening b => cases b <;> decide
  | closing b => cases b <;> decide

/-- Whether the directive marks the split section. -/
def isSplit : Directive → Bool
  | .opening .split | .closing .split => true
  | _ => false

/-- The word for a block. -/
def blockWord : Block → String
  | .properties => "Properties"
  | .isArray => "Type.IsArray"
  | .isObject => "Type.IsObject"
  | .split => "SPLIT"

/-- The word for a style. -/
def styleWord : Naming.Style → String
  | .camel => "CamelCase"
  | .pascal => "PascalCase"
  | .snake => "SnakeCase"
  | .kebab => "KebabCase"
  | .dot => "DotCase"

/-- What stands between the braces of a directive. -/
def keyword : Directive → String
  | .name none => "Name"
  | .name (some style) => "Name." ++ styleWord style
  | .type => "Type"
  | .docType => "Type.Doc"
  | .opening block => blockWord block
  | .closing block => "/" ++ blockWord block

/-- The directive as it is usually written. -/
def spelling (d : Directive) : String := "\x7b\x7b" ++ d.keyword ++ "\x7d\x7d"

/-- A tag of the template engine that stands for a text. -/
def outputTag (expression : String) : String := "\x7b\x7b " ++ expression ++ " \x7d\x7d"

/-- A tag of the template engine that opens or closes a block.  It takes away the white space in front
of it. -/
def blockTag (statement : String) : String := "\x7b%- " ++ statement ++ " %\x7d"

/-- What a directive stands for in the template engine. -/
def expansion? : Directive → Option String
  | .name none => some (outputTag "node.name")
  | .name (some style) => some (outputTag ("node.name | " ++ style.filterName))
  | .type => some (outputTag "node.type")
  | .docType => some (outputTag "node.doc_type")
  | .opening .properties => some (blockTag "for node in node.properties")
  | .closing .properties => some (blockTag "endfor")
  | .opening .isArray => some (blockTag "if node.is_array")
  | .opening .isObject => some (blockTag "if node.is_object")
  | .closing .isArray | .closing .isObject => some (blockTag "endif")
  | .opening .split | .closing .split => none

/-- Only the markers of the split section stand for no text. -/
theorem expansion?_eq_none_iff (d : Directive) : d.expansion? = none ↔ d.isSplit = true := by
  cases d with
  | name s => cases s <;> simp [expansion?, isSplit]
  | type => simp [expansion?, isSplit]
  | docType => simp [expansion?, isSplit]
  | opening b => cases b <;> simp [expansion?, isSplit]
  | closing b => cases b <;> simp [expansion?, isSplit]

end Directive
end Stencil
