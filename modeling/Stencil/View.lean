import Stencil.Directive.Expansion
import Stencil.Problem
import Stencil.Schema.Node
import Stencil.Template.Render

/-! # What templates see of a node

A template is rendered with one name, `node`, which stands for a record made from a `View` of a node.

* `renderInline_plain`  a text without braces that could open a mark is rendered as it is. -/

namespace Stencil

open Schema (Node)

/-- What templates see of a node. -/
structure View where
  key : String
  name : String
  typeName : Option String
  docTypeName : Option String
  tag : Tag
  className : Option String
  fileName : Option String
  isArray : Bool
  isObject : Bool
  properties : List View

namespace View

/-- A node without what is below it. -/
def shallow (n : Node) : View where
  key := n.key
  name := n.name
  typeName := n.typeName
  docTypeName := n.docTypeName
  tag := n.tag
  className := n.className
  fileName := n.fileName
  isArray := n.tag.isArray
  isObject := n.tag.isObject
  properties := []

mutual

/-- A node with all that is below it. -/
def deep : Node → View
  | ⟨key, tag, children, className, fileName, typeName, docTypeName⟩ =>
    { shallow ⟨key, tag, children, className, fileName, typeName, docTypeName⟩ with
      properties := deepAll children }

/-- Nodes with all that is below them. -/
def deepAll : List Node → List View
  | [] => []
  | n :: ns => deep n :: deepAll ns

end

/-- A text that may be missing, as a value of the template language. -/
def textValue : Option String → Template.Value
  | some s => .text s
  | none => .none

mutual

/-- The record that stands for a view in the template language. -/
def toValue : View → Template.Value
  | ⟨key, name, typeName, docTypeName, tag, className, fileName, isArray, isObject, properties⟩ =>
    .record [("key", .text key), ("name", .text name), ("type", textValue typeName),
      ("doc_type", textValue docTypeName), ("tag", .text tag.name),
      ("class_name", textValue className), ("file_name", textValue fileName),
      ("is_array", .bool isArray), ("is_object", .bool isObject),
      ("properties", .list (toValues properties))]

/-- The records that stand for views. -/
def toValues : List View → List Template.Value
  | [] => []
  | v :: vs => toValue v :: toValues vs

end

end View

/-- Render a source of the template engine for a view. -/
def renderSource (name : String) (source : List Char) (view : View) : Except Problem String :=
  match Template.render [("node", view.toValue)] source with
  | .ok out => .ok (String.ofList out)
  | .error failure => .error (.unrenderable name failure)

/-- Whether two characters stand next to each other in a text. -/
def occursPair (a b : Char) : List Char → Bool
  | c :: d :: cs => (c = a && d = b) || occursPair a b (d :: cs)
  | _ => false

/-- Whether a text may hold an output or a statement of the template engine. -/
def mayHoldMarks (cs : List Char) : Bool := occursPair '\x7b' '\x7b' cs || occursPair '\x7b' '%' cs

/-- Render a small template of a profile. -/
def renderInline (name source : String) (view : View) : Except Problem String :=
  if mayHoldMarks source.toList then do
    let expanded ← (compile source.toList).mapError .unbalanced
    renderSource name expanded view
  else .ok source

/-- Text that holds no marks is taken as it is. -/
theorem renderInline_plain {source : String} (h : mayHoldMarks source.toList = false)
    (name : String) (view : View) : renderInline name source view = .ok source := by
  simp [renderInline, h]

end Stencil
