import Stencil.Proofs.Directive.Spelling
import Stencil.Render

/-!
# Outlines: what templates of directives mean

An `Outline` is a template as its author thinks of it: literal text, directives that stand for a
text, and blocks around outlines. It is written with directives in any spelling (`Outline.source`)
and says directly which text it stands for (`Outline.meaning`), without the template engine.

## Main definitions

- `Outline.source`: the template that an outline is written as
- `Outline.meaning`: the text that an outline stands for, for a node
- `Outline.nesting`: how deep blocks are nested
- `Outline.expansion`: the outline in the language of the template engine
-/

namespace Stencil

open Schema (Node)
open Text

/-- Text that can neither open a mark of the template engine nor take part in opening one. -/
structure Literal where
  chars : List Char
  unmarked : ∀ c ∈ ['\x7b', '%', '#'], occursPair '\x7b' c chars = false
  unopened : chars.getLast? ≠ some '\x7b'

theorem occursPair_of_not_mem {a b : Char} {cs : List Char} (h : a ∉ cs) :
    occursPair a b cs = false := by
  induction cs with
  | nil => rfl
  | cons c cs ih =>
    rw [List.mem_cons, not_or] at h
    cases cs with
    | nil => rfl
    | cons d cs =>
      rw [occursPair, ih h.2, decide_eq_false (Ne.symm h.1)]
      rfl

/-- Text without an opening brace. -/
def Literal.plain (cs : List Char) (h : '\x7b' ∉ cs) : Literal where
  chars := cs
  unmarked := fun _ _ => occursPair_of_not_mem h
  unopened := fun hlast => h (List.mem_of_getLast? hlast)

/-- A directive that stands for a text. -/
inductive Placeholder where
  | name (style : Option Naming.Style)
  | type
  | docType

namespace Placeholder

def directive : Placeholder → Directive
  | .name style => .name style
  | .type => .type
  | .docType => .docType

/-- The text that the directive stands for. -/
def text (n : Node) : Placeholder → String
  | .name none => n.name
  | .name (some style) => style.convert n.name
  | .type => n.typeName.getD ""
  | .docType => n.docTypeName.getD ""

end Placeholder

/-- A block that belongs to a node, as opposed to the split section. -/
inductive Region where
  | properties
  | isArray
  | isObject

namespace Region

def block : Region → Block
  | .properties => .properties
  | .isArray => .isArray
  | .isObject => .isObject

/-- The nodes for which what stands in the block is rendered, one after the other. -/
def rounds (n : Node) : Region → List Node
  | .properties => n.children
  | .isArray => if n.tag.isArray then [n] else []
  | .isObject => if n.tag.isObject then [n] else []

end Region

/-- A template of literal text, directives that stand for a text, and blocks. -/
inductive Outline where
  | empty
  | literal (text : Literal) (rest : Outline)
  | placeholder (s : Placeholder) (spelling : Spelling s.directive) (rest : Outline)
  | block (r : Region) (opening : Spelling (.opening r.block)) (body : Outline)
    (closing : Spelling (.closing r.block)) (rest : Outline)

namespace Outline

/-- The template that the outline is written as. -/
def source : Outline → List Char
  | .empty => []
  | .literal text rest => text.chars ++ rest.source
  | .placeholder _ spelling rest => spelling.source ++ rest.source
  | .block _ opening body closing rest =>
    opening.source ++ (body.source ++ (closing.source ++ rest.source))

/-- How deep blocks are nested. -/
def nesting : Outline → Nat
  | .empty => 0
  | .literal _ rest => rest.nesting
  | .placeholder _ _ rest => rest.nesting
  | .block _ _ body _ rest => max (body.nesting + 1) rest.nesting

/-- The text that stands for the outline, behind literal text that has not been put out yet. Of
literal text directly in front of a block's opening or closing, white space at the end is left out;
`closes` tells whether a block is closed behind the outline. -/
def meaningAfter (literal : List Char) (closes : Bool) (n : Node) : Outline → List Char
  | .empty => if closes then trimEnd literal else literal
  | .literal text rest => rest.meaningAfter (literal ++ text.chars) closes n
  | .placeholder s _ rest => literal ++ ((s.text n).toList ++ rest.meaningAfter [] closes n)
  | .block r _ body _ rest =>
    trimEnd literal ++
      ((r.rounds n).flatMap (fun m => body.meaningAfter [] true m) ++ rest.meaningAfter [] closes n)

/-- The text that the outline stands for, for a node. -/
def meaning (t : Outline) (n : Node) : List Char := t.meaningAfter [] false n

end Outline

/-- A node that has been given a type and a type for comments, as have all nodes below it. -/
inductive Formatted : Node → Prop
  | mk {n : Node} (type : n.typeName.isSome = true) (docType : n.docTypeName.isSome = true)
    (children : ∀ c ∈ n.children, Formatted c) : Formatted n

end Stencil
