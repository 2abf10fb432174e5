import Stencil.View

/-! # Rendering a template for each class

A `Renderer` holds two sources of the template engine: one for the whole output and one for the files of
single classes.

* `sectionSource_of_none`  a template without a split section uses its whole body for each file. -/

namespace Stencil

open Schema (Node)

/-- A template that is ready for rendering. -/
structure Renderer where
  name : String
  /-- The template without the markers of the split section. -/
  body : List Char
  /-- The split section, if there is one. -/
  perClass : Option (List Char)
  deriving DecidableEq, Repr

namespace Renderer

/-- Make a template ready for rendering, unless it is not balanced. -/
def compile (name source : String) : Except Problem Renderer := do
  let expanded ← (Stencil.compile source.toList).mapError .unbalanced
  return { name, body := dropMarkers expanded, perClass := splitSection? expanded }

/-- The source for the file of a single class. -/
def sectionSource (r : Renderer) : List Char := r.perClass.getD r.body

/-- Render a node; `split` tells whether the source for single classes is used. -/
def render (r : Renderer) (n : Node) (split : Bool) : Except Problem String :=
  renderSource r.name (if split then r.sectionSource else r.body) (View.deep n)

/-- Without a section, the files of classes are made from the body. -/
theorem sectionSource_of_none {r : Renderer} (h : r.perClass = none) : r.sectionSource = r.body := by
  simp [sectionSource, h]

end Renderer

/-- The nodes that have files of their own: the root, and all classes below it if the output is
split. -/
def fileNodes (root : Node) (split : Bool) : List Node := if split then root.composites else [root]

end Stencil
