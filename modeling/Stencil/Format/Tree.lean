import Stencil.Format.Options
import Stencil.Profile.Basic
import Stencil.View

/-! # Formatting a schema tree

Formatting gives each node the names that it has in the target language: a class and file name if it
becomes a class, and a type for code and for comments.  The root always has a file name.

* `sorted_leaf`  sorting leaves a node without children alone. -/

namespace Stencil

open Schema (Node)
open Text

namespace Schema.Node

mutual

/-- The tree with the properties of all classes in the order of their keys. -/
def sorted : Node → Node
  | ⟨key, tag, children, className, fileName, typeName, docTypeName⟩ =>
    let below := sortedAll children
    ⟨key, tag, if tag.isComposite then below.mergeSort fun a b => a.key ≤ b.key else below,
      className, fileName, typeName, docTypeName⟩

/-- Trees with the properties of all classes in the order of their keys. -/
def sortedAll : List Node → List Node
  | [] => []
  | n :: ns => sorted n :: sortedAll ns

end

theorem sorted_leaf (key : String) (tag : Tag) : sorted { key, tag } = { key, tag } := by
  simp [sorted, sortedAll]

end Schema.Node

namespace Format

/-- The file name of a profile that gives none. -/
def defaultFileNameTemplate : String := "\x7b\x7b Name \x7d\x7d"

/-- The class name for a key. -/
def className (p : Profile) (o : FormatOptions) (key : String) : Except Problem String :=
  let base := o.prefixClassName ++ Naming.Style.pascal.convert key ++ o.suffixClassName
  if isBlank p.classNameTemplate then .ok base
  else
    renderInline "classNameTemplate" p.classNameTemplate
      (View.shallow { key := base, tag := .object, className := some base })

/-- The file name of a node. -/
def fileName (p : Profile) (n : Node) : Except Problem String := do
  let template :=
    if isBlank p.fileNameTemplate then defaultFileNameTemplate else p.fileNameTemplate
  return (← renderInline "fileNameTemplate" template (View.shallow n)) ++ p.extension

/-- The type of a node. -/
def typeName (p : Profile) (n : Node) : Except Problem String :=
  renderInline "typeMapping" (p.types.entry n.tag) (View.shallow n)

/-- The type of a node in comments. -/
def docTypeName (p : Profile) (n : Node) : Except Problem String :=
  renderInline "typeDocMapping" (p.docTypes.entry n.tag) (View.shallow n)

/-- The node with its own names filled in, each of which can use those before it. -/
def named (p : Profile) (o : FormatOptions) (n : Node) : Except Problem Node := do
  let n ← if n.isComposite then do
      let c ← className p o n.key
      pure { n with className := some c }
    else pure n
  let t ← typeName p n
  let n := { n with typeName := some t }
  let d ← docTypeName p n
  let n := { n with docTypeName := some d }
  if n.isComposite then do
    let f ← fileName p n
    return { n with fileName := some f }
  else return n

mutual

/-- The tree with the names of all its nodes filled in, those above before those below. -/
def nodes (p : Profile) (o : FormatOptions) : Node → Except Problem Node
  | ⟨key, tag, children, className, fileName, typeName, docTypeName⟩ => do
    let n ← named p o ⟨key, tag, children, className, fileName, typeName, docTypeName⟩
    return { n with children := ← nodesAll p o children }

/-- Trees with the names of all their nodes filled in, in order. -/
def nodesAll (p : Profile) (o : FormatOptions) : List Node → Except Problem (List Node)
  | [] => .ok []
  | n :: ns => do
    let n ← nodes p o n
    return n :: (← nodesAll p o ns)

end

/-- The name of the root class. -/
def rootName (o : FormatOptions) : String :=
  if isBlank o.rootClassName then defaultRootClassName else o.rootClassName

/-- Format a tree.  A root without a key takes the name of the root class. -/
def tree (p : Profile) (o : FormatOptions) (root : Node) : Except Problem Node := do
  -- The names are made of the key, so it has to be there first.
  let root := if root.key.isEmpty then { root with key := rootName o } else root
  let root ← nodes p o (if o.sortProperties then root.sorted else root)
  match root.fileName with
  | some _ => return root
  | none => do
    let f ← fileName p root
    return { root with fileName := some f }

end Format
end Stencil
