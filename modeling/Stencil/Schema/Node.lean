import Stencil.Tag

/-! # Schema trees

A `Node` is a position of the sample with its tag.  Formatting fills in the names that it has in the
target language. -/

namespace Stencil.Schema

/-- A position of the sample, and the positions below it. -/
structure Node where
  /-- The key in the sample; that of the root is its class name, once formatted. -/
  key : String
  tag : Tag
  children : List Node := []
  className : Option String := none
  fileName : Option String := none
  typeName : Option String := none
  docTypeName : Option String := none

namespace Node

/-- Whether the node becomes a class. -/
def isComposite (n : Node) : Bool := n.tag.isComposite

/-- The name that templates see: the class name if there is one, else the key. -/
def name (n : Node) : String := n.className.getD n.key

mutual

/-- The node and, in pre-order, the composite nodes that are reached through composite nodes. -/
def composites : Node → List Node
  | n@⟨_, _, children, _, _, _, _⟩ => n :: compositesOf children

/-- The composite nodes among siblings, each followed by those below it. -/
def compositesOf : List Node → List Node
  | [] => []
  | c :: cs => (if c.isComposite then composites c else []) ++ compositesOf cs

end

mutual

/-- The number of nodes of the tree. -/
def nodeCount : Node → Nat
  | ⟨_, _, children, _, _, _, _⟩ => nodeCounts children + 1

/-- The number of nodes of trees that stand side by side. -/
def nodeCounts : List Node → Nat
  | [] => 0
  | c :: cs => nodeCount c + nodeCounts cs

end

end Node
end Stencil.Schema
