import Stencil.Proofs.Json.Members
import Stencil.Proofs.Schema.Classes
import Stencil.Schema.Codec

/-!
# Reading schema trees

A tree that has been written as a JSON value is read as the same tree. What is left out when it is
written, because there is none of it, is taken for none when it is read: children, and any of the four
names.

## Key results

- `childrenOf?_eq`: the children of an object are what stands under their name
- `ofJson?_toJson`: a tree is read as it has been written
-/

namespace Stencil.Schema.Node

open Json (Members)

/-! ## Members of a written node -/

/-- A name that is not there has no member. -/
theorem get?_optionalMember (name key : String) (s : Option String) :
    Members.get? (optionalMember name s) key = if name = key then s.map .string else none := by
  cases s <;> simp [optionalMember, Members.get?_cons]

/-- A name is read as it has been written, and is missing if it was not there. -/
theorem optionalText?_map (s : Option String) : optionalText? (s.map .string) = some s := by
  cases s <;> rfl

/-- The children, unless there are none. -/
def childrenMember (children : List Node) : Members :=
  if children.isEmpty then [] else [("children", .array (toItems children))]

/-- Children are written under their name only, and only if there are any. -/
theorem get?_childrenMember (children : List Node) (key : String) :
    Members.get? (childrenMember children) key =
      if "children" = key ∧ children ≠ [] then some (.array (toItems children)) else none := by
  cases children <;> simp [childrenMember, Members.get?_cons]

/-- The members of a node. -/
def members (n : Node) : Members :=
  [("key", .string n.key), ("type", .string n.tag.name)] ++ childrenMember n.children ++
    optionalMember "className" n.className ++ optionalMember "fileName" n.fileName ++
    optionalMember "typeName" n.typeName ++ optionalMember "docTypeName" n.docTypeName

/-- A node is written as the object of its members. -/
theorem toJson_eq (n : Node) : n.toJson = .object n.members := by
  obtain ⟨key, tag, children, className, fileName, typeName, docTypeName⟩ := n
  cases children <;> simp [toJson, members, childrenMember]

/-- The children of an object are what stands under their name, which has to be an array. -/
theorem childrenOf?_eq (ms : Members) :
    childrenOf? ms =
      match Members.get? ms "children" with
      | none => some []
      | some (.array vs) => ofItems? vs
      | some _ => none := by
  induction ms with
  | nil => rfl
  | cons m ms ih =>
    obtain ⟨k, v⟩ := m
    rw [Members.get?_cons]
    -- Members under other names are passed over.
    by_cases hk : k = "children"
    · cases v <;> simp [childrenOf?, hk]
    · cases v <;> simp [childrenOf?, hk, ih]

/-- What a written node has under the name of its children. -/
theorem get?_children_members (n : Node) :
    Members.get? n.members "children" =
      if n.children = [] then none else some (.array (toItems n.children)) := by
  simp [members, Members.get?_append, Members.get?_cons, get?_optionalMember, get?_childrenMember]

/-- Apart from its children, a node is read from its members as it was. -/
theorem withoutChildren?_members (n : Node) :
    (withoutChildren? fun _ name => Members.get? n.members name) =
      some { n with children := [] } := by
  simp [withoutChildren?, members, Members.get?_append, Members.get?_cons, get?_optionalMember,
    get?_childrenMember, text?, Tag.ofJson?_name, optionalText?_map]

/-- Children are read as they have been written, if each of them is. -/
theorem ofItems?_toItems {ns : List Node} (h : ∀ n ∈ ns, ofJson? n.toJson = some n) :
    ofItems? (toItems ns) = some ns := by
  induction ns with
  | nil => rfl
  | cons n ns ih =>
    obtain ⟨hn, hns⟩ := List.forall_mem_cons.1 h
    rw [toItems, ofItems?, hn, ih hns]
    rfl

/-- A tree is read as it has been written. -/
theorem ofJson?_toJson (n : Node) : ofJson? n.toJson = some n := by
  induction n using childInduction with
  | h n ih =>
    have hchildren : childrenOf? n.members = some n.children := by
      rw [childrenOf?_eq, get?_children_members]
      -- Without children there is no member for them, which is read as none.
      by_cases hempty : n.children = []
      · rw [if_pos hempty, hempty]
      · rw [if_neg hempty]
        exact ofItems?_toItems ih
    rw [toJson_eq, ofJson?, withoutChildren?_members, hchildren]
    cases n
    rfl

end Stencil.Schema.Node
