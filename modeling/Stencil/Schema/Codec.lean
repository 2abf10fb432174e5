import Stencil.Json.Basic
import Stencil.Schema.Node

/-! # Schema trees as JSON values

A node is an object of which only the key and the tag have to be given, or an array of its fields in
their order.

* `Tag.ofJson?_name`  a tag is written as its name. -/

namespace Stencil

open Json (Members)

/-- The tag that a value denotes: its name, or an object that holds nothing but null under its name. -/
def Tag.ofJson? : Json → Option Tag
  | .string s => Tag.ofName? s
  | .object [(k, .null)] => Tag.ofName? k
  | _ => none

/-- A tag is read by its name. -/
theorem Tag.ofJson?_name (t : Tag) : Tag.ofJson? (.string t.name) = some t := Tag.ofName?_name t

namespace Schema.Node

/-- The text that a value denotes. -/
def text? : Json → Option String
  | .string s => some s
  | _ => none

/-- The text of a field that may be left out or null. -/
def optionalText? : Option Json → Option (Option String)
  | none | some .null => some none
  | some (.string s) => some (some s)
  | some _ => none

/-- The fields of a node other than its children. -/
def withoutChildren? (field? : Nat → String → Option Json) : Option Node := do
  let key ← (field? 0 "key").bind text?
  let tag ← (field? 1 "type").bind Tag.ofJson?
  let className ← optionalText? (field? 3 "className")
  let fileName ← optionalText? (field? 4 "fileName")
  let typeName ← optionalText? (field? 5 "typeName")
  let docTypeName ← optionalText? (field? 6 "docTypeName")
  return { key, tag, className, fileName, typeName, docTypeName }

mutual

/-- The node that a value denotes. -/
def ofJson? : Json → Option Node
  | .object ms => do
    let n ← withoutChildren? fun _ name => Members.get? ms name
    return { n with children := ← childrenOf? ms }
  | .array vs =>
    if 7 < vs.length then none
    else do
      let n ← withoutChildren? fun i _ => vs[i]?
      return { n with children := ← childrenAt? 2 vs }
  | _ => none

/-- The children that the members of an object tell. -/
def childrenOf? : List (String × Json) → Option (List Node)
  | [] => some []
  | (k, v) :: ms =>
    if k = "children" then
      match v with
      | .array vs => ofItems? vs
      | _ => none
    else childrenOf? ms

/-- The children that the item at an index tells. -/
def childrenAt? (i : Nat) : List Json → Option (List Node)
  | [] => some []
  | v :: vs =>
    match i with
    | 0 =>
      match v with
      | .array ws => ofItems? ws
      | _ => none
    | i + 1 => childrenAt? i vs

/-- The nodes that values denote. -/
def ofItems? : List Json → Option (List Node)
  | [] => some []
  | v :: vs => do
    let n ← ofJson? v
    return n :: (← ofItems? vs)

end

/-- A text that may be missing, as a member of an object. -/
def optionalMember (name : String) (s : Option String) : Members :=
  (s.map fun s => (name, Json.string s)).toList

mutual

/-- A node as a JSON value. -/
def toJson : Node → Json
  | ⟨key, tag, children, className, fileName, typeName, docTypeName⟩ =>
    .object (
      [("key", .string key), ("type", .string tag.name)] ++
      (match children with
        | [] => []
        | children => [("children", .array (toItems children))]) ++
      optionalMember "className" className ++ optionalMember "fileName" fileName ++
      optionalMember "typeName" typeName ++ optionalMember "docTypeName" docTypeName)

/-- Nodes as JSON values. -/
def toItems : List Node → List Json
  | [] => []
  | n :: ns => toJson n :: toItems ns

end

end Schema.Node
end Stencil
