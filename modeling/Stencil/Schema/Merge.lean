import Stencil.Json.Basic

/-! # Merging sample values

Values that stand at the same position of a sample are merged into one representative.  The first
scalar that is not null wins; objects are merged key by key; arrays are reduced to their distinct items
that are no objects, followed by one object merged from all the others.

Merging goes down one level of nesting at a time: `Merge.step` says what happens at one level, given
the way `pair` to merge two values on the level below, and `mergePair` applies it on all levels that
the two values have.

* `Merge.step_null_right`  null adds nothing to a value. -/

namespace Stencil

namespace Json

mutual

/-- How deep arrays and objects are nested in a value. -/
def height : Json → Nat
  | .array vs => heightItems vs + 1
  | .object ms => heightMembers ms + 1
  | _ => 0

/-- How deep arrays and objects are nested in the items of an array. -/
def heightItems : List Json → Nat
  | [] => 0
  | v :: vs => max (height v) (heightItems vs)

/-- How deep arrays and objects are nested in the members of an object. -/
def heightMembers : List (String × Json) → Nat
  | [] => 0
  | (_, v) :: ms => max (height v) (heightMembers ms)

end

end Json

namespace Schema

open Json (Members)

namespace Merge

/-- Merge the members of an object into those of another, in order.  A key that is new is put at the
end, with its value merged into null. -/
def members (pair : Json → Json → Json) (target source : Members) : Members :=
  source.foldl (fun t m => t.insert m.1 (pair ((t.get? m.1).getD .null) m.2)) target

/-- The items of an array, as far as they are reduced. -/
structure Reduction where
  /-- The items that are no objects, in the order in which they were first seen. -/
  others : List Json
  /-- The members of the merged object, once there is one. -/
  object : Option Members

namespace Reduction

/-- No items. -/
def empty : Reduction := ⟨[], none⟩

/-- Add an item that is no object, unless it is there already. -/
def push (r : Reduction) (v : Json) : Reduction :=
  if v.occursIn r.others then r else { r with others := r.others ++ [v] }

/-- Merge an object in. -/
def addObject (pair : Json → Json → Json) (r : Reduction) (ms : Members) : Reduction :=
  { r with object := some (members pair (r.object.getD []) ms) }

/-- Add an item.  An array that is reduced to a single object counts as that object. -/
def add (pair : Json → Json → Json) (r : Reduction) : Json → Reduction
  | .object ms => r.addObject pair ms
  | .array vs =>
    -- Merged into null, an array is reduced on its own.
    match pair .null (.array vs) with
    | .array [.object ms] => r.addObject pair ms
    | reduced => r.push reduced
  | v => r.push v

/-- The reduced items: the merged object comes last. -/
def toList (r : Reduction) : List Json := r.others ++ (r.object.map Json.object).toList

end Reduction

/-- Reduce the items of an array. -/
def elements (pair : Json → Json → Json) (vs : List Json) : List Json :=
  (vs.foldl (Reduction.add pair) .empty).toList

/-- Merge a value into the values accumulated so far, on one level of nesting.  An array that holds
nothing but objects meets an object as the merged object; any other two of different kinds leave the
accumulated value alone. -/
def step (pair : Json → Json → Json) : Json → Json → Json
  | acc, .null => acc
  | .null, .object b => .object (members pair [] b)
  | .null, .array b => .array (elements pair b)
  | .null, v => v
  | .object a, .object b => .object (members pair a b)
  | .array a, .array b => .array (elements pair (a ++ b))
  | .object a, .array b =>
    match elements pair b with
    -- Only an array of objects has anything to say about an object.
    | [.object m] => .object (members pair a m)
    | _ => .object a
  | .array [.object a], .object b => .array [.object (members pair a b)]
  | acc, _ => acc

/-- Null adds nothing to what has been accumulated. -/
@[simp] theorem step_null_right (pair : Json → Json → Json) (acc : Json) :
    step pair acc .null = acc := by
  simp [step]

/-- Merge two values that are nested at most so deep. -/
def upTo : Nat → Json → Json → Json
  | 0 => step fun acc _ => acc
  | depth + 1 => step (upTo depth)

end Merge

/-- Merge a value into the values accumulated so far. -/
def mergePair (acc next : Json) : Json := Merge.upTo (max acc.height next.height) acc next

/-- The representative of a list of values. -/
def merge (vs : List Json) : Json := vs.foldl mergePair .null

/-- The representative of a single value: all arrays in it are reduced. -/
def collapse (v : Json) : Json := mergePair .null v

/-- The reduced items of an array. -/
def mergeElements (vs : List Json) : List Json := Merge.elements mergePair vs

/-- A value at the end is merged last. -/
theorem merge_append_singleton (vs : List Json) (v : Json) :
    merge (vs ++ [v]) = mergePair (merge vs) v := by
  simp [merge]

end Schema
end Stencil
