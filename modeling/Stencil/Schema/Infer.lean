import Stencil.Moment.Refine
import Stencil.Problem
import Stencil.Schema.Merge
import Stencil.Schema.Node
import Stencil.Schema.Vote

/-! # Inferring a schema tree

Each position of the tree has samples, the values found there, and a shape, their representative.  The
samples decide on the tag, the shape gives the positions below.

* `membersIn_object`  an object holds itself and nothing else. -/

namespace Stencil.Schema

open Json (Members)

mutual

/-- The objects in a value: the value itself, or those in the items of an array. -/
def membersIn : Json → List Members
  | .object ms => [ms]
  | .array vs => membersInItems vs
  | _ => []

/-- The objects in the items of an array. -/
def membersInItems : List Json → List Members
  | [] => []
  | v :: vs => membersIn v ++ membersInItems vs

end

/-- The items of an array. -/
def itemsOf : Json → List Json
  | .array vs => vs
  | _ => []

/-- The tag of a value; `refine` tells whether texts are refined. -/
def kindOf (refine : Bool) : Json → Tag
  | .string s => if refine then (Moment.refine? s).getD .string else .string
  | v => kind v

/-- The tag of a position.  Arrays vote together over all their items; otherwise the first sample that
is not null decides. -/
def tagOf (refine : Bool) (samples : List Json) : Tag :=
  match samples.filter (!·.isNull) with
  | [] => .null
  | first :: rest =>
    -- A single array decides like several: by all the items together.
    if (first :: rest).all Json.isArray then kindOfItems ((first :: rest).flatMap itemsOf)
    else kindOf refine first

mutual

/-- The position of a key, given its samples and shape. -/
def build (refine : Bool) (key : String) (samples : List Json) : Json → Node
  | .object ms =>
    { key, tag := tagOf refine samples
      children := buildMembers refine (samples.flatMap membersIn) ms }
  | .array vs =>
    let tag := tagOf refine samples
    { key, tag
      children :=
        if tag = .arrayObject then
          (buildLast? refine (samples.flatMap membersIn) vs).getD []
        else [] }
  | _ => { key, tag := tagOf refine samples }

/-- The positions below the last object among items, or among the items of arrays in them, where
`objects` are the objects found at the position. -/
def buildLast? (refine : Bool) (objects : List Members) : List Json → Option (List Node)
  | [] => none
  | v :: vs =>
    match buildLast? refine objects vs with
    | some children => some children
    | none => buildItem? refine objects v

/-- The positions below an item, if it is an object or an array that holds one. -/
def buildItem? (refine : Bool) (objects : List Members) : Json → Option (List Node)
  | .object ms => some (buildMembers refine objects ms)
  | .array vs => buildLast? refine objects vs
  | _ => none

/-- The positions of the members of a shape, where `objects` are the objects found above them. -/
def buildMembers (refine : Bool) (objects : List Members) : List (String × Json) → List Node
  | [] => []
  | (k, shape) :: ms =>
    build refine k (objects.filterMap (·.get? k)) shape :: buildMembers refine objects ms

end

/-- The schema tree of a sample.  Its root has no key yet. -/
def infer (refine : Bool) (sample : Json) : Except Problem Node :=
  match sample with
  | .object _ | .array _ => .ok (build refine "" [sample] (collapse sample))
  | other => .error (.unsupportedRoot (kind other))

/-- An object holds its own members. -/
@[simp] theorem membersIn_object (ms : Members) : membersIn (.object ms) = [ms] := by
  simp [membersIn]

end Stencil.Schema
