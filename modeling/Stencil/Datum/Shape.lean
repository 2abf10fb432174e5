import Stencil.Datum.Basic

/-! # Shapes of configuration data

A `Shape` says what a datum has to look like.  `Shape.fault?` goes through a datum in the order of the
text and reports the first fault: one of the text itself, or that the datum does not have the shape.
A record may be given as a list of its fields in their order.

Once a datum has a shape, its parts can be taken out without further checks. -/

namespace Stencil

open Json (Fault Flaw)

/-- How a field of a record may be given. -/
structure FieldRule where
  name : String
  /-- Other names of the field. -/
  aliases : List String := []
  /-- The field must be there. -/
  required : Bool := false
  /-- The field may be given as absent. -/
  nullable : Bool := false
  deriving DecidableEq, Repr

namespace FieldRule

/-- Whether a key names the field. -/
def answers (f : FieldRule) (key : String) : Bool := f.name == key || f.aliases.contains key

end FieldRule

/-- What a datum has to look like. -/
inductive Shape where
  | text
  | flag
  | natural
  | list (items : Shape)
  | record (fields : List (FieldRule × Shape))

namespace Shape

/-- Whether a datum is a scalar that stands for an absent value. -/
def isAbsent : Datum → Bool
  | .scalar s => s.absent
  | _ => false

/-- The field that a key names. -/
def ruleFor? (fields : List (FieldRule × Shape)) (key : String) : Option (FieldRule × Shape) :=
  fields.find? (·.1.answers key)

/-- Whether all required fields have been seen. -/
def complete (fields : List (FieldRule × Shape)) (seen : List String) : Bool :=
  fields.all fun f => !f.1.required || seen.contains f.1.name

/-- Whether a scalar has a shape. -/
def fits (s : Scalar) : Shape → Bool
  | .text => s.text?.isSome
  | .flag => s.flag?.isSome
  | .natural => s.natural?.any (· < 1 <<< 64)
  | .list _ => s.vacant
  | .record fields => s.vacant && complete fields []

/-- The fault that a reader meets at the end of a list or record: that of what stops it, or that
something is wanting. -/
def endFault? (stop : Option Flaw) (satisfied : Bool) : Option Fault :=
  match stop with
  | some flaw => some flaw.read
  | none => if satisfied then none else some .mismatched

mutual

/-- The first fault of a datum that should have a shape. -/
def fault? (shape : Shape) : Datum → Option Fault
  | .scalar s => if shape.fits s then none else some .mismatched
  | .unreadable => some .malformed
  | .broken flaw => some flaw.read
  | .list vs stop surplus =>
    match shape, surplus with
    | .list s, _ => itemsFault? s vs <|> endFault? stop true
    | .record fields, some surplus => fieldsFault? fields surplus stop vs
    -- The kind of a value is looked at before what is wrong inside it.
    | _, _ => some .mismatched
  | .record ms stop =>
    match shape with
    | .record fields => membersFault? fields stop [] ms
    | _ => some .mismatched

/-- The first fault among items that should all have a shape. -/
def itemsFault? (shape : Shape) : List Datum → Option Fault
  | [] => none
  | v :: vs => fault? shape v <|> itemsFault? shape vs

/-- The first fault of a list that stands for a record. -/
def fieldsFault? (fields : List (FieldRule × Shape)) (surplus : Fault) (stop : Option Flaw) :
    List Datum → Option Fault
  | [] => endFault? stop (complete fields [])
  | v :: vs =>
    match fields with
    | [] => some surplus
    | (f, shape) :: fields =>
      (if f.nullable && isAbsent v then none else fault? shape v) <|>
        fieldsFault? fields surplus stop vs

/-- The first fault of the members of a record, after those that have been seen. -/
def membersFault? (fields : List (FieldRule × Shape)) (stop : Option Flaw) (seen : List String) :
    List (Option String × Datum) → Option Fault
  | [] => endFault? stop (complete fields seen)
  | (none, _) :: _ => some .malformed
  | (some key, v) :: ms =>
    match ruleFor? fields key with
    -- Unknown fields are ignored, but a text that breaks off inside one is noticed.
    | none => Datum.skipFault? v <|> membersFault? fields stop seen ms
    | some (f, shape) =>
      if seen.contains f.name then some .mismatched
      else
        (if f.nullable && isAbsent v then none else fault? shape v) <|>
          membersFault? fields stop (f.name :: seen) ms

end

end Shape

/-! ## Taking parts out -/

namespace Datum

/-- The field of a record, unless it is left out or given as absent. -/
def field? (fields : List (FieldRule × Shape)) (name : String) (d : Datum) : Option Datum :=
  let found : Option Datum :=
    match d with
    | .record ms _ =>
      fields.findSome? fun f =>
        if f.1.name == name then (ms.find? fun m => m.1.any f.1.answers).map (·.2) else none
    | .list vs _ _ => (fields.findIdx? fun f => f.1.name == name).bind fun i => vs[i]?
    | _ => none
  let nullable := fields.any fun f => f.1.name == name && f.1.nullable
  found.filter fun v => !(nullable && Shape.isAbsent v)

/-- The reading as text. -/
def text? : Datum → Option String
  | .scalar s => s.text?
  | _ => none

/-- The reading as a truth value. -/
def flag? : Datum → Option Bool
  | .scalar s => s.flag?
  | _ => none

/-- The reading as a natural number. -/
def natural? : Datum → Option Nat
  | .scalar s => s.natural?
  | _ => none

/-- The items of a list. -/
def items : Datum → List Datum
  | .list vs _ _ => vs
  | _ => []

end Datum

/-- How a value is read from data. -/
structure Decoder (α : Type) where
  shape : Shape
  /-- The value of a datum that has the shape. -/
  build : Datum → α

namespace Decoder

/-- Read a datum, or report its first fault. -/
def run {α : Type} (decoder : Decoder α) (d : Datum) : Except Fault α :=
  match decoder.shape.fault? d with
  | some fault => .error fault
  | none => .ok (decoder.build d)

/-- Read a JSON value. -/
def ofJson {α : Type} (decoder : Decoder α) (v : Json) : Except Fault α := decoder.run (.ofJson v)

/-- Read a JSON text, and ignore what follows it. -/
def ofTextAhead {α : Type} (decoder : Decoder α) (s : String) : Except Fault α :=
  decoder.run (.ofDraft (Json.Draft.ofText s).1)

/-- Read a JSON text.  Nothing but blanks follows it. -/
def ofText {α : Type} (decoder : Decoder α) (s : String) : Except Fault α := do
  let (draft, rest) := Json.Draft.ofText s
  let a ← decoder.run (.ofDraft draft)
  if rest.isEmpty then .ok a else .error .malformed

end Decoder
end Stencil
