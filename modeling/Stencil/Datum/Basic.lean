import Stencil.Json.Draft

/-! # Data of configuration files

A `Datum` is a piece of a configuration file, whatever its format.  A scalar keeps all the readings
that its format gives it.  As in a `Json.Draft`, a fault stays at its place in the text. -/

namespace Stencil

open Json (Fault Flaw)

/-- The readings of a scalar. -/
structure Scalar where
  text? : Option String := none
  flag? : Option Bool := none
  natural? : Option Nat := none
  /-- The scalar stands for a value that is left out. -/
  absent : Bool := false
  /-- The scalar can stand for a list or record without parts. -/
  vacant : Bool := false
  deriving DecidableEq, Repr

/-- A piece of a configuration file. -/
inductive Datum where
  | scalar (s : Scalar)
  /-- A scalar that is well formed and denotes nothing. -/
  | unreadable
  /-- A list, what stops it, and the fault of items that are too many if it stands for a record.  A list
  without such a fault never stands for a record. -/
  | list (items : List Datum) (stop : Option Flaw) (surplus : Option Fault)
  /-- A record and what stops it.  A key without a text is unreadable. -/
  | record (members : List (Option String × Datum)) (stop : Option Flaw)
  | broken (flaw : Flaw)

namespace Datum

instance : Inhabited Datum := ⟨.unreadable⟩

/-- The readings of a scalar of a JSON value. -/
def scalarOf : Json → Scalar
  | .null => { absent := true }
  | .bool b => { flag? := some b }
  | .number (.whole n) => { natural? := if 0 ≤ n then some n.toNat else none }
  | .string s => { text? := some s }
  | _ => {}

mutual

/-- A JSON value as a datum. -/
def ofJson : Json → Datum
  | .array vs => .list (ofItems vs) none (some .mismatched)
  | .object ms => .record (ofMembers ms) none
  | v => .scalar (scalarOf v)

/-- The items of an array as data. -/
def ofItems : List Json → List Datum
  | [] => []
  | v :: vs => ofJson v :: ofItems vs

/-- The members of an object as data. -/
def ofMembers : List (String × Json) → List (Option String × Datum)
  | [] => []
  | (k, v) :: ms => (some k, ofJson v) :: ofMembers ms

end

mutual

/-- The draft of a JSON text as a datum. -/
def ofDraft : Json.Draft → Datum
  | .scalar v => .scalar (scalarOf v)
  | .unreadable => .unreadable
  | .array vs stop => .list (ofDraftItems vs) stop (some .malformed)
  | .object ms stop => .record (ofDraftMembers ms) stop
  | .broken flaw => .broken flaw

/-- The items of an array as data. -/
def ofDraftItems : List Json.Draft → List Datum
  | [] => []
  | v :: vs => ofDraft v :: ofDraftItems vs

/-- The members of an object as data. -/
def ofDraftMembers : List (Option String × Json.Draft) → List (Option String × Datum)
  | [] => []
  | (k, v) :: ms => (k, ofDraft v) :: ofDraftMembers ms

end

/-! ## Skipping -/

mutual

/-- The first fault that one who skips a datum meets. -/
def skipFault? : Datum → Option Fault
  | .scalar _ | .unreadable => none
  | .list vs stop _ => skipItems vs <|> stop.map Flaw.skip
  | .record ms stop => skipMembers ms <|> stop.map Flaw.skip
  | .broken flaw => some flaw.skip

/-- The first fault among skipped items. -/
def skipItems : List Datum → Option Fault
  | [] => none
  | v :: vs => skipFault? v <|> skipItems vs

/-- The first fault among skipped members. -/
def skipMembers : List (Option String × Datum) → Option Fault
  | [] => none
  | (_, v) :: ms => skipFault? v <|> skipMembers ms

end

end Datum
end Stencil
