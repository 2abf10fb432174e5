import Stencil.Json.Lexeme

/-! # Drafts: JSON texts read up to their first fault

A `Draft` is the tree of a JSON text that may break off.  It keeps repeated keys, scalars that denote
nothing, and the place and kind of the fault where the text stops being well formed, so that a reader
who knows what it expects can tell which fault comes first.  `Draft.read` is the reader that expects
nothing; `Json.parse` applies it to a text.

* `read_scalar`  a scalar that is there has no fault. -/

namespace Stencil.Json

/-- The tree of a JSON text, up to its first fault. -/
inductive Draft where
  | scalar (v : Json)
  /-- A scalar that is well formed and denotes nothing. -/
  | unreadable
  /-- An array, and what stops it if it is not closed. -/
  | array (items : List Draft) (stop : Option Flaw)
  /-- An object, and what stops it if it is not closed.  A key without a text is unreadable. -/
  | object (members : List (Option String × Draft)) (stop : Option Flaw)
  /-- The text is not well formed where a value is expected. -/
  | broken (flaw : Flaw)

namespace Draft

instance : Inhabited Draft := ⟨.scalar .null⟩

/-! ## From lexemes to a draft -/

/-- An array or object that has been opened; its contents are held last first. -/
inductive Frame where
  | array (items : List Draft)
  /-- An object, and the last key if its value is still to come. -/
  | object (members : List (Option String × Draft)) (key : Option String)

namespace Frame

/-- The contents of a frame together with a value that ends there. -/
def place (v : Draft) : Frame → Frame
  | .array items => .array (v :: items)
  | .object members key => .object ((key, v) :: members) none

/-- The array or object, which stops there. -/
def finish (stop : Option Flaw) : Frame → Draft
  | .array items => .array items.reverse stop
  | .object members _ => .object members.reverse stop

end Frame

/-- What may come next. -/
inductive Expectation where
  | value
  /-- A value, or the end of an array that has no items yet. -/
  | firstItem
  /-- A comma, or the end of an array or object. -/
  | separator
  | key
  /-- A key, or the end of an object that has no members yet. -/
  | firstKey
  | colon

/-- The draft that ends with a value: nothing of the frames around it is read after it. -/
def breakOff (frames : List Frame) (v : Draft) : Draft :=
  frames.foldl (fun v f => (f.place v).finish none) v

/-- The draft whose innermost frame is stopped by a flaw. -/
def stopAt (frames : List Frame) (flaw : Flaw) : Draft :=
  match frames with
  | [] => .broken flaw
  | f :: outer => breakOff outer (f.finish (some flaw))

/-- How far the reading of a text has come. -/
inductive Progress where
  /-- Inside frames, the innermost first. -/
  | within (frames : List Frame) (expect : Expectation)
  | finished (v : Draft)

/-- Go on after a value that ends inside frames. -/
def afterValue (frames : List Frame) (v : Draft) : Progress :=
  match frames with
  | [] => .finished v
  | f :: outer => .within (f.place v :: outer) .separator

/-- Read a lexeme where a value is expected. -/
def valueStep (frames : List Frame) : Lexeme → Progress
  | .openArray => .within (.array [] :: frames) .firstItem
  | .openObject => .within (.object [] none :: frames) .firstKey
  | .text s => afterValue frames (.scalar (.string s))
  | .scalar v => afterValue frames (.scalar v)
  | .unreadable _ => afterValue frames .unreadable
  -- Nothing around a broken value is looked at, so its frames are left without a stop.
  | .broken _ flaw => .finished (breakOff frames (.broken flaw))
  | _ => .finished (breakOff frames (.broken (.plain .malformed)))

/-- Read a lexeme where a key is expected, inside an object with the members so far. -/
def keyStep (members : List (Option String × Draft)) (outer : List Frame) : Lexeme → Progress
  | .text k => .within (.object members (some k) :: outer) .colon
  | .unreadable true => .within (.object members none :: outer) .colon
  | .broken true flaw => .finished (stopAt (.object members none :: outer) flaw)
  | _ => .finished (stopAt (.object members none :: outer) (.plain .malformed))

/-- Read a lexeme. -/
def step (frames : List Frame) (expect : Expectation) (l : Lexeme) : Progress :=
  match expect, frames, l with
  | .separator, .array items :: outer, .comma => .within (.array items :: outer) .value
  | .separator, .object members k :: outer, .comma => .within (.object members k :: outer) .key
  | .separator, .array items :: outer, .closeArray
  | .firstItem, .array items :: outer, .closeArray =>
    afterValue outer (.array items.reverse none)
  | .separator, .object members _ :: outer, .closeObject
  | .firstKey, .object members _ :: outer, .closeObject =>
    afterValue outer (.object members.reverse none)
  | .colon, frames, .colon => .within frames .value
  | .key, .object members _ :: outer, l
  | .firstKey, .object members _ :: outer, l => keyStep members outer l
  | .value, frames, l
  | .firstItem, frames, l => valueStep frames l
  | _, frames, _ => .finished (stopAt frames (.plain .malformed))

/-- The draft of a text that ends too early. -/
def cutShort (frames : List Frame) : Expectation → Draft
  | .value | .firstItem => breakOff frames (.broken (.plain .truncated))
  | _ => stopAt frames (.plain .truncated)

/-- Read lexemes until the value ends.  The answer holds the lexemes that follow it. -/
def ofLexemes : Progress → List Lexeme → Draft × List Lexeme
  | .finished v, rest => (v, rest)
  | .within frames expect, [] => (cutShort frames expect, [])
  | .within frames expect, l :: rest => ofLexemes (step frames expect l) rest

/-- The draft of a text, and the lexemes that follow it. -/
def ofText (s : String) : Draft × List Lexeme := ofLexemes (.within [] .value) (lexemes s.toList)

/-! ## Skipping and reading -/

mutual

/-- The first fault that one who skips a draft meets. -/
def skipFault? : Draft → Option Fault
  | .scalar _ | .unreadable => none
  | .array items stop => skipItems items <|> stop.map Flaw.skip
  | .object members stop => skipMembers members <|> stop.map Flaw.skip
  | .broken flaw => some flaw.skip

/-- The first fault among skipped items. -/
def skipItems : List Draft → Option Fault
  | [] => none
  | v :: vs => skipFault? v <|> skipItems vs

/-- The first fault among skipped members. -/
def skipMembers : List (Option String × Draft) → Option Fault
  | [] => none
  | (_, v) :: ms => skipFault? v <|> skipMembers ms

end

/-- A value that was read before its array or object stopped. -/
def unlessStopped (stop : Option Flaw) (v : Json) : Except Fault Json :=
  match stop with
  | none => .ok v
  | some flaw => .error flaw.read

mutual

/-- The value of a draft, or the first fault that its reader meets.  Arrays and objects may be nested
`room` deep.  Of repeated keys the last value counts, at the place of the first. -/
def read (room : Nat) : Draft → Except Fault Json
  | .scalar v => .ok v
  | .unreadable => .error .malformed
  | .broken flaw => .error flaw.read
  | .array items stop =>
    match room with
    | 0 => .error .malformed
    | room + 1 => do unlessStopped stop (.array (← readItems room items))
  | .object members stop =>
    match room with
    | 0 => .error .malformed
    | room + 1 => do unlessStopped stop (.object (← readMembers room [] members))

/-- The values of items. -/
def readItems (room : Nat) : List Draft → Except Fault (List Json)
  | [] => .ok []
  | v :: vs => do
    let w ← read room v
    return w :: (← readItems room vs)

/-- Members put into those that come before them. -/
def readMembers (room : Nat) (before : Members) :
    List (Option String × Draft) → Except Fault Members
  | [] => .ok before
  | (none, _) :: _ => .error .malformed
  | (some k, v) :: ms => do
    let w ← read room v
    readMembers room (before.insert k w) ms

end

/-- A scalar is read as it is, however deep it stands. -/
@[simp] theorem read_scalar (room : Nat) (v : Json) : read room (.scalar v) = .ok v := by
  simp [read]

end Draft

/-- How deep arrays and objects may be nested in a text. -/
def maxDepth : Nat := 127

/-- The value that a text denotes.  Nothing but blanks follows it. -/
def parse (s : String) : Except Fault Json := do
  let (draft, rest) := Draft.ofText s
  let v ← draft.read maxDepth
  if rest.isEmpty then .ok v else .error .malformed

end Stencil.Json
