import Stencil.Datum.Basic
import Stencil.Yaml.Token

/-! # YAML texts as configuration data

A text holds at most one document.  Anchors name data that aliases repeat.  Lists never stand for
records, and a text without any document is an empty record. -/

namespace Stencil.Yaml

/-- The words for an absent value. -/
def absentWords : List String := ["", "~", "null", "Null", "NULL"]

/-- The truth value that a word stands for. -/
def flagOf? (s : String) : Option Bool :=
  if ["true", "True", "TRUE"].contains s then some true
  else if ["false", "False", "FALSE"].contains s then some false
  else none

/-- The readings of a scalar; a plain one without a tag is more than text. -/
def scalarOf (plain : Bool) (chars : List Char) : Scalar :=
  let s := String.ofList chars
  if plain then
    { text? := some s, flag? := flagOf? s, absent := absentWords.contains s, vacant := s.isEmpty }
  else { text? := some s }

/-- The datum of a node that is left out. -/
def emptyDatum : Datum := .scalar (scalarOf true [])

/-- The data that anchors name, the latest first. -/
abbrev Anchors := List (List Char × Datum)

/-- A datum in front of tokens, the anchors up to its end, and the tokens behind it. -/
abbrev ReadNode := Option (Datum × Anchors × List Token)

/-- Items in front of tokens, the anchors up to their end, and the tokens behind them. -/
abbrev ReadItems := Option (List Datum × Anchors × List Token)

/-- Members in front of tokens, the anchors up to their end, and the tokens behind them. -/
abbrev ReadMembers := Option (List (Option String × Datum) × Anchors × List Token)

/-- Take anchor and tag off: the anchor, whether there is a tag, and the tokens behind them. -/
def properties : List Token → Option (List Char) × Bool × List Token
  | .anchor a :: .tag :: ts => (some a, true, ts)
  | .tag :: .anchor a :: ts => (some a, true, ts)
  | .anchor a :: ts => (some a, false, ts)
  | .tag :: ts => (none, true, ts)
  | ts => (none, false, ts)

/-- The key that a datum is. -/
def keyOf : Datum → Option String
  | .scalar s => s.text?
  | _ => none

/-- A list of the format. -/
def listOf (items : List Datum) : Datum := .list items none none

/-- A record of the format. -/
def recordOf (members : List (Option String × Datum)) : Datum := .record members none

mutual

/-- Read a node.  `block` admits blocks, `bare` a list that is not indented.  No more than `fuel`
readings lie inside one another. -/
def node (fuel : Nat) (block bare : Bool) (as : Anchors) (ts : List Token) : ReadNode :=
  match fuel with
  | 0 => none
  | fuel + 1 =>
    match ts with
    | .alias a :: ts => ((as.find? (·.1 == a)).map (·.2)).map fun d => (d, as, ts)
    | ts => do
      let (anchor, tagged, ts) := properties ts
      let (d, as, ts) ←
        match ts with
        -- A tag makes a plain scalar a text like one in quotes.
        | .scalar plain chars :: ts => some (.scalar (scalarOf (plain && !tagged) chars), as, ts)
        | .openList :: ts => do
          let (vs, as, ts) ← flowItems fuel true as ts
          return (listOf vs, as, ts)
        | .openRecord :: ts => do
          let (ms, as, ts) ← flowMembers fuel true as ts
          return (recordOf ms, as, ts)
        | .listStart :: rest =>
          if block then do
            let (vs, as, ts) ← items fuel as rest
            return (listOf vs, as, ts)
          else none
        | .recordStart :: rest =>
          if block then do
            let (ms, as, ts) ← members fuel as rest
            return (recordOf ms, as, ts)
          else none
        | .item :: _ =>
          if bare then do
            let (vs, as, ts) ← bareItems fuel as ts
            return (listOf vs, as, ts)
          else if anchor.isSome || tagged then some (emptyDatum, as, ts) else none
        | ts => if anchor.isSome || tagged then some (emptyDatum, as, ts) else none
      match anchor with
      | some a => return (d, (a, d) :: as, ts)
      | none => return (d, as, ts)

/-- Read a node, unless one of the tokens follows that tell that it is left out. -/
def nodeUnless (fuel : Nat) (ends : Token → Bool) (block bare : Bool) (as : Anchors)
    (ts : List Token) : ReadNode :=
  match fuel with
  | 0 => none
  | fuel + 1 =>
    if ts.head?.any ends then some (emptyDatum, as, ts) else node fuel block bare as ts

/-- Read the items of a block. -/
def items (fuel : Nat) (as : Anchors) (ts : List Token) : ReadItems :=
  match fuel with
  | 0 => none
  | fuel + 1 =>
    match ts with
    | .item :: ts => do
      let (v, as, ts) ← nodeUnless fuel (fun t => t == .item || t == .blockEnd) true false as ts
      let (vs, as, ts) ← items fuel as ts
      return (v :: vs, as, ts)
    | .blockEnd :: ts => some ([], as, ts)
    | _ => none

/-- Read items that are not indented. -/
def bareItems (fuel : Nat) (as : Anchors) (ts : List Token) : ReadItems :=
  match fuel with
  | 0 => none
  | fuel + 1 =>
    match ts with
    | .item :: ts => do
      let ends (t : Token) : Bool := t == .item || t == .key || t == .value || t == .blockEnd
      let (v, as, ts) ← nodeUnless fuel ends true false as ts
      let (vs, as, ts) ← bareItems fuel as ts
      return (v :: vs, as, ts)
    | ts => some ([], as, ts)

/-- Read the members of a block. -/
def members (fuel : Nat) (as : Anchors) (ts : List Token) : ReadMembers :=
  match fuel with
  | 0 => none
  | fuel + 1 =>
    match ts with
    | .key :: ts => do
      let ends (t : Token) : Bool := t == .key || t == .value || t == .blockEnd
      let (k, as, ts) ← nodeUnless fuel ends true true as ts
      let (v, as, ts) ←
        match ts with
        | .value :: ts => nodeUnless fuel ends true true as ts
        | ts => some (emptyDatum, as, ts)
      let (ms, as, ts) ← members fuel as ts
      return ((keyOf k, v) :: ms, as, ts)
    | .blockEnd :: ts => some ([], as, ts)
    | _ => none

/-- Read the items of a list in brackets. -/
def flowItems (fuel : Nat) (first : Bool) (as : Anchors) (ts : List Token) : ReadItems :=
  match fuel with
  | 0 => none
  | fuel + 1 =>
    match first, ts with
    | _, .closeList :: ts => some ([], as, ts)
    | false, .comma :: .closeList :: ts => some ([], as, ts)
    | false, .comma :: ts => flowItem fuel as ts
    | true, ts => flowItem fuel as ts
    | _, _ => none

/-- Read an item of a list in brackets, which may be a pair of key and value, and those behind it. -/
def flowItem (fuel : Nat) (as : Anchors) (ts : List Token) : ReadItems :=
  match fuel with
  | 0 => none
  | fuel + 1 => do
    let ends (t : Token) : Bool := t == .value || t == .comma || t == .closeList
    let (v, as, ts) ←
      match ts with
      | .key :: ts => do
        let (k, as, ts) ← nodeUnless fuel ends false false as ts
        let (v, as, ts) ←
          match ts with
          | .value :: ts => nodeUnless fuel ends false false as ts
          | ts => some (emptyDatum, as, ts)
        some (recordOf [(keyOf k, v)], as, ts)
      | ts => node fuel false false as ts
    let (vs, as, ts) ← flowItems fuel false as ts
    return (v :: vs, as, ts)

/-- Read the members of a record in brackets. -/
def flowMembers (fuel : Nat) (first : Bool) (as : Anchors) (ts : List Token) : ReadMembers :=
  match fuel with
  | 0 => none
  | fuel + 1 =>
    match first, ts with
    | _, .closeRecord :: ts => some ([], as, ts)
    | false, .comma :: .closeRecord :: ts => some ([], as, ts)
    | false, .comma :: ts => flowMember fuel as ts
    | true, ts => flowMember fuel as ts
    | _, _ => none

/-- Read a member of a record in brackets, and those behind it.  A node without a key token in front is
a key without value. -/
def flowMember (fuel : Nat) (as : Anchors) (ts : List Token) : ReadMembers :=
  match fuel with
  | 0 => none
  | fuel + 1 => do
    let ends (t : Token) : Bool := t == .value || t == .comma || t == .closeRecord
    let (k, v, as, ts) ←
      match ts with
      | .key :: ts => do
        let (k, as, ts) ← nodeUnless fuel ends false false as ts
        match ts with
        | .value :: ts => do
          let (v, as, ts) ← nodeUnless fuel ends false false as ts
          some (k, v, as, ts)
        | ts => some (k, emptyDatum, as, ts)
      | ts => do
        let (k, as, ts) ← node fuel false false as ts
        some (k, emptyDatum, as, ts)
    let (ms, as, ts) ← flowMembers fuel false as ts
    return ((keyOf k, v) :: ms, as, ts)

end

/-- More readings than this never lie inside one another, for so many tokens. -/
def enoughFuel (ts : List Token) : Nat := 3 * ts.length + 4

/-- Whether a document ends in front of a token. -/
def endsDocument (t : Token) : Bool := t == .documentStart || t == .documentEnd || t == .version

/-- The datum of a document that starts with tokens and ends where they do. -/
def document? (ts : List Token) : Option Datum := do
  let (d, _, rest) ←
    if ts.isEmpty then some (emptyDatum, [], []) else nodeUnless (enoughFuel ts) endsDocument true false [] ts
  -- A second document is one too many, and so is a mark that announces one.
  if rest.all (· == .documentEnd) then some d else none

/-- The datum of a row of tokens. -/
def ofTokens? (ts : List Token) : Option Datum :=
  match ts.dropWhile (· == .documentEnd) with
  | [] => some (recordOf [])
  | .version :: .documentStart :: ts => document? ts
  | .documentStart :: ts => document? ts
  | ts => document? ts

/-- The datum of a text. -/
def ofText (s : String) : Datum :=
  ((tokens? s.toList).bind ofTokens?).getD (.broken (.plain .malformed))

end Stencil.Yaml
