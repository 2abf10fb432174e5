import Stencil.Json.Basic
import Stencil.Text.Classes

/-! # Writing JSON

`compact` writes a value without blanks.  `pretty` writes an item or member on each line, two blanks
deeper than what holds it. -/

namespace Stencil.Json

open Text

/-- A character inside a quoted text. -/
def escaped (c : Char) : List Char :=
  if c = '"' then ['\\', '"']
  else if c = '\\' then ['\\', '\\']
  else if c = '\x08' then ['\\', 'b']
  else if c = '\x0c' then ['\\', 'f']
  else if c = '\n' then ['\\', 'n']
  else if c = '\r' then ['\\', 'r']
  else if c = '\t' then ['\\', 't']
  else if c.toNat < 0x20 then ['\\', 'u', '0', '0', hexDigit (c.toNat / 16), hexDigit (c.toNat % 16)]
  else [c]

/-- A text in quotes. -/
def quoted (s : String) : String :=
  "\"" ++ String.ofList (s.toList.flatMap escaped) ++ "\""

/-- The numeral of a number.  A number that is not whole is written as a multiple of 10^-1074, which
every number of the binary format is. -/
def numeral : Number → String
  | .whole n => toString n
  | .real x => (if x.negative then "-" else "") ++ toString (x.units * Nat.pow 5 1074) ++ "e-1074"

/-- The text of a value that is neither array nor object. -/
def atom : Json → String
  | .null => "null"
  | .bool b => if b then "true" else "false"
  | .number n => numeral n
  | .string s => quoted s
  | .array _ => "[]"
  | .object _ => "\x7b\x7d"

mutual

/-- A value without blanks. -/
def compact : Json → String
  | .array vs => "[" ++ ",".intercalate (compactItems vs) ++ "]"
  | .object ms => "\x7b" ++ ",".intercalate (compactMembers ms) ++ "\x7d"
  | v => atom v

/-- The items of an array, each without blanks. -/
def compactItems : List Json → List String
  | [] => []
  | v :: vs => compact v :: compactItems vs

/-- The members of an object, each without blanks. -/
def compactMembers : List (String × Json) → List String
  | [] => []
  | (k, v) :: ms => (quoted k ++ ":" ++ compact v) :: compactMembers ms

end

/-- Lines, one a part, between brackets; `margin` is what the lines of the brackets start with. -/
def bracketed (left right margin : String) : List String → String
  | [] => left ++ right
  | parts =>
    left ++ "\n" ++ ",\n".intercalate (parts.map (margin ++ "  " ++ ·)) ++ "\n" ++ margin ++ right

mutual

/-- A value over several lines, all but the first of which start with `margin`. -/
def prettyFrom (margin : String) : Json → String
  | .array vs => bracketed "[" "]" margin (prettyItems (margin ++ "  ") vs)
  | .object ms => bracketed "\x7b" "\x7d" margin (prettyMembers (margin ++ "  ") ms)
  | v => atom v

/-- The items of an array, each over several lines. -/
def prettyItems (margin : String) : List Json → List String
  | [] => []
  | v :: vs => prettyFrom margin v :: prettyItems margin vs

/-- The members of an object, each over several lines. -/
def prettyMembers (margin : String) : List (String × Json) → List String
  | [] => []
  | (k, v) :: ms => (quoted k ++ ": " ++ prettyFrom margin v) :: prettyMembers margin ms

end

/-- A value over several lines. -/
def pretty (v : Json) : String := prettyFrom "" v

end Stencil.Json
