import Stencil.Text.Classes

/-! # Media types

A media type is a type and a subtype, and may have parameters.  The part of a subtype behind its last
plus is its suffix. -/

namespace Stencil.Service

open Text

/-- Whether a character can stand in the words of a media type. -/
def isTokenChar (c : Char) : Bool := c.isAlphanum || "!#$%&'*+-.^_`|~".toList.contains c

/-- Whether a character can stand in quotes. -/
def isQuotableChar (c : Char) : Bool := ' ' ≤ c && c ≤ '~'

/-- A place among the parameters of a media type. -/
inductive ParameterPlace where
  /-- In front of a name. -/
  | front
  | name
  /-- Behind an equals sign. -/
  | equals
  | value
  /-- Behind the quote that opens a value. -/
  | opened
  | quoted
  /-- Behind the quote that closes a value. -/
  | closed
  deriving DecidableEq, Repr

namespace ParameterPlace

/-- The place behind a character. -/
def step : ParameterPlace → Char → Option ParameterPlace
  | .front, ' ' => some .front
  | .front, c => if isTokenChar c then some .name else none
  | .name, '=' => some .equals
  | .name, c => if isTokenChar c then some .name else none
  | .equals, '"' => some .opened
  | .equals, c => if isTokenChar c then some .value else none
  | .value, ';' => some .front
  | .value, c => if isTokenChar c then some .value else none
  | .opened, c => if isQuotableChar c then some .quoted else none
  | .quoted, '"' => some .closed
  | .quoted, c => if isQuotableChar c then some .quoted else none
  | .closed, ';' => some .front
  | .closed, ' ' => some .closed
  | .closed, _ => none

/-- Whether the parameters can end at a place. -/
def mayEnd : ParameterPlace → Bool
  | .front | .equals | .value | .closed => true
  | .name | .opened | .quoted => false

end ParameterPlace

/-- Whether a text is a row of parameters. -/
def areParameters (cs : List Char) : Bool :=
  (cs.foldlM ParameterPlace.step .front).any ParameterPlace.mayEnd

/-- A media type without its parameters, in small letters. -/
structure MediaType where
  type : List Char
  subtype : List Char
  deriving DecidableEq, Repr

namespace MediaType

/-- The media type of a text. -/
def ofText? (s : String) : Option MediaType :=
  let cs := (asciiLower s).toList
  match cs.takeWhile isTokenChar, cs.dropWhile isTokenChar with
  | type@(_ :: _), '/' :: cs =>
    let subtype := cs.takeWhile isTokenChar
    match cs.dropWhile isTokenChar with
    | [] => some { type, subtype }
    | ';' :: parameters =>
      if !subtype.isEmpty && areParameters parameters then some { type, subtype } else none
    | _ => none
  | _, _ => none

/-- The subtype without its suffix, and the suffix.  A plus at the very front does not count. -/
def parts (t : MediaType) : List Char × Option (List Char) :=
  match t.subtype with
  | [] => ([], none)
  | c :: cs =>
    let back := cs.reverse
    match back.dropWhile (· != '+') with
    | _ :: front => (c :: front.reverse, some (back.takeWhile (· != '+')).reverse)
    | [] => (c :: cs, none)

/-- Whether the media type is one of JSON texts. -/
def isJson (t : MediaType) : Bool :=
  t.type == "application".toList &&
    (t.parts.1 == "json".toList || t.parts.2 == some "json".toList)

end MediaType
end Stencil.Service
