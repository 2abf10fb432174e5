import Stencil.Text.Classes
import Stencil.Text.Utf8

/-! # Queries

A query is a row of pairs of a name and a value.  In both a plus stands for a blank, and a percent sign
with two hexadecimal digits for a byte. -/

namespace Stencil.Service

open Text

/-- The bytes that an encoded text stands for. -/
def decodedBytes : List Char → List UInt8
  | [] => []
  | '+' :: cs => 0x20 :: decodedBytes cs
  | '%' :: a :: b :: cs =>
    match hexadecimalValue? [a, b] with
    | some n => UInt8.ofNat n :: decodedBytes cs
    | none => 0x25 :: decodedBytes (a :: b :: cs)
  | c :: cs => (String.singleton c).toUTF8.toList ++ decodedBytes cs
termination_by cs => cs.length

/-- The text that an encoded text stands for. -/
def decoded (cs : List Char) : String := String.ofList (decodeLossy (decodedBytes cs))

/-- A name and a value in front of the next ampersand, and all the pairs behind it.  `name` and `value`
hold what has been read of the pair, from the last character. -/
def fieldsFrom (name : List Char) (value : Option (List Char)) : List Char → List (String × String)
  | [] => done name value
  | c :: cs =>
    if c = '&' then done name value ++ fieldsFrom [] none cs
    else
      match value with
      | some value => fieldsFrom name (some (c :: value)) cs
      | none => if c = '=' then fieldsFrom name (some []) cs else fieldsFrom (c :: name) none cs
where
  /-- The pair that has been read, unless nothing has been read at all. -/
  done (name : List Char) (value : Option (List Char)) : List (String × String) :=
    if name.isEmpty && value.isNone then []
    else [(decoded name.reverse, decoded (value.getD []).reverse)]

/-- The fields of a query. -/
def queryFields (s : String) : List (String × String) := fieldsFrom [] none s.toList

end Stencil.Service
