import Stencil.Json.Basic
import Stencil.Text.Classes

/-! # Numerals of JSON texts

A numeral is a sign, digits, perhaps a fraction and perhaps an exponent.  Digits are gathered into a
significand for as long as it stays below 2^64.  A numeral without fraction and exponent whose digits
all fit is a whole number; any other one is the significand, rounded to 64-bit format, times or divided
by a power of ten in that format. -/

namespace Stencil.Json

open Text

/-- What ends the reading of a text. -/
inductive Fault where
  /-- The text is not well formed. -/
  | malformed
  /-- The text ends too early. -/
  | truncated
  /-- The text is well formed and does not have the expected shape. -/
  | mismatched
  deriving DecidableEq, Repr

/-- The bound of significands, which is 2^64. -/
def significandBound : Nat := 1 <<< 64

/-- Append digits to a significand for as long as it stays below 2^64.  The second part of the answer
counts the digits that are left over. -/
def gather (significand : Nat) : List Char → Nat × Nat
  | [] => (significand, 0)
  | d :: ds =>
    if 10 * significand + digitValue d < significandBound then
      gather (10 * significand + digitValue d) ds
    else (significand, ds.length + 1)

/-- The power of ten nearest to `10 ^ k`, for `k` up to 308. -/
def powerOfTen (k : Nat) : Binary64 := (Binary64.ofNat? (Nat.pow 10 k)).getD .zero

/-- Divide by a power of ten, by at most `10 ^ 308` at a time. -/
def scaleDown (x : Binary64) (k : Nat) : Option Binary64 :=
  if k ≤ 308 then x.div? (powerOfTen k)
  else if x.units = 0 then some x
  else (x.div? (powerOfTen 308)).bind fun y => scaleDown y (k - 308)
termination_by k

/-- Multiply by a power of ten, unless the result is too large. -/
def scaleUp (x : Binary64) (k : Nat) : Option Binary64 :=
  if k ≤ 308 then x.mul? (powerOfTen k) else if x.units = 0 then some x else none

/-- The number `significand * 10 ^ exponent`, unless it is too large. -/
def decimal? (negative : Bool) (significand : Nat) (exponent : Int) : Option Binary64 := do
  let x ← Binary64.ofNat? significand
  let y ← if exponent < 0 then scaleDown x (-exponent).toNat else scaleUp x exponent.toNat
  some (if negative then y.neg else y)

/-- The parts of a numeral. -/
structure Numeral where
  negative : Bool
  digits : List Char
  fraction : Option (List Char)
  exponent : Option Int

/-- The number that a numeral denotes, unless it is too large. -/
def Numeral.value? (n : Numeral) : Option Number :=
  let (whole, left) := gather 0 n.digits
  if n.fraction.isNone && n.exponent.isNone && left == 0 then
    if !n.negative then some (.whole whole)
    -- Zero with a minus sign is no whole number.
    else if 0 < whole && whole ≤ 1 <<< 63 then some (.whole (-whole))
    else (decimal? true whole 0).map .real
  else
    let fraction := n.fraction.getD []
    -- Digits of the fraction can still fit behind a whole part whose last digits did not.
    let (significand, rest) := gather whole fraction
    let exponent : Int := left - (fraction.length - rest : Nat) + n.exponent.getD 0
    (decimal? n.negative significand exponent).map .real

/-! ## Cutting a numeral off a text -/

/-- A numeral in front of a text, and the number of characters it takes up. -/
abbrev NumeralAt := Except Fault (Numeral × Nat)

/-- The fault of a text that ends where more is needed, or goes on with the wrong character. -/
def wanting (rest : List Char) : Fault := if rest.isEmpty then .truncated else .malformed

/-- Read the exponent part, which starts with `e` or `E`, of a numeral of which `width` characters
have been read. -/
def exponentAt (n : Numeral) (width : Nat) (cs : List Char) : NumeralAt :=
  match cs with
  | c :: rest =>
    if c = 'e' || c = 'E' then
      let (negative, sign, rest) := match rest with
        | '+' :: r => (false, 1, r)
        | '-' :: r => (true, 1, r)
        | r => (false, 0, r)
      let ds := rest.takeWhile Char.isDigit
      if ds.isEmpty then .error (wanting rest)
      else
        let e : Int := decimalValue ds
        .ok ({ n with exponent := some (if negative then -e else e) },
          width + 1 + sign + ds.length)
    else .ok (n, width)
  | [] => .ok (n, width)

/-- Read the fraction and the exponent of a numeral of which `width` characters have been read. -/
def fractionAt (n : Numeral) (width : Nat) (cs : List Char) : NumeralAt :=
  match cs with
  | '.' :: rest =>
    let ds := rest.takeWhile Char.isDigit
    if ds.isEmpty then .error (wanting rest)
    else exponentAt { n with fraction := some ds } (width + 1 + ds.length) (rest.drop ds.length)
  | _ => exponentAt n width cs

/-- Read a numeral.  No zero stands in front of other digits. -/
def numeralAt (cs : List Char) : NumeralAt :=
  let (negative, sign, cs) := match cs with
    | '-' :: r => (true, 1, r)
    | r => (false, 0, r)
  let ds := cs.takeWhile Char.isDigit
  match ds with
  | [] => .error (wanting cs)
  | d :: more =>
    if d = '0' && !more.isEmpty then .error .malformed
    else fractionAt ⟨negative, ds, none, none⟩ (sign + ds.length) (cs.drop ds.length)

end Stencil.Json
