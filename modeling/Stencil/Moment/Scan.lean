import Stencil.Moment.Calendar
import Stencil.Text.Classes

/-! # Reading the fields of a moment

A `Scan` reads something in front of a text and leaves the rest.  The fields of local moments may have
white space in front and be short of digits.

* `number_length`  a number that is read takes up at most the characters it may have. -/

namespace Stencil.Moment

open Text

/-- A reader of what stands in front of a text. -/
abbrev Scan := StateT (List Char) Option

namespace Scan

/-- White space, if there is any. -/
def blanks : Scan Unit := modify trimStart

/-- White space, at least one character of it. -/
def blank : Scan Unit := fun cs => if cs.head?.any isWhitespace then some ((), trimStart cs) else none

/-- A character. -/
def literal (c : Char) : Scan Unit
  | d :: cs => if d = c then some ((), cs) else none
  | [] => none

/-- Digits, as many as there are but at most `most`, and at least `least`. -/
def digits (least most : Nat) : Scan (List Char) := fun cs =>
  let ds := (cs.take most).takeWhile Char.isDigit
  if ds.length < least then none else some (ds, cs.drop ds.length)

/-- A number of so many digits. -/
def number (least most : Nat) : Scan Nat := decimalValue <$> digits least most

/-- Digits, as many as there are, and at least one. -/
def allDigits : Scan (List Char) := fun cs => digits 1 cs.length cs

/-- Whatever is read, but nothing follows it. -/
def whole? {α : Type} (scan : Scan α) (cs : List Char) : Option α :=
  match scan cs with
  | some (a, []) => some a
  | _ => none

/-! ## Fields -/

/-- A field of at most two digits, with white space in front. -/
def shortField : Scan Nat := do
  blanks
  number 1 2

/-- A year: at most four digits, or a sign and any number of them. -/
def year : Scan Int := do
  blanks
  match ← get with
  | '-' :: cs => do set cs; return -((decimalValue (← allDigits) : Nat) : Int)
  | '+' :: cs => do set cs; return ((decimalValue (← allDigits) : Nat) : Int)
  | _ => return ((← number 1 4 : Nat) : Int)

/-- A year, month and day with hyphens in between. -/
def day : Scan Day := do
  let y ← year
  literal '-'
  let m ← shortField
  literal '-'
  return ⟨y, m, ← shortField⟩

/-- The digits behind a second, if there is a point; tells whether they denote something other than
zero.  What is smaller than a nanosecond is cut off. -/
def fraction : Scan Bool := do
  match ← get with
  | '.' :: cs => do
    set cs
    let ds ← allDigits
    return (ds.take 9).any (· != '0')
  | _ => return false

/-- An hour and minute with a colon in between. -/
def hourMinute : Scan Clock := do
  let h ← shortField
  literal ':'
  return ⟨h, ← shortField, 0, false⟩

/-- An hour, minute and second, perhaps with digits behind it. -/
def hourMinuteSecond : Scan Clock := do
  let c ← hourMinute
  literal ':'
  let s ← shortField
  return { c with second := s, fraction := ← fraction }

end Scan
end Stencil.Moment
