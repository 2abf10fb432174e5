import Stencil.Moment.Scan

/-! # Moments with a time zone

Two standard forms: that of internet timestamps, `2020-01-31T10:00:00.5+01:00`, and that of mail
headers, `Fri, 31 Jan 2020 10:00:00 +0100 (comment)`.  Both are read as the local day and time. -/

namespace Stencil.Moment

open Text

namespace Scan

/-- Two digits, the first at most `high`. -/
def twoDigits (high : Char) : Scan Nat := fun cs =>
  match cs.take 2 with
  | [a, b] =>
    if a.isDigit && b.isDigit && a ≤ high then some (decimalValue [a, b], cs.drop 2) else none
  | _ => none

/-- A sign; tells whether it is a minus.  `long` admits the minus sign of mathematics too. -/
def sign (long : Bool) : Scan Bool
  | '+' :: cs => some (false, cs)
  | '-' :: cs => some (true, cs)
  | '−' :: cs => if long then some (true, cs) else none
  | _ => none

/-- The distance from universal time in minutes, without its sign. -/
def offset (long colon : Bool) : Scan Nat := do
  let _ ← sign long
  let h ← twoDigits '9'
  if colon then literal ':'
  return 60 * h + (← twoDigits '5')

/-- A word of letters `a` to `z`, in small letters whatever their case. -/
def word : Scan (List Char) := fun cs =>
  let w := cs.takeWhile Char.isAlpha
  some (w.map Char.toLower, cs.drop w.length)

/-- One of the names, three letters of any case each; the answer is its index. -/
def threeLetters (names : List (List Char)) : Scan Nat := fun cs =>
  (names.findIdx? (· == (cs.take 3).map Char.toLower)).map fun i => (i, cs.drop 3)

end Scan

open Scan

/-- Distances from universal time are less than a day. -/
def minutesPerDay : Nat := 24 * 60

/-- A day and time, if both exist. -/
def existing (d : Day) (c : Clock) : Option (Day × Clock) :=
  if d.isValid && c.isValid then some (d, c) else none

/-! ## Internet timestamps -/

/-- Zulu time, or a sign, hours, a colon and minutes. -/
def internetZone : Scan Unit := do
  match ← get with
  | 'Z' :: cs => set cs
  | 'z' :: cs => set cs
  | _ => if minutesPerDay ≤ (← offset true true) then failure

/-- An internet timestamp. -/
def internet : Scan (Day × Clock) := do
  let y ← number 4 4
  literal '-'
  let m ← number 2 2
  literal '-'
  let d ← number 2 2
  literal 'T' <|> literal 't' <|> literal ' '
  let h ← number 2 2
  literal ':'
  let mi ← number 2 2
  literal ':'
  let s ← number 2 2
  let f ← fraction
  internetZone
  existing ⟨y, m, d⟩ ⟨h, mi, s, f⟩

/-! ## Mail headers -/

/-- The names of the days of the week. -/
def weekdayNames : List (List Char) :=
  [['m', 'o', 'n'], ['t', 'u', 'e'], ['w', 'e', 'd'], ['t', 'h', 'u'], ['f', 'r', 'i'],
    ['s', 'a', 't'], ['s', 'u', 'n']]

/-- The names of the months. -/
def monthNames : List (List Char) :=
  [['j', 'a', 'n'], ['f', 'e', 'b'], ['m', 'a', 'r'], ['a', 'p', 'r'], ['m', 'a', 'y'],
    ['j', 'u', 'n'], ['j', 'u', 'l'], ['a', 'u', 'g'], ['s', 'e', 'p'], ['o', 'c', 't'],
    ['n', 'o', 'v'], ['d', 'e', 'c']]

/-- The names of time zones of more than one letter. -/
def zoneNames : List (List Char) :=
  [['g', 'm', 't'], ['u', 't'], ['e', 's', 't'], ['e', 'd', 't'], ['c', 's', 't'], ['c', 'd', 't'],
    ['m', 's', 't'], ['m', 'd', 't'], ['p', 's', 't'], ['p', 'd', 't']]

/-- The name of a time zone, or a sign, hours and minutes. -/
def mailZone : Scan Unit := do
  match ← word with
  | [] => if minutesPerDay ≤ (← offset false false) then failure
  -- The letters are the military zones; J names none.
  | [c] => if c = 'j' then failure
  | name => if !zoneNames.contains name then failure

/-- The year that a row of digits denotes: years of two or three digits are those of this age. -/
def mailYear (ds : List Char) : Nat :=
  let y := decimalValue ds
  if ds.length = 2 then if y ≤ 49 then y + 2000 else y + 1900
  else if ds.length = 3 then y + 1900
  else y

/-- What follows a comment, of which so many brackets are open. -/
def commentEnd? (depth : Nat) : List Char → Option (List Char)
  | [] => none
  | '\\' :: [] => none
  | '\\' :: _ :: cs => commentEnd? depth cs
  | '(' :: cs => commentEnd? (depth + 1) cs
  | ')' :: cs => if depth = 1 then some cs else commentEnd? (depth - 1) cs
  | _ :: cs => commentEnd? depth cs

/-- A comment takes up characters, its closing bracket at least. -/
theorem commentEnd?_length {depth : Nat} {cs rest : List Char}
    (h : commentEnd? depth cs = some rest) : rest.length < cs.length := by
  fun_induction commentEnd? depth cs <;> simp_all <;> omega

/-- Whether a text consists of comments in brackets, with white space in front of each. -/
def isComments (cs : List Char) : Bool :=
  match _h : trimStart cs with
  | '(' :: inner =>
    match _hr : commentEnd? 1 inner with
    | some rest => isComments rest
    | none => false
  | _ => cs.isEmpty
termination_by cs.length
decreasing_by
  have h1 := commentEnd?_length _hr
  have h2 := (List.dropWhile_sublist isWhitespace (l := cs)).length_le
  rw [show List.dropWhile isWhitespace cs = '(' :: inner from _h, List.length_cons] at h2
  omega

/-- The name of a day of the week and a comma, if there is a name. -/
def mailWeekday : Scan (Option Nat) := fun cs =>
  match threeLetters weekdayNames cs with
  | some (i, rest) => (literal ',' rest).map fun r => (some i, r.2)
  | none => some (none, cs)

/-- A colon and a second, if there is a colon. -/
def mailSecond : Scan Nat := fun cs =>
  match trimStart cs with
  | ':' :: rest => number 2 2 rest
  | _ => some (0, cs)

/-- The day and time of a mail header. -/
def mail : Scan (Day × Clock) := do
  blanks
  let weekday ← mailWeekday
  blanks
  let d ← number 1 2
  blank
  let m ← threeLetters monthNames
  blank
  let y ← allDigits
  if y.length < 2 then failure
  blank
  let h ← number 2 2
  blanks
  literal ':'
  blanks
  let mi ← number 2 2
  let s ← mailSecond
  blank
  mailZone
  -- Comments behind the zone are taken away; anything else is left there and spoils the header.
  if isComments (← get) then set ([] : List Char)
  let day : Day := ⟨mailYear y, m + 1, d⟩
  -- A day of the week may be left out but has to be the right one.
  if weekday.any fun w => day.weekday != (w : Int) then failure
  existing day ⟨h, mi, s, false⟩

end Stencil.Moment
