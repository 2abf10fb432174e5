import Stencil.Moment.Duration
import Stencil.Moment.Zoned
import Stencil.Tag

/-! # Texts that denote moments

`refine?` gives the tag of a text that denotes a length of time, a day, a time of day, or both.  A day
with the first instant as its time counts as a day.

* `refine?_of_isDuration`  a text that is a duration is nothing else. -/

namespace Stencil.Moment

open Scan

/-- A day alone. -/
def dayAlone? (cs : List Char) : Option Day := (whole? day cs).filter Day.isValid

/-- A day and a time; `separator` reads what stands in between, `clock` the time. -/
def dayAndTime? (separator : Scan Unit) (clock : Scan Clock) (cs : List Char) :
    Option (Day × Clock) := do
  let (d, c) ← whole? (do
    let d ← day
    separator
    return (d, ← clock)) cs
  existing d c

/-- A day and a time of day. -/
def moment? (cs : List Char) : Option (Day × Clock) :=
  whole? internet cs <|> whole? mail cs <|>
  dayAndTime? (literal 'T') hourMinuteSecond cs <|> dayAndTime? blanks hourMinuteSecond cs <|>
  dayAndTime? (literal 'T') hourMinute cs <|> dayAndTime? blanks hourMinute cs

/-- A time of day alone. -/
def timeAlone? (cs : List Char) : Option Clock :=
  (whole? hourMinuteSecond cs).filter Clock.isValid <|>
  (whole? hourMinute cs).filter Clock.isValid

/-- The tag that refines a text. -/
def refine? (s : String) : Option Tag :=
  let cs := s.toList
  -- A length of time is looked for first: it has a unit, which nothing else has.
  if isDuration s then some .duration
  else if (dayAlone? cs).isSome then some .date
  else
    match moment? cs with
    | some (_, c) => some (if c = .midnight then .date else .dateTime)
    | none => if (timeAlone? cs).isSome then some .time else none

/-- A length of time is looked for first. -/
theorem refine?_of_isDuration {s : String} (h : isDuration s = true) :
    refine? s = some .duration := by
  simp [refine?, h]

end Stencil.Moment
