import Stencil.Text.Classes

/-! # Lengths of time

A length of time is written as an optional sign and one or more components, each a number and a unit:
`1h30m`, `-1.5s`.  A digit is a decimal digit of any script.

* `number?_length`, `unit?_length`  numbers and units take up at least one character. -/

namespace Stencil.Moment

open Text

/-- The units of time: nanosecond, microsecond (three spellings), millisecond, second, minute, hour. -/
def units : List (List Char) :=
  [['n', 's'], ['u', 's'], ['µ', 's'], ['μ', 's'], ['m', 's'], ['s'], ['m'], ['h']]

/-- What follows a number in front of a text.  A number is a row of digits that may go on with a point
and more digits, or a point and a row of digits. -/
def number? (cs : List Char) : Option (List Char) :=
  match cs.takeWhile isDecimalDigit, cs.dropWhile isDecimalDigit with
  | [], '.' :: rest =>
    if (rest.takeWhile isDecimalDigit).isEmpty then none
    else some (rest.dropWhile isDecimalDigit)
  | [], _ => none
  | _ :: _, '.' :: rest => some (rest.dropWhile isDecimalDigit)
  | _ :: _, rest => some rest

/-- What follows a unit in front of a text. -/
def unit? (cs : List Char) : Option (List Char) :=
  (units.find? fun u => u.isPrefixOf cs).map fun u => cs.drop u.length

/-- Dropping characters makes a text no longer. -/
theorem length_dropWhile_le (p : Char → Bool) (cs : List Char) :
    (cs.dropWhile p).length ≤ cs.length :=
  (List.dropWhile_sublist p).length_le

/-- A number takes up characters. -/
theorem number?_length {cs rest : List Char} (h : number? cs = some rest) :
    rest.length < cs.length := by
  have hcs := congrArg List.length (List.takeWhile_append_dropWhile (p := isDecimalDigit) (l := cs))
  rw [List.length_append] at hcs
  unfold number? at h
  -- It has digits in front of the point, or behind it.
  split at h
  · next r _ hd =>
    split at h
    · contradiction
    · obtain rfl := Option.some.inj h
      have := length_dropWhile_le isDecimalDigit r
      rw [hd, List.length_cons] at hcs
      omega
  · contradiction
  · next r ht hd =>
    obtain rfl := Option.some.inj h
    have := length_dropWhile_le isDecimalDigit r
    rw [hd, List.length_cons] at hcs
    omega
  · next ht _ =>
    obtain rfl := Option.some.inj h
    rw [ht, List.length_cons] at hcs
    omega

/-- A unit takes up characters. -/
theorem unit?_length {cs rest : List Char} (h : unit? cs = some rest) :
    rest.length < cs.length := by
  obtain ⟨u, hu, rfl⟩ := Option.map_eq_some_iff.1 h
  have hmem := List.mem_of_find?_eq_some hu
  have hpos : ∀ v ∈ units, 0 < v.length := by decide
  have hprefix : u.isPrefixOf cs = true := by
    simpa using List.find?_some hu
  have hle := (List.isPrefixOf_iff_prefix.1 hprefix).length_le
  have := hpos u hmem
  rw [List.length_drop]
  omega

/-- What follows a number with its unit in front of a text. -/
def component? (cs : List Char) : Option (List Char) := (number? cs).bind unit?

/-- So does a number with its unit, which is why reading them ends. -/
theorem component?_length {cs rest : List Char} (h : component? cs = some rest) :
    rest.length < cs.length := by
  obtain ⟨mid, hn, hu⟩ := Option.bind_eq_some_iff.1 h
  exact Nat.lt_trans (unit?_length hu) (number?_length hn)

/-- Whether a text is made of components, at least one. -/
def isComponents (cs : List Char) : Bool :=
  match _h : component? cs with
  | none => false
  | some rest => rest.isEmpty || isComponents rest
termination_by cs.length
decreasing_by exact component?_length _h

/-- Whether a text denotes a length of time. -/
def isDuration (s : String) : Bool :=
  match s.toList with
  | '+' :: cs => isComponents cs
  | '-' :: cs => isComponents cs
  | cs => isComponents cs

end Stencil.Moment
