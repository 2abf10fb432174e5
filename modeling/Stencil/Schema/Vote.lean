import Stencil.Json.Numeral
import Stencil.Tag

/-! # Voting on the kind of an array

Each item of an array votes for a kind; a text votes for what it looks like, a nested array for the kind
of its own items.  A `Tally` counts the votes in order, and the largest count decides.

* `votes_eq_map`  each item votes for itself;
* `tally_append`  votes are counted from the first to the last. -/

namespace Stencil.Schema

/-- What an item of an array counts as. -/
inductive Vote where
  | object
  | bool
  | int
  | float
  | text
  /-- An item that no kind of array holds. -/
  | mixed
  deriving DecidableEq, Repr

/-! ## What texts look like -/

/-- The words that count as truth values. -/
def boolWords : List String :=
  ["1", "t", "T", "TRUE", "true", "True", "0", "f", "F", "FALSE", "false", "False"]

/-- Numbers from here on are rounded to infinity in 64-bit format. -/
def infinityBound : Nat := 1 <<< 1024 - 1 <<< 970

/-- The characters after a sign, if there is one. -/
def unsigned : List Char → List Char
  | '+' :: cs => cs
  | '-' :: cs => cs
  | cs => cs

/-- Whether the characters are an exponent part, or none. -/
def isExponentPart : List Char → Bool
  | [] => true
  | e :: cs =>
    let digits := unsigned cs
    (e = 'e' || e = 'E') && !digits.isEmpty && digits.all Char.isDigit

/-- Whether the characters, which have no sign, are a decimal number. -/
def isDecimal (cs : List Char) : Bool :=
  let whole := cs.takeWhile Char.isDigit
  match cs.dropWhile Char.isDigit with
  | '.' :: rest =>
    let fraction := rest.takeWhile Char.isDigit
    !(whole.isEmpty && fraction.isEmpty) && isExponentPart (rest.dropWhile Char.isDigit)
  | rest => !whole.isEmpty && isExponentPart rest

/-- The words for numbers that are not finite, in small letters. -/
def infiniteWords : List (List Char) :=
  [['i', 'n', 'f'], ['i', 'n', 'f', 'i', 'n', 'i', 't', 'y'], ['n', 'a', 'n']]

/-- What a text counts as. -/
def Vote.ofText (s : String) : Vote :=
  let cs := unsigned s.toList
  if !cs.isEmpty && cs.all Char.isDigit then
    -- What is rounded to infinity does not count as a whole number.
    if Text.decimalValue cs < infinityBound then .int else .float
  else if isDecimal cs || infiniteWords.contains (cs.map Char.toLower) then .float
  else if boolWords.contains s then .bool
  else .text

/-! ## Counting -/

/-- The votes counted so far. -/
structure Tally where
  bools : Nat := 0
  floats : Nat := 0
  ints : Nat := 0
  strings : Nat := 0
  objects : Nat := 0
  mixed : Nat := 0
  deriving DecidableEq, Repr

namespace Tally

/-- Count a vote.  A truth value discards the numbers counted before it, and a fraction the whole
numbers; a whole number counts for the widest of the kinds seen before it; a text fits in with nothing
else. -/
def add (t : Tally) : Vote → Tally
  | .object => { t with objects := t.objects + 1 }
  | .bool => { t with ints := 0, floats := 0, bools := t.bools + 1 }
  | .float => { t with ints := 0, floats := t.floats + 1 }
  | .int =>
    if 0 < t.bools then { t with bools := t.bools + 1 }
    else if 0 < t.floats then { t with floats := t.floats + 1 }
    else { t with ints := t.ints + 1 }
  | .text =>
    if 0 < t.ints || 0 < t.floats || 0 < t.bools || 0 < t.objects then
      { t with mixed := t.mixed + 1 }
    else { t with strings := t.strings + 1 }
  | .mixed => { t with mixed := t.mixed + 1 }

/-- The counts of the kinds, in the order in which ties are decided. -/
def ranked (t : Tally) : List (Nat × Tag) :=
  [(t.objects, .arrayObject), (t.bools, .arrayBool), (t.floats, .arrayFloat), (t.ints, .arrayInt),
    (t.strings, .arrayString)]

/-- The first of the entries with the largest count, among those that count anything. -/
def leader (best : Option (Nat × Tag)) : List (Nat × Tag) → Option (Nat × Tag)
  | [] => best
  | (n, tag) :: rest =>
    leader (if 0 < n && best.all (·.1 < n) then some (n, tag) else best) rest

/-- The kind of array that the votes decide on. -/
def winner (t : Tally) : Tag :=
  if 0 < t.mixed then .array else ((leader none t.ranked).map (·.2)).getD .array

end Tally

/-- Count votes in order. -/
def tally (votes : List Vote) : Tally := votes.foldl Tally.add {}

@[simp] theorem tally_nil : tally [] = {} := rfl

/-- Votes are counted on from where others have left off. -/
theorem tally_append (us vs : List Vote) : tally (us ++ vs) = vs.foldl Tally.add (tally us) := by
  simp [tally]

/-! ## Values -/

/-- What a nested array of a kind counts as. -/
def Vote.ofTag : Tag → Vote
  | .arrayObject => .object
  | .arrayBool => .bool
  | .arrayInt => .int
  | .arrayFloat => .float
  | .arrayString => .text
  | _ => .mixed

mutual

/-- What an item of an array counts as. -/
def vote : Json → Vote
  | .null => .mixed
  | .bool _ => .bool
  | .number n => if n.isWhole then .int else .float
  | .string s => .ofText s
  | .object _ => .object
  | .array vs => .ofTag (tally (votes vs)).winner

/-- What the items of an array count as. -/
def votes : List Json → List Vote
  | [] => []
  | v :: vs => vote v :: votes vs

end

/-- The kind of array that holds the items. -/
def kindOfItems (vs : List Json) : Tag := (tally (votes vs)).winner

/-- The tag of a value. -/
def kind : Json → Tag
  | .null => .null
  | .bool _ => .bool
  | .number n => if n.isWhole then .int else .float
  | .string _ => .string
  | .object _ => .object
  | .array vs => kindOfItems vs

/-- Each value has one vote. -/
theorem votes_eq_map (vs : List Json) : votes vs = vs.map vote := by
  induction vs with
  | nil => simp [votes]
  | cons v vs ih => simp [votes, ih]

end Stencil.Schema
