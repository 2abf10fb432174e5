import Stencil.Naming
import Stencil.Template.Value

/-! # Filters, tests and functions of the template language

A filter makes a value of a value, a test says whether a value has a property, and a function makes a
value of its arguments.

* `applyFilter_style`  the filters named for styles put texts into them. -/

namespace Stencil.Template

open Text

/-- The arguments of a filter, test or function. -/
structure Arguments where
  positional : List Value
  named : List (String × Value)

namespace Arguments

/-- Succeeds if there are at most so many arguments, and none with a name. -/
def atMost (args : Arguments) (n : Nat) : Except Failure Unit :=
  if args.positional.length ≤ n && args.named.isEmpty then .ok () else .error .tooManyArguments

end Arguments

/-- The text of an argument. -/
def textArgument : Option Value → Except Failure String
  | none => .error .missingArgument
  | some .undefined => .error .undefinedValue
  | some v => .ok v.toText

/-- The text of an argument that may be missing. -/
def optionalText (default : String) : Option Value → Except Failure String
  | none | some .none => .ok default
  | some v => textArgument (some v)

/-! ## Changing texts -/

/-- A text with the first letter of each word a capital and the others small; punctuation and white
space separate words. -/
def titleFrom (opensWord : Bool) : List Char → List Char
  | [] => []
  | c :: cs =>
    if isWhitespace c || (c.toNat < 128 && 0x20 < c.toNat && c.toNat ≠ 127 && !c.isAlphanum) then
      c :: titleFrom true cs
    else (if opensWord then upper c else lower c) ++ titleFrom false cs

/-- A text with each occurrence of a pattern that is not empty replaced; `skip` characters of it belong
to an occurrence. -/
def replaceFrom (pattern replacement : List Char) (skip : Nat) : List Char → List Char
  | [] => []
  | c :: cs =>
    match skip with
    | n + 1 => replaceFrom pattern replacement n cs
    | 0 =>
      if pattern.isPrefixOf (c :: cs) then
        replacement ++ replaceFrom pattern replacement (pattern.length - 1) cs
      else c :: replaceFrom pattern replacement 0 cs

/-- A text with each occurrence of a pattern replaced.  An empty pattern occurs around every
character. -/
def replaceAll (pattern replacement cs : List Char) : List Char :=
  if pattern.isEmpty then replacement ++ cs.flatMap fun c => c :: replacement
  else replaceFrom pattern replacement 0 cs

/-- Texts with a separator in front of each that does not follow an empty text. -/
def joined (separator : String) (vs : List Value) : String :=
  vs.foldl (fun s v => (if s.isEmpty then s else s ++ separator) ++ v.toText) ""

/-! ## Filters -/

/-- The style that a filter applies. -/
def styleOf? (filter : String) : Option Naming.Style :=
  Naming.Style.all.find? (·.filterName == filter)

/-- The number of characters, items or fields. -/
def lengthOf : Value → Except Failure Nat
  | .text s => .ok s.length
  | .list vs => .ok vs.length
  | .record fs => .ok fs.length
  | _ => .error .invalidOperation

/-- The members of the items of a value under a path of names with dots in between. -/
def mapMember (path : String) (v : Value) : Except Failure Value := do
  let vs ← v.items
  let names := (path.splitOn ".")
  return .list (← vs.mapM fun v => names.foldlM Value.member v)

/-- Change the characters of a text. -/
def mapText (f : List Char → List Char) (v : Value) : Except Failure Value := do
  let s ← textArgument (some v)
  return .text (String.ofList (f s.toList))

/-- Apply a filter. -/
def applyFilter (name : String) (v : Value) (args : Arguments) : Except Failure Value :=
  match styleOf? name with
  | some style => do
    args.atMost 0
    match v with
    | .text s => .ok (.text (style.convert s))
    | .undefined => .error .undefinedValue
    | _ => .error .invalidOperation
  | none =>
    match name with
    | "upper" => do args.atMost 0; mapText upperText v
    | "lower" => do args.atMost 0; mapText lowerText v
    | "title" => do args.atMost 0; mapText (titleFrom true) v
    | "trim" => do
      args.atMost 1
      match (args.positional[0]? : Option Value) with
      | none | some .none => mapText (fun cs => trimEnd (trimStart cs)) v
      | some chars => do
        let strip := (← textArgument (some chars)).toList
        mapText (fun cs =>
          ((cs.dropWhile strip.contains).reverse.dropWhile strip.contains).reverse) v
    | "replace" => do
      args.atMost 2
      let s ← textArgument (some v)
      let pattern ← textArgument args.positional[0]?
      let replacement ← textArgument args.positional[1]?
      return .text (String.ofList (replaceAll pattern.toList replacement.toList s.toList))
    | "length" | "count" => do
      args.atMost 0
      return .int (← lengthOf v)
    | "join" => do
      args.atMost 1
      let separator ← optionalText "" args.positional[0]?
      match v with
      | .undefined | .none => return .text ""
      | _ => return .text (joined separator (← v.items))
    | "default" | "d" => do
      args.atMost 2
      let other := (args.positional[0]?).getD (.text "")
      match v, args.positional[1]? with
      | .undefined, _ => return other
      -- The second argument asks for the other value in place of all that count as false.
      | v, some (.bool true) => return if ← v.truth then v else other
      | v, _ => return v
    | "map" =>
      match Value.field? args.named "attribute" with
      | some path => do mapMember (← textArgument (some path)) v
      | none => .error .invalidOperation
    | _ => .error .unknownFilter

/-- The filter of a style converts a text to the style. -/
theorem applyFilter_style (style : Naming.Style) (s : String) :
    applyFilter style.filterName (.text s) ⟨[], []⟩ = .ok (.text (style.convert s)) := by
  cases style <;> rfl

/-! ## Tests -/

/-- Apply a test. -/
def applyTest (name : String) (v : Value) (args : Arguments) : Except Failure Bool :=
  let plain (b : Bool) : Except Failure Bool := do
    args.atMost 0
    return b
  match name, v with
  | "defined", .undefined => plain false
  | "defined", _ => plain true
  | "undefined", .undefined => plain true
  | "undefined", _ => plain false
  | "none", .none => plain true
  | "none", _ => plain false
  | "string", .text _ => plain true
  | "string", _ => plain false
  | "number", .int _ => plain true
  | "number", _ => plain false
  | "boolean", .bool _ => plain true
  | "boolean", _ => plain false
  | "sequence", .list _ => plain true
  | "sequence", _ => plain false
  | "mapping", .record _ => plain true
  | "mapping", _ => plain false
  | _, _ => .error .unknownTest

/-! ## Functions -/

/-- No more numbers than this are counted. -/
def maxCount : Nat := 100000

/-- The numbers from one up or down to another, which is left out. -/
def counted (start stop step : Int) : Except Failure Value :=
  if step = 0 then .error .invalidOperation
  else
    let n := if 0 < step then ((stop - start + step - 1).fdiv step).toNat
      else ((start - stop - step - 1).fdiv (-step)).toNat
    if maxCount < n then .error .invalidOperation
    else .ok (.list ((List.range n).map fun (i : Nat) => .int (start + step * i)))

/-- Apply a function. -/
def applyFunction (name : String) (args : Arguments) : Except Failure Value :=
  if name = "range" then
    match args.positional with
    | [] => .error .missingArgument
    | [.int stop] => counted 0 stop 1
    | [.int start, .int stop] => counted start stop 1
    | [.int start, .int stop, .int step] => counted start stop step
    | [_, _, _, _] => .error .tooManyArguments
    | _ => .error .invalidOperation
  else .error .unknownFunction

end Stencil.Template
