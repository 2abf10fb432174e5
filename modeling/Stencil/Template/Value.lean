import Stencil.Json.Printer

/-! # Values of the template language

A value that is not there is `undefined`: it can be passed on and asked for, and nothing else.  What
cannot be done with a value is a `Failure`. -/

namespace Stencil.Template

/-! ## Failures -/

/-- Why a template cannot be rendered. -/
inductive Failure where
  /-- The template is not well formed. -/
  | malformed
  /-- A value that is not there is printed, looked into, tested or gone through. -/
  | undefinedValue
  | unknownFilter
  | unknownTest
  | unknownFunction
  | unknownMethod
  /-- An operation is applied to a kind of value that it is not meant for. -/
  | invalidOperation
  | missingArgument
  | tooManyArguments
  /-- There is no template of the name. -/
  | templateNotFound
  deriving DecidableEq, Repr

/-- The wording of a failure. -/
def Failure.message : Failure → String
  | .malformed => "syntax error"
  | .undefinedValue => "undefined value"
  | .unknownFilter => "unknown filter"
  | .unknownTest => "unknown test"
  | .unknownFunction => "unknown function"
  | .unknownMethod => "unknown method"
  | .invalidOperation => "invalid operation"
  | .missingArgument => "missing argument"
  | .tooManyArguments => "too many arguments"
  | .templateNotFound => "template not found"

/-! ## Values -/

/-- A value of the template language. -/
inductive Value where
  | undefined
  | none
  | bool (b : Bool)
  | int (n : Int)
  | text (s : String)
  | list (items : List Value)
  | record (fields : List (String × Value))
  deriving Inhabited

namespace Value

/-- The value under a name in a list of fields. -/
def field? (fields : List (String × Value)) (name : String) : Option Value :=
  (fields.find? (·.1 == name)).map (·.2)

/-! ## Printing -/

/-- The texts of a truth value. -/
def boolText (b : Bool) : String := if b then "True" else "False"

mutual

/-- A value as it is shown inside a list or record. -/
def shown : Value → String
  | .undefined => "undefined"
  | .none => "None"
  | .bool b => boolText b
  | .int n => toString n
  | .text s => Json.quoted s
  | .list vs => "[" ++ ", ".intercalate (shownItems vs) ++ "]"
  | .record fs => "\x7b" ++ ", ".intercalate (shownFields fs) ++ "\x7d"

/-- The items of a list as they are shown. -/
def shownItems : List Value → List String
  | [] => []
  | v :: vs => shown v :: shownItems vs

/-- The fields of a record as they are shown. -/
def shownFields : List (String × Value) → List String
  | [] => []
  | (k, v) :: fs => (Json.quoted k ++ ": " ++ shown v) :: shownFields fs

end

/-- A value as a text; an undefined value is empty. -/
def toText : Value → String
  | .undefined => ""
  | .text s => s
  | v => shown v

/-- The characters of a printed value. -/
def print : Value → Except Failure (List Char)
  | .undefined => .error .undefinedValue
  | v => .ok v.toText.toList

/-! ## Testing and comparing -/

/-- Whether a value counts as true. -/
def truth : Value → Except Failure Bool
  | .undefined => .error .undefinedValue
  | .none => .ok false
  | .bool b => .ok b
  | .int n => .ok (n != 0)
  | .text s => .ok (!s.isEmpty)
  | .list vs => .ok (!vs.isEmpty)
  | .record fs => .ok (!fs.isEmpty)

/-- The number that a value counts as. -/
def number? : Value → Option Int
  | .bool b => some (if b then 1 else 0)
  | .int n => some n
  | _ => Option.none

mutual

/-- Whether two values are equal.  Truth values are equal to the numbers that they count as. -/
def same : Value → Value → Bool
  | .undefined, .undefined | .none, .none => true
  | .text s, .text t => s == t
  | .list vs, .list ws => sameItems vs ws
  | .record fs, .record gs => fs.length == gs.length && sameFields fs gs
  | .bool a, w => (Value.bool a).number? == w.number?
  | .int n, w => some n == w.number?
  | _, _ => false

/-- Whether the items of two lists are equal. -/
def sameItems : List Value → List Value → Bool
  | [], [] => true
  | v :: vs, w :: ws => same v w && sameItems vs ws
  | _, _ => false

/-- Whether the fields are found, with equal values, in a record. -/
def sameFields : List (String × Value) → List (String × Value) → Bool
  | [], _ => true
  | (k, v) :: fs, gs =>
    (match field? gs k with
      | some w => same v w
      | Option.none => false) && sameFields fs gs

end

/-- The place of a value of no other order among the kinds of values. -/
def rank : Value → Nat
  | .undefined => 0
  | .none => 1
  | .bool _ => 2
  | .int _ => 3
  | .text _ => 4
  | .list _ => 5
  | .record _ => 6

/-- Whether a value comes before another.  Numbers and texts have their order; other values are ordered
by kind. -/
def before (v w : Value) : Bool :=
  match v.number?, w.number?, v, w with
  | some m, some n, _, _ => m < n
  | _, _, .text s, .text t => s < t
  | _, _, _, _ => v.rank < w.rank

/-! ## Looking into values -/

/-- A member; it is undefined if the value has none of the name. -/
def member (v : Value) (name : String) : Except Failure Value :=
  match v with
  | .undefined => .error .undefinedValue
  | .record fs => .ok ((field? fs name).getD .undefined)
  | _ => .ok .undefined

/-- The place that an index denotes among `n`; negative ones count from the end. -/
def place? (n : Nat) (index : Int) : Option Nat :=
  if 0 ≤ index then some index.toNat
  else if (-index).toNat ≤ n then some (n - (-index).toNat)
  else Option.none

/-- An item under a key or index; it is undefined if there is none. -/
def item (v key : Value) : Except Failure Value :=
  match v, key with
  | .undefined, _ => .error .undefinedValue
  | .record fs, .text name => .ok ((field? fs name).getD .undefined)
  | .list vs, .int i => .ok (((place? vs.length i).bind fun k => vs[k]?).getD .undefined)
  | .text s, .int i =>
    .ok (((place? s.length i).bind fun k => s.toList[k]?).elim .undefined
      fun c => .text (String.ofList [c]))
  | _, _ => .ok .undefined

/-- The values that a loop goes through. -/
def items : Value → Except Failure (List Value)
  | .undefined => .error .undefinedValue
  | .none => .ok []
  | .text s => .ok (s.toList.map fun c => .text (String.ofList [c]))
  | .list vs => .ok vs
  | .record fs => .ok (fs.map fun f => .text f.1)
  | _ => .error .invalidOperation

/-- Whether a value occurs in another. -/
def contains (v w : Value) : Except Failure Bool :=
  match v with
  | .undefined => .error .undefinedValue
  | .none => .ok false
  | .text s => .ok ((s.splitOn w.toText).length != 1 || w.toText.isEmpty)
  | .list vs => .ok (vs.any fun u => u.same w)
  | .record fs => .ok (fs.any fun f => f.1 == w.toText)
  | _ => .error .invalidOperation

/-! ## Operations -/

/-- The sum of numbers, and texts and lists one after the other. -/
def add (v w : Value) : Except Failure Value :=
  match v, w, v.number?, w.number? with
  | .text s, .text t, _, _ => .ok (.text (s ++ t))
  | .list vs, .list ws, _, _ => .ok (.list (vs ++ ws))
  | _, _, some m, some n => .ok (.int (m + n))
  | _, _, _, _ => .error .invalidOperation

/-- An operation on numbers. -/
def arithmetic (op : Int → Int → Option Int) (v w : Value) : Except Failure Value :=
  match v.number?, w.number? with
  | some m, some n =>
    match op m n with
    | some k => .ok (.int k)
    | Option.none => .error .invalidOperation
  | _, _ => .error .invalidOperation

/-- The number with the other sign. -/
def negate : Value → Except Failure Value
  | .int n => .ok (.int (-n))
  | _ => .error .invalidOperation

end Value
end Stencil.Template
