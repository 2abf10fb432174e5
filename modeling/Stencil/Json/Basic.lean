import Stencil.Binary64

/-! # JSON values

Objects keep their members in the order of the text.  Two values are the `same` when they agree up to
the order of object members; a number written without fraction or exponent differs from the same
number written with one.

* `Members.get?_insert_self`, `Members.get?_insert_of_ne`  inserting a member makes it the one that is
  found under its key and changes nothing under other keys. -/

namespace Stencil

/-- A number of a JSON text. -/
inductive Number where
  /-- Written without fraction or exponent, and in the range of 64-bit integers. -/
  | whole (n : Int)
  /-- Any other number. -/
  | real (x : Binary64)
  deriving DecidableEq

namespace Number

/-- Equality of numbers: both whole, or both real and numerically equal. -/
def same : Number → Number → Bool
  | .whole m, .whole n => m == n
  | .real x, .real y => x.same y
  | _, _ => false

/-- Whether the number has no fractional part. -/
def isWhole : Number → Bool
  | .whole _ => true
  | .real x => x.isWhole

end Number

/-- A JSON value. -/
inductive Json where
  | null
  | bool (b : Bool)
  | number (n : Number)
  | string (s : String)
  | array (items : List Json)
  | object (members : List (String × Json))

namespace Json

/-- The members of an object. -/
abbrev Members := List (String × Json)

instance : Inhabited Json := ⟨.null⟩

/-- Whether the value is null. -/
def isNull : Json → Bool
  | .null => true
  | _ => false

/-- Whether the value is an array. -/
def isArray : Json → Bool
  | .array _ => true
  | _ => false

namespace Members

/-- The value under a key. -/
def get? : Members → String → Option Json
  | [], _ => none
  | (k, v) :: rest, key => if k = key then some v else get? rest key

/-- Put a value under a key: in place if the key is there, else at the end. -/
def insert (key : String) (value : Json) : Members → Members
  | [] => [(key, value)]
  | (k, v) :: rest => if k = key then (k, value) :: rest else (k, v) :: insert key value rest

/-- The keys, in order. -/
def keys (ms : Members) : List String := ms.map (·.1)

@[simp] theorem get?_nil (key : String) : get? [] key = none := rfl

/-- The first member is found if it has the key, and else the search goes on. -/
theorem get?_cons (k : String) (v : Json) (rest : Members) (key : String) :
    get? ((k, v) :: rest) key = if k = key then some v else get? rest key := rfl

/-- What has been inserted is found under its key. -/
@[simp] theorem get?_insert_self (key : String) (value : Json) (ms : Members) :
    get? (insert key value ms) key = some value := by
  induction ms with
  | nil => simp [insert, get?]
  | cons m rest ih =>
    simp only [insert]
    split
    · next h => simp [get?, h]
    · next h => simp [get?, h, ih]

/-- Under other keys nothing changes. -/
theorem get?_insert_of_ne {key other : String} (h : key ≠ other) (value : Json) (ms : Members) :
    get? (insert key value ms) other = get? ms other := by
  induction ms with
  | nil => simp [insert, get?, h]
  | cons m rest ih =>
    simp only [insert]
    split
    · next hk => simp [get?, hk, h]
    · next hk => simp [get?, ih]

end Members

/-! ## Equality up to the order of members -/

mutual

/-- Equality of values, up to the order of object members. -/
def same : Json → Json → Bool
  | .null, .null => true
  | .bool a, .bool b => a == b
  | .number a, .number b => a.same b
  | .string a, .string b => a == b
  | .array a, .array b => sameItems a b
  | .object a, .object b => a.length == b.length && sameMembers a b
  | _, _ => false

/-- Equality of arrays, item by item. -/
def sameItems : List Json → List Json → Bool
  | [], [] => true
  | a :: as, b :: bs => same a b && sameItems as bs
  | _, _ => false

/-- Whether each of the members is found, with the same value, in an object. -/
def sameMembers : List (String × Json) → Members → Bool
  | [], _ => true
  | (k, v) :: rest, b =>
    (match Members.get? b k with
      | some w => same v w
      | none => false) && sameMembers rest b

end

/-- Whether a value occurs in a list. -/
def occursIn (v : Json) (vs : List Json) : Bool := vs.any fun w => w.same v

end Json
end Stencil
