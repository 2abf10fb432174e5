import Stencil.Template.Element
import Stencil.Template.Filter

/-! # Rendering templates

A `Scope` holds the values that names have.  A loop opens a scope of its own, which lasts for all its
rounds; a branch opens none.

* `runAll_nil`, `run_text`  text is copied. -/

namespace Stencil.Template

/-- The values that names have: a list for each open loop, the innermost first, then that of the
template. -/
abbrev Scope := List (List (String × Value))

namespace Scope

/-- The value of a name. -/
def get? (scope : Scope) (name : String) : Option Value := scope.findSome? (Value.field? · name)

/-- Give a name a value in the innermost list. -/
def set (scope : Scope) (name : String) (v : Value) : Scope :=
  match scope with
  | [] => [[(name, v)]]
  | top :: rest => ((name, v) :: top) :: rest

end Scope

/-! ## Expressions -/

/-- Apply an operator that needs both operands. -/
def applyBinary (op : Binary) (v w : Value) : Except Failure Value :=
  match op with
  | .equal => .ok (.bool (v.same w))
  | .notEqual => .ok (.bool !(v.same w))
  | .less => .ok (.bool (v.before w))
  | .lessEqual => .ok (.bool (v.before w || v.same w))
  | .greater => .ok (.bool (w.before v))
  | .greaterEqual => .ok (.bool (w.before v || v.same w))
  | .isIn => do return .bool (← w.contains v)
  | .add => v.add w
  | .subtract => Value.arithmetic (fun m n => some (m - n)) v w
  | .join => .ok (.text (v.toText ++ w.toText))
  | .multiply => Value.arithmetic (fun m n => some (m * n)) v w
  | .floorDivide => Value.arithmetic (fun m n => if n = 0 then none else some (m / n)) v w
  | .modulo => Value.arithmetic (fun m n => if n = 0 then none else some (m % n)) v w
  | .or | .and => .ok w

/-- Call the value of a variable or a function. -/
def callName (scope : Scope) (name : String) (args : Arguments) : Except Failure Value :=
  match scope.get? name with
  | some _ => .error .invalidOperation
  | none => applyFunction name args

/-- Call a member of a value. -/
def callMember (v : Value) (name : String) : Except Failure Value :=
  match v with
  | .record fs =>
    if (Value.field? fs name).isSome then .error .invalidOperation else .error .unknownMethod
  | _ => .error .unknownMethod

mutual

/-- The value of an expression. -/
def eval (scope : Scope) : Expr → Except Failure Value
  | .none => .ok .none
  | .bool b => .ok (.bool b)
  | .int n => .ok (.int n)
  | .text s => .ok (.text s)
  | .list es => do return .list (← evalAll scope es)
  | .variable name => .ok ((scope.get? name).getD .undefined)
  | .member e name => do (← eval scope e).member name
  | .item e key => do
    let v ← eval scope e
    v.item (← eval scope key)
  | .call (.variable name) args named => do
    let args ← evalAll scope args
    callName scope name ⟨args, ← evalNamed scope named⟩
  | .call (.member e name) args named => do
    let v ← eval scope e
    let _ ← evalAll scope args
    let _ ← evalNamed scope named
    callMember v name
  | .call e args named => do
    let _ ← eval scope e
    let _ ← evalAll scope args
    let _ ← evalNamed scope named
    .error .invalidOperation
  | .filter e name args named => do
    let v ← eval scope e
    let args ← evalAll scope args
    applyFilter name v ⟨args, ← evalNamed scope named⟩
  | .test e name args named => do
    let v ← eval scope e
    let args ← evalAll scope args
    return .bool (← applyTest name v ⟨args, ← evalNamed scope named⟩)
  | .negate e => do (← eval scope e).negate
  | .not e => do return .bool !(← (← eval scope e).truth)
  | .binary .or e f => do
    let v ← eval scope e
    if ← v.truth then return v else eval scope f
  | .binary .and e f => do
    let v ← eval scope e
    if ← v.truth then eval scope f else return v
  | .binary op e f => do
    let v ← eval scope e
    applyBinary op v (← eval scope f)

/-- The values of expressions, in order. -/
def evalAll (scope : Scope) : List Expr → Except Failure (List Value)
  | [] => .ok []
  | e :: es => do
    let v ← eval scope e
    return v :: (← evalAll scope es)

/-- The values of named expressions, in order. -/
def evalNamed (scope : Scope) : List (String × Expr) → Except Failure (List (String × Value))
  | [] => .ok []
  | (name, e) :: es => do
    let v ← eval scope e
    return (name, v) :: (← evalNamed scope es)

end

/-! ## Elements -/

/-- What a rendered element leaves behind: the scope and the text. -/
abbrev Rendering := Except Failure (Scope × List Char)

/-- What a loop tells about its round, the `index`th of `count`. -/
def loopRecord (index count : Nat) : Value :=
  .record [("index", .int (index + 1)), ("index0", .int index),
    ("revindex", .int (count - index)), ("revindex0", .int (count - index - 1)),
    ("first", .bool (index == 0)), ("last", .bool (index + 1 == count)),
    ("length", .int count)]

/-- Render a body for each of the values, from the `index`th on. -/
def forEach (body : Scope → Rendering) (name : String) (count index : Nat) (scope : Scope) :
    List Value → Rendering
  | [] => .ok (scope, [])
  | v :: vs => do
    let (scope, out) ← body ((scope.set "loop" (loopRecord index count)).set name v)
    let (scope, rest) ← forEach body name count (index + 1) scope vs
    return (scope, out ++ rest)

/-- The values that meet a condition. -/
def meeting (scope : Scope) (name : String) (condition : Option Expr) (vs : List Value) :
    Except Failure (List Value) :=
  match condition with
  | none => .ok vs
  | some c => vs.filterM fun v => do (← eval (Scope.set ([] :: scope) name v) c).truth

mutual

/-- Render an element. -/
def run (scope : Scope) : Element → Rendering
  | .text cs => .ok (scope, cs)
  | .output e => do
    let v ← eval scope e
    return (scope, ← v.print)
  | .set name e => do return (scope.set name (← eval scope e), [])
  | .include e ignoreMissing => do
    let _ ← eval scope e
    if ignoreMissing then return (scope, []) else .error .templateNotFound
  | .branch c body otherwise => do
    if ← (← eval scope c).truth then runAll scope body else runAll scope otherwise
  | .loop name e c body otherwise => do
    let vs ← (← eval scope e).items
    let vs ← meeting scope name c vs
    if vs.isEmpty then runAll scope otherwise
    else
      -- What is set inside the loop is gone behind it.
      let (_, out) ← forEach (fun scope => runAll scope body) name vs.length 0 ([] :: scope) vs
      return (scope, out)

/-- Render elements one after the other. -/
def runAll (scope : Scope) : List Element → Rendering
  | [] => .ok (scope, [])
  | e :: es => do
    let (scope, out) ← run scope e
    let (scope, rest) ← runAll scope es
    return (scope, out ++ rest)

end

@[simp] theorem run_text (scope : Scope) (cs : List Char) : run scope (.text cs) = .ok (scope, cs) := by
  simp [run]

@[simp] theorem runAll_nil (scope : Scope) : runAll scope [] = .ok (scope, []) := by
  simp [runAll]

/-- Render a template with values for names. -/
def render (values : List (String × Value)) (source : List Char) : Except Failure (List Char) :=
  match elements? source with
  | none => .error .malformed
  | some elements => (runAll [values] elements).map (·.2)

end Stencil.Template
