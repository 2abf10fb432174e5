import Stencil.Template.Expr

/-! # The block structure of a template

A template is a list of `Element`s; loops and branches hold elements of their own.  Segments are put
together one at a time, with a `Frame` for each block that is open.

* `Assembly.run_append`  putting together is a fold. -/

namespace Stencil.Template

/-- An element of a template. -/
inductive Element where
  | text (cs : List Char)
  | output (e : Expr)
  | set (name : String) (e : Expr)
  /-- Another template, unless it is missing and that does not matter. -/
  | include (e : Expr) (ignoreMissing : Bool)
  | branch (condition : Expr) (body otherwise : List Element)
  /-- A repetition for the items that meet a condition; `otherwise` stands in if there are none. -/
  | loop (name : String) (e : Expr) (condition : Option Expr) (body otherwise : List Element)

/-- A statement. -/
inductive Statement where
  | set (name : String) (e : Expr)
  | include (e : Expr) (ignoreMissing : Bool)
  | branch (condition : Expr)
  | elseBranch (condition : Expr)
  | otherwise
  | endBranch
  | loop (name : String) (e : Expr) (condition : Option Expr)
  | endLoop

namespace Statement

/-- The names that cannot be given to values. -/
def reserved : List String :=
  ["true", "True", "false", "False", "none", "None", "loop", "self"]

/-- Read what follows the name of a loop's items. -/
def loopAhead? (depth : Nat) (name : String) (ts : List Token) : Option Statement := do
  let (e, ts) ← Expr.ahead? depth ts
  let (condition, ts) ←
    match ts with
    | .word "if" :: ts => (Expr.ahead? depth ts).map fun r => (some r.1, r.2)
    | ts => some (none, ts)
  match ts with
  | [] | [.word "recursive"] => some (.loop name e condition)
  | _ => none

/-- Read what follows the word `include`. -/
def includeAhead? (depth : Nat) (ts : List Token) : Option Statement :=
  match Expr.ahead? depth ts with
  | some (e, []) => some (.include e false)
  | some (e, [.word "ignore", .word "missing"]) => some (.include e true)
  | _ => none

/-- The statement that tokens denote, inside so many others.  A further condition of a branch lies no
deeper than the branch. -/
def ofTokens? (depth : Nat) : List Token → Option Statement
  | .word "for" :: .word name :: .word "in" :: ts =>
    if reserved.contains name then none else loopAhead? depth name ts
  | [.word "endfor"] => some .endLoop
  | .word "if" :: ts => (Expr.ofTokens? depth ts).map .branch
  -- Here the branch itself is among the statements around.
  | .word "elif" :: ts => (Expr.ofTokens? (depth - 1) ts).map .elseBranch
  | [.word "else"] => some .otherwise
  | [.word "endif"] => some .endBranch
  | .word "set" :: .word name :: .symbol .assign :: ts =>
    if reserved.contains name then none else (Expr.ofTokens? depth ts).map (.set name)
  | .word "include" :: ts => includeAhead? depth ts
  | _ => none

end Statement

/-! ## Putting elements together -/

/-- A block that is open.  Elements are held last first; `before` are those in front of the block. -/
inductive Frame where
  | branch (condition : Expr) (before : List Element)
  /-- The second half of a branch; `chained` tells whether it began with another condition. -/
  | otherwise (condition : Expr) (body before : List Element) (chained : Bool)
  | loop (name : String) (e : Expr) (condition : Option Expr) (before : List Element)
  | loopOtherwise (name : String) (e : Expr) (condition : Option Expr) (body before : List Element)

/-- How far a template has been put together. -/
structure Assembly where
  /-- The open blocks, the innermost first. -/
  frames : List Frame
  /-- The elements of the innermost block, last first. -/
  elements : List Element

namespace Assembly

/-- No segments. -/
def empty : Assembly := ⟨[], []⟩

/-- The number of statements that are open.  Conditions after the first of a branch count for none. -/
def depth (a : Assembly) : Nat :=
  (a.frames.filter fun
    | .otherwise _ _ _ chained => !chained
    | _ => true).length

/-- Add an element. -/
def push (a : Assembly) (e : Element) : Assembly := { a with elements := e :: a.elements }

/-- Close branches that began with another condition, after the elements of the innermost one. -/
def closeChain (elements : List Element) : List Frame → Assembly
  | .otherwise c body before true :: frames =>
    closeChain (.branch c body.reverse elements.reverse :: before) frames
  | frames => ⟨frames, elements⟩

/-- Add a statement, unless it does not fit the blocks that are open. -/
def addStatement? (a : Assembly) : Statement → Option Assembly
  | .set name e => some (a.push (.set name e))
  | .include e ignoreMissing => some (a.push (.include e ignoreMissing))
  | .branch c => some ⟨.branch c a.elements :: a.frames, []⟩
  | .loop name e c => some ⟨.loop name e c a.elements :: a.frames, []⟩
  | .elseBranch c =>
    match a.frames with
    | .branch c₁ before :: frames =>
      some ⟨.branch c [] :: .otherwise c₁ a.elements before true :: frames, []⟩
    | _ => none
  | .otherwise =>
    match a.frames with
    | .branch c before :: frames => some ⟨.otherwise c a.elements before false :: frames, []⟩
    | .loop name e c before :: frames =>
      some ⟨.loopOtherwise name e c a.elements before :: frames, []⟩
    | _ => none
  | .endBranch =>
    match a.frames with
    | .branch c before :: frames =>
      some (closeChain (.branch c a.elements.reverse [] :: before) frames)
    | .otherwise c body before false :: frames =>
      some (closeChain (.branch c body.reverse a.elements.reverse :: before) frames)
    | _ => none
  | .endLoop =>
    match a.frames with
    | .loop name e c before :: frames =>
      some ⟨frames, .loop name e c a.elements.reverse [] :: before⟩
    | .loopOtherwise name e c body before :: frames =>
      some ⟨frames, .loop name e c body.reverse a.elements.reverse :: before⟩
    | _ => none

/-- Add a segment. -/
def add? (a : Assembly) : Segment → Option Assembly
  | .text cs => some (a.push (.text cs))
  | .output ts => (Expr.ofTokens? a.depth ts).map fun e => a.push (.output e)
  | .statement ts => (Statement.ofTokens? (a.depth + 1) ts).bind a.addStatement?

/-- Add segments. -/
def run? (a : Assembly) (segments : List Segment) : Option Assembly := segments.foldlM add? a

/-- The elements, unless a block is left open. -/
def finish? (a : Assembly) : Option (List Element) :=
  if a.frames.isEmpty then some a.elements.reverse else none

theorem run_append (a : Assembly) (xs ys : List Segment) :
    a.run? (xs ++ ys) = (a.run? xs).bind (·.run? ys) := by
  simp only [run?, List.foldlM_append]
  rfl

end Assembly

/-- The elements of a template, unless it is malformed. -/
def elements? (cs : List Char) : Option (List Element) :=
  (segments? cs).bind fun segments => (Assembly.empty.run? segments).bind Assembly.finish?

end Stencil.Template
