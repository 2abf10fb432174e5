import Stencil.Directive.Piece
import Stencil.Text.Utf8

/-! # Balance of directives

A template is balanced if each block is closed as often as it is opened and at most one split section is
opened and closed.  `balance` reports the first `Imbalance` of a template that is not.

* `checkBalance_eq_ok_iff`  the check succeeds on exactly the templates without an imbalance. -/

namespace Stencil

open Text (utf8Size)

/-- How a template fails to be balanced.  The offset counts the bytes of UTF-8 in front of a directive. -/
inductive Imbalance where
  /-- A block is opened more often than closed; the offset is that of the last opening. -/
  | unclosed (block : Block) (offset : Nat)
  /-- A block is closed more often than opened; the offset is that of the last closing. -/
  | unopened (block : Block) (offset : Nat)
  /-- A marker of the split section is repeated; the offset is that of the second. -/
  | repeated (marker : Directive) (offset : Nat)
  deriving DecidableEq, Repr

namespace Imbalance

/-- The directive that is too many. -/
def directive : Imbalance → Directive
  | .unclosed block _ => .opening block
  | .unopened block _ => .closing block
  | .repeated marker _ => marker

/-- Where that directive stands. -/
def offset : Imbalance → Nat
  | .unclosed _ n | .unopened _ n | .repeated _ n => n

/-- What the template is short of. -/
def need : Imbalance → String
  | .unclosed block _ => "need close '" ++ (Directive.closing block).spelling ++ "'"
  | .unopened block _ => "need open '" ++ (Directive.opening block).spelling ++ "'"
  | .repeated marker _ => "have only one '" ++ marker.spelling ++ "'"

/-- The wording of an imbalance. -/
def message (i : Imbalance) : String :=
  "Syntax error: " ++ i.need ++ " at offset " ++ toString i.offset

end Imbalance

/-- The offsets of a directive, where the pieces start at an offset. -/
def offsetsFrom (d : Directive) (start : Nat) : List Piece → List Nat
  | [] => []
  | p :: ps =>
    let rest := offsetsFrom d (start + utf8Size p.source) ps
    if p.is d then start :: rest else rest

/-- The offsets of a directive in a template, in order. -/
def offsets (d : Directive) (cs : List Char) : List Nat := offsetsFrom d 0 (pieces cs)

/-- The imbalance of a block. -/
def blockImbalance? (cs : List Char) (block : Block) : Option Imbalance :=
  let opened := offsets (.opening block) cs
  let closed := offsets (.closing block) cs
  if closed.length < opened.length then some (.unclosed block (opened.getLast?.getD 0))
  else if opened.length < closed.length then some (.unopened block (closed.getLast?.getD 0))
  else none

/-- The repetition of a marker of the split section. -/
def repetition? (cs : List Char) (marker : Directive) : Option Imbalance :=
  ((offsets marker cs)[1]?).map (.repeated marker)

/-- The first imbalance of a template. -/
def imbalance? (cs : List Char) : Option Imbalance :=
  Block.all.findSome? (blockImbalance? cs) <|>
    -- Repetitions count only once every block is balanced.
    [Directive.opening .split, .closing .split].findSome? (repetition? cs)

/-- Succeeds if the template is balanced. -/
def checkBalance (cs : List Char) : Except Imbalance Unit :=
  match imbalance? cs with
  | some i => .error i
  | none => .ok ()

/-- The check succeeds iff there is no imbalance. -/
theorem checkBalance_eq_ok_iff (cs : List Char) : checkBalance cs = .ok () ↔ imbalance? cs = none := by
  unfold checkBalance
  split <;> simp [*]

end Stencil
