import Stencil.Directive.Balance

/-! # From directives to the template engine

`expand` puts the engine's tags in place of directives and leaves everything else alone, the markers of
the split section included.  `splitSection?` cuts out what stands between the markers, `dropMarkers`
takes the markers away. -/

namespace Stencil

/-- A piece with the engine's tag in place of its directive. -/
def expandPiece : Piece → List Char
  | .char c => [c]
  | .directive d source =>
    match d.expansion? with
    | some e => e.toList
    -- The markers of the split section stay until the section has been cut out.
    | none => source

/-- A template with the engine's tags in place of directives. -/
def expand (cs : List Char) : List Char := (pieces cs).flatMap expandPiece

/-- A template with a text in place of each occurrence of a directive. -/
def replaceDirective (d : Directive) (text : List Char) (cs : List Char) : List Char :=
  (pieces cs).flatMap fun p => if p.is d then text else p.source

/-- A balanced template with the engine's tags in place of directives. -/
def compile (cs : List Char) : Except Imbalance (List Char) := do
  checkBalance cs
  return expand cs

/-- The pieces between the first opening marker of the split section and the next closing one. -/
def splitPieces? (ps : List Piece) : Option (List Piece) :=
  match ps.dropWhile fun p => !p.is (.opening .split) with
  | [] => none
  | _ :: inner =>
    if inner.any (·.is (.closing .split)) then some (inner.takeWhile fun p => !p.is (.closing .split))
    else none

/-- The split section of a template. -/
def splitSection? (cs : List Char) : Option (List Char) := (splitPieces? (pieces cs)).map sourceOf

/-- A template without the markers of the split section: first the opening ones are taken away, then the
closing ones of what is left. -/
def dropMarkers (cs : List Char) : List Char :=
  replaceDirective (.closing .split) [] (replaceDirective (.opening .split) [] cs)

end Stencil
