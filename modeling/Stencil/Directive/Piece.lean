import Stencil.Directive.Basic

/-! # Cutting a template at its directives

A template is a row of `Piece`s: directives and single characters.  A directive is found whatever the
case of its letters and whatever white space stands inside its braces; one that marks the split section
takes the line break behind it along.

* `source_pieces`  nothing is lost: the sources of the pieces make up the template. -/

namespace Stencil

open Text

/-- Whether a character is a letter of a keyword in either case.  The long s and the sign for kelvin
count as forms of s and k. -/
def sameLetter (k c : Char) : Bool :=
  k.toLower = c.toLower || (k.toLower = 's' && c = 'ſ') || (k.toLower = 'k' && c = '\u212a')

/-- Whether a text starts with a keyword. -/
def startsWithKeyword : List Char → List Char → Bool
  | [], _ => true
  | _ :: _, [] => false
  | k :: ks, c :: cs => sameLetter k c && startsWithKeyword ks cs

/-- The number of characters of the white space in front of a text. -/
def blanksAhead (cs : List Char) : Nat := (cs.takeWhile isWhitespace).length

namespace Directive

/-- The number of characters that the directive takes up if the text starts with it. -/
def width? (d : Directive) : List Char → Option Nat
  | '\x7b' :: '\x7b' :: cs =>
    let before := blanksAhead cs
    let inner := cs.drop before
    if startsWithKeyword d.keyword.toList inner then
      let behind := inner.drop d.keyword.length
      let after := blanksAhead behind
      match behind.drop after with
      | '\x7d' :: '\x7d' :: rest =>
        -- Only the markers of the split section stand on lines that vanish with them.
        let lineBreak := if d.isSplit && rest.head? == some '\n' then 1 else 0
        some (4 + before + d.keyword.length + after + lineBreak)
      | _ => none
    else none
  | _ => none

/-- The directive that a text starts with, and the number of characters that it takes up. -/
def ahead? (cs : List Char) : Option (Directive × Nat) :=
  all.findSome? fun d => (d.width? cs).map fun n => (d, n)

end Directive

/-- A piece of a template. -/
inductive Piece where
  | char (c : Char)
  /-- A directive, as it is written. -/
  | directive (d : Directive) (source : List Char)
  deriving DecidableEq

namespace Piece

/-- The piece as it is written. -/
def source : Piece → List Char
  | .char c => [c]
  | .directive _ s => s

/-- Whether the piece is the directive. -/
def is (d : Directive) : Piece → Bool
  | .char _ => false
  | .directive e _ => d = e

end Piece

/-- The pieces of a template whose first characters, `skip` of them, belong to a directive that has been
read. -/
def piecesAfter (skip : Nat) : List Char → List Piece
  | [] => []
  | c :: cs =>
    match skip with
    | n + 1 => piecesAfter n cs
    | 0 =>
      match Directive.ahead? (c :: cs) with
      | some (d, n) => .directive d ((c :: cs).take n) :: piecesAfter (n - 1) cs
      | none => .char c :: piecesAfter 0 cs

/-- The pieces of a template. -/
def pieces (cs : List Char) : List Piece := piecesAfter 0 cs

/-- The template that pieces make up. -/
def sourceOf (ps : List Piece) : List Char := ps.flatMap Piece.source

/-- A directive takes up characters. -/
theorem Directive.width?_pos {d : Directive} {cs : List Char} {n : Nat} (h : d.width? cs = some n) :
    0 < n := by
  unfold Directive.width? at h
  -- There are two braces at least.
  split at h
  · dsimp only at h
    split at h
    · split at h
      · obtain rfl := Option.some.inj h
        omega
      · contradiction
    · contradiction
  · contradiction

/-- So does the directive that a text starts with. -/
theorem Directive.ahead?_pos {cs : List Char} {d : Directive} {n : Nat}
    (h : Directive.ahead? cs = some (d, n)) : 0 < n := by
  obtain ⟨e, -, he⟩ := List.exists_of_findSome?_eq_some h
  obtain ⟨m, hm, heq⟩ := Option.map_eq_some_iff.1 he
  obtain ⟨-, rfl⟩ := Prod.mk.inj heq
  exact Directive.width?_pos hm

/-- Skipped characters belong to no piece. -/
theorem piecesAfter_eq_drop (skip : Nat) (cs : List Char) :
    piecesAfter skip cs = pieces (cs.drop skip) := by
  induction cs generalizing skip with
  | nil => simp [pieces, piecesAfter]
  | cons c cs ih =>
    cases skip with
    | zero => rfl
    | succ n => rw [piecesAfter, ih, List.drop_succ_cons]

/-- A text is cut behind the directive that it starts with, or else behind its first character. -/
theorem pieces_cons (c : Char) (cs : List Char) :
    pieces (c :: cs) =
      match Directive.ahead? (c :: cs) with
      | some (d, n) => .directive d ((c :: cs).take n) :: pieces ((c :: cs).drop n)
      | none => .char c :: pieces cs := by
  rw [pieces, piecesAfter]
  split
  · next d n h =>
    -- The rest of the directive is what is skipped.
    have hn := Directive.ahead?_pos h
    obtain ⟨m, rfl⟩ := Nat.exists_eq_add_of_lt hn
    simp [piecesAfter_eq_drop]
  · rfl

/-- The pieces of a text make up the text. -/
theorem source_pieces (cs : List Char) : sourceOf (pieces cs) = cs := by
  -- A directive is cut off as a whole, so the induction is on the length.
  induction hn : cs.length using Nat.strongRecOn generalizing cs with
  | ind n ih =>
    cases cs with
    | nil => rfl
    | cons c cs =>
      rw [pieces_cons]
      split
      · next d k h =>
        have hk := Directive.ahead?_pos h
        have hlt : ((c :: cs).drop k).length < n := by
          rw [List.length_drop, ← hn, List.length_cons]
          omega
        have hrest := ih _ hlt ((c :: cs).drop k) rfl
        simp only [sourceOf, List.flatMap_cons, Piece.source] at hrest ⊢
        rw [hrest, List.take_append_drop]
      · have hlt : cs.length < n := by rw [← hn, List.length_cons]; omega
        have hrest := ih _ hlt cs rfl
        simp only [sourceOf, List.flatMap_cons, Piece.source] at hrest ⊢
        rw [hrest, List.singleton_append]

end Stencil
