import Stencil.Directive.Expansion

/-!
# Counting directives

A template is balanced iff each block is opened as often as it is closed and no marker of the split
section is repeated: where directives stand matters only to the wording of an imbalance.

## Key results

- `imbalance?_eq_none_iff`: balance in terms of how often directives stand in a template
- `compile_eq_ok_iff`: the templates that compile, and to what
-/

namespace Stencil

/-- The directive that a piece is. -/
def Piece.directive? : Piece → Option Directive
  | .char _ => none
  | .directive d _ => some d

/-- The directives of a row of pieces, in order. -/
def directivesOf (ps : List Piece) : List Directive := ps.filterMap Piece.directive?

@[simp] theorem directivesOf_append (ps qs : List Piece) :
    directivesOf (ps ++ qs) = directivesOf ps ++ directivesOf qs := List.filterMap_append

@[simp] theorem directivesOf_map_char (cs : List Char) : directivesOf (cs.map .char) = [] := by
  simp [directivesOf, Piece.directive?]

@[simp] theorem directivesOf_char (c : Char) (ps : List Piece) :
    directivesOf (.char c :: ps) = directivesOf ps := rfl

@[simp] theorem directivesOf_directive (d : Directive) (m : List Char) (ps : List Piece) :
    directivesOf (.directive d m :: ps) = d :: directivesOf ps := rfl

/-- Counting directives in order is counting pieces. -/
theorem count_directivesOf (d : Directive) (ps : List Piece) :
    (directivesOf ps).count d = ps.countP (Piece.is d) := by
  induction ps with
  | nil => rfl
  | cons p ps ih =>
    cases p with
    | char c => rw [directivesOf_char, ih]; rfl
    | directive e m =>
      rw [directivesOf_directive, List.count_cons, ih, List.countP_cons]
      by_cases hde : d = e
      · simp [Piece.is, hde]
      · simp [Piece.is, hde, Ne.symm hde]

/-- No directive is counted among characters. -/
theorem countP_chars (d : Directive) (cs : List Char) :
    (cs.map Piece.char).countP (Piece.is d) = 0 := by
  rw [List.countP_map]
  exact List.countP_eq_zero.2 fun c _ => Bool.false_ne_true

/-- How often a directive is found in a template. -/
def directiveCount (d : Directive) (cs : List Char) : Nat := (pieces cs).countP (Piece.is d)

/-- The check for balance looks at every block. -/
theorem Block.mem_all (b : Block) : b ∈ Block.all := by
  cases b <;> decide

/-- Each piece that is the directive has an offset, wherever counting starts. -/
private theorem length_offsetsFrom (d : Directive) (start : Nat) (ps : List Piece) :
    (offsetsFrom d start ps).length = ps.countP (Piece.is d) := by
  induction ps generalizing start with
  | nil => rfl
  | cons p ps ih =>
    rw [offsetsFrom, List.countP_cons]
    split <;> simp [*]

/-- A directive has as many offsets as it is found in the template. -/
theorem length_offsets (d : Directive) (cs : List Char) :
    (offsets d cs).length = directiveCount d cs :=
  length_offsetsFrom d 0 (pieces cs)

/-- A block is in balance iff it is opened as often as closed. -/
theorem blockImbalance?_eq_none_iff (cs : List Char) (b : Block) :
    blockImbalance? cs b = none ↔
      directiveCount (.opening b) cs = directiveCount (.closing b) cs := by
  rw [← length_offsets, ← length_offsets, blockImbalance?]
  -- More openings than closings, fewer of them, or as many.
  split
  · simp; omega
  · split
    · simp; omega
    · simp; omega

/-- A directive is repeated iff it is found twice or more: the second offset is the one reported. -/
theorem repetition?_eq_none_iff (cs : List Char) (d : Directive) :
    repetition? cs d = none ↔ directiveCount d cs ≤ 1 := by
  rw [repetition?, Option.map_eq_none_iff, List.getElem?_eq_none_iff, length_offsets]

/-- A template is balanced iff each block is opened as often as closed, and the split section at
most once. -/
theorem imbalance?_eq_none_iff (cs : List Char) :
    imbalance? cs = none ↔
      (∀ b, directiveCount (.opening b) cs = directiveCount (.closing b) cs) ∧
        directiveCount (.opening .split) cs ≤ 1 := by
  have hblocks : Block.all.findSome? (blockImbalance? cs) = none ↔
      ∀ b, directiveCount (.opening b) cs = directiveCount (.closing b) cs := by
    rw [List.findSome?_eq_none_iff]
    exact ⟨fun h b => (blockImbalance?_eq_none_iff cs b).1 (h b b.mem_all),
      fun h b _ => (blockImbalance?_eq_none_iff cs b).2 (h b)⟩
  rw [imbalance?, Option.orElse_eq_orElse, Option.orElse_eq_or, Option.or_eq_none_iff, hblocks]
  refine and_congr_right fun h => ?_
  -- Both markers are checked for repetition, but by the balance of the section one of them is
  -- enough.
  rw [List.findSome?_eq_none_iff, List.forall_mem_cons, List.forall_mem_singleton,
    repetition?_eq_none_iff, repetition?_eq_none_iff, ← h .split, and_self]

/-- A template compiles iff it is balanced, and then to its expansion. -/
theorem compile_eq_ok_iff {cs e : List Char} :
    compile cs = .ok e ↔ imbalance? cs = none ∧ e = expand cs := by
  rw [compile, checkBalance]
  cases imbalance? cs with
  | none => exact ⟨fun h => ⟨rfl, (Except.ok.inj h).symm⟩, fun h => h.2 ▸ rfl⟩
  | some i =>
    constructor
    · intro h; cases h
    · intro h; cases h.1

/-- Whether a template compiles, and to what, can be read off its pieces. -/
theorem compile_of_pieces {cs : List Char} {ps : List Piece} (hps : pieces cs = ps)
    (hcount : ∀ b ∈ Block.all,
      (directivesOf ps).count (.opening b) = (directivesOf ps).count (.closing b))
    (hone : (directivesOf ps).count (.opening .split) ≤ 1) {e : List Char}
    (he : ps.flatMap expandPiece = e) : compile cs = .ok e := by
  -- The counts are taken among directives, the criterion for balance among pieces.
  subst hps he
  simp only [count_directivesOf] at hcount hone
  exact compile_eq_ok_iff.2
    ⟨(imbalance?_eq_none_iff cs).2 ⟨fun b => hcount b b.mem_all, hone⟩, rfl⟩

end Stencil
