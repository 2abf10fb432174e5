import Stencil.Proofs.Directive.SplitSection
import Stencil.Proofs.Lists

/-!
# The section of an expansion

Expanding leaves the markers of the split section where they are and makes up no others. No
directive stands across a marker, so a text that has been cut out between two of them is cut into
the pieces that it had before. Hence it does not matter whether a template is expanded before its
section is cut out or afterwards, be the template balanced or not.

## Key results

- `splitPieces?_eq_some_iff`: the pieces between the markers
- `splitSection?_eq_some_iff`: the section in terms of the text, where markers may stand anywhere
- `splitSection?_expandOnly`: expanding some directives and cutting the section out, in either order
- `section_of_expansion`: the same for all directives, at once or in passes
-/

namespace Stencil

/-! ## Rows of pieces -/

/-- Whether a directive is among the pieces. -/
def occursAmong (d : Directive) (ps : List Piece) : Bool := ps.any (Piece.is d)

/-- A directive is among the pieces of a text iff it occurs in the text. -/
theorem occursAmong_pieces_iff {d : Directive} {cs : List Char} :
    occursAmong d (pieces cs) = true ↔ d.OccursIn cs := by
  rw [Directive.occursIn_iff_directiveCount_pos, directiveCount, List.countP_pos_iff, occursAmong,
    List.any_eq_true]

theorem occursAmong_pieces_eq_false_iff {d : Directive} {cs : List Char} :
    occursAmong d (pieces cs) = false ↔ ¬d.OccursIn cs := by
  rw [← occursAmong_pieces_iff, Bool.not_eq_true]

/-- A directive that is among the pieces stands somewhere for the first time. -/
theorem exists_first {d : Directive} {ps : List Piece} (h : occursAmong d ps = true) :
    ∃ front m back, ps = front ++ .directive d m :: back ∧ occursAmong d front = false := by
  induction ps with
  | nil => cases h
  | cons p ps ih =>
    -- It is the piece in front, or it is found behind that.
    cases hp : p.is d with
    | true =>
      cases p with
      | char c => cases hp
      | directive e m =>
        obtain rfl := of_decide_eq_true hp
        exact ⟨[], m, ps, rfl, rfl⟩
    | false =>
      rw [occursAmong, List.any_cons, hp, Bool.false_or] at h
      obtain ⟨front, m, back, rfl, hfront⟩ := ih h
      refine ⟨p :: front, m, back, rfl, ?_⟩
      rw [occursAmong, List.any_cons, hp, Bool.false_or]
      exact hfront

/-- Cutting in front of the first place where the directive is. -/
theorem span_first {d : Directive} {front : List Piece} (hfront : occursAmong d front = false)
    (m : List Char) (back : List Piece) :
    (front ++ .directive d m :: back).takeWhile (fun p => !p.is d) = front ∧
      (front ++ .directive d m :: back).dropWhile (fun p => !p.is d) = .directive d m :: back := by
  refine List.span_append_of_stop (fun p hp => ?_) fun p hp => ?_
  · rw [Bool.not_eq_true', ← Bool.not_eq_true]
    exact List.any_eq_false.1 hfront p hp
  · obtain rfl := Option.some.inj hp
    simp [Piece.is]

/-- Without an opening marker there is no section. -/
theorem splitPieces?_of_absent {ps : List Piece} (h : occursAmong (.opening .split) ps = false) :
    splitPieces? ps = none := by
  have hall : ∀ p ∈ ps, (!p.is (.opening .split)) = true := by
    intro p hp
    simpa using List.any_eq_false.1 h p hp
  rw [← List.append_nil ps, splitPieces?, List.dropWhile_append_of_pos hall, List.dropWhile_nil]

/-- Only the first opening marker counts. -/
theorem splitPieces?_append {front : List Piece}
    (hfront : occursAmong (.opening .split) front = false) (m : List Char) (rest : List Piece) :
    splitPieces? (front ++ .directive (.opening .split) m :: rest) =
      if occursAmong (.closing .split) rest then
        some (rest.takeWhile fun p => !p.is (.closing .split))
      else none := by
  rw [splitPieces?, (span_first hfront m rest).2]
  rfl

/-- The pieces of the section stand between the first opening marker and the next closing one. -/
theorem splitPieces?_eq_some_iff {ps inner : List Piece} :
    splitPieces? ps = some inner ↔
      ∃ front m₁ m₂ back,
        ps = front ++ .directive (.opening .split) m₁ ::
          (inner ++ .directive (.closing .split) m₂ :: back) ∧
        occursAmong (.opening .split) front = false ∧
        occursAmong (.closing .split) inner = false := by
  constructor
  · intro h
    cases hopening : occursAmong (.opening .split) ps with
    | false =>
      rw [splitPieces?_of_absent hopening] at h
      cases h
    | true =>
      obtain ⟨front, m₁, rest, rfl, hfront⟩ := exists_first hopening
      rw [splitPieces?_append hfront] at h
      -- Behind the first opening marker there is a closing one, or there is no section.
      split at h
      · next hclosing =>
        obtain ⟨inner', m₂, back, rfl, hinner⟩ := exists_first hclosing
        rw [(span_first hinner m₂ back).1] at h
        obtain rfl := Option.some.inj h
        exact ⟨front, m₁, m₂, back, rfl, hfront, hinner⟩
      · cases h
  · rintro ⟨front, m₁, m₂, back, rfl, hfront, hinner⟩
    have hclosing : occursAmong (.closing .split)
        (inner ++ .directive (.closing .split) m₂ :: back) = true := by
      simp [occursAmong, Piece.is]
    rw [splitPieces?_append hfront, if_pos hclosing, (span_first hinner m₂ back).1]

/-! ## The section in a text -/

/-- The section of a text stands between two markers. There is no opening marker in front of them,
and no closing one between them. -/
def HasSection (cs s : List Char) : Prop :=
  ∃ before m₁ m₂ behind, cs = before ++ (m₁ ++ (s ++ (m₂ ++ behind))) ∧
    (Directive.opening .split).StandsIn m₁ (s ++ (m₂ ++ behind)) ∧
    (Directive.closing .split).StandsIn m₂ behind ∧
    ¬(Directive.opening .split).OccursIn before ∧ ¬(Directive.closing .split).OccursIn s

/-- Cutting finds the section of a text. -/
theorem splitSection?_eq_some_iff {cs s : List Char} :
    splitSection? cs = some s ↔ HasSection cs s := by
  constructor
  · intro h
    obtain ⟨inner, hinner, rfl⟩ := Option.map_eq_some_iff.1 h
    obtain ⟨front, m₁, m₂, back, hps, hopening, hclosing⟩ := splitPieces?_eq_some_iff.1 hinner
    have hcut := isCut_pieces cs
    rw [hps] at hcut
    -- The pieces are a cut, so what is behind a marker is cut off on its own.
    have hrest := hcut.of_append.tail
    refine ⟨sourceOf front, m₁, m₂, sourceOf back, ?_, ?_, hrest.of_append.standsIn, ?_, ?_⟩
    · have hsource := source_pieces cs
      rw [hps] at hsource
      simpa [Piece.source] using hsource.symm
    · simpa [Piece.source] using hcut.of_append.standsIn
    · rwa [← occursAmong_pieces_eq_false_iff, hcut.front.pieces_eq]
    · rwa [← occursAmong_pieces_eq_false_iff, hrest.front.pieces_eq]
  · rintro ⟨before, m₁, m₂, behind, rfl, hstands₁, hstands₂, hbefore, hs⟩
    -- The text is cut apart in front of both markers.
    refine Option.map_eq_some_iff.2 ⟨pieces s, splitPieces?_eq_some_iff.2 ?_, source_pieces s⟩
    refine ⟨pieces before, m₁, m₂, pieces behind, ?_, occursAmong_pieces_eq_false_iff.2 hbefore,
      occursAmong_pieces_eq_false_iff.2 hs⟩
    rw [pieces_append before (hstands₁.startsMark _), hstands₁.pieces_eq,
      pieces_append s (hstands₂.startsMark _), hstands₂.pieces_eq]

/-! ## Expanding and cutting out -/

section Expanding

variable {which : Directive → Bool} (hwhich : ∀ d, which d = true → d.isSplit = false)
  {d : Directive} (hd : d.isSplit = true)

include hwhich hd in
/-- Markers are not expanded. -/
theorem which_eq_false : which d = false := by
  rw [← Bool.not_eq_true]
  intro h
  rw [hwhich d h] at hd
  cases hd

include hwhich hd in
/-- Expanding makes up no markers and takes none away. -/
theorem occursAmong_expandOnly (ps : List Piece) :
    occursAmong d (ps.flatMap (Piece.expandOnly which)) = occursAmong d ps := by
  rw [occursAmong, List.any_flatMap, occursAmong]
  congr 1
  funext p
  cases p with
  | char c => rfl
  | directive e m =>
    rw [Piece.expandOnly]
    split
    · next he =>
      -- What is expanded is no marker, and a tag holds none.
      have hne : d ≠ e := by
        rintro rfl
        rw [which_eq_false hwhich hd] at he
        cases he
      rw [Piece.is, decide_eq_false hne, List.any_map, List.any_eq_false]
      exact fun c _ => Bool.false_ne_true
    · simp

include hwhich hd in
/-- Expanding goes past a marker. -/
theorem flatMap_expandOnly_marker (m : List Char) (front back : List Piece) :
    (front ++ .directive d m :: back).flatMap (Piece.expandOnly which) =
      front.flatMap (Piece.expandOnly which) ++
        .directive d m :: back.flatMap (Piece.expandOnly which) := by
  rw [List.flatMap_append, flatMap_expandOnly_directive, which_eq_false hwhich hd,
    if_neg Bool.false_ne_true]

include hwhich in
/-- The pieces of the section are expanded where they stand. -/
theorem splitPieces?_expandOnly (ps : List Piece) :
    splitPieces? (ps.flatMap (Piece.expandOnly which)) =
      (splitPieces? ps).map (·.flatMap (Piece.expandOnly which)) := by
  cases hopening : occursAmong (.opening .split) ps with
  | false =>
    rw [splitPieces?_of_absent hopening, splitPieces?_of_absent]
    · rfl
    · rw [occursAmong_expandOnly hwhich rfl, hopening]
  | true =>
    -- The first opening marker is the first one after expanding, too.
    obtain ⟨front, m₁, rest, rfl, hfront⟩ := exists_first hopening
    have hfront' := occursAmong_expandOnly hwhich (d := .opening .split) rfl front
    rw [flatMap_expandOnly_marker hwhich rfl, splitPieces?_append (hfront'.trans hfront),
      splitPieces?_append hfront, occursAmong_expandOnly hwhich rfl]
    split
    · next hclosing =>
      obtain ⟨inner, m₂, back, rfl, hinner⟩ := exists_first hclosing
      have hinner' := occursAmong_expandOnly hwhich (d := .closing .split) rfl inner
      rw [flatMap_expandOnly_marker hwhich rfl, (span_first (hinner'.trans hinner) m₂ _).1,
        (span_first hinner m₂ back).1]
      rfl
    · rfl

include hwhich in
/-- Expanding some directives, but no markers, before the section is cut out or afterwards. -/
theorem splitSection?_expandOnly (cs : List Char) :
    splitSection? (sourceOf ((pieces cs).flatMap (Piece.expandOnly which))) =
      (splitSection? cs).map fun s => sourceOf ((pieces s).flatMap (Piece.expandOnly which)) := by
  rw [splitSection?, splitSection?, pieces_sourceOf_expandOnly cs hwhich,
    splitPieces?_expandOnly hwhich, Option.map_map, Option.map_map]
  refine Option.map_congr fun inner hinner => ?_
  -- The section is cut into the pieces that it had in the whole text.
  obtain ⟨front, m₁, m₂, back, hps, -, -⟩ := splitPieces?_eq_some_iff.1 hinner
  have hcut := isCut_pieces cs
  rw [hps] at hcut
  rw [Function.comp_apply, Function.comp_apply, hcut.of_append.tail.front.pieces_eq]

end Expanding

/-- The section of an expansion is the expansion of the section, and there is none if there was
none, be all directives expanded at once or some of them in passes. A section is what stands between
the first opening marker and the next closing one; a compiled template keeps its expansion for the
files of single classes. -/
theorem section_of_expansion (cs : List Char) :
    splitSection? (expand cs) = (splitSection? cs).map expand ∧
      (∀ rules, splitSection? (expandInTurn rules cs) =
        (splitSection? cs).map (expandInTurn rules)) ∧
      (∀ s, splitSection? cs = some s ↔ HasSection cs s) ∧
      ∀ name r, Renderer.compile name (String.ofList cs) = .ok r →
        r.perClass = (splitSection? cs).map expand := by
  have hexpands : ∀ d : Directive, d.expands = true → d.isSplit = false := by
    simp [Directive.expands]
  have hexpand : splitSection? (expand cs) = (splitSection? cs).map expand := by
    simpa only [← expand_eq] using splitSection?_expandOnly hexpands cs
  refine ⟨hexpand, fun rules => ?_, fun s => splitSection?_eq_some_iff, fun name r hr => ?_⟩
  · have hinTurn : ∀ cs, expandInTurn rules cs = sourceOf ((pieces cs).flatMap
        (Piece.expandOnly fun d => d.expands && decide (d ∈ rules))) := by
      intro cs
      rw [← pieces_expandInTurn, source_pieces]
    -- The passes are for directives that stand for a tag, and markers stand for none.
    have hrules : ∀ d : Directive, (d.expands && decide (d ∈ rules)) = true →
        d.isSplit = false := by
      intro d hd
      rw [Bool.and_eq_true] at hd
      exact hexpands d hd.1
    simpa only [← hinTurn] using splitSection?_expandOnly hrules cs
  · obtain ⟨e, he, rfl⟩ := Renderer.compile_eq_ok_iff.1 hr
    rw [String.toList_ofList] at he
    obtain ⟨-, rfl⟩ := compile_eq_ok_iff.1 he
    exact hexpand

/-- A section between braces that are no part of a marker. -/
theorem section_of_expansion_braces :
    let t := "\x7b\x7b\x7b\x7bSPLIT\x7d\x7d\nName\x7d\x7d" ++
      " \x7b\x7b name \x7d\x7d\x7b\x7b/SPLIT\x7d\x7d"
    ∃ r, Renderer.compile "main" t = .ok r ∧
      r.perClass = some "Name\x7d\x7d \x7b\x7b node.name \x7d\x7d".toList := by
  intro t
  -- The first two braces are cut off as characters, since no keyword follows them.
  have hpieces : pieces t.toList = [.char '\x7b', .char '\x7b',
      .directive (.opening .split) "\x7b\x7bSPLIT\x7d\x7d\n".toList] ++
      "Name\x7d\x7d ".toList.map .char ++
      [.directive (.name none) "\x7b\x7b name \x7d\x7d".toList,
        .directive (.closing .split) "\x7b\x7b/SPLIT\x7d\x7d".toList] := by
    decide +kernel
  have hexpand : Stencil.compile t.toList = .ok _ :=
    compile_of_pieces hpieces (by decide) (by decide) rfl
  have hcompile : Renderer.compile "main" t = .ok _ :=
    Renderer.compile_eq_ok_iff.2 ⟨_, hexpand, rfl⟩
  obtain ⟨-, -, -, hperClass⟩ := section_of_expansion t.toList
  rw [String.ofList_toList] at hperClass
  refine ⟨_, hcompile, ?_⟩
  rw [hperClass "main" _ hcompile]
  decide +kernel

end Stencil
