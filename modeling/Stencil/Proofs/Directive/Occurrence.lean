import Stencil.Proofs.Directive.Counting
import Stencil.Proofs.Directive.Spelling

/-!
# Where directives occur

A directive occurs in a text where one of its spellings stands. Braces open a spelling and stand
nowhere else in it, so occurrences have no part in common with each other, nor with a tag of the
template engine. Hence a text has exactly one cut, and a text can be cut in front of a mark.

## Key results

- `Directive.prefix_of_startsMark`: a directive that starts in front of a mark ends in front of it
- `isCut_iff`: the cut of a text, said without the reader
- `pieces_append`: texts are cut apart in front of a mark
- `Directive.occursIn_iff`: cutting finds the directives that occur in a text
-/

namespace Stencil

/-- A text that starts as a directive or a tag of the template engine does. -/
def StartsMark (cs : List Char) : Prop :=
  ∃ c rest, (c = '\x7b' ∨ c = '%') ∧ cs = '\x7b' :: c :: rest

namespace Directive

/-- One of the spellings of the directive stands in the text. -/
def OccursIn (d : Directive) (cs : List Char) : Prop := ∃ w : Spelling d, w.source <:+: cs

/-- What occurs in a part of a text occurs in the text. -/
theorem OccursIn.mono {d : Directive} {xs ys : List Char} (h : d.OccursIn xs) (hxs : xs <:+: ys) :
    d.OccursIn ys :=
  h.imp fun _ hw => hw.trans hxs

/-- A directive starts with two braces, which is a mark. -/
theorem startsMark_spelling {d : Directive} (w : Spelling d) (rest : List Char) :
    StartsMark (w.source ++ rest) :=
  ⟨_, _, .inl rfl, rfl⟩

/-- A directive that starts in front of a mark ends in front of it. -/
theorem prefix_of_startsMark {d : Directive} (w : Spelling d) {xs ys : List Char} (hxs : xs ≠ [])
    (hys : StartsMark ys) (h : w.source <+: xs ++ ys) : w.source <+: xs := by
  -- Both the directive and the text in front of the mark start the same text.
  rcases List.prefix_or_prefix_of_prefix h (List.prefix_append xs ys) with hshort | hlong
  · exact hshort
  obtain ⟨c, rest, hc, rfl⟩ := hys
  obtain ⟨zs, hzs⟩ := hlong
  rw [← hzs, List.prefix_append_right_inj] at h
  cases zs with
  | nil =>
    rw [List.append_nil] at hzs
    exact hzs ▸ List.prefix_rfl
  | cons z zs =>
    obtain ⟨rfl, htail⟩ := List.cons_prefix_cons.1 h
    -- The mark would start inside of the directive.
    exfalso
    match xs, hxs with
    | [x], _ =>
      have hinside : zs = w.inside := (List.cons.inj (List.cons.inj hzs).2).2
      obtain ⟨more, hmore⟩ := htail
      cases hw : w.inside with
      | nil => simp [Spelling.inside] at hw
      | cons i inside =>
        rw [hinside, hw] at hmore
        obtain rfl := (List.cons.inj hmore).1
        exact w.not_mem_inside hc (hw ▸ List.mem_cons_self)
    | x :: y :: xs, _ =>
      have hinside : xs ++ '\x7b' :: zs = w.inside := (List.cons.inj (List.cons.inj hzs).2).2
      exact w.not_mem_inside (.inl rfl) (hinside ▸ List.mem_append_right _ List.mem_cons_self)

/-- No directive starts at a text iff none of their spellings does. -/
theorem ahead?_eq_none_iff {cs : List Char} :
    ahead? cs = none ↔ ∀ (d : Directive) (w : Spelling d), ¬w.source <+: cs := by
  constructor
  · rintro h d w ⟨rest, rfl⟩
    rw [ahead?_spelling] at h
    cases h
  · intro h
    -- A directive that had a width would be spelled at this place.
    refine List.findSome?_eq_none_iff.2 fun d _ => ?_
    rw [Option.map_eq_none_iff]
    cases hw : d.width? cs with
    | none => rfl
    | some n =>
      obtain ⟨w, rest, hrest⟩ := exists_spelling_of_width? hw
      exact absurd ⟨rest, hrest⟩ (h d w)

end Directive

/-- Whether a directive takes a line break along depends only on what stands behind it first. -/
theorem Directive.lineBreak_append {d : Directive} {l xs ys : List Char}
    (hl : d.lineBreak (l ++ xs) = l) (h : ys.head? = some '\n' → xs.head? = some '\n') :
    d.lineBreak (l ++ ys) = l := by
  unfold lineBreak at hl ⊢
  -- A line break that is taken along is the whole of `l`, whatever stands behind it.
  by_cases hlong : (d.isSplit && (l ++ xs).head? == some '\n') = true
  · rw [if_pos hlong] at hl
    rw [← hl] at hlong ⊢
    exact if_pos hlong
  · rw [if_neg hlong] at hl
    rw [← hl] at hlong ⊢
    refine if_neg fun hys => hlong ?_
    rw [Bool.and_eq_true, beq_iff_eq] at hys ⊢
    exact ⟨hys.1, h hys.2⟩

/-! ## The cut of a text -/

/-- A spelling is a piece together with the line break that it takes along. -/
theorem pieces_spelling_append {d : Directive} (w : Spelling d) {l : List Char} (rest : List Char)
    (hl : d.lineBreak (l ++ rest) = l) :
    pieces (w.source ++ l ++ rest) = .directive d (w.source ++ l) :: pieces rest := by
  have hahead := Directive.ahead?_spelling w (l ++ rest)
  rw [hl, ← List.append_assoc] at hahead
  have hcons : w.source ++ l ++ rest = '\x7b' :: ('\x7b' :: w.inside ++ l ++ rest) := rfl
  rw [hcons] at hahead ⊢
  rw [pieces_cons, hahead, ← hcons]
  dsimp only
  rw [List.take_left, List.drop_left]

/-- A spelling is cut off with the line break that belongs to it. -/
theorem exists_pieces_spelling {d : Directive} (w : Spelling d) (ys : List Char) :
    ∃ l zs, l ++ zs = ys ∧ d.lineBreak (l ++ zs) = l ∧
      pieces (w.source ++ ys) = .directive d (w.source ++ l) :: pieces zs := by
  obtain ⟨zs, hzs⟩ := d.lineBreak_prefix ys
  have hl : d.lineBreak (d.lineBreak ys ++ zs) = d.lineBreak ys := by rw [hzs]
  refine ⟨d.lineBreak ys, zs, hzs, hl, ?_⟩
  rw [← pieces_spelling_append w zs hl, List.append_assoc, hzs]

/-- Pieces that a text is cut into: a character is a piece of its own if no directive starts with
it, and a directive takes along the line break that belongs to it. -/
inductive IsCut : List Piece → Prop
  | nil : IsCut []
  | char {c : Char} {ps : List Piece}
    (h : ∀ (d : Directive) (w : Spelling d), ¬w.source <+: c :: sourceOf ps) (rest : IsCut ps) :
    IsCut (.char c :: ps)
  | directive {d : Directive} (w : Spelling d) {l : List Char} {ps : List Piece}
    (hl : d.lineBreak (l ++ sourceOf ps) = l) (rest : IsCut ps) :
    IsCut (.directive d (w.source ++ l) :: ps)

@[simp] theorem sourceOf_nil : sourceOf [] = [] := rfl

@[simp] theorem sourceOf_cons (p : Piece) (ps : List Piece) :
    sourceOf (p :: ps) = p.source ++ sourceOf ps := rfl

@[simp] theorem sourceOf_append (ps qs : List Piece) :
    sourceOf (ps ++ qs) = sourceOf ps ++ sourceOf qs := List.flatMap_append

/-- The text that is cut into characters is the text of these characters. -/
@[simp] theorem sourceOf_map_char (cs : List Char) : sourceOf (cs.map .char) = cs := by
  rw [sourceOf, List.flatMap_map]
  exact List.flatMap_singleton' cs

/-- Pieces that are a cut are the one that cutting gives. -/
theorem IsCut.pieces_eq {ps : List Piece} (h : IsCut ps) : pieces (sourceOf ps) = ps := by
  induction h with
  | nil => rfl
  | @char c ps h rest ih =>
    change pieces (c :: sourceOf ps) = _
    rw [pieces_cons, Directive.ahead?_eq_none_iff.2 h, ih]
  | @directive d w l ps hl rest ih =>
    change pieces (w.source ++ l ++ sourceOf ps) = _
    rw [pieces_spelling_append w _ hl, ih]

/-- Cutting gives a cut. -/
theorem isCut_pieces (cs : List Char) : IsCut (pieces cs) := by
  -- A directive is cut off as a whole, so the induction is on the length of the text.
  induction hn : cs.length using Nat.strongRecOn generalizing cs with
  | ind n ih =>
    cases cs with
    | nil => exact .nil
    | cons c cs =>
      -- No directive starts here, or one of its spellings does.
      by_cases h : ∀ (d : Directive) (w : Spelling d), ¬w.source <+: c :: cs
      · rw [pieces_cons, Directive.ahead?_eq_none_iff.2 h]
        refine .char ?_ (ih _ (by rw [← hn, List.length_cons]; omega) cs rfl)
        rwa [source_pieces]
      · simp only [Classical.not_forall, Classical.not_not] at h
        obtain ⟨d, w, rest, hrest⟩ := h
        obtain ⟨l, behind, rfl, hl, hcut⟩ := exists_pieces_spelling w rest
        have hlength : behind.length < n := by
          have := congrArg List.length hrest
          rw [List.length_append, List.length_append, w.length_source] at this
          omega
        rw [← hrest, hcut]
        exact .directive w (by rwa [source_pieces]) (ih _ hlength behind rfl)

/-- Pieces are the cut of the text that they make up iff each character stands for itself and each
directive is a spelling with the line break that belongs to it. -/
theorem isCut_iff {ps : List Piece} : IsCut ps ↔ pieces (sourceOf ps) = ps :=
  ⟨IsCut.pieces_eq, fun h => h ▸ isCut_pieces _⟩

/-- Texts are cut apart in front of a mark. -/
theorem pieces_append (xs : List Char) {ys : List Char} (hys : StartsMark ys) :
    pieces (xs ++ ys) = pieces xs ++ pieces ys := by
  -- Both cuts together are a cut of the whole text, and there is only one.
  have hcut : IsCut (pieces xs ++ pieces ys) := by
    have hxs := isCut_pieces xs
    generalize pieces xs = ps at hxs
    induction hxs with
    | nil => exact isCut_pieces ys
    | @char c ps h rest ih =>
      -- A directive that starts in front of the mark ends there, so it would have started without
      -- the mark.
      refine .char (fun d w hw => h d w ?_) ih
      change w.source <+: c :: sourceOf (ps ++ pieces ys) at hw
      rw [sourceOf_append, source_pieces, ← List.cons_append] at hw
      exact d.prefix_of_startsMark w (List.cons_ne_nil _ _) hys hw
    | @directive d w l ps hl rest ih =>
      obtain ⟨c, more, -, rfl⟩ := hys
      refine .directive w (Directive.lineBreak_append hl fun hhead => ?_) ih
      change (sourceOf (ps ++ pieces _)).head? = _ at hhead
      rw [sourceOf_append, source_pieces, List.head?_append] at hhead
      -- The mark itself is no line break.
      cases hps : (sourceOf ps).head? with
      | none => rw [hps] at hhead; simp at hhead
      | some c => rwa [hps] at hhead
  rw [← hcut.pieces_eq, sourceOf_append, source_pieces, source_pieces]

/-- A directive of a cut is written in one of its spellings. -/
theorem IsCut.exists_spelling {ps : List Piece} (h : IsCut ps) {d : Directive} {s : List Char}
    (hd : .directive d s ∈ ps) : ∃ (w : Spelling d) (l : List Char), s = w.source ++ l := by
  induction h with
  | nil => cases hd
  | char h rest ih => exact ih ((List.mem_cons.1 hd).resolve_left nofun)
  | @directive e w l ps hl rest ih =>
    rcases List.mem_cons.1 hd with heq | hd
    · cases heq
      exact ⟨w, l, rfl⟩
    · exact ih hd

/-- Cutting finds the directives that occur in a text. -/
theorem Directive.occursIn_iff {d : Directive} {cs : List Char} :
    d.OccursIn cs ↔ ∃ s, Piece.directive d s ∈ pieces cs := by
  constructor
  · -- A spelling is a mark, so the text is cut apart in front of it.
    rintro ⟨w, xs, ys, rfl⟩
    rw [List.append_assoc, pieces_append xs (startsMark_spelling w ys)]
    obtain ⟨l, zs, -, -, hcut⟩ := exists_pieces_spelling w ys
    refine ⟨w.source ++ l, List.mem_append_right _ ?_⟩
    rw [hcut]
    exact List.mem_cons_self
  · rintro ⟨s, hs⟩
    obtain ⟨w, l, rfl⟩ := (isCut_pieces cs).exists_spelling hs
    obtain ⟨ps, qs, hps⟩ := List.append_of_mem hs
    refine ⟨w, sourceOf ps, l ++ sourceOf qs, ?_⟩
    have hsource := source_pieces cs
    rw [hps, sourceOf_append, sourceOf_cons, Piece.source] at hsource
    rw [← hsource]
    simp only [List.append_assoc]

/-- A directive occurs in a text iff it is counted at all. -/
theorem Directive.occursIn_iff_directiveCount_pos {d : Directive} {cs : List Char} :
    d.OccursIn cs ↔ 0 < directiveCount d cs := by
  rw [occursIn_iff, directiveCount, List.countP_pos_iff]
  constructor
  · rintro ⟨s, hs⟩
    exact ⟨_, hs, decide_eq_true rfl⟩
  · rintro ⟨p, hp, his⟩
    cases p with
    | char c => cases his
    | directive e s =>
      obtain rfl := of_decide_eq_true his
      exact ⟨s, hp⟩

/-! ## Text without directives -/

/-- Pieces without directives are the characters of their text. -/
theorem eq_chars_of_directivesOf {ps : List Piece} (h : directivesOf ps = []) :
    ps = (sourceOf ps).map .char := by
  induction ps with
  | nil => rfl
  | cons p ps ih =>
    cases p with
    | char c => rw [sourceOf_cons, Piece.source, List.singleton_append, List.map_cons, ← ih h]
    | directive d m => cases h

/-- A text has no directive iff it is cut into characters. -/
theorem pieces_eq_chars_iff {cs : List Char} :
    pieces cs = cs.map .char ↔ ∀ d : Directive, ¬d.OccursIn cs := by
  constructor
  · intro h d hd
    obtain ⟨s, hs⟩ := Directive.occursIn_iff.1 hd
    rw [h] at hs
    obtain ⟨c, -, hc⟩ := List.mem_map.1 hs
    cases hc
  · intro h
    -- A piece that is a directive would make it occur.
    have hnone : directivesOf (pieces cs) = [] := by
      refine List.filterMap_eq_nil_iff.2 fun p hp => ?_
      cases p with
      | char c => rfl
      | directive d m => exact absurd (Directive.occursIn_iff.2 ⟨m, hp⟩) (h d)
    have hpieces := eq_chars_of_directivesOf hnone
    rwa [source_pieces] at hpieces

/-- Nothing is replaced where the directive does not occur. -/
theorem replaceDirective_of_absent {d : Directive} {cs : List Char} (h : ¬d.OccursIn cs)
    (text : List Char) : replaceDirective d text cs = cs := by
  have hkeep : ∀ p ∈ pieces cs, (if p.is d then text else p.source) = p.source := by
    intro p hp
    cases p with
    | char c => rfl
    | directive e m =>
      refine if_neg fun hd => h ?_
      obtain rfl := of_decide_eq_true hd
      exact Directive.occursIn_iff.2 ⟨m, hp⟩
  rw [replaceDirective, List.flatMap_def, List.map_congr_left hkeep, ← List.flatMap_def]
  exact source_pieces cs

/-- There are no markers to drop in a text without directives. -/
theorem dropMarkers_of_absent {cs : List Char} (h : ∀ d : Directive, ¬d.OccursIn cs) :
    dropMarkers cs = cs := by
  rw [dropMarkers, replaceDirective_of_absent (h _), replaceDirective_of_absent (h _)]

end Stencil
