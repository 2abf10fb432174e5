import Stencil.Proofs.Directive.Occurrence
import Stencil.Proofs.Directive.Outline

/-!
# Compiling outlines

An outline is cut at exactly the directives that it is made of, so it is balanced, and it compiles
to its `Outline.expansion`, in which nothing is taken for a marker of the split section.

## Key results

- `Tagged.not_occursIn`: literal text and tags of the template engine hold no directive
- `pieces_source`: the pieces of an outline
- `Renderer.compile_source`: compiling an outline succeeds and gives its expansion
-/

namespace Stencil

/-! ## Text without directives -/

/-- A pair that does not occur in a text does not occur behind its first character. -/
theorem occursPair_cons {a b c : Char} {cs : List Char}
    (h : occursPair a b (c :: cs) = false) : occursPair a b cs = false := by
  cases cs with
  | nil => rfl
  | cons d cs => rw [occursPair, Bool.or_eq_false_iff] at h; exact h.2

/-- Where a pair does not occur, its second character does not stand behind its first. -/
theorem ne_of_occursPair {a b d : Char} {cs : List Char}
    (h : occursPair a b (a :: d :: cs) = false) : d ≠ b := by
  rintro rfl
  simp [occursPair] at h

namespace Directive

/-- A directive starts with two braces. -/
theorem ahead?_eq_none {c : Char} {cs : List Char}
    (h : c = '\x7b' → cs.head? ≠ some '\x7b') : ahead? (c :: cs) = none := by
  refine List.findSome?_eq_none_iff.2 fun d _ => ?_
  rw [Option.map_eq_none_iff]
  -- A directive has a width only where both braces are there.
  unfold width?
  split
  · next heq =>
    obtain ⟨rfl, rfl⟩ := List.cons.inj heq
    exact absurd rfl (h rfl)
  · rfl

end Directive

/-- A character that no directive starts at is a piece of its own. -/
theorem pieces_cons_char {c : Char} {cs : List Char} (h : c = '\x7b' → cs.head? ≠ some '\x7b') :
    pieces (c :: cs) = .char c :: pieces cs := by
  rw [pieces_cons, Directive.ahead?_eq_none h]

/-- Text without two braces in a row is cut into characters. -/
theorem pieces_text {cs : List Char} (h : occursPair '\x7b' '\x7b' cs = false)
    (hlast : cs.getLast? ≠ some '\x7b') (rest : List Char) :
    pieces (cs ++ rest) = cs.map .char ++ pieces rest := by
  induction cs with
  | nil => rfl
  | cons c cs ih =>
    -- A brace is followed by another character of the text, since it is not the last one.
    have hhead : c = '\x7b' → (cs ++ rest).head? ≠ some '\x7b' := by
      rintro rfl
      cases cs with
      | nil => exact absurd rfl hlast
      | cons d cs => simpa using ne_of_occursPair h
    rw [List.cons_append, pieces_cons_char hhead, ih (occursPair_cons h) ?_]
    · rfl
    · cases cs with
      | nil => simp
      | cons d cs => simpa using hlast

/-- A spelling of a directive that is no marker is cut off as it is: it takes no line break
along. -/
theorem pieces_spelling {d : Directive} (hd : d.isSplit = false) (w : Spelling d)
    (rest : List Char) : pieces (w.source ++ rest) = .directive d w.source :: pieces rest := by
  have h := pieces_spelling_append w (l := []) rest (d.lineBreak_of_not_isSplit hd rest)
  rwa [List.append_nil] at h

/-! ## Tags of the template engine -/

/-- The engine's tag for a directive. -/
def Directive.tag (d : Directive) : List Char := (d.expansion?.getD "").toList

/-- A directive that is no marker is expanded to its tag. -/
theorem expandPiece_directive {d : Directive} (hd : d.isSplit = false) (source : List Char) :
    expandPiece (.directive d source) = d.tag := by
  have hsome : d.expansion? ≠ none := by
    rw [Ne, Directive.expansion?_eq_none_iff, hd]
    exact Bool.false_ne_true
  unfold Directive.tag
  cases he : d.expansion? with
  | none => exact absurd he hsome
  | some e => simp only [expandPiece, he, Option.getD_some]

/-- No keyword starts like the expressions in the engine's tags. -/
private theorem startsWithKeyword_node (d : Directive) (cs : List Char) :
    startsWithKeyword d.keyword.toList ('n' :: 'o' :: cs) = false := by
  have hall : ∀ d ∈ Directive.all, 2 ≤ d.letters.length ∧ d.letters.take 2 ≠ ['n', 'o'] := by
    decide +kernel
  obtain ⟨hlength, hne⟩ := hall d (Directive.mem_all d)
  rw [← Bool.not_eq_true]
  intro h
  obtain ⟨more, hmore⟩ := d.letters_prefix h
  -- The keyword would start with these two letters.
  have htake := congrArg (List.take 2) hmore
  rw [List.take_append_of_le_length hlength] at htake
  exact hne htake

/-- A tag that prints an expression is no directive: the expressions begin with these letters. -/
private theorem ahead?_node (cs : List Char) :
    Directive.ahead? ('\x7b' :: '\x7b' :: ' ' :: 'n' :: 'o' :: cs) = none := by
  refine List.findSome?_eq_none_iff.2 fun d _ => ?_
  -- The keyword would have to stand behind the one blank.
  have hblank : blanksAhead (' ' :: 'n' :: 'o' :: cs) = 1 := by
    simp [blanksAhead, show Text.isWhitespace ' ' = true by decide +kernel,
      show Text.isWhitespace 'n' = false by decide +kernel]
  rw [Option.map_eq_none_iff, Directive.width?, hblank]
  simp [startsWithKeyword_node]

/-- Each tag begins in one of two ways, and behind its first character no two braces stand in a
row. -/
theorem tag_shape {d : Directive} (hd : d.isSplit = false) :
    (d.tag.take 5 = ['\x7b', '\x7b', ' ', 'n', 'o'] ∨ d.tag.take 2 = ['\x7b', '%']) ∧
      occursPair '\x7b' '\x7b' d.tag.tail = false ∧ d.tag.tail.getLast? ≠ some '\x7b' := by
  have hall : ∀ d ∈ Directive.all, d.isSplit = false →
      (d.tag.take 5 = ['\x7b', '\x7b', ' ', 'n', 'o'] ∨ d.tag.take 2 = ['\x7b', '%']) ∧
        occursPair '\x7b' '\x7b' d.tag.tail = false ∧ d.tag.tail.getLast? ≠ some '\x7b' := by
    decide +kernel
  exact hall d (Directive.mem_all d) hd

/-- The engine's tags are not taken for directives. -/
theorem pieces_tag {d : Directive} (hd : d.isSplit = false) (rest : List Char) :
    pieces (d.tag ++ rest) = d.tag.map .char ++ pieces rest := by
  obtain ⟨hhead, hpair, hlast⟩ := tag_shape hd
  -- Only the first character of a tag could start a directive.
  have hcut : ∀ c cs, Directive.ahead? (c :: (cs ++ rest)) = none →
      occursPair '\x7b' '\x7b' cs = false → cs.getLast? ≠ some '\x7b' →
      pieces (c :: cs ++ rest) = (c :: cs).map .char ++ pieces rest := by
    intro c cs hnone hpair hlast
    rw [List.cons_append, pieces_cons, hnone, pieces_text hpair hlast]
    rfl
  -- The tag prints an expression, or it opens or closes a block.
  rcases hhead with hhead | hhead
  · rw [← List.take_append_drop 5 d.tag, hhead] at hpair hlast ⊢
    exact hcut _ _ (ahead?_node _) hpair hlast
  · rw [← List.take_append_drop 2 d.tag, hhead] at hpair hlast ⊢
    exact hcut _ _ (Directive.ahead?_eq_none fun _ => by simp) hpair hlast

/-- Looking for a directive passes over characters. -/
theorem dropWhile_chars (d : Directive) (cs : List Char) (ps : List Piece) :
    (cs.map Piece.char ++ ps).dropWhile (fun p => !p.is d) = ps.dropWhile fun p => !p.is d := by
  refine List.dropWhile_append_of_pos fun p hp => ?_
  obtain ⟨c, -, rfl⟩ := List.mem_map.1 hp
  rfl

/-- Text without directives has no split section. -/
theorem splitSection?_of_absent {cs : List Char} (h : ∀ d : Directive, ¬d.OccursIn cs) :
    splitSection? cs = none := by
  have hnone := dropWhile_chars (.opening .split) cs []
  rw [List.append_nil] at hnone
  rw [splitSection?, pieces_eq_chars_iff.2 h, splitPieces?, hnone]
  rfl

/-! ## Literal text and tags -/

/-- A text that is literal text and tags of the template engine; the list tells what the tags stand
for. -/
inductive Tagged : List Directive → List Char → Prop
  | nil : Tagged [] []
  | literal {ds : List Directive} {cs : List Char} (text : Literal) (rest : Tagged ds cs) :
    Tagged ds (text.chars ++ cs)
  | tag {d : Directive} {ds : List Directive} {cs : List Char} (hd : d.isSplit = false)
    (rest : Tagged ds cs) : Tagged (d :: ds) (d.tag ++ cs)

namespace Tagged

variable {ds es : List Directive} {cs xs ys : List Char}

/-- Two such texts, one behind the other. -/
theorem append (hxs : Tagged ds xs) (hys : Tagged es ys) : Tagged (ds ++ es) (xs ++ ys) := by
  induction hxs with
  | nil => exact hys
  | literal text rest ih => rw [List.append_assoc]; exact .literal text ih
  | tag hd rest ih => rw [List.append_assoc]; exact .tag hd ih

/-- Neither in literal text and tags nor where they meet there is a directive. -/
theorem pieces_append (h : Tagged ds cs) (rest : List Char) :
    pieces (cs ++ rest) = cs.map .char ++ pieces rest := by
  induction h with
  | nil => rfl
  | literal text _ ih =>
    rw [List.append_assoc, pieces_text (text.unmarked _ List.mem_cons_self) text.unopened, ih,
      List.map_append, List.append_assoc]
  | tag hd _ ih =>
    rw [List.append_assoc, pieces_tag hd, ih, List.map_append, List.append_assoc]

/-- Literal text and tags hold no directive. -/
theorem not_occursIn (h : Tagged ds cs) (d : Directive) : ¬d.OccursIn cs := by
  have hpieces := h.pieces_append []
  rw [List.append_nil, show pieces [] = [] from rfl, List.append_nil] at hpieces
  exact pieces_eq_chars_iff.1 hpieces d

end Tagged

/-! ## Cutting -/

namespace Placeholder

/-- Placeholders are no markers of the split section. -/
theorem isSplit_directive (s : Placeholder) : s.directive.isSplit = false := by
  cases s <;> rfl

end Placeholder

/-- The directives around a region are no markers of the split section. -/
theorem Region.isSplit_opening (r : Region) : (Directive.opening r.block).isSplit = false := by
  cases r <;> rfl

theorem Region.isSplit_closing (r : Region) : (Directive.closing r.block).isSplit = false := by
  cases r <;> rfl

namespace Outline

/-- The pieces that an outline is cut into. -/
def pieces : Outline → List Piece
  | .empty => []
  | .literal text rest => text.chars.map .char ++ rest.pieces
  | .placeholder s spelling rest => .directive s.directive spelling.source :: rest.pieces
  | .block r opening body closing rest =>
    .directive (.opening r.block) opening.source ::
      (body.pieces ++ .directive (.closing r.block) closing.source :: rest.pieces)

/-- The outline in the language of the template engine. -/
def expansion : Outline → List Char
  | .empty => []
  | .literal text rest => text.chars ++ rest.expansion
  | .placeholder s _ rest => s.directive.tag ++ rest.expansion
  | .block r _ body _ rest =>
    (Directive.opening r.block).tag ++
      (body.expansion ++ ((Directive.closing r.block).tag ++ rest.expansion))

/-- An outline in front of any text is cut at its own directives, and the text as if it stood
alone. -/
theorem pieces_source_append (t : Outline) (cs : List Char) :
    Stencil.pieces (t.source ++ cs) = t.pieces ++ Stencil.pieces cs := by
  induction t generalizing cs with
  | empty => rfl
  | literal text rest ih =>
    rw [source, pieces, List.append_assoc, List.append_assoc,
      pieces_text (text.unmarked _ List.mem_cons_self) text.unopened, ih]
  | placeholder s spelling rest ih =>
    rw [source, pieces, List.append_assoc, pieces_spelling s.isSplit_directive, ih]
    rfl
  -- The body is followed by the closing directive, so the hypothesis is for any text behind it.
  | block r opening body closing rest ihBody ihRest =>
    rw [source, pieces]
    simp only [List.append_assoc, List.cons_append]
    rw [pieces_spelling r.isSplit_opening, ihBody,
      pieces_spelling r.isSplit_closing, ihRest]

/-- An outline is cut at the directives that it is made of. -/
theorem pieces_source (t : Outline) : Stencil.pieces t.source = t.pieces := by
  have h := t.pieces_source_append []
  rwa [List.append_nil, show Stencil.pieces [] = [] from rfl, List.append_nil] at h

/-- An outline is expanded directive by directive. -/
theorem expand_source (t : Outline) : expand t.source = t.expansion := by
  rw [expand, pieces_source]
  -- Literal text stays as it is.
  have hchars : ∀ cs : List Char, (cs.map Piece.char).flatMap expandPiece = cs := by
    intro cs
    rw [List.flatMap_map]
    exact List.flatMap_singleton' cs
  induction t with
  | empty => rfl
  | literal text rest ih => rw [pieces, List.flatMap_append, ih, hchars, expansion]
  | placeholder s spelling rest ih =>
    rw [pieces, List.flatMap_cons, ih, expandPiece_directive s.isSplit_directive, expansion]
  | block r opening body closing rest ihBody ihRest =>
    rw [pieces, List.flatMap_cons, List.flatMap_append, List.flatMap_cons, ihBody, ihRest,
      expandPiece_directive r.isSplit_opening,
      expandPiece_directive r.isSplit_closing, expansion]

/-! ## Balance -/

/-- In an outline each block is closed as often as it is opened. -/
theorem countP_opening_pieces (t : Outline) (b : Block) :
    t.pieces.countP (Piece.is (.opening b)) = t.pieces.countP (Piece.is (.closing b)) := by
  induction t with
  | empty => rfl
  | literal text rest ih =>
    rw [pieces, List.countP_append, List.countP_append, countP_chars, countP_chars, ih]
  | placeholder s spelling rest ih =>
    rw [pieces, List.countP_cons, List.countP_cons, ih]
    -- A placeholder neither opens nor closes a block.
    cases s <;> simp [Piece.is, Placeholder.directive]
  | block r opening body closing rest ihBody ihRest =>
    -- The region adds one to both counts of its own block.
    simp only [pieces, List.countP_cons, List.countP_append, ihBody, ihRest, Piece.is]
    simp
    omega

/-- An outline has no split section. -/
theorem countP_split_pieces (t : Outline) {d : Directive} (hd : d.isSplit = true) :
    t.pieces.countP (Piece.is d) = 0 := by
  -- None of the directives of an outline is a marker.
  have hne : ∀ {e : Directive}, e.isSplit = false → ¬d = e := by
    rintro e he rfl
    rw [hd] at he
    cases he
  induction t with
  | empty => rfl
  | literal text rest ih => rw [pieces, List.countP_append, countP_chars, ih]
  | placeholder s spelling rest ih =>
    simp [pieces, ih, Piece.is, hne s.isSplit_directive]
  | block r opening body closing rest ihBody ihRest =>
    simp [pieces, List.countP_append, ihBody, ihRest, Piece.is,
      hne r.isSplit_opening, hne r.isSplit_closing]

/-- An outline is balanced. -/
theorem imbalance?_source (t : Outline) : imbalance? t.source = none := by
  simp only [imbalance?_eq_none_iff, directiveCount, pieces_source]
  refine ⟨t.countP_opening_pieces, ?_⟩
  rw [t.countP_split_pieces rfl]
  exact Nat.zero_le 1

/-! ## Markers of the split section -/

/-- The expansion of an outline is literal text and tags. -/
theorem exists_tagged_expansion (t : Outline) : ∃ ds, Tagged ds t.expansion := by
  induction t with
  | empty => exact ⟨[], .nil⟩
  | literal text rest ih =>
    obtain ⟨ds, hrest⟩ := ih
    exact ⟨ds, .literal text hrest⟩
  | placeholder s spelling rest ih =>
    obtain ⟨ds, hrest⟩ := ih
    exact ⟨_, .tag s.isSplit_directive hrest⟩
  | block r opening body closing rest ihBody ihRest =>
    obtain ⟨ds, hbody⟩ := ihBody
    obtain ⟨es, hrest⟩ := ihRest
    exact ⟨_, .tag r.isSplit_opening (hbody.append (.tag r.isSplit_closing hrest))⟩

/-- No directive is left in the expansion of an outline. -/
theorem not_occursIn_expansion (t : Outline) (d : Directive) : ¬d.OccursIn t.expansion := by
  obtain ⟨ds, htagged⟩ := t.exists_tagged_expansion
  exact htagged.not_occursIn d

/-- There is no marker to drop in the expansion of an outline. -/
theorem dropMarkers_expansion (t : Outline) : dropMarkers t.expansion = t.expansion :=
  dropMarkers_of_absent t.not_occursIn_expansion

/-- The expansion of an outline has no split section. -/
theorem splitSection?_expansion (t : Outline) : splitSection? t.expansion = none :=
  splitSection?_of_absent t.not_occursIn_expansion

end Outline

/-- A template is ready for rendering iff it compiles. -/
theorem Renderer.compile_eq_ok_iff {name source : String} {r : Renderer} :
    Renderer.compile name source = .ok r ↔
      ∃ e, Stencil.compile source.toList = .ok e ∧ r = ⟨name, dropMarkers e, splitSection? e⟩ := by
  rw [Renderer.compile]
  cases Stencil.compile source.toList with
  | error i => exact ⟨fun h => (by cases h), fun ⟨_, h, _⟩ => (by cases h)⟩
  | ok e =>
    constructor
    · intro h
      exact ⟨e, rfl, (Except.ok.inj h).symm⟩
    · rintro ⟨_, ⟨rfl⟩, rfl⟩
      rfl

/-- Compiling an outline succeeds and gives its expansion. -/
theorem Renderer.compile_source (name : String) (t : Outline) :
    Renderer.compile name (String.ofList t.source) = .ok ⟨name, t.expansion, none⟩ := by
  -- The outline compiles to its expansion, and the markers are looked for in that.
  refine Renderer.compile_eq_ok_iff.2 ⟨t.expansion, ?_, ?_⟩
  · rw [String.toList_ofList]
    exact Stencil.compile_eq_ok_iff.2 ⟨t.imbalance?_source, t.expand_source.symm⟩
  · rw [t.dropMarkers_expansion, t.splitSection?_expansion]

end Stencil
