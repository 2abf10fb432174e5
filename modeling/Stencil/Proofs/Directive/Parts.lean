import Stencil.Proofs.Directive.SplitSection

/-!
# Templates of literal text and directives

A template may be any row of literal text and directives, balanced or not, with its blocks nested in
any way. What is left of it once it has been compiled is literal text and tags of the template
engine, one for each directive that does not mark the split section: nothing else is made up where
parts meet, or where a marker has stood.

## Key results

- `pieces_written`: parts are cut at their directives
- `Part.checkBalance_written_iff`, `Part.compile_written_iff`: parts are accepted and compile iff their
  directives are balanced
- `Renderer.tagged_of_compile`: what the template engine gets
-/

namespace Stencil

/-! ## Parts -/

/-- A part of a template: literal text, or a directive in one of its spellings. -/
inductive Part where
  | literal (text : Literal)
  | directive (d : Directive) (spelling : Spelling d)

namespace Part

/-- The part as it is written. -/
def source : Part → List Char
  | .literal text => text.chars
  | .directive _ spelling => spelling.source

/-- The directive that the part is. -/
def directive? : Part → Option Directive
  | .literal _ => none
  | .directive d _ => some d

/-- The template that parts are written as. -/
def written (t : List Part) : List Char := t.flatMap source

/-- The directives among parts, in order. -/
def directives (t : List Part) : List Directive := t.filterMap directive?

@[simp] theorem written_cons (p : Part) (t : List Part) :
    written (p :: t) = p.source ++ written t := rfl

@[simp] theorem directives_literal (text : Literal) (t : List Part) :
    directives (.literal text :: t) = directives t := rfl

@[simp] theorem directives_directive (d : Directive) (w : Spelling d) (t : List Part) :
    directives (.directive d w :: t) = d :: directives t := rfl

end Part

/-- Literal text without its first character. -/
def Literal.tail (l : Literal) : Literal where
  chars := l.chars.tail
  unmarked := by
    intro c hc
    have h := l.unmarked c hc
    cases hl : l.chars with
    | nil => rfl
    | cons d cs => exact occursPair_cons (hl ▸ h)
  unopened := by
    have h := l.unopened
    cases hl : l.chars with
    | nil => simp
    | cons d cs =>
      cases cs with
      | nil => simp
      | cons e cs => simpa [hl] using h

@[simp] theorem Literal.chars_tail (l : Literal) : l.tail.chars = l.chars.tail := rfl

/-- Parts without the line break that they start with. -/
theorem Part.exists_tail {t : List Part} {zs : List Char} (h : written t = '\n' :: zs) :
    ∃ t', t'.length = t.length ∧ written t' = zs ∧ directives t' = directives t := by
  induction t with
  | nil => cases h
  | cons p t ih =>
    cases p with
    | literal text =>
      -- An empty text in front leaves the line break to the parts behind it.
      cases hchars : text.chars with
      | nil =>
        have hrest : written t = '\n' :: zs := by simpa [source, hchars] using h
        obtain ⟨t', hlength, hwritten, hdirectives⟩ := ih hrest
        refine ⟨.literal text :: t', by simp [hlength], ?_, by simp [hdirectives]⟩
        simp [source, hchars, hwritten]
      | cons c cs =>
        refine ⟨.literal text.tail :: t, rfl, ?_, rfl⟩
        rw [written_cons, source, hchars, List.cons_append] at h
        rw [written_cons, source, Literal.chars_tail, hchars]
        exact (List.cons.inj h).2
    | directive d w => exact absurd (List.cons.inj h).1 (by decide)

/-! ## Rows -/

/-- Pieces that are literal text, tags of the template engine and directives; the list tells what
the tags stand for and which directives there are. -/
inductive Row : List Directive → List Piece → Prop
  | nil : Row [] []
  | literal {ds : List Directive} {ps : List Piece} (text : Literal) (rest : Row ds ps) :
    Row ds (text.chars.map .char ++ ps)
  | tag {d : Directive} {ds : List Directive} {ps : List Piece} (hd : d.isSplit = false)
    (rest : Row ds ps) : Row (d :: ds) (d.tag.map .char ++ ps)
  | directive {d : Directive} {ds : List Directive} {ps : List Piece} (m : List Char)
    (rest : Row ds ps) : Row (d :: ds) (.directive d m :: ps)

/-- Parts are cut at their directives. A marker of the split section takes the first character of
the text behind it along if that is a line break. -/
theorem pieces_written (t : List Part) :
    Row (Part.directives t) (pieces (Part.written t)) ∧
      directivesOf (pieces (Part.written t)) = Part.directives t := by
  -- Without a line break a literal text is another one, so the induction is on the number of parts.
  induction hn : t.length generalizing t with
  | zero =>
    obtain rfl := List.eq_nil_of_length_eq_zero hn
    exact ⟨.nil, rfl⟩
  | succ n ih =>
    match t with
    | .literal text :: t =>
      obtain ⟨hrow, hdirectives⟩ := ih t (by simpa using hn)
      rw [Part.written_cons, Part.source,
        pieces_text (text.unmarked _ List.mem_cons_self) text.unopened]
      refine ⟨.literal text hrow, ?_⟩
      rw [directivesOf_append, directivesOf_map_char, hdirectives]
      rfl
    | .directive d w :: t =>
      obtain ⟨l, zs, hl, hbreak, hcut⟩ := exists_pieces_spelling w (Part.written t)
      have hlength : t.length = n := by simpa using hn
      -- If a line break is taken along, the parts without it are others, but as many.
      obtain ⟨t', hlength', rfl, htail⟩ : ∃ t', t'.length = n ∧ Part.written t' = zs ∧
          Part.directives t' = Part.directives t := by
        -- Nothing is taken along, or one line break.
        rcases d.lineBreak_eq_or (l ++ zs) with hnone | hone
        · rw [← hbreak, hnone] at hl
          exact ⟨t, hlength, hl.symm, rfl⟩
        · rw [← hbreak, hone] at hl
          obtain ⟨t', hlength', hwritten, htail⟩ := Part.exists_tail hl.symm
          exact ⟨t', hlength'.trans hlength, hwritten, htail⟩
      obtain ⟨hrow, hdirectives⟩ := ih t' hlength'
      rw [Part.written_cons, Part.source, hcut, Part.directives_directive, ← htail]
      refine ⟨.directive _ hrow, ?_⟩
      rw [directivesOf_directive, hdirectives]

/-- The check accepts parts iff each block is closed as often as it is opened among their directives and
there is at most one split section. -/
theorem Part.checkBalance_written_iff {t : List Part} :
    checkBalance (written t) = .ok () ↔
      (∀ b, (directives t).count (.opening b) = (directives t).count (.closing b)) ∧
        (directives t).count (.opening .split) ≤ 1 := by
  obtain ⟨-, hdirectives⟩ := pieces_written t
  rw [checkBalance_eq_ok_iff, imbalance?_eq_none_iff]
  -- What the check counts in the text are the directives that the parts are.
  simp only [directiveCount, ← count_directivesOf, hdirectives]

/-- Parts compile iff their directives are balanced. -/
theorem Part.compile_written_iff {t : List Part} {e : List Char} :
    compile (written t) = .ok e ↔
      ((∀ b, (directives t).count (.opening b) = (directives t).count (.closing b)) ∧
        (directives t).count (.opening .split) ≤ 1) ∧ e = expand (written t) := by
  rw [compile_eq_ok_iff, ← checkBalance_eq_ok_iff, checkBalance_written_iff]

/-- Expanding puts a tag in place of each directive but the markers of the split section. -/
theorem Row.expandOnly {ds : List Directive} {ps : List Piece} (h : Row ds ps) :
    Row ds (ps.flatMap (Piece.expandOnly Directive.expands)) := by
  induction h with
  | nil => exact .nil
  | literal text rest ih =>
    rw [List.flatMap_append, flatMap_expandOnly_chars]
    exact .literal text ih
  | tag hd rest ih =>
    rw [List.flatMap_append, flatMap_expandOnly_chars]
    exact .tag hd ih
  | directive m rest ih =>
    rw [flatMap_expandOnly_directive]
    -- The directive becomes a tag if it is no marker.
    split
    · next hd => exact .tag (by simpa [Directive.expands] using hd) ih
    · exact .directive m ih

/-- In front of a directive that stands behind some characters there are those characters. -/
private theorem exists_of_chars_append {xs : List Char} {d : Directive} {m : List Char}
    {ps qs rs : List Piece} (h : xs.map .char ++ rs = ps ++ .directive d m :: qs) :
    ∃ more, ps = xs.map .char ++ more ∧ rs = more ++ .directive d m :: qs := by
  rcases List.append_eq_append_iff.1 h with ⟨more, hps, hrs⟩ | ⟨more, hxs, hqs⟩
  · exact ⟨more, hps, hrs⟩
  · cases more with
    | nil => exact ⟨[], by rw [List.append_nil, hxs, List.append_nil], by simpa using hqs.symm⟩
    | cons p more =>
      -- The directive would be a character.
      obtain rfl := (List.cons.inj hqs).1
      have hmem : Piece.directive d m ∈ xs.map .char := by simp [hxs]
      simp at hmem

/-- A row on either side of a directive. -/
theorem Row.exists_split {ds : List Directive} {ps qs : List Piece} {d : Directive} {m : List Char}
    (h : Row ds (ps ++ .directive d m :: qs)) :
    ∃ ds₁ ds₂, ds = ds₁ ++ d :: ds₂ ∧ Row ds₁ ps ∧ Row ds₂ qs := by
  generalize hall : ps ++ .directive d m :: qs = all at h
  induction h generalizing ps with
  | nil => simp at hall
  | literal text rest ih =>
    obtain ⟨more, rfl, hrest⟩ := exists_of_chars_append hall.symm
    obtain ⟨ds₁, ds₂, rfl, h₁, h₂⟩ := ih hrest.symm
    exact ⟨ds₁, ds₂, rfl, .literal text h₁, h₂⟩
  | tag hd rest ih =>
    obtain ⟨more, rfl, hrest⟩ := exists_of_chars_append hall.symm
    obtain ⟨ds₁, ds₂, rfl, h₁, h₂⟩ := ih hrest.symm
    exact ⟨_ :: ds₁, ds₂, rfl, .tag hd h₁, h₂⟩
  | directive m rest ih =>
    -- The directive is the one in front, or one of those behind it.
    cases ps with
    | nil =>
      obtain ⟨hhead, rfl⟩ := List.cons.inj hall
      cases hhead
      exact ⟨[], _, rfl, .nil, rest⟩
    | cons p ps =>
      obtain ⟨rfl, hrest⟩ := List.cons.inj hall
      obtain ⟨ds₁, ds₂, rfl, h₁, h₂⟩ := ih hrest
      exact ⟨_ :: ds₁, ds₂, rfl, .directive m h₁, h₂⟩

/-! ## What the template engine gets -/

/-- A row without directives is literal text and tags. -/
theorem Row.tagged {ds : List Directive} {ps : List Piece} (h : Row ds ps)
    (hchars : directivesOf ps = []) : Tagged ds (sourceOf ps) := by
  induction h with
  | nil => exact .nil
  | literal text rest ih =>
    rw [directivesOf_append, directivesOf_map_char, List.nil_append] at hchars
    rw [sourceOf_append, sourceOf_map_char]
    exact .literal text (ih hchars)
  | tag hd rest ih =>
    rw [directivesOf_append, directivesOf_map_char, List.nil_append] at hchars
    rw [sourceOf_append, sourceOf_map_char]
    exact .tag hd (ih hchars)
  | directive m rest ih => cases hchars

/-- Likewise if it consists of characters. -/
theorem Row.tagged_chars {ds : List Directive} {cs : List Char} (h : Row ds (cs.map .char)) :
    Tagged ds cs := by
  have htagged := h.tagged (directivesOf_map_char cs)
  rwa [sourceOf_map_char] at htagged

namespace Tagged

variable {ds : List Directive} {cs : List Char}

/-- No tag stands for a marker of the split section. -/
theorem isSplit_eq_false (h : Tagged ds cs) : ∀ d ∈ ds, d.isSplit = false := by
  induction h with
  | nil => simp
  | literal text rest ih => exact ih
  | tag hd rest ih => exact List.forall_mem_cons.2 ⟨hd, ih⟩

/-- Leaving out the markers leaves out none of the directives. -/
theorem filter_eq (h : Tagged ds cs) : ds.filter (!·.isSplit) = ds := by
  rw [List.filter_eq_self]
  intro d hd
  rw [h.isSplit_eq_false d hd]
  rfl

/-- Without the line break that it starts with, the text has the same tags. -/
theorem tail {zs : List Char} (h : Tagged ds ('\n' :: zs)) : Tagged ds zs := by
  generalize hcs : '\n' :: zs = cs at h
  induction h with
  | nil => cases hcs
  | literal text rest ih =>
    cases hchars : text.chars with
    | nil =>
      rw [hchars] at hcs
      exact ih hcs
    | cons c chars =>
      rw [hchars] at hcs
      obtain ⟨-, rfl⟩ := List.cons.inj hcs
      have htail := Tagged.literal text.tail rest
      rwa [Literal.chars_tail, hchars] at htail
  -- A tag does not start with a line break.
  | @tag d ds cs hd rest ih =>
    obtain ⟨c, more, -, htag⟩ := startsMark_tag hd cs
    rw [htag] at hcs
    exact absurd (List.cons.inj hcs).1 (by decide)

end Tagged

/-- The directives between the first opening marker of the split section and the next closing
one. -/
def sectionDirectives? (ds : List Directive) : Option (List Directive) :=
  match ds.dropWhile (· != .opening .split) with
  | [] => none
  | _ :: inner =>
    if .closing .split ∈ inner then some (inner.takeWhile (· != .closing .split)) else none

/-- The directives of a template for which the template engine gets tags. -/
def tagDirectives (ds : List Directive) (split : Bool) : List Directive :=
  (if split then (sectionDirectives? ds).getD ds else ds).filter (!·.isSplit)

/-- Directives that are no markers differ from either marker. -/
private theorem ne_marker {ds : List Directive} (h : ∀ d ∈ ds, d.isSplit = false) (b : Bool) :
    ∀ d ∈ ds, (d != .marker b) = true := by
  intro d hd
  rw [bne_iff_ne]
  rintro rfl
  have hfalse := h _ hd
  rw [Directive.isSplit_marker] at hfalse
  cases hfalse

/-- Without an opening marker there is no section. -/
theorem sectionDirectives?_of_absent {ds : List Directive} (h : ∀ d ∈ ds, d.isSplit = false) :
    sectionDirectives? ds = none := by
  have hopening : ∀ d ∈ ds, (d != .opening .split) = true := ne_marker h true
  have hnone : (ds ++ []).dropWhile (· != Directive.opening .split) = [] :=
    List.dropWhile_append_of_pos hopening
  rw [List.append_nil] at hnone
  rw [sectionDirectives?, hnone]

/-- The directives between two markers are a section if the opening marker stands first. -/
theorem sectionDirectives?_of_markers {ds₀ ds₁ ds₂ : List Directive} (b : Bool)
    (h₀ : ∀ d ∈ ds₀, d.isSplit = false) (h₁ : ∀ d ∈ ds₁, d.isSplit = false)
    (h₂ : ∀ d ∈ ds₂, d.isSplit = false) :
    sectionDirectives? (ds₀ ++ .marker b :: (ds₁ ++ .marker (!b) :: ds₂)) =
      if b then some ds₁ else none := by
  have hopening₀ : ∀ d ∈ ds₀, (d != .opening .split) = true := ne_marker h₀ true
  rw [sectionDirectives?, List.dropWhile_append_of_pos hopening₀]
  -- The opening marker stands first and the closing one ends the section, or nothing closes it any
  -- more.
  cases b with
  | true =>
    have hclosing₁ : ∀ d ∈ ds₁, (d != .closing .split) = true := ne_marker h₁ false
    have htake : (ds₁ ++ .closing .split :: ds₂).takeWhile (· != .closing .split) = ds₁ := by
      rw [List.takeWhile_append_of_pos hclosing₁, List.takeWhile_cons_of_neg (by decide),
        List.append_nil]
    simp [Directive.marker, htake]
  | false =>
    have hopening₁ : ∀ d ∈ ds₁, (d != .opening .split) = true := ne_marker h₁ true
    have hdrop : (ds₁ ++ .opening .split :: ds₂).dropWhile (· != .opening .split) =
        .opening .split :: ds₂ := by
      rw [List.dropWhile_append_of_pos hopening₁, List.dropWhile_cons_of_neg (by decide)]
    have hnone : .closing .split ∉ ds₂ := fun hd => Bool.noConfusion (h₂ _ hd)
    simp [Directive.marker, hdrop, hnone]

/-- Without its markers, a text is what stood around and between them. -/
theorem Marked.tagged_dropMarkers (t : Marked) {ds₀ ds₁ ds₂ : List Directive}
    (h₀ : Tagged ds₀ t.before) (h₁ : Tagged ds₁ t.between) (h₂ : Tagged ds₂ t.behind) :
    Tagged (ds₀ ++ (ds₁ ++ ds₂)) (dropMarkers t.text) := by
  cases ht : t.opensFirst with
  | true =>
    rw [dropMarkers_of_opensFirst ht ((h₀.append h₁).not_occursIn _)]
    exact h₀.append (h₁.append h₂)
  | false =>
    -- The closing marker may take another line break along.
    obtain ⟨l, zs, hzs, hl, hmarker⟩ := t.stands₁.exists_standsIn (t.between ++ t.behind)
    rw [ht] at hmarker
    have hrest : Tagged (ds₁ ++ ds₂) zs := by
      have hboth := h₁.append h₂
      rcases hl with rfl | rfl
      · rwa [← hzs] at hboth
      · rw [← hzs] at hboth
        exact hboth.tail
    rw [dropMarkers_of_closesFirst ht hmarker (by rw [List.append_assoc, hzs])
      (hrest.not_occursIn _)]
    exact h₀.append hrest

/-- What the template engine gets is literal text and the tags for the directives. -/
theorem Renderer.tagged_of_compile {name : String} {t : List Part} {r : Renderer}
    (h : Renderer.compile name (String.ofList (Part.written t)) = .ok r) (split : Bool) :
    Tagged (tagDirectives (Part.directives t) split)
      (if split then r.sectionSource else r.body) := by
  obtain ⟨e, he, hbody, hsection, hmarked⟩ := exists_marked_of_compile h
  have hrow : Row (Part.directives t) (pieces e) := by
    obtain ⟨-, rfl⟩ := Stencil.compile_eq_ok_iff.1 he
    rw [String.toList_ofList, pieces_expand]
    exact (pieces_written t).1.expandOnly
  generalize Part.directives t = ds at hrow
  rcases hmarked with hnone | ⟨m, rfl⟩
  · -- Without markers the body is all there is.
    rw [pieces_eq_chars_iff.2 hnone] at hrow
    have htagged := hrow.tagged_chars
    rw [splitSection?_of_absent hnone] at hsection
    have hplain : r.body = e := hbody.trans (dropMarkers_of_absent hnone)
    rw [tagDirectives, sectionDirectives?_of_absent htagged.isSplit_eq_false, Option.getD_none,
      ite_self, htagged.filter_eq, sectionSource_of_none hsection, ite_self, hplain]
    exact htagged
  · rw [m.pieces_text] at hrow
    obtain ⟨ds₀, ds, rfl, hbefore, hrest⟩ := hrow.exists_split
    obtain ⟨ds₁, ds₂, rfl, hbetween, hbehind⟩ := hrest.exists_split
    have h₀ := hbefore.tagged_chars
    have h₁ := hbetween.tagged_chars
    have h₂ := hbehind.tagged_chars
    have hall := m.tagged_dropMarkers h₀ h₁ h₂
    have hfilter : (ds₀ ++ .marker m.opensFirst :: (ds₁ ++ .marker (!m.opensFirst) :: ds₂)).filter
        (!·.isSplit) = ds₀ ++ (ds₁ ++ ds₂) := by
      simp only [List.filter_append, List.filter_cons, Directive.isSplit_marker, h₀.filter_eq,
        h₁.filter_eq, h₂.filter_eq, Bool.not_true, Bool.false_eq_true, if_false]
    rw [← hfilter] at hall
    rw [m.splitSection?_text] at hsection
    rw [tagDirectives, sectionDirectives?_of_markers m.opensFirst h₀.isSplit_eq_false
      h₁.isSplit_eq_false h₂.isSplit_eq_false, sectionSource, hsection, hbody]
    -- The section counts only if there is one and it is asked for.
    cases split with
    | false => exact hall
    | true =>
      cases hfirst : m.opensFirst with
      | true =>
        rw [← h₁.filter_eq] at h₁
        exact h₁
      | false =>
        rw [hfirst] at hall
        exact hall

end Stencil
