import Stencil.Proofs.Directive.Parts
import Stencil.Proofs.Directive.Rendering

/-!
# Blocks that are nested

Balance is a matter of counting, but the template engine wants blocks to be nested, and not too
deep. A template of literal text and directives renders iff its blocks are: one that is nested has
the same expansion as an outline, and one that the engine can put together is nested. The engine
only sees the tag that closes a block, so arrays and objects may be closed by each other's directive.

## Key results

- `Nests.exists_outline`: nested directives have the expansion of an outline
- `Tagged.nests_of_elements?`: what the template engine puts together is nested
- `Renderer.render_nested`: which templates the check accepts, and that one renders iff its blocks
  are nested
-/

namespace Stencil

open Schema (Node)
open Template
open Text (trimEnd)

/-! ## Nesting -/

/-- Directives whose blocks are nested in each other, at most `k` deep. A block is closed by any
directive that stands for its closing tag. -/
inductive Nests : Nat → List Directive → Prop
  | nil {k : Nat} : Nests k []
  | placeholder {k : Nat} {ds : List Directive} (s : Placeholder) (rest : Nests k ds) :
    Nests k (s.directive :: ds)
  | block {k : Nat} {inner ds : List Directive} {r e : Region}
    (he : (Directive.closing e.block).tag = (Directive.closing r.block).tag)
    (body : Nests k inner) (rest : Nests (k + 1) ds) :
    Nests (k + 1) (.opening r.block :: (inner ++ .closing e.block :: ds))

/-- Literal text and tags on either side of a tag. -/
theorem Tagged.exists_split {ds es : List Directive} {d : Directive} {cs : List Char}
    (h : Tagged (ds ++ d :: es) cs) :
    ∃ xs ys, cs = xs ++ (d.tag ++ ys) ∧ Tagged ds xs ∧ Tagged es ys := by
  -- By induction on the text: the tag is in front, or it is found in the rest.
  generalize hall : ds ++ d :: es = all at h
  induction h generalizing ds with
  | nil => simp at hall
  | literal text rest ih =>
    obtain ⟨xs, ys, rfl, hxs, hys⟩ := ih hall
    exact ⟨text.chars ++ xs, ys, by rw [List.append_assoc], .literal text hxs, hys⟩
  | tag hd rest ih =>
    cases ds with
    | nil =>
      obtain ⟨rfl, rfl⟩ := List.cons.inj hall
      exact ⟨[], _, rfl, .nil, rest⟩
    | cons c ds =>
      obtain ⟨rfl, hrest⟩ := List.cons.inj hall
      obtain ⟨xs, ys, rfl, hxs, hys⟩ := ih hrest
      exact ⟨c.tag ++ xs, ys, by rw [List.append_assoc], .tag hd hxs, hys⟩

/-- An outline behind literal text. -/
theorem Tagged.exists_literal {cs : List Char} (h : Tagged [] cs) (t : Outline) :
    ∃ t' : Outline, t'.expansion = cs ++ t.expansion ∧ t'.nesting = t.nesting := by
  generalize hds : [] = ds at h
  induction h with
  | nil => exact ⟨t, rfl, rfl⟩
  | literal text rest ih =>
    obtain ⟨t', hexpansion, hnesting⟩ := ih hds
    refine ⟨.literal text t', ?_, hnesting⟩
    rw [Outline.expansion, hexpansion, List.append_assoc]
  | tag hd rest ih => cases hds

/-- Nested directives have the expansion of an outline. -/
theorem Nests.exists_outline {k : Nat} {ds : List Directive} (h : Nests k ds) {cs : List Char}
    (hcs : Tagged ds cs) : ∃ t : Outline, t.expansion = cs ∧ t.nesting ≤ k := by
  induction h generalizing cs with
  | nil =>
    obtain ⟨t, hexpansion, hnesting⟩ := hcs.exists_literal .empty
    refine ⟨t, ?_, ?_⟩
    · rw [hexpansion, Outline.expansion, List.append_nil]
    · rw [hnesting]
      exact Nat.zero_le _
  | @placeholder k ds s rest ih =>
    -- In front of the placeholder there is literal text only.
    have hfront : Tagged ([] ++ s.directive :: ds) cs := hcs
    obtain ⟨xs, ys, rfl, hxs, hys⟩ := hfront.exists_split
    obtain ⟨t, rfl, ht⟩ := ih hys
    obtain ⟨t', hexpansion, hnesting⟩ := hxs.exists_literal (.placeholder s (.plain _) t)
    refine ⟨t', hexpansion, ?_⟩
    rw [hnesting]
    exact ht
  | @block k inner ds r e he body rest ihBody ihRest =>
    -- The two tags of the block cut the text apart; the tag that closes it is that of the outline.
    have hfront : Tagged ([] ++ .opening r.block :: (inner ++ .closing e.block :: ds)) cs := hcs
    obtain ⟨xs, ys, rfl, hxs, hys⟩ := hfront.exists_split
    obtain ⟨us, vs, rfl, hus, hvs⟩ := hys.exists_split
    obtain ⟨t, rfl, ht⟩ := ihBody hus
    obtain ⟨u, rfl, hu⟩ := ihRest hvs
    obtain ⟨t', hexpansion, hnesting⟩ :=
      hxs.exists_literal (.block r (.plain _) t (.plain _) u)
    refine ⟨t', ?_, ?_⟩
    · rw [hexpansion, Outline.expansion, he]
    · rw [hnesting, Outline.nesting]
      omega

/-! ## Segments -/

/-- A directive that does not mark the split section stands for a text, or opens or closes a block
of a node. -/
theorem Directive.exists_of_not_isSplit {d : Directive} (hd : d.isSplit = false) :
    (∃ s : Placeholder, d = s.directive) ∨
      ∃ r : Region, d = .opening r.block ∨ d = .closing r.block := by
  -- Every block but the split section is a region.
  have hblock : ∀ b : Block, b ≠ .split → ∃ r : Region, b = r.block := by
    intro b hb
    cases b with
    | properties => exact ⟨.properties, rfl⟩
    | isArray => exact ⟨.isArray, rfl⟩
    | isObject => exact ⟨.isObject, rfl⟩
    | split => exact absurd rfl hb
  cases d with
  | name style => exact .inl ⟨.name style, rfl⟩
  | type => exact .inl ⟨.type, rfl⟩
  | docType => exact .inl ⟨.docType, rfl⟩
  | opening b =>
    obtain ⟨r, rfl⟩ := hblock b (by rintro rfl; cases hd)
    exact .inr ⟨r, .inl rfl⟩
  | closing b =>
    obtain ⟨r, rfl⟩ := hblock b (by rintro rfl; cases hd)
    exact .inr ⟨r, .inr rfl⟩

/-- Segments that are texts and the tags for directives. -/
inductive Segmented : List Directive → List Segment → Prop
  | nil : Segmented [] []
  | text {ds : List Directive} {ss : List Segment} (cs : List Char) (rest : Segmented ds ss) :
    Segmented ds (.text cs :: ss)
  | placeholder {ds : List Directive} {ss : List Segment} (s : Placeholder)
    (rest : Segmented ds ss) :
    Segmented (s.directive :: ds) (.output s.directive.tokens :: ss)
  | opening {ds : List Directive} {ss : List Segment} (r : Region) (rest : Segmented ds ss) :
    Segmented (.opening r.block :: ds) (.statement (Directive.opening r.block).tokens :: ss)
  | closing {ds : List Directive} {ss : List Segment} (r : Region) (rest : Segmented ds ss) :
    Segmented (.closing r.block :: ds) (.statement (Directive.closing r.block).tokens :: ss)

/-- A tag is a segment of its own, behind the text that was held. -/
theorem Directive.exists_run_tag {d : Directive} (hd : d.isSplit = false) (done : List Segment)
    {held : List Char} (hheld : held.head? ≠ some '\x7b') :
    ∃ segment text, Scan.run ⟨done, .text false held⟩ d.tag =
        ⟨segment :: .text text :: done, .text false []⟩ ∧
      ∀ ds ss, Segmented ds ss → Segmented (d :: ds) (segment :: ss) := by
  rcases exists_of_not_isSplit hd with ⟨s, rfl⟩ | ⟨r, rfl | rfl⟩
  · exact ⟨_, _, Scan.run_placeholder s done hheld, fun _ _ => .placeholder s⟩
  · exact ⟨_, _, Scan.run_opening r done hheld, fun _ _ => .opening r⟩
  · exact ⟨_, _, Scan.run_closing r done hheld, fun _ _ => .closing r⟩

/-- Behind literal text and tags some text is held, which becomes the last segment. -/
theorem Tagged.exists_run {ds : List Directive} {cs : List Char} (h : Tagged ds cs)
    (done : List Segment) {held : List Char} (hheld : held.head? ≠ some '\x7b') :
    ∃ ss last, Scan.run ⟨done, .text false held⟩ cs = ⟨ss.reverse ++ done, .text false last⟩ ∧
      ∀ text, Segmented ds (ss ++ [.text text]) := by
  induction h generalizing done held with
  | nil => exact ⟨[], held, rfl, fun text => .text text .nil⟩
  | @literal ds cs text rest ih =>
    -- What is held is in reverse, and a literal text does not end in a brace.
    have hnext : (text.chars.reverse ++ held).head? ≠ some '\x7b' := by
      rw [List.head?_append, List.head?_reverse]
      cases hlast : text.chars.getLast? with
      | none => simpa using hheld
      | some c => simpa [hlast] using text.unopened
    obtain ⟨ss, last, hrun, hsegmented⟩ := ih done hnext
    refine ⟨ss, last, ?_, hsegmented⟩
    rw [Scan.run_append, Scan.run_text text.unmarked done (fun hbrace => absurd hbrace hheld), hrun]
  | @tag d ds cs hd rest ih =>
    obtain ⟨segment, text, htag, hsegment⟩ := Directive.exists_run_tag hd done hheld
    -- Behind a tag nothing is held.
    have hempty : ([] : List Char).head? ≠ some '\x7b' := nofun
    obtain ⟨ss, last, hrun, hsegmented⟩ := ih (segment :: .text text :: done) hempty
    refine ⟨.text text :: segment :: ss, last, ?_, fun behind =>
      .text text (hsegment _ _ (hsegmented behind))⟩
    rw [Scan.run_append, htag, hrun]
    simp

/-- The template engine reads literal text and tags as segments of their own. -/
theorem Tagged.exists_segments {ds : List Directive} {cs : List Char} (h : Tagged ds cs) :
    ∃ ss, segments? cs = some ss ∧ Segmented ds ss := by
  have hempty : ([] : List Char).head? ≠ some '\x7b' := nofun
  obtain ⟨ss, last, hrun, hsegmented⟩ := h.exists_run [] hempty
  refine ⟨ss ++ [.text (textOf false false last)], ?_, hsegmented _⟩
  rw [segments?, Scan.initial, hrun]
  simp [Scan.finish?]

/-! ## Open blocks -/

/-- Directives that close the blocks of a stack, the innermost first, and are nested besides. In the
innermost block they may be nested `k` deep, and one more in each block around it. -/
inductive Closes : Nat → List Region → List Directive → Prop
  | nil {k : Nat} {ds : List Directive} (h : Nests k ds) : Closes k [] ds
  | cons {k : Nat} {r e : Region} {stack : List Region} {inner ds : List Directive}
    (he : (Directive.closing e.block).tag = (Directive.closing r.block).tag)
    (body : Nests k inner) (rest : Closes (k + 1) stack ds) :
    Closes k (r :: stack) (inner ++ .closing e.block :: ds)

namespace Closes

variable {k : Nat} {r e : Region} {stack : List Region} {ds : List Directive}

/-- A placeholder in the innermost block changes nothing. -/
theorem placeholder (s : Placeholder) (h : Closes k stack ds) :
    Closes k stack (s.directive :: ds) := by
  cases h with
  | nil h => exact .nil (.placeholder s h)
  | cons he body rest => exact .cons he (.placeholder s body) rest

/-- A block that is opened is closed by what closes the innermost block. -/
theorem opening (h : Closes k (r :: stack) ds) : Closes (k + 1) stack (.opening r.block :: ds) := by
  cases h with
  | cons he body rest =>
    -- What stood in the innermost block is now behind a block of its own, in the next one or
    -- outside of all.
    cases rest with
    | nil h => exact .nil (.block he body h)
    | @cons k r' e' stack inner' ds he' body' rest =>
      have hblock := Closes.cons he' (.block he body body') rest
      rwa [List.cons_append, List.append_assoc, List.cons_append] at hblock

/-- A closing tag adds a block to the stack, with nothing in it so far. -/
theorem closing (he : (Directive.closing e.block).tag = (Directive.closing r.block).tag)
    (h : Closes (k + 1) stack ds) : Closes k (r :: stack) (.closing e.block :: ds) :=
  .cons he .nil h

end Closes

/-- The frames of open blocks, each with the elements in front of it. -/
def framesOf (opened : List (Region × List Element)) : List Frame :=
  opened.map fun b => b.1.frame b.2

/-- The frames of open blocks are frames of regions. -/
theorem encloses_framesOf (opened : List (Region × List Element)) :
    Region.Encloses (framesOf opened) := by
  intro f hf
  obtain ⟨b, -, rfl⟩ := List.mem_map.1 hf
  exact ⟨b.1, b.2, rfl⟩

/-- The engine counts one level for each open block. -/
theorem depthOf_framesOf (opened : List (Region × List Element)) :
    Assembly.depthOf (framesOf opened) = opened.length := by
  induction opened with
  | nil => rfl
  | cons b opened ih =>
    rw [framesOf, List.map_cons, b.1.depthOf_frame, List.length_cons, ← ih]
    rfl

/-- A closing tag closes the innermost block if it is the one for that block. -/
theorem Region.add?_closing_framesOf (e : Region) (opened : List (Region × List Element))
    (es : List Element) {a : Assembly}
    (h : Assembly.add? ⟨framesOf opened, es⟩ (.statement (Directive.closing e.block).tokens) =
      some a) :
    ∃ r before rest, opened = (r, before) :: rest ∧
      (Directive.closing e.block).tag = (Directive.closing r.block).tag ∧
      a = ⟨framesOf rest, r.element es.reverse :: before⟩ := by
  cases opened with
  -- Nothing is open to be closed.
  | nil => cases e <;> cases h
  | cons b rest =>
    obtain ⟨r, before⟩ := b
    -- Arrays and objects share a closing tag, the loop over properties has its own.
    by_cases he : (Directive.closing e.block).tag = (Directive.closing r.block).tag
    · have htokens : (Directive.closing e.block).tokens = (Directive.closing r.block).tokens := by
        revert he
        cases e <;> cases r <;> decide
      have hadd := r.add?_closing (encloses_framesOf rest) before es
      rw [htokens] at h
      exact ⟨r, before, rest, rfl, he, Option.some.inj (h.symm.trans hadd)⟩
    · -- A loop is not closed by the tag for a branch, nor a branch by the tag for a loop.
      exfalso
      cases e with
      | properties =>
        cases r with
        | properties => exact he rfl
        | isArray => cases h
        | isObject => cases h
      | isArray =>
        cases r with
        | properties => cases h
        | isArray => exact he rfl
        | isObject => exact he rfl
      | isObject =>
        cases r with
        | properties => cases h
        | isArray => exact he rfl
        | isObject => exact he rfl

/-- What the template engine puts together closes the blocks that are open. -/
theorem Segmented.closes {ds : List Directive} {ss : List Segment} (h : Segmented ds ss)
    {k : Nat} {opened : List (Region × List Element)} (hk : k + opened.length + 1 = Expr.maxDepth)
    {es es' : List Element} (hrun : Assembly.run? ⟨framesOf opened, es⟩ ss = some ⟨[], es'⟩) :
    Closes k (opened.map Prod.fst) ds := by
  -- Each segment is added to the innermost open block; levels that are left and blocks that are
  -- open add up to the limit of the engine throughout.
  induction h generalizing k opened es with
  | nil =>
    obtain ⟨hframes, -⟩ := Assembly.mk.inj (Option.some.inj hrun)
    obtain rfl := List.map_eq_nil_iff.1 hframes
    exact .nil .nil
  | text cs rest ih =>
    rw [Assembly.run?_cons, Assembly.add?_text] at hrun
    exact ih hk hrun
  | placeholder s rest ih =>
    have hdepth : Assembly.depthOf (framesOf opened) < Expr.maxDepth := by
      rw [depthOf_framesOf]
      omega
    rw [Assembly.run?_cons, Assembly.add?_placeholder s hdepth] at hrun
    exact (ih hk hrun).placeholder s
  | @opening ds ss r rest ih =>
    rw [Assembly.run?_cons, r.add?_opening, depthOf_framesOf] at hrun
    -- The engine opens the block only below its limit.
    split at hrun
    · next hdepth =>
      obtain ⟨k, rfl⟩ : ∃ j, k = j + 1 := ⟨k - 1, by omega⟩
      have hclosed : Closes k (((r, es) :: opened).map Prod.fst) ds :=
        ih (by rw [List.length_cons]; omega) hrun
      exact hclosed.opening
    · cases hrun
  | @closing ds ss e rest ih =>
    rw [Assembly.run?_cons] at hrun
    obtain ⟨a, hadd, hrun⟩ := Option.bind_eq_some_iff.1 hrun
    obtain ⟨r, before, opened, rfl, he, rfl⟩ := e.add?_closing_framesOf opened es hadd
    exact (ih (by rw [List.length_cons] at hk; omega) hrun).closing he

/-- What the template engine puts together is nested. -/
theorem Tagged.nests_of_elements? {ds : List Directive} {cs : List Char} (h : Tagged ds cs)
    {es : List Element} (hes : elements? cs = some es) : Nests 149 ds := by
  obtain ⟨ss, hss, hsegmented⟩ := h.exists_segments
  rw [elements?, hss, Option.bind_some] at hes
  obtain ⟨⟨frames, es'⟩, hrun, hfinish⟩ := Option.bind_eq_some_iff.1 hes
  -- The engine ends with an error if a block is left open.
  have hframes : frames = [] := by
    rw [Assembly.finish?] at hfinish
    split at hfinish
    · next hempty => exact List.isEmpty_iff.1 hempty
    · cases hfinish
  subst hframes
  have hclosed : Closes 149 (([] : List (Region × List Element)).map Prod.fst) ds :=
    hsegmented.closes rfl hrun
  cases hclosed with
  | nil hnests => exact hnests

/-! ## Rendering -/

namespace Renderer

/-- The template engine refuses blocks that are not nested, or nested too deep. -/
theorem render_of_not_nests {name : String} {t : List Part} {r : Renderer}
    (h : Renderer.compile name (String.ofList (Part.written t)) = .ok r) {split : Bool}
    (hnests : ¬Nests 149 (tagDirectives (Part.directives t) split)) (n : Node) :
    r.render n split = .error (.unrenderable name .malformed) := by
  -- If it could be put together it would be nested.
  have hnone : elements? (if split then r.sectionSource else r.body) = none := by
    cases hes : elements? (if split then r.sectionSource else r.body) with
    | none => rfl
    | some es => exact absurd ((tagged_of_compile h split).nests_of_elements? hes) hnests
  obtain ⟨e, -, rfl⟩ := Renderer.compile_eq_ok_iff.1 h
  rw [Renderer.render, renderSource, Template.render, hnone]

/-- What the check accepts compiles. -/
private theorem exists_compile_iff (name : String) {t : List Part} :
    (∃ r, Renderer.compile name (String.ofList (Part.written t)) = .ok r) ↔
      checkBalance (Part.written t) = .ok () := by
  rw [Part.checkBalance_written_iff]
  -- Both are said of the same text, once as a string and once as its characters.
  constructor
  · rintro ⟨r, h⟩
    obtain ⟨e, he, -⟩ := Renderer.compile_eq_ok_iff.1 h
    rw [String.toList_ofList] at he
    exact (Part.compile_written_iff.1 he).1
  · intro hbalanced
    refine ⟨_, Renderer.compile_eq_ok_iff.2 ⟨expand (Part.written t), ?_, rfl⟩⟩
    rw [String.toList_ofList]
    exact Part.compile_written_iff.2 ⟨hbalanced, rfl⟩

/-- The template engine renders what is nested, and at most 149 deep, for every formatted node. -/
theorem render_of_nests {name : String} {t : List Part} {r : Renderer}
    (h : Renderer.compile name (String.ofList (Part.written t)) = .ok r) {n : Node}
    (hn : Formatted n) {split : Bool} (hnests : Nests 149 (tagDirectives (Part.directives t) split)) :
    ∃ out, r.render n split = .ok out := by
  obtain ⟨o, hexpansion, hnesting⟩ := hnests.exists_outline (tagged_of_compile h split)
  have hrender := render_expansion name o hn
  rw [if_pos (show o.nesting < Expr.maxDepth from Nat.lt_succ_of_le hnesting), Renderer.render,
    if_neg Bool.false_ne_true, hexpansion] at hrender
  obtain ⟨e, -, rfl⟩ := Renderer.compile_eq_ok_iff.1 h
  exact ⟨_, hrender⟩

/-- Templates of literal text and directives are checked by counting: a template is accepted, and
compiles, iff each block is closed as often as it is opened and there is at most one split section. One
that compiles renders for every formatted node if the blocks of what is rendered are nested, and at most
149 deep; otherwise the template engine refuses it. -/
theorem render_nested (name : String) (t : List Part) :
    (checkBalance (Part.written t) = .ok () ↔
      (∀ b, (Part.directives t).count (.opening b) = (Part.directives t).count (.closing b)) ∧
        (Part.directives t).count (.opening .split) ≤ 1) ∧
    ((∃ r, Renderer.compile name (String.ofList (Part.written t)) = .ok r) ↔
      checkBalance (Part.written t) = .ok ()) ∧
    ∀ r, Renderer.compile name (String.ofList (Part.written t)) = .ok r →
      ∀ n, Formatted n → ∀ split : Bool,
        (Nests 149 (tagDirectives (Part.directives t) split) → ∃ out, r.render n split = .ok out) ∧
          (¬Nests 149 (tagDirectives (Part.directives t) split) →
            r.render n split = .error (.unrenderable name .malformed)) := by
  refine ⟨Part.checkBalance_written_iff, exists_compile_iff name, fun r h n hn split => ?_⟩
  exact ⟨render_of_nests h hn, fun hnests => render_of_not_nests h hnests n⟩

/-- Parts of which the directives are balanced. -/
private theorem compile_parts (name : String) {t : List Part}
    (hcount : ∀ b ∈ Block.all,
      (Part.directives t).count (.opening b) = (Part.directives t).count (.closing b))
    (hone : (Part.directives t).count (.opening .split) ≤ 1) :
    ∃ r, Renderer.compile name (String.ofList (Part.written t)) = .ok r :=
  (exists_compile_iff name).2
    (Part.checkBalance_written_iff.2 ⟨fun b => hcount b b.mem_all, hone⟩)

/-- An array and an object that are closed by each other's directive, around a section. -/
theorem render_nested_interchanged :
    let n : Node := ⟨"a", .object, [], none, none, some "A", some "A"⟩
    let t : List Part := [.directive (.opening .isArray) (.plain _),
      .literal (.plain ['x', '\n'] (by decide)), .directive (.closing .isObject) (.plain _),
      .directive (.opening .split) (.plain _),
      .directive (.opening .isObject) (.plain _), .directive (.name none) (.plain _),
      .directive (.closing .isArray) (.plain _), .directive (.closing .split) (.plain _)]
    Formatted n ∧ checkBalance (Part.written t) = .ok () ∧
      ∃ r, Renderer.compile "main" (String.ofList (Part.written t)) = .ok r ∧
      Nests 149 (tagDirectives (Part.directives t) true) ∧
      Nests 149 (tagDirectives (Part.directives t) false) ∧
      ∀ split, ∃ out, r.render n split = .ok out := by
  intro n t
  have hn : Formatted n := .mk rfl rfl (by simp [n])
  have hcounts : ∀ b ∈ Block.all,
      (Part.directives t).count (.opening b) = (Part.directives t).count (.closing b) := by decide
  -- Both blocks are counted as balanced, and the engine sees one closing tag for either.
  obtain ⟨haccepted, hcompiles, hrenders⟩ := render_nested "main" t
  have hbalanced := haccepted.2 ⟨fun b => hcounts b b.mem_all, by decide⟩
  obtain ⟨r, hcompile⟩ := hcompiles.2 hbalanced
  have hsection : Nests 149 (tagDirectives (Part.directives t) true) :=
    .block (e := .isArray) (r := .isObject) rfl (.placeholder (.name none) .nil) .nil
  have hwhole : Nests 149 (tagDirectives (Part.directives t) false) :=
    .block (e := .isObject) (r := .isArray) rfl .nil hsection
  refine ⟨hn, hbalanced, r, hcompile, hsection, hwhole, fun split => ?_⟩
  cases split with
  | true => exact (hrenders r hcompile n hn true).1 hsection
  | false => exact (hrenders r hcompile n hn false).1 hwhole

/-- A block that is closed before it is opened is balanced, but not rendered. -/
theorem render_closed_before_opened :
    let n : Node := ⟨"a", .object, [], none, none, some "A", some "A"⟩
    let t : List Part := [.directive (.closing .properties) (.plain _),
      .literal (.plain ['x'] (by decide)), .directive (.opening .properties) (.plain _)]
    Formatted n ∧ ∃ r, Renderer.compile "main" (String.ofList (Part.written t)) = .ok r ∧
      ∀ split, r.render n split = .error (.unrenderable "main" .malformed) := by
  intro n t
  obtain ⟨r, hcompile⟩ : ∃ r, Renderer.compile "main" (String.ofList (Part.written t)) = .ok r :=
    compile_parts "main" (by decide) (by decide)
  refine ⟨.mk rfl rfl (by simp [n]), r, hcompile, fun split => render_of_not_nests hcompile ?_ n⟩
  have hdirectives : tagDirectives (Part.directives t) split =
      [.closing .properties, .opening .properties] := by
    cases split <;> decide
  rw [hdirectives]
  intro hnests
  -- Nothing nested starts with what closes a block.
  generalize hds : [Directive.closing .properties, .opening .properties] = ds at hnests
  cases hnests with
  | nil => cases hds
  | placeholder s => cases s <;> cases hds
  | block => cases hds

end Renderer

end Stencil
