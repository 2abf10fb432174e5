import Stencil.Proofs.Directive.Cutting

/-!
# Reading the expansion of an outline

The template engine reads the expansion of an outline as the segments, and then as the elements,
that the outline consists of, as long as blocks are not nested too deep for it: a loop or branch in
which an expression is read counts as one level, and so does the expression.

## Key results

- `run_expansion`: the segments of an expansion
- `run?_segments`: putting the segments together succeeds iff blocks are not nested too deep
- `elements?_expansion`: the elements of an expansion
-/

namespace Stencil

open Template
open Text (trimEnd)

/-! ## Expressions about a node -/

namespace Template

namespace Expr

variable {fuel depth : Nat} {ts : List Token} {r : Read}

/-- At a level of operators none of which follows, what is read is what the next level reads. -/
private theorem read_level {level : Level} (hnot : level ≠ .not) (hsign : level ≠ .sign)
    (hr : ∀ e rest, r = some (e, rest) → rest = [])
    (h : read (fuel + 1) depth level.next ts = r) : read (fuel + 2) depth level ts = r := by
  have hread : read (fuel + 2) depth level ts =
      (read (fuel + 1) depth level.next ts).bind
        fun r => readOperators (fuel + 1) depth level r.1 r.2 := by
    cases level with
    | not => exact absurd rfl hnot
    | sign => exact absurd rfl hsign
    | _ => simp only [read]; rfl
  rw [hread, h]
  cases r with
  | none => rfl
  | some r =>
    obtain ⟨e, rest⟩ := r
    -- Nothing is left, so no operator follows either.
    obtain rfl := hr e rest rfl
    simp [readOperators, operator?]

/-- An expression without operators is read at the tightest level. -/
private theorem read_or (fuel : Nat) {w : String} (hw : w ≠ "not")
    (hr : ∀ e rest, r = some (e, rest) → rest = [])
    (h : read (fuel + 1) depth .sign (.word w :: ts) = r) :
    read (fuel + 8) depth .or (.word w :: ts) = r := by
  -- The levels below negation, from the tightest on.
  have hcomparison : read (fuel + 5) depth .comparison (.word w :: ts) = r :=
    read_level (by decide) (by decide) hr <| read_level (by decide) (by decide) hr <|
      read_level (by decide) (by decide) hr <| read_level (by decide) (by decide) hr h
  have hnot : read (fuel + 6) depth .not (.word w :: ts) = r := by
    -- The word is not the one that negates.
    rw [← hcomparison]
    simp [read, hw]
  exact read_level (by decide) (by decide) hr <| read_level (by decide) (by decide) hr hnot

/-- A word is read unless statements and brackets are nested too deep. -/
private theorem read_sign (w : String) :
    read (fuel + 2) depth .sign (.word w :: ts) =
      if depth < maxDepth then
        (readPostfix (fuel + 1) depth (ofWord w) ts).bind
          fun r => readFilters (fuel + 1) depth r.1 r.2
      else Option.none := by
  -- The level counts before the word is read, so this is where the limit is met.
  split
  · next h =>
    have hdepth : ¬maxDepth < depth + 1 := by omega
    simp [read, readSigned, hdepth]
  · next h =>
    have hdepth : maxDepth < depth + 1 := by omega
    simp [read, readSigned, hdepth]

/-- A member of a node is read, unless nested too deep. -/
theorem ahead?_member (m : String) :
    ahead? depth [.word "node", .symbol .dot, .word m] =
      if depth < maxDepth then some (.member (.variable "node") m, []) else Option.none := by
  refine read_or 52 (by decide) ?_ ?_
  · split <;> simp
  · rw [read_sign]
    simp [readPostfix, readFilters, ofWord]

/-- Likewise with a filter behind it. -/
theorem ahead?_filter (m f : String) :
    ahead? depth [.word "node", .symbol .dot, .word m, .symbol .pipe, .word f] =
      if depth < maxDepth then some (.filter (.member (.variable "node") m) f [] [], [])
      else Option.none := by
  refine read_or 76 (by decide) ?_ ?_
  · split <;> simp
  · rw [read_sign]
    simp [readPostfix, readFilters, ofWord]

end Expr

end Template

/-! ## Tags -/

namespace Directive

/-- The tokens of the engine's tag for a directive. -/
def tokens : Directive → List Token
  | .name none => [.word "node", .symbol .dot, .word "name"]
  | .name (some style) =>
    [.word "node", .symbol .dot, .word "name", .symbol .pipe, .word style.filterName]
  | .type => [.word "node", .symbol .dot, .word "type"]
  | .docType => [.word "node", .symbol .dot, .word "doc_type"]
  | .opening .properties =>
    [.word "for", .word "node", .word "in", .word "node", .symbol .dot, .word "properties"]
  | .opening .isArray => [.word "if", .word "node", .symbol .dot, .word "is_array"]
  | .opening .isObject => [.word "if", .word "node", .symbol .dot, .word "is_object"]
  | .closing .properties => [.word "endfor"]
  | .closing .isArray | .closing .isObject => [.word "endif"]
  | .opening .split | .closing .split => []

end Directive

namespace Placeholder

/-- The expression that the engine's tag for a directive holds. -/
def expr : Placeholder → Expr
  | .name none => .member (.variable "node") "name"
  | .name (some style) => .filter (.member (.variable "node") "name") style.filterName [] []
  | .type => .member (.variable "node") "type"
  | .docType => .member (.variable "node") "doc_type"

/-- The expression in a tag that prints one is read. -/
theorem ahead?_tokens (s : Placeholder) (depth : Nat) :
    Expr.ahead? depth s.directive.tokens =
      if depth < Expr.maxDepth then some (s.expr, []) else none := by
  cases s with
  | name style =>
    cases style with
    | none => exact Expr.ahead?_member "name"
    | some style => exact Expr.ahead?_filter "name" style.filterName
  | type => exact Expr.ahead?_member "type"
  | docType => exact Expr.ahead?_member "doc_type"

end Placeholder

namespace Region

/-- The element that the block becomes. -/
def element (body : List Element) : Region → Element
  | .properties => .loop "node" (.member (.variable "node") "properties") none body []
  | .isArray => .branch (.member (.variable "node") "is_array") body []
  | .isObject => .branch (.member (.variable "node") "is_object") body []

end Region

/-! ## Segments -/

namespace Template.Scan

/-- Text without marks is held. -/
theorem run_text {cs : List Char}
    (hplain : ∀ c ∈ ['\x7b', '%', '#'], occursPair '\x7b' c cs = false)
    (done : List Segment) {chars : List Char}
    (hchars : chars.head? = some '\x7b' → ∀ c ∈ cs.head?, opener? c = none) :
    run ⟨done, .text false chars⟩ cs = ⟨done, .text false (cs.reverse ++ chars)⟩ := by
  induction cs generalizing chars with
  | nil => rfl
  | cons c cs ih =>
    -- Only behind a brace could the character open a mark.
    have hstep : step ⟨done, .text false chars⟩ c = ⟨done, .text false (c :: chars)⟩ := by
      unfold step
      dsimp only
      split
      · next ho =>
        rw [hchars rfl c rfl] at ho
        cases ho
      · rfl
    -- A brace in the text is not followed by what would open a mark.
    have hbrace : (c :: chars).head? = some '\x7b' → ∀ d ∈ cs.head?, opener? d = none := by
      rintro ⟨rfl⟩ d hd
      cases cs with
      | nil => cases hd
      | cons d' cs =>
        obtain rfl := Option.some.inj hd
        have hne : ∀ c ∈ ['\x7b', '%', '#'], d' ≠ c := fun c hc => ne_of_occursPair (hplain c hc)
        simp only [List.forall_mem_cons] at hne
        simp [opener?, hne]
    rw [run, List.foldl_cons, hstep, ← run,
      ih (fun c' hc => occursPair_cons (hplain c' hc)) hbrace]
    simp

/-- A mark is opened unless a brace stands in front of it. -/
private theorem run_opener {c : Char} {o : Opener} (ho : opener? c = some o) (done : List Segment)
    {chars : List Char} (hchars : chars.head? ≠ some '\x7b') (cs : List Char) :
    run ⟨done, .text false chars⟩ ('\x7b' :: c :: cs) = run ⟨done, .opened o false chars⟩ cs := by
  -- The brace is held first, and taken back when the next character opens a mark with it.
  have hbrace : step ⟨done, .text false chars⟩ '\x7b' = ⟨done, .text false ('\x7b' :: chars)⟩ := by
    unfold step
    dsimp only
    split
    · exact absurd rfl hchars
    · rfl
  have hopened : step ⟨done, .text false ('\x7b' :: chars)⟩ c = ⟨done, .opened o false chars⟩ := by
    simp only [step, ho]
  rw [run, List.foldl_cons, List.foldl_cons, hbrace, hopened, run]

/-- A tag that prints an expression ends the text in front of it. -/
theorem run_placeholder (s : Placeholder) (done : List Segment) {chars : List Char}
    (hchars : chars.head? ≠ some '\x7b') :
    run ⟨done, .text false chars⟩ s.directive.tag =
      ⟨.output s.directive.tokens :: .text chars.reverse :: done, .text false []⟩ := by
  -- Behind the two braces the scanner runs through a fixed text.
  have htag : s.directive.tag = '\x7b' :: '\x7b' :: s.directive.tag.drop 2 := by
    cases s with
    | name style =>
      cases style with
      | none => rfl
      | some style => cases style <;> rfl
    | _ => rfl
  rw [htag, run_opener rfl done hchars]
  cases s with
  | name style =>
    cases style with
    | none => rfl
    | some style => cases style <;> rfl
  | _ => rfl

/-- A tag that opens or closes a block takes away the white space in front of it. -/
theorem run_opening (r : Region) (done : List Segment) {chars : List Char}
    (hchars : chars.head? ≠ some '\x7b') :
    run ⟨done, .text false chars⟩ (Directive.opening r.block).tag =
      ⟨.statement (Directive.opening r.block).tokens :: .text (trimEnd chars.reverse) :: done,
        .text false []⟩ := by
  have htag : (Directive.opening r.block).tag =
      '\x7b' :: '%' :: (Directive.opening r.block).tag.drop 2 := by
    cases r <;> rfl
  rw [htag, run_opener rfl done hchars]
  cases r <;> rfl

/-- Likewise for the tag that closes a block. -/
theorem run_closing (r : Region) (done : List Segment) {chars : List Char}
    (hchars : chars.head? ≠ some '\x7b') :
    run ⟨done, .text false chars⟩ (Directive.closing r.block).tag =
      ⟨.statement (Directive.closing r.block).tokens :: .text (trimEnd chars.reverse) :: done,
        .text false []⟩ := by
  have htag : (Directive.closing r.block).tag =
      '\x7b' :: '%' :: (Directive.closing r.block).tag.drop 2 := by
    cases r <;> rfl
  rw [htag, run_opener rfl done hchars]
  cases r <;> rfl

end Template.Scan

namespace Outline

/-- The segments of an outline, behind literal text that has not been put out yet. -/
def segmentsAfter (literal : List Char) (closes : Bool) : Outline → List Segment
  | .empty => [.text (if closes then trimEnd literal else literal)]
  | .literal text rest => rest.segmentsAfter (literal ++ text.chars) closes
  | .placeholder s _ rest =>
    .text literal :: .output s.directive.tokens :: rest.segmentsAfter [] closes
  | .block r _ body _ rest =>
    .text (trimEnd literal) :: .statement (Directive.opening r.block).tokens ::
      (body.segmentsAfter [] true ++
        .statement (Directive.closing r.block).tokens :: rest.segmentsAfter [] closes)

/-- Behind the expansion of an outline some literal text is held, which becomes the last segment. -/
theorem run_expansion (t : Outline) (done : List Segment) (literal : List Char)
    (hliteral : literal.getLast? ≠ some '\x7b') :
    ∃ done' last, last.getLast? ≠ some '\x7b' ∧
      Scan.run ⟨done, .text false literal.reverse⟩ t.expansion = ⟨done', .text false last.reverse⟩ ∧
      ∀ closes, (t.segmentsAfter literal closes).reverse ++ done =
        .text (if closes then trimEnd last else last) :: done' := by
  -- The scanner holds literal text until the next tag tells whether it is trimmed, so what is held
  -- goes through the induction.
  induction t generalizing done literal with
  | empty => exact ⟨done, literal, hliteral, rfl, fun _ => rfl⟩
  | literal text rest ih =>
    have hnext : (literal ++ text.chars).getLast? ≠ some '\x7b' := by
      rw [List.getLast?_append]
      cases hc : text.chars.getLast? with
      | none => simpa using hliteral
      | some c =>
        have := text.unopened
        simpa [hc] using this
    obtain ⟨done', last, hlast, hrun, hsegments⟩ := ih done _ hnext
    refine ⟨done', last, hlast, ?_, hsegments⟩
    -- What is held does not end in a brace, so no mark is opened where the texts meet.
    have hhead : literal.reverse.head? = some '\x7b' →
        ∀ c ∈ text.chars.head?, opener? c = none := by
      intro h
      rw [List.head?_reverse] at h
      exact absurd h hliteral
    rw [expansion, Scan.run_append, Scan.run_text text.unmarked done hhead, ← List.reverse_append,
      hrun]
  | placeholder s spelling rest ih =>
    have hhead : literal.reverse.head? ≠ some '\x7b' := by rwa [List.head?_reverse]
    obtain ⟨done', last, hlast, hrun, hsegments⟩ :=
      ih (.output s.directive.tokens :: .text literal :: done) [] (by simp)
    refine ⟨done', last, hlast, ?_, fun closes => ?_⟩
    · rw [expansion, Scan.run_append, Scan.run_placeholder s done hhead, List.reverse_reverse]
      exact hrun
    · rw [← hsegments closes, segmentsAfter]
      simp
  | block r opening body closing rest ihBody ihRest =>
    have hhead : literal.reverse.head? ≠ some '\x7b' := by rwa [List.head?_reverse]
    obtain ⟨doneBody, lastBody, hlastBody, hrunBody, hbody⟩ :=
      ihBody (.statement (Directive.opening r.block).tokens :: .text (trimEnd literal) :: done)
        [] (by simp)
    have hheadBody : lastBody.reverse.head? ≠ some '\x7b' := by rwa [List.head?_reverse]
    obtain ⟨done', last, hlast, hrun, hsegments⟩ :=
      ihRest (.statement (Directive.closing r.block).tokens :: .text (trimEnd lastBody) :: doneBody)
        [] (by simp)
    refine ⟨done', last, hlast, ?_, fun closes => ?_⟩
    · rw [expansion, Scan.run_append, Scan.run_opening r done hhead, List.reverse_reverse,
        Scan.run_append, ← List.reverse_nil, hrunBody, Scan.run_append,
        Scan.run_closing r doneBody hheadBody, List.reverse_reverse]
      exact hrun
    · -- The text behind the body stands in front of the closing tag, which trims it.
      have htrue := hbody true
      rw [if_pos rfl] at htrue
      rw [← hsegments closes, segmentsAfter, ← htrue]
      simp

/-- The segments of an expansion. -/
theorem segments?_expansion (t : Outline) :
    segments? t.expansion = some (t.segmentsAfter [] false) := by
  obtain ⟨done', last, -, hrun, hsegments⟩ := t.run_expansion [] [] (by simp)
  have hfalse := hsegments false
  -- At the end of the text what is held becomes the last segment, untrimmed.
  rw [List.append_nil] at hfalse
  have hreverse := congrArg List.reverse hfalse
  rw [List.reverse_reverse] at hreverse
  rw [List.reverse_nil] at hrun
  rw [segments?, Scan.initial, hrun, hreverse]
  simp [Scan.finish?, textOf]

end Outline

/-! ## Elements -/

namespace Template.Assembly

/-- Segments are added one after the other. -/
theorem run?_cons (a : Assembly) (s : Segment) (ss : List Segment) :
    a.run? (s :: ss) = (a.add? s).bind (·.run? ss) := rfl

/-- The depth of an assembly with these open blocks. -/
def depthOf (frames : List Frame) : Nat := depth ⟨frames, []⟩

theorem depth_mk (frames : List Frame) (es : List Element) :
    depth ⟨frames, es⟩ = depthOf frames := rfl

/-- Text is added in any block. -/
theorem add?_text (frames : List Frame) (es : List Element) (cs : List Char) :
    add? ⟨frames, es⟩ (.text cs) = some ⟨frames, .text cs :: es⟩ := rfl

/-- An expression is added unless blocks are nested too deep to read it. -/
theorem add?_placeholder (s : Placeholder) {frames : List Frame}
    (h : depthOf frames < Expr.maxDepth) (es : List Element) :
    add? ⟨frames, es⟩ (.output s.directive.tokens) = some ⟨frames, .output s.expr :: es⟩ := by
  simp only [add?, Expr.ofTokens?, s.ahead?_tokens, depth_mk, if_pos h, Option.map_some]
  rfl

end Template.Assembly

namespace Region

/-- The statement that opens the block. -/
def statement : Region → Statement
  | .properties => .loop "node" (.member (.variable "node") "properties") none
  | .isArray => .branch (.member (.variable "node") "is_array")
  | .isObject => .branch (.member (.variable "node") "is_object")

/-- The frame of the block while it is open. -/
def frame (before : List Element) : Region → Frame
  | .properties => .loop "node" (.member (.variable "node") "properties") none before
  | .isArray => .branch (.member (.variable "node") "is_array") before
  | .isObject => .branch (.member (.variable "node") "is_object") before

/-- An open block counts one level. -/
theorem depthOf_frame (r : Region) (before : List Element) (frames : List Frame) :
    Assembly.depthOf (r.frame before :: frames) = Assembly.depthOf frames + 1 := by
  cases r <;> rfl

/-- The statement that opens a block is read, unless nested too deep to read its expression. -/
theorem ofTokens?_opening (r : Region) (depth : Nat) :
    Statement.ofTokens? depth (Directive.opening r.block).tokens =
      if depth < Expr.maxDepth then some r.statement else none := by
  have hname : "node" ∉ Statement.reserved := by decide
  by_cases h : depth < Expr.maxDepth
  · cases r <;> simp [block, Directive.tokens, Statement.ofTokens?, Expr.ofTokens?,
      Expr.ahead?_member, Statement.loopAhead?, hname, h, statement]
  · cases r <;> simp [block, Directive.tokens, Statement.ofTokens?, Expr.ofTokens?,
      Expr.ahead?_member, Statement.loopAhead?, h]

/-- Opening a block takes one level for the block and one for its expression. -/
theorem add?_opening (r : Region) (frames : List Frame) (es : List Element) :
    Assembly.add? ⟨frames, es⟩ (.statement (Directive.opening r.block).tokens) =
      if Assembly.depthOf frames + 1 < Expr.maxDepth then some ⟨r.frame es :: frames, []⟩
      else none := by
  rw [Assembly.add?, ofTokens?_opening, Assembly.depth_mk]
  split
  · cases r <;> rfl
  · rfl

/-- All open blocks are regions, so that closing one closes no other. -/
def Encloses (frames : List Frame) : Prop :=
  ∀ f ∈ frames, ∃ (r : Region) (es : List Element), f = r.frame es

/-- Closing a branch closes no other block: none of them is the other side of a branch. -/
theorem closeChain_of_encloses {frames : List Frame} (h : Encloses frames) (es : List Element) :
    Assembly.closeChain es frames = ⟨frames, es⟩ := by
  cases frames with
  | nil => rfl
  | cons f frames =>
    obtain ⟨r, before, rfl⟩ := h f List.mem_cons_self
    cases r <;> rfl

/-- A closing tag closes the block that is open. -/
theorem add?_closing (r : Region) {frames : List Frame} (h : Encloses frames)
    (before es : List Element) :
    Assembly.add? ⟨r.frame before :: frames, es⟩ (.statement (Directive.closing r.block).tokens) =
      some ⟨frames, r.element es.reverse :: before⟩ := by
  cases r with
  | properties => rfl
  | isArray => exact congrArg some (closeChain_of_encloses h _)
  | isObject => exact congrArg some (closeChain_of_encloses h _)

end Region

namespace Outline

/-- The elements of an outline, behind literal text that has not been put out yet. -/
def elementsAfter (literal : List Char) (closes : Bool) : Outline → List Element
  | .empty => [.text (if closes then trimEnd literal else literal)]
  | .literal text rest => rest.elementsAfter (literal ++ text.chars) closes
  | .placeholder s _ rest => .text literal :: .output s.expr :: rest.elementsAfter [] closes
  | .block r _ body _ rest =>
    .text (trimEnd literal) :: r.element (body.elementsAfter [] true) ::
      rest.elementsAfter [] closes

/-- Putting the segments of an outline together succeeds iff blocks are not nested too deep. -/
theorem run?_segments (t : Outline) (literal : List Char) (closes : Bool) (frames : List Frame)
    (hframes : Region.Encloses frames) (h : Assembly.depthOf frames < Expr.maxDepth)
    (es : List Element) :
    Assembly.run? ⟨frames, es⟩ (t.segmentsAfter literal closes) =
      if Assembly.depthOf frames + t.nesting < Expr.maxDepth then
        some ⟨frames, (t.elementsAfter literal closes).reverse ++ es⟩
      else none := by
  induction t generalizing frames es literal closes with
  | empty => rw [nesting, Nat.add_zero, if_pos h]; rfl
  | literal text rest ih => exact ih _ _ _ hframes h es
  | placeholder s spelling rest ih =>
    rw [segmentsAfter, Assembly.run?_cons, Assembly.add?_text, Option.bind_some,
      Assembly.run?_cons, Assembly.add?_placeholder s h, Option.bind_some, ih _ _ _ hframes h]
    simp [elementsAfter, nesting]
  | block r opening body closing rest ihBody ihRest =>
    rw [segmentsAfter, Assembly.run?_cons, Assembly.add?_text, Option.bind_some,
      Assembly.run?_cons, r.add?_opening, nesting]
    have hdepth := r.depthOf_frame (.text (trimEnd literal) :: es) frames
    -- It can fail at the opening, in the body, or behind the block.
    by_cases hopen : Assembly.depthOf frames + 1 < Expr.maxDepth
    · have hframes' : Region.Encloses (r.frame (.text (trimEnd literal) :: es) :: frames) :=
        List.forall_mem_cons.2 ⟨⟨r, _, rfl⟩, hframes⟩
      rw [if_pos hopen, Option.bind_some, Assembly.run_append,
        ihBody _ _ _ hframes' (by rwa [hdepth]), hdepth]
      by_cases hbody : Assembly.depthOf frames + 1 + body.nesting < Expr.maxDepth
      · rw [if_pos hbody, Option.bind_some, Assembly.run?_cons, r.add?_closing hframes,
          Option.bind_some, ihRest _ _ _ hframes h]
        by_cases hrest : Assembly.depthOf frames + rest.nesting < Expr.maxDepth
        · rw [if_pos hrest, if_pos (by omega)]
          simp [elementsAfter]
        · rw [if_neg hrest, if_neg (by omega)]
      · rw [if_neg hbody, if_neg (by omega)]
        rfl
    · rw [if_neg hopen, if_neg (by omega)]
      rfl

/-- The elements of an expansion. -/
theorem elements?_expansion (t : Outline) :
    elements? t.expansion =
      if t.nesting < Expr.maxDepth then some (t.elementsAfter [] false) else none := by
  have hzero : Assembly.depthOf [] = 0 := rfl
  have hrun := t.run?_segments [] false [] (by simp [Region.Encloses]) (by decide) []
  rw [hzero, Nat.zero_add] at hrun
  rw [elements?, segments?_expansion, Option.bind_some, Assembly.empty, hrun]
  -- At the end no block is open.
  split
  · simp [Assembly.finish?]
  · rfl

end Outline
end Stencil
