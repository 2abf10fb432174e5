import Stencil.Proofs.Format.SmallTemplates

/-!
# Small templates that are text

A small template in which nothing opens an output or a statement is taken as it is, without asking
the template engine. Comments are the third kind of mark that the engine knows, and it puts none of
them out. So the shortcut agrees with the engine exactly on texts in which nothing opens a comment
either.

The engine's reading is followed by what it holds: in a text with comments at most, every character
that is read adds no more than itself to the text that is held, and what opens a comment adds
nothing.

## Key results

- `Template.Scan.textOnly_run`: reading a text with comments at most
- `Template.render_of_texts`: what is read as text is rendered as it is
- `renderCompiled_of_comment`: a text with a comment fails in the engine, or gets shorter
- `renderInline_passthrough`: when the shortcut agrees with the engine
-/

namespace Stencil

open Template
open Text (trimStart trimEnd)

/-- Neither an output nor a statement is opened. -/
theorem mayHoldMarks_eq_false_iff {cs : List Char} :
    mayHoldMarks cs = false ↔
      occursPair '\x7b' '\x7b' cs = false ∧ occursPair '\x7b' '%' cs = false :=
  Bool.or_eq_false_iff

/-- Nothing is opened behind the first character either. -/
theorem mayHoldMarks_cons {c : Char} {cs : List Char} (h : mayHoldMarks (c :: cs) = false) :
    mayHoldMarks cs = false := by
  rw [mayHoldMarks_eq_false_iff] at h ⊢
  exact ⟨occursPair_cons h.1, occursPair_cons h.2⟩

/-- Nor in the last part of the text. -/
theorem mayHoldMarks_of_append {xs ys : List Char} (h : mayHoldMarks (xs ++ ys) = false) :
    mayHoldMarks ys = false := by
  induction xs with
  | nil => exact h
  | cons x xs ih => exact ih (mayHoldMarks_cons h)

/-- A pair that occurs in a text stands somewhere in it. -/
theorem exists_of_occursPair {a b : Char} {cs : List Char} (h : occursPair a b cs = true) :
    ∃ xs ys, cs = xs ++ a :: b :: ys := by
  induction cs with
  | nil => cases h
  | cons c cs ih =>
    cases cs with
    | nil => cases h
    | cons d cs =>
      rw [occursPair, Bool.or_eq_true, Bool.and_eq_true, decide_eq_true_eq, decide_eq_true_eq] at h
      rcases h with ⟨rfl, rfl⟩ | h
      · exact ⟨[], cs, rfl⟩
      · obtain ⟨xs, ys, hxs⟩ := ih h
        exact ⟨c :: xs, ys, by rw [hxs, List.cons_append]⟩

/-! ## Reading -/

namespace Template

/-- The text that the segment puts out as it is. -/
def Segment.literal : Segment → List Char
  | .text cs => cs
  | .output _ | .statement _ => []

/-- The number of characters that are held as text. -/
def Mode.size : Mode → Nat
  | .text _ chars | .opened _ _ chars => chars.length
  | .comment _ | .mark _ | .raw _ _ | .failed => 0

/-- What is being read, in front of `cs`, is text or a comment, and no other mark is opened next. -/
inductive Mode.TextOnly : Mode → List Char → Prop
  | text {strip : Bool} {chars cs : List Char}
    (h : chars.head? = some '\x7b' → ∀ c ∈ cs.head?, c ≠ '\x7b' ∧ c ≠ '%') :
    TextOnly (.text strip chars) cs
  | opened {strip : Bool} {chars cs : List Char} : TextOnly (.opened .comment strip chars) cs
  | comment {chars cs : List Char} : TextOnly (.comment chars) cs

namespace Scan

/-- The number of characters that have been read as text. -/
def size (s : Scan) : Nat := (s.done.flatMap Segment.literal).length + s.mode.size

/-- Nothing but text and comments has been read, in front of `cs`. -/
structure TextOnly (s : Scan) (cs : List Char) : Prop where
  done : ∃ texts : List (List Char), s.done = texts.map .text
  mode : s.mode.TextOnly cs

/-- Taking white space away makes a text no longer. -/
theorem length_textOf_le (stripFront stripBack : Bool) (chars : List Char) :
    (textOf stripFront stripBack chars).length ≤ chars.length := by
  have hstart : ∀ cs : List Char, (trimStart cs).length ≤ cs.length :=
    fun cs => (List.dropWhile_sublist _).length_le
  have hend : ∀ cs : List Char, (trimEnd cs).length ≤ cs.length := by
    intro cs
    rw [trimEnd, List.length_reverse, ← cs.length_reverse]
    exact (List.dropWhile_sublist _).length_le
  have hreverse := chars.length_reverse
  have hfront := hstart chars.reverse
  -- It may be taken away at either end, at both, or at none.
  cases stripFront <;> cases stripBack <;> simp only [textOf, if_true, Bool.false_eq_true, if_false]
  · omega
  · have := hend chars.reverse
    omega
  · omega
  · have := hend (trimStart chars.reverse)
    omega

/-- The text in front of a comment is put out, perhaps without the white space at its ends. -/
theorem step_opened_comment (done : List Segment) (strip : Bool) (chars : List Char) (c : Char) :
    ∃ text inside, step ⟨done, .opened .comment strip chars⟩ c =
      ⟨.text text :: done, .comment inside⟩ ∧ text.length ≤ chars.length := by
  unfold step
  dsimp only
  -- The first character may ask for stripping, or be a part of the comment.
  split
  · exact ⟨_, _, rfl, length_textOf_le _ _ _⟩
  · split
    · exact ⟨_, _, rfl, length_textOf_le _ _ _⟩
    · exact ⟨_, _, rfl, length_textOf_le _ _ _⟩

/-- A character adds no more than itself to the text that is held. -/
theorem textOnly_step {s : Scan} {c : Char} {cs : List Char} (hcs : mayHoldMarks (c :: cs) = false)
    (h : s.TextOnly (c :: cs)) : (s.step c).TextOnly cs ∧ (s.step c).size ≤ s.size + 1 := by
  obtain ⟨done, mode⟩ := s
  obtain ⟨⟨texts, rfl⟩, hmode⟩ := h
  cases hmode with
  | @text strip chars _ hbrace =>
    unfold step
    dsimp only
    split
    · next before o ho =>
      -- Only a comment can be opened here.
      obtain ⟨houtput, hstatement⟩ := hbrace rfl c rfl
      obtain rfl : o = .comment := by
        unfold opener? at ho
        split at ho
        · exact absurd rfl houtput
        · exact absurd rfl hstatement
        · exact (Option.some.inj ho).symm
        · cases ho
      refine ⟨⟨⟨texts, rfl⟩, .opened⟩, ?_⟩
      simp only [size, Mode.size, List.length_cons]
      omega
    · -- The character is held; if it is a brace, no mark follows it.
      refine ⟨⟨⟨texts, rfl⟩, .text ?_⟩, ?_⟩
      · rintro ⟨rfl⟩ d hd
        obtain ⟨cs, rfl⟩ := List.head?_eq_some_iff.1 hd
        obtain ⟨houtput, hstatement⟩ := mayHoldMarks_eq_false_iff.1 hcs
        exact ⟨ne_of_occursPair houtput, ne_of_occursPair hstatement⟩
      · simp only [size, Mode.size, List.length_cons]
        omega
  | @opened strip chars _ =>
    obtain ⟨text, inside, hstep, hlength⟩ :=
      step_opened_comment (texts.map .text) strip chars c
    rw [hstep]
    -- The text in front of the comment is put out, so nothing is held any more.
    refine ⟨⟨⟨text :: texts, rfl⟩, .comment⟩, ?_⟩
    simp only [size, Mode.size, Segment.literal, List.flatMap_cons, List.length_append]
    omega
  | @comment chars _ =>
    unfold step
    dsimp only
    split
    · -- The comment ends here, or goes on.
      refine ⟨⟨⟨texts, rfl⟩, .text nofun⟩, ?_⟩
      simp [size, Mode.size]
    · refine ⟨⟨⟨texts, rfl⟩, .comment⟩, ?_⟩
      simp [size, Mode.size]

/-- Reading a text adds no more than its characters to the text that is held. -/
theorem textOnly_run {s : Scan} {xs cs : List Char} (hcs : mayHoldMarks (xs ++ cs) = false)
    (h : s.TextOnly (xs ++ cs)) :
    (s.run xs).TextOnly cs ∧ (s.run xs).size ≤ s.size + xs.length := by
  -- One character after the other, each from where the one before has led.
  induction xs generalizing s with
  | nil => exact ⟨h, Nat.le_add_right _ _⟩
  | cons x xs ih =>
    obtain ⟨hstep, hsize⟩ := textOnly_step hcs h
    obtain ⟨hrun, hlength⟩ := ih (mayHoldMarks_cons hcs) hstep
    refine ⟨hrun, ?_⟩
    rw [run, List.foldl_cons, ← run, List.length_cons]
    omega

/-- A comment goes on until a closing brace. -/
theorem step_comment {c : Char} (hc : c ≠ '\x7d') (done : List Segment) (chars : List Char) :
    step ⟨done, .comment chars⟩ c = ⟨done, .comment (c :: chars)⟩ := by
  unfold step
  dsimp only
  split
  · exact absurd rfl hc
  · rfl

/-- What opens a comment adds nothing to the text that is held, not even within a comment. -/
theorem size_step_step_le {s : Scan} {cs : List Char} (h : s.TextOnly ('\x7b' :: '#' :: cs)) :
    ((s.step '\x7b').step '#').size ≤ s.size := by
  obtain ⟨done, mode⟩ := s
  obtain ⟨-, hmode⟩ := h
  cases hmode with
  | @text strip chars _ hbrace =>
    -- A brace in front would have opened an output.
    have hchars : ∀ before, chars ≠ '\x7b' :: before := by
      rintro before rfl
      exact (hbrace rfl '\x7b' rfl).1 rfl
    have hheld : step ⟨done, .text strip chars⟩ '\x7b' =
        ⟨done, .text strip ('\x7b' :: chars)⟩ := by
      unfold step
      dsimp only
      split
      · next before o _ => exact absurd rfl (hchars before)
      · rfl
    rw [hheld]
    exact Nat.le_refl _
  | @opened strip chars _ =>
    obtain ⟨text, inside, hstep, hlength⟩ := step_opened_comment done strip chars '\x7b'
    -- Inside of a comment both characters are left out.
    rw [hstep, step_comment (by decide)]
    simp only [size, Mode.size, Segment.literal, List.flatMap_cons, List.length_append]
    omega
  | comment =>
    rw [step_comment (by decide), step_comment (by decide)]
    exact Nat.le_refl _

/-- In the beginning nothing has been read. -/
theorem textOnly_initial (cs : List Char) : initial.TextOnly cs :=
  ⟨⟨[], rfl⟩, .text nofun⟩

/-- At the end, everything that was held has become text, unless a comment is left open. -/
theorem exists_texts_of_finish? {s : Scan} (h : s.TextOnly []) {segments : List Segment}
    (hsegments : s.finish? = some segments) :
    ∃ texts : List (List Char), segments = texts.map .text ∧ texts.flatten.length ≤ s.size := by
  obtain ⟨done, mode⟩ := s
  obtain ⟨⟨texts, rfl⟩, hmode⟩ := h
  cases hmode with
  | @text strip chars _ _ =>
    obtain rfl := Option.some.inj hsegments
    refine ⟨(textOf strip false chars :: texts).reverse, ?_, ?_⟩
    · rw [List.map_reverse, List.map_cons]
    · have hlength := length_textOf_le strip false chars
      have hdone : (texts.map Segment.text).flatMap Segment.literal = texts.flatten := by
        rw [List.flatMap_map]
        exact List.flatMap_id
      -- The texts are put out in reverse, which does not change how long they are.
      rw [(List.reverse_perm _).flatten.length_eq, List.flatten_cons, List.length_append]
      simp only [size, Mode.size, hdone]
      omega
  | opened => cases hsegments
  | comment => cases hsegments

end Scan

/-- The segments of a text with a comment, and no other marks, are shorter texts. -/
theorem exists_texts_of_comment {cs : List Char} (hcs : mayHoldMarks cs = false)
    (hcomment : occursPair '\x7b' '#' cs = true) {segments : List Segment}
    (h : segments? cs = some segments) :
    ∃ texts : List (List Char), segments = texts.map .text ∧ texts.flatten.length < cs.length := by
  -- Read the text in front of the mark, the two characters of the mark, and the text behind it.
  obtain ⟨xs, ys, rfl⟩ := exists_of_occursPair hcomment
  obtain ⟨hfront, hsizeFront⟩ := Scan.textOnly_run hcs (Scan.textOnly_initial _)
  have hmark := mayHoldMarks_of_append hcs
  obtain ⟨hbrace, -⟩ := Scan.textOnly_step hmark hfront
  obtain ⟨hopened, -⟩ := Scan.textOnly_step (mayHoldMarks_cons hmark) hbrace
  have hsizeMark := Scan.size_step_step_le hfront
  have hbehind : mayHoldMarks (ys ++ []) = false := by
    rw [List.append_nil]
    exact mayHoldMarks_cons (mayHoldMarks_cons hmark)
  rw [← List.append_nil ys] at hopened
  obtain ⟨hend, hsizeEnd⟩ := Scan.textOnly_run hbehind hopened
  rw [segments?, Scan.run_append] at h
  obtain ⟨texts, htexts, hlength⟩ := Scan.exists_texts_of_finish? hend h
  refine ⟨texts, htexts, ?_⟩
  -- Nothing is held in the beginning, and the two characters of the mark add nothing.
  have hinitial : Scan.initial.size = 0 := rfl
  rw [List.length_append, List.length_cons, List.length_cons]
  omega

/-- A text without marks is one segment. -/
theorem segments?_of_plain {cs : List Char} (hcs : mayHoldMarks cs = false)
    (hcomment : occursPair '\x7b' '#' cs = false) : segments? cs = some [.text cs] := by
  obtain ⟨houtput, hstatement⟩ := mayHoldMarks_eq_false_iff.1 hcs
  have hplain : ∀ c ∈ ['\x7b', '%', '#'], occursPair '\x7b' c cs = false := by
    simp [houtput, hstatement, hcomment]
  have hrun : Scan.run ⟨[], .text false []⟩ cs = ⟨[], .text false (cs.reverse ++ [])⟩ :=
    Scan.run_text hplain [] nofun
  rw [segments?, Scan.initial, hrun]
  simp [Scan.finish?, textOf]

/-! ## Rendering -/

/-- Texts are put together as they are. -/
theorem Assembly.run?_texts (frames : List Frame) (es : List Element) (texts : List (List Char)) :
    Assembly.run? ⟨frames, es⟩ (texts.map .text) =
      some ⟨frames, (texts.map Element.text).reverse ++ es⟩ := by
  induction texts generalizing es with
  | nil => rfl
  | cons text texts ih =>
    rw [List.map_cons, Assembly.run?_cons, Assembly.add?_text, Option.bind_some, ih, List.map_cons,
      List.reverse_cons, List.append_assoc, List.singleton_append]

/-- Texts are rendered one behind the other. -/
theorem runAll_texts (scope : Scope) (texts : List (List Char)) :
    runAll scope (texts.map .text) = .ok (scope, texts.flatten) := by
  induction texts with
  | nil => rw [List.map_nil, runAll_nil, List.flatten_nil]
  | cons text texts ih => exact runAll_cons (run_text scope text) ih

/-- What is read as text is rendered as it is. -/
theorem render_of_texts {cs : List Char} {texts : List (List Char)}
    (h : segments? cs = some (texts.map .text)) (values : List (String × Value)) :
    render values cs = .ok texts.flatten := by
  -- Nothing is opened, so nothing is left open at the end.
  have helements : elements? cs = some (texts.map .text) := by
    rw [elements?, h, Option.bind_some, Assembly.empty, Assembly.run?_texts, Option.bind_some]
    simp [Assembly.finish?]
  rw [render, helements]
  dsimp only
  rw [runAll_texts]
  rfl

end Template

/-! ## The shortcut -/

/-- Text without two braces in a row is its own expansion. -/
theorem compile_of_mayHoldMarks {cs : List Char} (h : mayHoldMarks cs = false) :
    compile cs = .ok cs := by
  refine compile_eq_ok_iff.2 ⟨imbalance?_of_mayHoldMarks h, ?_⟩
  rw [expand, pieces_of_occursPair (mayHoldMarks_eq_false_iff.1 h).1, List.flatMap_map]
  exact (List.flatMap_singleton' cs).symm

/-- Compile a small template and have the template engine render it, whatever it holds. -/
def renderCompiled (name source : String) (view : View) : Except Problem String := do
  let expanded ← (compile source.toList).mapError .unbalanced
  renderSource name expanded view

/-- If nothing is opened, there is nothing to expand. -/
theorem renderCompiled_of_mayHoldMarks {source : String} (h : mayHoldMarks source.toList = false)
    (name : String) (view : View) :
    renderCompiled name source view = renderSource name source.toList view := by
  rw [renderCompiled, compile_of_mayHoldMarks h]
  rfl

/-- A text with a comment, and no other marks, fails in the engine or gets shorter. -/
theorem renderCompiled_of_comment {source : String} (h : mayHoldMarks source.toList = false)
    (hcomment : occursPair '\x7b' '#' source.toList = true) (name : String) (view : View) :
    renderCompiled name source view = .error (.unrenderable name .malformed) ∨
      ∃ out, renderCompiled name source view = .ok out ∧ out.length < source.length := by
  rw [renderCompiled_of_mayHoldMarks h, renderSource]
  -- The comment is left open at the end, or it is left out.
  cases hsegments : segments? source.toList with
  | none =>
    left
    rw [render, elements?, hsegments]
    rfl
  | some segments =>
    right
    obtain ⟨texts, rfl, hlength⟩ := exists_texts_of_comment h hcomment hsegments
    rw [render_of_texts hsegments]
    refine ⟨String.ofList texts.flatten, rfl, ?_⟩
    rw [String.length_ofList, ← String.length_toList]
    exact hlength

/-- A small template in which nothing opens an output or a statement is taken as it is. That is what
the template engine makes of it exactly if nothing opens a comment in it either. -/
theorem renderInline_passthrough {source : String} (h : mayHoldMarks source.toList = false)
    (name : String) (view : View) :
    renderInline name source view = .ok source ∧
      (renderCompiled name source view = .ok source ↔
        occursPair '\x7b' '#' source.toList = false) := by
  refine ⟨renderInline_plain h name view, ?_⟩
  -- With a comment, the engine fails or gives a shorter text, so it does not give this one.
  cases hcomment : occursPair '\x7b' '#' source.toList with
  | false =>
    have htexts : segments? source.toList = some ([source.toList].map .text) :=
      segments?_of_plain h hcomment
    rw [renderCompiled_of_mayHoldMarks h, renderSource, render_of_texts htexts]
    simp
  | true =>
    refine iff_of_false (fun heq => ?_) Bool.true_eq_false.mp
    rcases renderCompiled_of_comment h hcomment name view with herror | ⟨out, hout, hlength⟩
    · rw [herror] at heq
      cases heq
    · rw [hout] at heq
      obtain rfl := Except.ok.inj heq
      exact absurd hlength (Nat.lt_irrefl _)

/-- Lone braces, the ends of marks and white space at the end are no marks. -/
theorem renderInline_passthrough_braces :
    let s := "map[\x7b ] \x7d\x7d %\x7d #\x7d \x7b\n"
    let view := View.shallow { key := "k", tag := .int }
    renderInline "t" s view = .ok s ∧ renderCompiled "t" s view = .ok s := by
  intro s view
  have hplain : mayHoldMarks s.toList = false := by decide
  obtain ⟨hinline, hcompiled⟩ := renderInline_passthrough hplain "t" view
  exact ⟨hinline, hcompiled.2 (by decide)⟩

/-- A comment is kept by the shortcut, and left out by the engine. -/
theorem renderInline_passthrough_comment :
    let s := "\x7b# c #\x7dx"
    let view := View.shallow { key := "k", tag := .int }
    mayHoldMarks s.toList = false ∧ renderInline "t" s view = .ok s ∧
      renderCompiled "t" s view = .ok "x" := by
  intro s view
  have hplain : mayHoldMarks s.toList = false := by decide
  have hsegments : segments? s.toList = some ([[], ['x']].map .text) := by decide +kernel
  refine ⟨hplain, renderInline_plain hplain "t" view, ?_⟩
  rw [renderCompiled_of_mayHoldMarks hplain, renderSource, render_of_texts hsegments]
  rfl

end Stencil
