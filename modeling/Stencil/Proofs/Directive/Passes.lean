import Stencil.Proofs.Directive.Cutting

/-!
# Expanding one directive after the other

Directives can be replaced in passes, each of which looks for one directive in what the passes
before it have left. A tag of the template engine neither holds a directive nor becomes part of one,
whatever stands around it, so a pass keeps the cut at all other directives. Hence the passes may
come in any order, and together they do what `expand` does in one go.

## Key results

- `replaceOne_eq`: a pass replaces what cutting at all directives finds
- `pieces_expandInTurn`: the cut after some passes
- `expand_at_once`: passes for all directives, in any order, are one expansion
-/

namespace Stencil

/-! ## One pass -/

/-- A text in which another stands in place of a directive, wherever it is found from left to right.
The first characters, `skip` of them, belong to a place that has been replaced. -/
def replaceFrom (d : Directive) (text : List Char) (skip : Nat) : List Char → List Char
  | [] => []
  | c :: cs =>
    match skip with
    | n + 1 => replaceFrom d text n cs
    | 0 =>
      match d.width? (c :: cs) with
      | some n => text ++ replaceFrom d text (n - 1) cs
      | none => c :: replaceFrom d text 0 cs

/-- A text in which another stands in place of a directive; other directives are not looked for. -/
def replaceOne (d : Directive) (text cs : List Char) : List Char := replaceFrom d text 0 cs

variable {d : Directive} {text : List Char}

/-- The characters to skip are the ones in front of the text that the pass goes on with. -/
theorem replaceFrom_eq_drop (skip : Nat) (cs : List Char) :
    replaceFrom d text skip cs = replaceOne d text (cs.drop skip) := by
  induction cs generalizing skip with
  | nil => simp [replaceOne, replaceFrom]
  | cons c cs ih =>
    cases skip with
    | zero => rfl
    | succ n => rw [replaceFrom, ih, List.drop_succ_cons]

/-- A pass replaces the directive if the text starts with it, and else keeps the first character. -/
theorem replaceOne_cons (c : Char) (cs : List Char) :
    replaceOne d text (c :: cs) =
      match d.width? (c :: cs) with
      | some n => text ++ replaceOne d text ((c :: cs).drop n)
      | none => c :: replaceOne d text cs := by
  rw [replaceOne, replaceFrom]
  split
  · next n h =>
    -- A directive is at least one character wide, so skipping the rest of it drops the whole of it.
    obtain ⟨m, rfl⟩ := Nat.exists_eq_add_of_lt (Directive.width?_pos h)
    simp [replaceFrom_eq_drop]
  · rfl

/-- A text does not start with a directive iff it starts with none of its spellings. -/
theorem Directive.width?_eq_none_iff {cs : List Char} :
    d.width? cs = none ↔ ∀ w : Spelling d, ¬w.source <+: cs := by
  constructor
  · rintro h w ⟨rest, rfl⟩
    rw [width?_spelling] at h
    cases h
  · intro h
    cases hw : d.width? cs with
    | none => rfl
    | some n =>
      obtain ⟨w, rest, hrest⟩ := exists_spelling_of_width? hw
      exact absurd ⟨rest, hrest⟩ (h w)

/-- A character that the directive does not start at is kept. -/
theorem replaceOne_cons_of_absent {c : Char} {cs : List Char}
    (h : ∀ w : Spelling d, ¬w.source <+: c :: cs) :
    replaceOne d text (c :: cs) = c :: replaceOne d text cs := by
  rw [replaceOne_cons, Directive.width?_eq_none_iff.2 h]

/-- The directive is replaced together with the line break that it takes along. -/
theorem replaceOne_spelling (w : Spelling d) {l rest : List Char}
    (hl : d.lineBreak (l ++ rest) = l) :
    replaceOne d text (w.source ++ l ++ rest) = text ++ replaceOne d text rest := by
  have hwidth := Directive.width?_spelling w (l ++ rest)
  rw [hl, ← List.append_assoc] at hwidth
  -- The pass is described by the first character of the text, which is a brace.
  have hcons : w.source ++ l ++ rest = '\x7b' :: ('\x7b' :: w.inside ++ l ++ rest) := rfl
  rw [hcons] at hwidth ⊢
  rw [replaceOne_cons, hwidth, ← hcons]
  dsimp only
  rw [List.drop_left]

/-- Text without braces is passed over. -/
theorem replaceOne_append_of_not_mem {xs : List Char} (h : '\x7b' ∉ xs) (ys : List Char) :
    replaceOne d text (xs ++ ys) = xs ++ replaceOne d text ys := by
  induction xs with
  | nil => rfl
  | cons x xs ih =>
    rw [List.mem_cons, not_or] at h
    rw [List.cons_append, replaceOne_cons_of_absent, ih h.2, List.cons_append]
    intro w hw
    exact h.1 (List.cons_prefix_cons.1 hw).1

/-- Other directives are passed over as a whole. -/
theorem replaceOne_other {e : Directive} (hne : d ≠ e) (w : Spelling e) {l : List Char}
    (hl : '\x7b' ∉ l) (rest : List Char) :
    replaceOne d text (w.source ++ l ++ rest) = w.source ++ l ++ replaceOne d text rest := by
  have hbrace : '\x7b' ∉ w.inside ++ l := by
    rw [List.mem_append, not_or]
    exact ⟨w.not_mem_inside (.inl rfl), hl⟩
  have hcons : ∀ xs : List Char, w.source ++ l ++ xs = '\x7b' :: '\x7b' :: (w.inside ++ l ++ xs) :=
    fun xs => by simp [Spelling.source]
  -- Pass over the two braces, and then over a text without any.
  rw [hcons, replaceOne_cons_of_absent, replaceOne_cons_of_absent,
    replaceOne_append_of_not_mem hbrace, hcons]
  · -- A brace stands inside of no directive.
    intro v hv
    have hsecond := (List.cons_prefix_cons.1 hv).2
    cases hin : w.inside with
    | nil => simp [Spelling.inside] at hin
    | cons i inside =>
      rw [hin] at hsecond hbrace
      exact hbrace ((List.cons_prefix_cons.1 hsecond).1 ▸ List.mem_cons_self)
  · -- The first brace starts the other directive, so it starts no spelling of this one.
    rintro v ⟨more, hmore⟩
    rw [← hcons, List.append_assoc] at hmore
    have hwidth := Directive.width?_spelling v more
    rw [hmore] at hwidth
    exact hne (Directive.eq_of_width? w hwidth)

/-- A pass for a directive replaces it where cutting at all directives finds it. -/
theorem replaceOne_eq (d : Directive) (text cs : List Char) :
    replaceOne d text cs = replaceDirective d text cs := by
  -- By induction on the cut: the pass goes through the text piece by piece.
  have hcut : ∀ ps, IsCut ps → replaceOne d text (sourceOf ps) =
      ps.flatMap fun p => if p.is d then text else p.source := by
    intro ps h
    induction h with
    | nil => rfl
    | @char c ps h rest ih =>
      change replaceOne d text (c :: sourceOf ps) = _
      rw [replaceOne_cons_of_absent (h d), ih]
      rfl
    | @directive e w l ps hl rest ih =>
      change replaceOne d text (w.source ++ l ++ sourceOf ps) = _
      rw [List.flatMap_cons, ← ih]
      by_cases hde : d = e
      · subst hde
        rw [replaceOne_spelling w hl]
        simp [Piece.is]
      · rw [replaceOne_other hde w (hl ▸ e.not_mem_lineBreak _)]
        simp [Piece.is, hde, Piece.source]
  have h := hcut (pieces cs) (isCut_pieces cs)
  rwa [source_pieces] at h

/-! ## Expanding some directives -/

/-- A piece with the engine's tag in place of its directive, if that is one of some directives. -/
def Piece.expandOnly (which : Directive → Bool) : Piece → List Piece
  | .char c => [.char c]
  | .directive d s => if which d then d.tag.map .char else [.directive d s]

variable {which : Directive → Bool}

/-- Characters are not expanded. -/
theorem flatMap_expandOnly_chars (which : Directive → Bool) (cs : List Char) :
    (cs.map Piece.char).flatMap (Piece.expandOnly which) = cs.map .char := by
  rw [List.flatMap_map]
  exact (List.map_eq_flatMap).symm

theorem flatMap_expandOnly_char (which : Directive → Bool) (c : Char) (ps : List Piece) :
    (Piece.char c :: ps).flatMap (Piece.expandOnly which) =
      .char c :: ps.flatMap (Piece.expandOnly which) := rfl

/-- A directive in front is replaced by its tag, if it is among those to expand. -/
theorem flatMap_expandOnly_directive (which : Directive → Bool) (d : Directive) (s : List Char)
    (ps : List Piece) :
    (Piece.directive d s :: ps).flatMap (Piece.expandOnly which) =
      if which d then d.tag.map .char ++ ps.flatMap (Piece.expandOnly which)
      else .directive d s :: ps.flatMap (Piece.expandOnly which) := by
  rw [List.flatMap_cons, Piece.expandOnly]
  split <;> rfl

/-- Expanding none of the directives changes nothing. -/
theorem flatMap_expandOnly_none (hnone : ∀ d, which d = false) (ps : List Piece) :
    ps.flatMap (Piece.expandOnly which) = ps := by
  induction ps with
  | nil => rfl
  | cons p ps ih =>
    cases p with
    | char c => rw [flatMap_expandOnly_char, ih]
    | directive d s => rw [flatMap_expandOnly_directive, hnone, if_neg Bool.false_ne_true, ih]

/-- Expanding some directives and then some more. -/
theorem flatMap_expandOnly (which more : Directive → Bool) (ps : List Piece) :
    (ps.flatMap (Piece.expandOnly which)).flatMap (Piece.expandOnly more) =
      ps.flatMap (Piece.expandOnly fun d => which d || more d) := by
  rw [List.flatMap_assoc]
  congr 1
  funext p
  cases p with
  | char c => rfl
  | directive d s =>
    -- Expanded the first time, a directive is a row of characters the second time.
    by_cases h : which d = true
    · simp [Piece.expandOnly, h, flatMap_expandOnly_chars]
    · simp [Piece.expandOnly, h]

/-- A tag starts like a mark of the template engine. -/
theorem startsMark_tag (hd : d.isSplit = false) (rest : List Char) :
    StartsMark (d.tag ++ rest) := by
  obtain ⟨hhead, -⟩ := tag_shape hd
  rcases hhead with h | h
  · rw [← List.take_append_drop 5 d.tag, h]
    exact ⟨_, _, .inl rfl, rfl⟩
  · rw [← List.take_append_drop 2 d.tag, h]
    exact ⟨_, _, .inr rfl, rfl⟩

/-- Expanding changes nothing in front of the first directive, where a mark still starts. -/
theorem IsCut.exists_front {ps : List Piece} (h : IsCut ps)
    (hwhich : ∀ d, which d = true → d.isSplit = false) :
    ∃ front old new, sourceOf ps = front ++ old ∧
      sourceOf (ps.flatMap (Piece.expandOnly which)) = front ++ new ∧
      (new = [] ∨ StartsMark new) := by
  induction h with
  | nil => exact ⟨[], [], [], rfl, rfl, .inl rfl⟩
  | @char c ps h rest ih =>
    obtain ⟨front, old, new, hold, hnew, hmark⟩ := ih
    exact ⟨c :: front, old, new, congrArg (c :: ·) hold, congrArg (c :: ·) hnew, hmark⟩
  | @directive d w l ps hl rest ih =>
    refine ⟨[], _, sourceOf _, rfl, rfl, .inr ?_⟩
    rw [flatMap_expandOnly_directive]
    -- Expanded or not, what stands in place of the first directive starts a mark.
    split
    · next hd =>
      rw [sourceOf_append, sourceOf_map_char]
      exact startsMark_tag (hwhich d hd) _
    · rw [sourceOf_cons, Piece.source, List.append_assoc]
      exact Directive.startsMark_spelling w _

/-- Expanding keeps the cut at all other directives: a tag neither holds a directive nor becomes part
of one. -/
theorem IsCut.expandOnly {ps : List Piece} (h : IsCut ps)
    (hwhich : ∀ d, which d = true → d.isSplit = false) :
    IsCut (ps.flatMap (Piece.expandOnly which)) := by
  induction h with
  | nil => exact .nil
  | @char c ps h rest ih =>
    rw [flatMap_expandOnly_char]
    -- A directive that started at this character would end in front of the first mark, where
    -- nothing has changed, so it would have started there before.
    refine .char (fun d w hw => ?_) ih
    obtain ⟨front, old, new, hold, hnew, hmark⟩ := rest.exists_front hwhich
    rw [hnew, ← List.cons_append] at hw
    have hfront : w.source <+: c :: front := by
      rcases hmark with rfl | hmark
      · rwa [List.append_nil] at hw
      · exact d.prefix_of_startsMark w (List.cons_ne_nil _ _) hmark hw
    apply h d w
    rw [hold, ← List.cons_append]
    exact hfront.trans (List.prefix_append _ _)
  | @directive d w l ps hl rest ih =>
    rw [flatMap_expandOnly_directive]
    -- An expanded directive leaves a tag, any other is cut off as before.
    split
    · next hd =>
      rw [isCut_iff, sourceOf_append, sourceOf_map_char, pieces_tag (hwhich d hd), ih.pieces_eq]
    · -- A line break behind the directive was there before: a tag does not start with one.
      refine .directive w (Directive.lineBreak_append hl fun hhead => ?_) ih
      obtain ⟨front, old, new, hold, hnew, hmark⟩ := rest.exists_front hwhich
      rw [hnew] at hhead
      rw [hold]
      cases front with
      | cons c front => exact hhead
      | nil =>
        rcases hmark with rfl | ⟨c, more, -, rfl⟩
        · cases hhead
        · exact absurd hhead (by simp)

/-- A text with some directives expanded is cut as the expanded pieces say. -/
theorem pieces_sourceOf_expandOnly (cs : List Char)
    (hwhich : ∀ d, which d = true → d.isSplit = false) :
    pieces (sourceOf ((pieces cs).flatMap (Piece.expandOnly which))) =
      (pieces cs).flatMap (Piece.expandOnly which) :=
  ((isCut_pieces cs).expandOnly hwhich).pieces_eq

/-! ## Expanding at once -/

/-- Whether the directive stands for a tag of the template engine. -/
def Directive.expands (d : Directive) : Bool := !d.isSplit

/-- Expanding a piece is replacing it by its tag, if it stands for one. -/
theorem sourceOf_expandOnly_expands (p : Piece) :
    sourceOf (p.expandOnly Directive.expands) = expandPiece p := by
  cases p with
  | char c => rfl
  | directive d s =>
    cases hd : d.isSplit with
    | false =>
      rw [Piece.expandOnly, if_pos (by simp [Directive.expands, hd]), sourceOf_map_char,
        expandPiece_directive hd]
    | true =>
      rw [Piece.expandOnly, if_neg (by simp [Directive.expands, hd]), expandPiece,
        (d.expansion?_eq_none_iff).2 hd]
      simp [Piece.source]

/-- Expanding a template is expanding the directives that stand for a tag. -/
theorem expand_eq (cs : List Char) :
    expand cs = sourceOf ((pieces cs).flatMap (Piece.expandOnly Directive.expands)) := by
  rw [expand, sourceOf, List.flatMap_assoc]
  congr 1
  funext p
  exact (sourceOf_expandOnly_expands p).symm

/-- An expansion is cut at the markers of the split section, and nowhere else. -/
theorem pieces_expand (cs : List Char) :
    pieces (expand cs) = (pieces cs).flatMap (Piece.expandOnly Directive.expands) := by
  rw [expand_eq, pieces_sourceOf_expandOnly]
  simp [Directive.expands]

/-- Expanding twice is expanding once: no tag holds a directive. -/
theorem expand_expand (cs : List Char) : expand (expand cs) = expand cs := by
  rw [expand_eq (expand cs), pieces_expand, flatMap_expandOnly, expand_eq]
  simp only [Bool.or_self]

/-- Expanding keeps the markers of the split section, and no other directive. -/
theorem directiveCount_expand (d : Directive) (cs : List Char) :
    directiveCount d (expand cs) = if d.isSplit then directiveCount d cs else 0 := by
  rw [directiveCount, directiveCount, pieces_expand]
  induction pieces cs with
  | nil => simp
  | cons p ps ih =>
    cases p with
    | char c =>
      rw [flatMap_expandOnly_char, List.countP_cons, ih, List.countP_cons]
      rfl
    | directive e s =>
      have hchars := countP_chars d e.tag
      rw [flatMap_expandOnly_directive]
      -- The directive that is counted is kept if it is a marker, any other adds nothing.
      by_cases hde : d = e
      · subst hde
        cases hd : d.isSplit with
        | false => simp [Directive.expands, hd, hchars, ih]
        | true => simp [Directive.expands, hd, ih, Piece.is]
      · split
        · simp [hchars, ih, Piece.is, hde]
        · simp [ih, Piece.is, hde]

/-- The directives that are left in an expansion are the markers of the split section. -/
theorem occursIn_expand_iff {d : Directive} {cs : List Char} :
    d.OccursIn (expand cs) ↔ d.isSplit = true ∧ d.OccursIn cs := by
  rw [Directive.occursIn_iff_directiveCount_pos, Directive.occursIn_iff_directiveCount_pos,
    directiveCount_expand]
  split
  · next hd => rw [and_iff_right hd]
  · next hd => simp [hd]

/-! ## One directive after the other -/

/-- A template with the engine's tag in place of a directive; the markers of the split section have
none. -/
def expandPass (d : Directive) (cs : List Char) : List Char :=
  match d.expansion? with
  | some e => replaceOne d e.toList cs
  | none => cs

/-- A template with the engine's tags in place of some directives, in one pass for each of them over
what the passes before it have left. -/
def expandInTurn (rules : List Directive) (cs : List Char) : List Char :=
  rules.foldl (fun cs d => expandPass d cs) cs

/-- A pass expands the pieces that are its directive. -/
theorem expandPass_eq (d : Directive) (cs : List Char) :
    expandPass d cs =
      sourceOf ((pieces cs).flatMap (Piece.expandOnly fun e => e.expands && decide (e = d))) := by
  unfold expandPass
  cases hd : d.expansion? with
  | none =>
    -- A marker of the split section stands for nothing, so that nothing is expanded.
    rw [Directive.expansion?_eq_none_iff] at hd
    rw [flatMap_expandOnly_none, source_pieces]
    intro e
    rw [Bool.and_eq_false_iff, decide_eq_false_iff_not, Directive.expands, Bool.not_eq_false']
    by_cases he : e = d
    · exact .inl (he ▸ hd)
    · exact .inr he
  | some e =>
    have hsplit : d.isSplit = false := by
      rw [← Bool.not_eq_true, ← Directive.expansion?_eq_none_iff, hd]
      exact Option.some_ne_none e
    have htag : d.tag = e.toList := by rw [Directive.tag, hd, Option.getD_some]
    dsimp only
    -- Both sides go through the pieces of the same cut.
    rw [replaceOne_eq, replaceDirective, sourceOf, List.flatMap_assoc, ← htag]
    congr 1
    funext p
    cases p with
    | char c => rfl
    | directive e s =>
      by_cases he : d = e
      · subst he
        simp only [Piece.is, Piece.expandOnly, Directive.expands, hsplit, decide_true, Bool.not_false,
          Bool.and_self, if_true]
        exact (sourceOf_map_char _).symm
      · simp [Piece.is, Piece.expandOnly, he, Ne.symm he, Piece.source]

/-- After some passes a text is cut as before, but for the directives that the passes were for. -/
theorem pieces_expandInTurn (rules : List Directive) (cs : List Char) :
    pieces (expandInTurn rules cs) =
      (pieces cs).flatMap (Piece.expandOnly fun d => d.expands && decide (d ∈ rules)) := by
  induction rules generalizing cs with
  | nil => rw [expandInTurn, List.foldl_nil, flatMap_expandOnly_none]; simp
  | cons d rules ih =>
    rw [expandInTurn, List.foldl_cons, expandPass_eq, ← expandInTurn, ih, pieces_sourceOf_expandOnly,
      flatMap_expandOnly]
    · -- Expanded by the first pass or by one of the others.
      congr 2
      funext e
      rw [← Bool.and_or_distrib_left, ← Bool.decide_or]
      simp only [List.mem_cons]
    · intro e he
      rw [Bool.and_eq_true] at he
      simpa [Directive.expands] using he.1

/-- Passes for all directives that stand for a tag, in any order and perhaps repeated, do what
replacing each directive of the cut by its tag does at once. Nothing is left for a second expansion:
no directive but the markers of the split section occurs any more, and what a balanced template is
expanded to is balanced, and expanded to itself. -/
theorem expand_at_once (cs : List Char) :
    (∀ ps, IsCut ps → sourceOf ps = cs → expand cs = ps.flatMap expandPiece) ∧
      (∀ rules : List Directive, (∀ d : Directive, d.isSplit = false → d ∈ rules) →
        expandInTurn rules cs = expand cs) ∧
      expand (expand cs) = expand cs ∧
      (∀ d : Directive, d.isSplit = false → ¬d.OccursIn (expand cs)) ∧
      ∀ e, compile cs = .ok e → compile e = .ok e := by
  refine ⟨?cut, ?passes, expand_expand cs, ?none, ?compile⟩
  case cut =>
    rintro ps hps rfl
    rw [expand, hps.pieces_eq]
  case passes =>
    intro rules hrules
    -- The passes are for all directives that stand for a tag.
    have hwhich : (fun d : Directive => d.expands && decide (d ∈ rules)) = Directive.expands := by
      funext d
      cases hd : d.isSplit with
      | false => simp [hrules d hd]
      | true => simp [Directive.expands, hd]
    rw [← source_pieces (expandInTurn rules cs), pieces_expandInTurn, hwhich, expand_eq]
  case none =>
    intro d hd hoccurs
    obtain ⟨hsplit, -⟩ := occursIn_expand_iff.1 hoccurs
    exact Bool.false_ne_true (hd.symm.trans hsplit)
  case compile =>
    intro e he
    obtain ⟨hbalance, rfl⟩ := compile_eq_ok_iff.1 he
    refine compile_eq_ok_iff.2 ⟨?_, (expand_expand cs).symm⟩
    -- Only markers are left to be counted, as often as before.
    rw [imbalance?_eq_none_iff] at hbalance ⊢
    simp only [directiveCount_expand]
    refine ⟨fun b => ?_, hbalance.2⟩
    rw [hbalance.1 b]
    cases b <;> rfl

/-- A name between braces of its own, expanded last, and a section that stays marked. -/
theorem expand_at_once_braces :
    let t := "\x7b\x7b\x7b nAme \x7d\x7d\x7d\x7b\x7bSPLIT\x7d\x7d\n\x7b\x7b/SPLIT\x7d\x7d".toList
    let e := "\x7b\x7b\x7b node.name \x7d\x7d\x7d\x7b\x7bSPLIT\x7d\x7d\n\x7b\x7b/SPLIT\x7d\x7d".toList
    expandInTurn Directive.all.reverse t = e ∧ compile t = .ok e ∧ compile e = .ok e := by
  intro t e
  obtain ⟨-, hpasses, -, -, hcompile⟩ := expand_at_once t
  have hexpand : expand t = e := by decide +kernel
  have ht : compile t = .ok e := compile_eq_ok_iff.2 ⟨by decide +kernel, hexpand.symm⟩
  refine ⟨?_, ht, hcompile e ht⟩
  rw [hpasses _ fun d _ => List.mem_reverse.2 (Directive.mem_all d), hexpand]

end Stencil
