import Stencil.Proofs.Directive.Passes

/-!
# The split section

A balanced template that marks a split section has one opening and one closing marker. If the
opening one stands first, the section is what stands between them, and the body is what stands
around and between them; if the closing one stands first, there is no section. Taking a marker away
brings two texts together, and what they make up is a directive only if the first of them ends with
the beginning of one.

## Key results

- `exists_marked`: where the markers of a balanced template stand
- `Renderer.section_between_markers`: the section and the body of a template with markers
- `Renderer.no_directive_left`: when no directive is left in a compiled template
-/

namespace Stencil

/-! ## Markers -/

namespace Directive

/-- A marker of the split section, the opening one or the closing one. -/
def marker (opens : Bool) : Directive := if opens then .opening .split else .closing .split

/-- Both markers mark the split section. -/
theorem isSplit_marker (b : Bool) : (marker b).isSplit = true := by
  cases b <;> rfl

/-- There are no other directives that do. -/
theorem exists_marker {d : Directive} (hd : d.isSplit = true) : ∃ b, d = marker b := by
  cases d with
  | opening b =>
    cases b with
    | split => exact ⟨true, rfl⟩
    | _ => cases hd
  | closing b =>
    cases b with
    | split => exact ⟨false, rfl⟩
    | _ => cases hd
  | _ => cases hd

@[simp] theorem marker_inj {b c : Bool} : marker b = marker c ↔ b = c := by
  cases b <;> cases c <;> decide

/-- The text is the directive as it is written, with the line break that belongs to it if `rest`
stands behind it. -/
def StandsIn (d : Directive) (m rest : List Char) : Prop :=
  ∃ (w : Spelling d) (l : List Char), m = w.source ++ l ∧ d.lineBreak (l ++ rest) = l

/-- A directive that stands in a text starts like a mark, whatever follows. -/
theorem StandsIn.startsMark {d : Directive} {m rest : List Char} (h : d.StandsIn m rest)
    (more : List Char) : StartsMark (m ++ more) := by
  obtain ⟨w, l, rfl, -⟩ := h
  rw [List.append_assoc]
  exact startsMark_spelling w _

/-- A directive that stands in front of a text is cut off. -/
theorem StandsIn.pieces_eq {d : Directive} {m rest : List Char} (h : d.StandsIn m rest) :
    pieces (m ++ rest) = .directive d m :: pieces rest := by
  obtain ⟨w, l, rfl, hl⟩ := h
  exact pieces_spelling_append w rest hl

/-- It stands there in front of another text as well, if that does not bring a line break along. -/
theorem StandsIn.of_head? {d : Directive} {m xs ys : List Char} (h : d.StandsIn m xs)
    (hhead : ys.head? = some '\n' → xs.head? = some '\n') : d.StandsIn m ys := by
  obtain ⟨w, l, rfl, hl⟩ := h
  exact ⟨w, l, rfl, lineBreak_append hl hhead⟩

/-- In front of another text a directive may take one more line break along. -/
theorem StandsIn.exists_standsIn {d : Directive} {m xs : List Char} (h : d.StandsIn m xs)
    (ys : List Char) :
    ∃ l zs, l ++ zs = ys ∧ (l = [] ∨ l = ['\n']) ∧ d.StandsIn (m ++ l) zs := by
  obtain ⟨w, l, rfl, hl⟩ := h
  by_cases hbreak : l = []
  · obtain ⟨zs, hzs⟩ := d.lineBreak_prefix ys
    refine ⟨d.lineBreak ys, zs, hzs, d.lineBreak_eq_or ys, w, d.lineBreak ys, ?_, by rw [hzs]⟩
    rw [hbreak, List.append_nil]
  · -- A second line break stays where it is.
    have hsplit : (d.isSplit && (l ++ xs).head? == some '\n') = true := by
      rw [← Bool.not_eq_false]
      intro hfalse
      rw [lineBreak, hfalse] at hl
      exact hbreak hl.symm
    rw [lineBreak, if_pos hsplit] at hl
    subst hl
    refine ⟨[], ys, rfl, .inl rfl, w, ['\n'], List.append_nil _, ?_⟩
    rw [Bool.and_eq_true] at hsplit
    simp [lineBreak, hsplit.1]

end Directive

/-! ## Text without directives -/

/-- The last pieces of a cut are a cut. -/
theorem IsCut.of_append {ps qs : List Piece} (h : IsCut (ps ++ qs)) : IsCut qs := by
  induction ps with
  | nil => exact h
  | cons p ps ih => cases h <;> exact ih ‹_›

theorem IsCut.tail {p : Piece} {ps : List Piece} (h : IsCut (p :: ps)) : IsCut ps := by
  have hcons : IsCut ([p] ++ ps) := h
  exact hcons.of_append

/-- A directive of a cut stands in the text that it is cut from. -/
theorem IsCut.standsIn {d : Directive} {m : List Char} {ps : List Piece}
    (h : IsCut (.directive d m :: ps)) : d.StandsIn m (sourceOf ps) := by
  cases h with
  | directive w hl _ => exact ⟨w, _, rfl, hl⟩

/-- Pieces are characters up to the first directive. -/
theorem exists_chars {ps : List Piece} {d : Directive} {ds : List Directive}
    (h : directivesOf ps = d :: ds) :
    ∃ (cs m : List Char) (qs : List Piece),
      ps = cs.map .char ++ .directive d m :: qs ∧ directivesOf qs = ds := by
  induction ps with
  | nil => cases h
  | cons p ps ih =>
    cases p with
    | char c =>
      obtain ⟨cs, m, qs, rfl, hqs⟩ := ih h
      exact ⟨c :: cs, m, qs, rfl, hqs⟩
    | directive e m =>
      obtain ⟨rfl, hps⟩ := List.cons.inj h
      exact ⟨[], m, ps, rfl, hps⟩

/-- What stands in front of a directive is cut into the same pieces without it. -/
theorem IsCut.front {ps qs : List Piece} {d : Directive} {m : List Char}
    (h : IsCut (ps ++ .directive d m :: qs)) : IsCut ps := by
  have hbehind := h.of_append
  have hall := h.pieces_eq
  rw [sourceOf_append, sourceOf_cons, Piece.source,
    pieces_append (sourceOf ps) (hbehind.standsIn.startsMark _), hbehind.standsIn.pieces_eq,
    hbehind.tail.pieces_eq] at hall
  exact isCut_iff.2 (List.append_cancel_right hall)

/-- Text in front of the first directive has no directive. -/
theorem IsCut.pieces_front {cs : List Char} {d : Directive} {m : List Char} {ps : List Piece}
    (h : IsCut (cs.map .char ++ .directive d m :: ps)) : pieces cs = cs.map .char := by
  have hfront := h.front.pieces_eq
  rwa [sourceOf_map_char] at hfront

/-! ## Texts with markers -/

/-- A text with one opening and one closing marker of the split section, and no other directive. -/
structure Marked where
  /-- Whether the opening marker stands first. -/
  opensFirst : Bool
  before : List Char
  marker₁ : List Char
  between : List Char
  marker₂ : List Char
  behind : List Char
  stands₁ : (Directive.marker opensFirst).StandsIn marker₁ (between ++ (marker₂ ++ behind))
  stands₂ : (Directive.marker !opensFirst).StandsIn marker₂ behind
  plainBefore : ∀ d : Directive, ¬d.OccursIn before
  plainBetween : ∀ d : Directive, ¬d.OccursIn between
  plainBehind : ∀ d : Directive, ¬d.OccursIn behind

namespace Marked

/-- The text with its markers. -/
def text (t : Marked) : List Char :=
  t.before ++ (t.marker₁ ++ (t.between ++ (t.marker₂ ++ t.behind)))

/-- Such a text is cut into its two markers and characters. -/
theorem pieces_text (t : Marked) :
    pieces t.text = t.before.map .char ++ .directive (.marker t.opensFirst) t.marker₁ ::
      (t.between.map .char ++
        .directive (.marker !t.opensFirst) t.marker₂ :: t.behind.map .char) := by
  rw [text, pieces_append _ (t.stands₁.startsMark _), t.stands₁.pieces_eq,
    pieces_append _ (t.stands₂.startsMark _), t.stands₂.pieces_eq,
    pieces_eq_chars_iff.2 t.plainBefore, pieces_eq_chars_iff.2 t.plainBetween,
    pieces_eq_chars_iff.2 t.plainBehind]

end Marked

/-- Markers of which each is there as often as the other and at most once. -/
theorem eq_markers {ds : List Directive} (hmarker : ∀ d ∈ ds, ∃ b, d = .marker b)
    (hcount : ∀ b, ds.count (.marker b) = ds.count (.marker !b))
    (hone : ∀ b, ds.count (.marker b) ≤ 1) :
    ds = [] ∨ ∃ b, ds = [.marker b, .marker !b] := by
  match ds with
  | [] => exact .inl rfl
  | d :: ds =>
    obtain ⟨b, rfl⟩ := hmarker d List.mem_cons_self
    -- The first marker is the only one of its kind, and exactly one of the other kind follows.
    have hsame : ds.count (.marker b) = 0 := by
      have h := hone b
      rw [List.count_cons_self] at h
      omega
    have hother : ds.count (.marker !b) = 1 := by
      have h := hcount b
      rw [List.count_cons_self, hsame, List.count_cons_of_ne (by simp)] at h
      exact h.symm
    -- Behind the first marker there are only markers of the other kind.
    have hall : ∀ d ∈ ds, d = .marker !b := by
      intro d hd
      obtain ⟨c, rfl⟩ := hmarker d (List.mem_cons_of_mem _ hd)
      have hc : c ≠ b := by
        rintro rfl
        exact List.count_eq_zero.1 hsame hd
      rw [Directive.marker_inj]
      cases b <;> cases c <;> simp at hc ⊢
    right
    have hrest := List.eq_replicate_of_mem hall
    rw [hrest, List.count_replicate_self] at hother
    exact ⟨b, by rw [hrest, hother]; rfl⟩

/-- A text whose directives are markers of the split section, each as often as the other and at most
once, has no marker or one of each. -/
theorem exists_marked {e : List Char} (hsplit : ∀ d : Directive, d.OccursIn e → d.isSplit = true)
    (hcount : ∀ b, directiveCount (.marker b) e = directiveCount (.marker !b) e)
    (hone : ∀ b, directiveCount (.marker b) e ≤ 1) :
    (∀ d : Directive, ¬d.OccursIn e) ∨ ∃ t : Marked, t.text = e := by
  simp only [directiveCount, ← count_directivesOf] at hcount hone
  -- Directives of the cut occur in the text, so they are markers.
  have hmarker : ∀ d ∈ directivesOf (pieces e), ∃ b, d = .marker b := by
    intro d hd
    obtain ⟨p, hp, hpd⟩ := List.mem_filterMap.1 hd
    cases p with
    | char c => cases hpd
    | directive e m =>
      obtain rfl := Option.some.inj hpd
      exact Directive.exists_marker (hsplit _ (Directive.occursIn_iff.2 ⟨m, hp⟩))
  have hsource := source_pieces e
  have hcut := isCut_pieces e
  -- There are no markers at all, or two of them cut the text in three.
  rcases eq_markers hmarker hcount hone with hnone | ⟨b, hds⟩
  · left
    rw [← pieces_eq_chars_iff]
    have hchars := eq_chars_of_directivesOf hnone
    rwa [hsource] at hchars
  · right
    obtain ⟨p, m₁, ps, hps, hds₁⟩ := exists_chars hds
    obtain ⟨s, m₂, qs, rfl, hds₂⟩ := exists_chars hds₁
    have hqs := eq_chars_of_directivesOf hds₂
    generalize sourceOf qs = q at hqs
    subst hqs
    rw [hps] at hcut hsource
    have hbehind := hcut.of_append.tail
    have hlast := hbehind.of_append.tail
    refine ⟨⟨b, p, m₁, s, m₂, q, ?_, ?_, ?_, ?_, ?_⟩, ?_⟩
    · simpa [Piece.source] using hcut.of_append.standsIn
    · simpa using hbehind.of_append.standsIn
    · exact pieces_eq_chars_iff.1 hcut.pieces_front
    · exact pieces_eq_chars_iff.1 hbehind.pieces_front
    · rw [← pieces_eq_chars_iff]
      simpa using hlast.pieces_eq
    · simpa [Marked.text, Piece.source] using hsource

/-! ## The section -/

namespace Marked

/-- The section stands between the markers if the opening one stands first. -/
theorem splitSection?_text (t : Marked) :
    splitSection? t.text = if t.opensFirst then some t.between else none := by
  rw [splitSection?, t.pieces_text, splitPieces?, dropWhile_chars]
  cases t.opensFirst with
  | true =>
    -- The reader stops at the opening marker and finds the closing one behind the section.
    simp [Directive.marker, Piece.is]
  | false =>
    -- It goes on behind the closing marker, and finds no other one behind the opening marker.
    simp [Directive.marker, Piece.is]

end Marked

/-! ## The body -/

/-- A directive that stands in one place only is replaced there. -/
theorem replaceDirective_standsIn {d : Directive} {xs m ys : List Char} (hm : d.StandsIn m ys)
    (hxs : ¬d.OccursIn xs) (hys : ¬d.OccursIn ys) (text : List Char) :
    replaceDirective d text (xs ++ (m ++ ys)) = xs ++ (text ++ ys) := by
  have his : (Piece.directive d m).is d = true := decide_eq_true rfl
  have hbefore := replaceDirective_of_absent hxs text
  have hbehind := replaceDirective_of_absent hys text
  rw [replaceDirective] at hbefore hbehind ⊢
  rw [pieces_append xs (hm.startsMark ys), hm.pieces_eq, List.flatMap_append, List.flatMap_cons,
    hbefore, hbehind, if_pos his]

namespace Marked

/-- The first pass of taking markers away is for the opening one, wherever it stands. -/
theorem replaceDirective_opening_text (t : Marked) :
    replaceDirective (.opening .split) [] t.text =
      if t.opensFirst then (t.before ++ t.between) ++ (t.marker₂ ++ t.behind)
      else t.before ++ (t.marker₁ ++ (t.between ++ t.behind)) := by
  -- Characters are kept.
  have hchars : ∀ cs : List Char, (cs.map Piece.char).flatMap
      (fun p => if p.is (.opening .split) then [] else p.source) = cs := by
    intro cs
    rw [List.flatMap_map]
    exact List.flatMap_singleton' cs
  rw [replaceDirective, t.pieces_text]
  simp only [List.flatMap_append, List.flatMap_cons, hchars]
  cases t.opensFirst with
  | true => simp [Directive.marker, Piece.is, Piece.source]
  | false => simp [Directive.marker, Piece.is, Piece.source]

variable {t : Marked}

/-- Behind the opening marker, the closing one is taken away if it is the only one then. -/
theorem dropMarkers_of_opensFirst (ht : t.opensFirst = true)
    (habsent : ¬(Directive.closing .split).OccursIn (t.before ++ t.between)) :
    dropMarkers t.text = t.before ++ (t.between ++ t.behind) := by
  -- The other marker is the closing one.
  have hmarker : (Directive.closing .split).StandsIn t.marker₂ t.behind := by
    simpa [ht, Directive.marker] using t.stands₂
  rw [dropMarkers, replaceDirective_opening_text, if_pos ht,
    replaceDirective_standsIn hmarker habsent (t.plainBehind _), List.nil_append, List.append_assoc]

/-- A closing marker that stands first may take another line break along when what stood behind it
has been taken away. -/
theorem dropMarkers_of_closesFirst (ht : t.opensFirst = false) {m zs : List Char}
    (hmarker : (Directive.closing .split).StandsIn m zs)
    (htext : m ++ zs = t.marker₁ ++ (t.between ++ t.behind))
    (habsent : ¬(Directive.closing .split).OccursIn zs) :
    dropMarkers t.text = t.before ++ zs := by
  rw [dropMarkers, replaceDirective_opening_text, if_neg (by simp [ht]), ← htext,
    replaceDirective_standsIn hmarker (t.plainBefore _) habsent, List.nil_append]

end Marked

/-! ## Texts that are brought together -/

/-- The text ends with the beginning of a directive. -/
def Dangling (cs : List Char) : Prop :=
  ∃ (d : Directive) (w : Spelling d) (a b : List Char),
    w.source = a ++ b ∧ a ≠ [] ∧ b ≠ [] ∧ a <:+ cs

/-- A text that ends with the beginning of a directive does so behind any other text. -/
theorem Dangling.append {cs : List Char} (h : Dangling cs) (xs : List Char) :
    Dangling (xs ++ cs) := by
  obtain ⟨d, w, a, b, hw, ha, hb, hsuffix⟩ := h
  exact ⟨d, w, a, b, hw, ha, hb, hsuffix.trans (List.suffix_append _ _)⟩

/-- Two texts without directives make up a text without directives, unless the first ends with the
beginning of one. -/
theorem not_occursIn_append {xs ys : List Char} (hxs : ∀ d : Directive, ¬d.OccursIn xs)
    (hys : ∀ d : Directive, ¬d.OccursIn ys) (h : ¬Dangling xs) (d : Directive) :
    ¬d.OccursIn (xs ++ ys) := by
  rintro ⟨w, hw⟩
  rcases List.infix_append_iff.1 hw with hleft | hright | ⟨a, b, hab, ha, hb⟩
  · exact hxs d ⟨w, hleft⟩
  · exact hys d ⟨w, hright⟩
  -- The spelling stands on both sides, unless one of its parts is empty.
  by_cases hempty : a = []
  · rw [hempty, List.nil_append] at hab
    exact hys d ⟨w, hab ▸ hb.isInfix⟩
  by_cases hempty' : b = []
  · rw [hempty', List.append_nil] at hab
    exact hxs d ⟨w, hab ▸ ha.isInfix⟩
  exact h ⟨d, w, a, b, hab, hempty, hempty', ha⟩

/-- A text ends with the beginning of a directive only if its last part does, or the beginning of
one stands in front of that part, which goes on with it. -/
theorem not_dangling_append {xs ys : List Char} (hxs : ¬Dangling xs) (hys : ¬Dangling ys) :
    ¬Dangling (xs ++ ys) := by
  rintro ⟨d, w, a, b, hw, ha, hb, hsuffix⟩
  rcases List.suffix_or_suffix_of_suffix hsuffix (List.suffix_append xs ys) with hshort | hlong
  · exact hys ⟨d, w, a, b, hw, ha, hb, hshort⟩
  · -- The beginning reaches into the first part, and the second part goes on with it.
    obtain ⟨c, rfl⟩ := hlong
    obtain ⟨z, hz⟩ := hsuffix
    rw [← List.append_assoc] at hz
    have hc : c <:+ xs := ⟨z, List.append_cancel_right hz⟩
    by_cases hempty : c = []
    · exact hys ⟨d, w, ys, b, by rw [hw, hempty, List.nil_append], by simpa [hempty] using ha, hb,
        List.suffix_rfl⟩
    · rw [List.append_assoc] at hw
      exact hxs ⟨d, w, c, ys ++ b, hw, hempty, by simp [hb], hc⟩

/-- A spelling is closed at its end only. -/
theorem Spelling.eq_nil_of_closed {d : Directive} (w : Spelling d) {xs ys : List Char}
    (h : w.source = xs ++ ('\x7d' :: '\x7d' :: ys)) : ys = [] := by
  -- In front of its end there is no closing brace at all.
  have hnone : '\x7d' ∉ '\x7b' :: '\x7b' :: (w.before ++ (w.word ++ w.after)) := by
    simp only [List.mem_cons, List.mem_append, not_or]
    refine ⟨by decide, by decide, fun hc => ?_, fun hc => ?_, fun hc => ?_⟩
    · exact absurd (w.blankBefore _ hc) (by decide +kernel)
    · exact (w.solid_of_mem_word hc).2 rfl
    · exact absurd (w.blankAfter _ hc) (by decide +kernel)
  have hsource : w.source =
      ('\x7b' :: '\x7b' :: (w.before ++ (w.word ++ w.after))) ++ ['\x7d', '\x7d'] := by
    simp [source, inside]
  -- The two braces begin at the end of what comes before, or inside of it.
  rcases List.append_eq_append_iff.1 (hsource.symm.trans h) with ⟨a, -, ha⟩ | ⟨a, ha, hrest⟩
  · have hlength := congrArg List.length ha
    simp only [List.length_cons, List.length_nil, List.length_append] at hlength
    exact List.eq_nil_of_length_eq_zero (by omega)
  · cases a with
    | nil => exact (List.cons.inj (List.cons.inj hrest).2).2
    | cons c a =>
      -- The first of the two braces would stand inside of the directive.
      obtain rfl := (List.cons.inj hrest).1
      exact absurd (ha ▸ List.mem_append_right _ List.mem_cons_self) hnone

/-- A text ends with the beginning of no directive if no brace is opened behind braces that are
closed. -/
theorem not_dangling_of_closed {xs ys : List Char} (hys : '\x7b' ∉ ys) :
    ¬Dangling (xs ++ ('\x7d' :: '\x7d' :: ys)) := by
  rintro ⟨d, w, a, b, hw, ha, hb, hsuffix⟩
  -- The beginning has an opening brace, so it starts in front of the closed ones and goes past
  -- them.
  rcases List.suffix_or_suffix_of_suffix hsuffix (List.suffix_append xs _) with hshort | ⟨c, rfl⟩
  · have hopen : '\x7b' ∈ a := by
      cases a with
      | nil => exact absurd rfl ha
      | cons c a =>
        obtain rfl := (List.cons.inj hw).1
        exact List.mem_cons_self
    simpa [hys] using hshort.subset hopen
  · rw [List.append_assoc, List.cons_append, List.cons_append] at hw
    simpa [hb] using w.eq_nil_of_closed hw

/-- A text without opening braces ends with the beginning of no directive. -/
theorem not_dangling_of_not_mem {cs : List Char} (hcs : '\x7b' ∉ cs) : ¬Dangling cs := by
  intro h
  have hclosed : ¬Dangling ([] ++ ('\x7d' :: '\x7d' :: cs)) := not_dangling_of_closed hcs
  exact hclosed (h.append ['\x7d', '\x7d'])

/-- Taking the markers away makes up no directive, unless the beginning of one stands in front of a
marker. -/
theorem Marked.not_occursIn_dropMarkers (t : Marked) (h₁ : ¬Dangling t.before)
    (h₂ : ¬Dangling (t.before ++ (t.marker₁ ++ t.between))) (d : Directive) :
    ¬d.OccursIn (dropMarkers t.text) := by
  have hbetween : ¬Dangling t.between := fun h => h₂ ((h.append _).append _)
  cases ht : t.opensFirst with
  | true =>
    -- What the first marker stood between has no directive, so only the other marker is taken away.
    have hfront := not_occursIn_append t.plainBefore t.plainBetween h₁
    rw [dropMarkers_of_opensFirst ht (hfront _), ← List.append_assoc]
    exact not_occursIn_append hfront t.plainBehind (not_dangling_append h₁ hbetween) d
  | false =>
    -- The opening marker goes first, so the closing one stands in front of both other texts.
    have hback := not_occursIn_append t.plainBetween t.plainBehind hbetween
    obtain ⟨l, zs, hzs, -, hmarker⟩ := t.stands₁.exists_standsIn (t.between ++ t.behind)
    have hrest : ∀ d : Directive, ¬d.OccursIn zs :=
      fun d hd => hback d (hd.mono (hzs ▸ (List.suffix_append l zs).isInfix))
    rw [ht] at hmarker
    rw [dropMarkers_of_closesFirst ht hmarker (by rw [List.append_assoc, hzs]) (hrest _)]
    exact not_occursIn_append t.plainBefore hrest h₁ d

/-! ## Compiled templates -/

namespace Renderer

/-- A template that compiles has no directive, or a marker of each kind. -/
theorem exists_marked_of_compile {name source : String} {r : Renderer}
    (h : Renderer.compile name source = .ok r) :
    ∃ e, Stencil.compile source.toList = .ok e ∧ r.body = dropMarkers e ∧
      r.perClass = splitSection? e ∧
      ((∀ d : Directive, ¬d.OccursIn e) ∨ ∃ t : Marked, t.text = e) := by
  obtain ⟨e, he, rfl⟩ := Renderer.compile_eq_ok_iff.1 h
  refine ⟨e, he, rfl, rfl, ?_⟩
  obtain ⟨hbalance, rfl⟩ := Stencil.compile_eq_ok_iff.1 he
  obtain ⟨hcounts, hone⟩ := (imbalance?_eq_none_iff _).1 hbalance
  -- Expanding leaves markers alone, and the check has counted them.
  have hsplit : ∀ b, directiveCount (.marker b) (expand source.toList) =
      directiveCount (.opening .split) source.toList := by
    intro b
    rw [directiveCount_expand, if_pos (Directive.isSplit_marker b)]
    cases b with
    | true => rfl
    | false => exact (hcounts .split).symm
  exact exists_marked (fun d hd => (occursIn_expand_iff.1 hd).1)
    (fun b => by rw [hsplit, hsplit]) fun b => by rwa [hsplit]

/-- If a template that compiles marks a split section and the opening marker stands first, the
section is what stands between the markers, and the body is the template without them, unless
taking the opening marker away makes up another closing marker. If the closing marker stands first,
there is no section of its own. -/
theorem section_between_markers {name source : String} {r : Renderer}
    (h : Renderer.compile name source = .ok r) {d : Directive} (hd : d.isSplit = true)
    (hoccurs : d.OccursIn source.toList) :
    ∃ t : Marked, Stencil.compile source.toList = .ok t.text ∧
      (t.opensFirst = true → r.sectionSource = t.between ∧
        (¬(Directive.closing .split).OccursIn (t.before ++ t.between) →
          r.body = t.before ++ (t.between ++ t.behind))) ∧
      (t.opensFirst = false → r.sectionSource = r.body ∧
        (¬(Directive.closing .split).OccursIn (t.between ++ t.behind) →
          (t.between = [] → t.behind.head? ≠ some '\n') →
          r.body = t.before ++ (t.between ++ t.behind))) := by
  obtain ⟨e, he, hbody, hsection, hnone | ⟨t, rfl⟩⟩ := exists_marked_of_compile h
  · -- Expanding leaves the marker where it is.
    obtain ⟨-, rfl⟩ := Stencil.compile_eq_ok_iff.1 he
    exact absurd (occursIn_expand_iff.2 ⟨hd, hoccurs⟩) (hnone d)
  · -- There is one marker of each kind, and which one stands first decides about the section.
    rw [t.splitSection?_text] at hsection
    refine ⟨t, he, fun ht => ⟨?_, fun habsent => ?_⟩, fun ht => ⟨?_, fun habsent hbreak => ?_⟩⟩
    · rw [sectionSource, hsection, if_pos ht, Option.getD_some]
    · rw [hbody, Marked.dropMarkers_of_opensFirst ht habsent]
    · rw [sectionSource, hsection, if_neg (by simp [ht]), Option.getD_none]
    · -- The text behind the closing marker starts with a line break only if it did before.
      have hmarker : (Directive.closing .split).StandsIn t.marker₁ (t.between ++ t.behind) := by
        have hstands := t.stands₁
        rw [ht] at hstands
        refine hstands.of_head? fun hhead => ?_
        cases hbetween : t.between with
        | nil => exact absurd (by simpa [hbetween] using hhead) (hbreak hbetween)
        | cons c cs => simpa [hbetween] using hhead
      rw [hbody, Marked.dropMarkers_of_closesFirst ht hmarker rfl habsent]

/-- A section with a name, on lines of its own. -/
theorem section_between_markers_name :
    let s := "a\n\x7b\x7bSPLIT\x7d\x7d\n\x7b\x7bName\x7d\x7d\n\x7b\x7b /split \x7d\x7d\n\x7d"
    (Directive.closing .split).OccursIn s.toList ∧
      ∃ (r : Renderer) (t : Marked), Renderer.compile "main" s = .ok r ∧
        Stencil.compile s.toList = .ok t.text ∧ r.sectionSource = t.between ∧
        t.between = "\x7b\x7b node.name \x7d\x7d\n".toList := by
  intro s
  have hpieces : pieces s.toList = [.char 'a', .char '\n',
      .directive (.opening .split) "\x7b\x7bSPLIT\x7d\x7d\n".toList,
      .directive (.name none) "\x7b\x7bName\x7d\x7d".toList, .char '\n',
      .directive (.closing .split) "\x7b\x7b /split \x7d\x7d\n".toList, .char '\x7d'] := by
    decide +kernel
  have hoccurs : (Directive.closing .split).OccursIn s.toList :=
    Directive.occursIn_iff_directiveCount_pos.2 (by rw [directiveCount, hpieces]; decide)
  have hcompile : Renderer.compile "main" s = .ok _ :=
    Renderer.compile_eq_ok_iff.2 ⟨_, compile_of_pieces hpieces (by decide) (by decide) rfl, rfl⟩
  obtain ⟨t, ht, hopens, hcloses⟩ := section_between_markers hcompile rfl hoccurs
  refine ⟨hoccurs, _, t, hcompile, ht, ?_⟩
  cases hfirst : t.opensFirst with
  | true =>
    obtain ⟨hsection, -⟩ := hopens hfirst
    exact ⟨hsection, hsection.symm.trans (by decide +kernel)⟩
  | false =>
    -- The section is not the body.
    obtain ⟨hsection, -⟩ := hcloses hfirst
    exact absurd hsection (by decide +kernel)

/-- Markers that are balanced, the closing one first: there is no section, and the markers are
taken away all the same. -/
theorem section_not_between_markers :
    let s := "\x7b\x7b/SPLIT\x7d\x7da\x7b\x7bSPLIT\x7d\x7db"
    (Directive.opening .split).OccursIn s.toList ∧
      ∃ r, Renderer.compile "main" s = .ok r ∧
        ¬∃ p m₁ x m₂ q, Stencil.compile s.toList = .ok (p ++ (m₁ ++ (x ++ (m₂ ++ q)))) ∧
          (Directive.opening .split).StandsIn m₁ (x ++ (m₂ ++ q)) ∧
          (Directive.closing .split).StandsIn m₂ q ∧
          r.sectionSource = x ∧ r.body = p ++ (x ++ q) := by
  intro s
  have hpieces : pieces s.toList =
      [.directive (.closing .split) "\x7b\x7b/SPLIT\x7d\x7d".toList, .char 'a',
        .directive (.opening .split) "\x7b\x7bSPLIT\x7d\x7d".toList, .char 'b'] := by
    decide +kernel
  have hoccurs : (Directive.opening .split).OccursIn s.toList :=
    Directive.occursIn_iff_directiveCount_pos.2 (by rw [directiveCount, hpieces]; decide)
  have hexpand : Stencil.compile s.toList = .ok s.toList :=
    compile_of_pieces hpieces (by decide) (by decide) (by decide)
  refine ⟨hoccurs, _, Renderer.compile_eq_ok_iff.2 ⟨_, hexpand, rfl⟩, ?_⟩
  rintro ⟨p, m₁, x, m₂, q, hsource, hopening, -, hsection, hbody⟩
  rw [show sectionSource _ = ['a', 'b'] by decide +kernel] at hsection
  rw [← hsection, show dropMarkers s.toList = ['a', 'b'] by decide +kernel] at hbody
  -- The section is all of the body, so nothing stands in front of the opening marker.
  have hlength := congrArg List.length hbody
  simp only [List.length_append, List.length_cons, List.length_nil] at hlength
  obtain rfl : p = [] := List.eq_nil_of_length_eq_zero (by omega)
  rw [hexpand, List.nil_append] at hsource
  have hfront := congrArg pieces (Except.ok.inj hsource)
  rw [hopening.pieces_eq, hpieces] at hfront
  cases (List.cons.inj hfront).1

/-- The section of a template that compiles has no directive. The body has none either, unless a
marker of the split section stands behind the beginning of a directive, which may go on behind
it. -/
theorem no_directive_left {name source : String} {r : Renderer}
    (h : Renderer.compile name source = .ok r) :
    (∀ s, r.perClass = some s → ∀ d : Directive, ¬d.OccursIn s) ∧
      ((∀ e xs ys, Stencil.compile source.toList = .ok e →
          ∀ (d : Directive) (w : Spelling d), d.isSplit = true → e = xs ++ (w.source ++ ys) →
            ¬Dangling xs) →
        ∀ d : Directive, ¬d.OccursIn r.body ∧ ¬d.OccursIn r.sectionSource) := by
  obtain ⟨e, he, hbody, hsection, hnone | ⟨t, rfl⟩⟩ := exists_marked_of_compile h
  · rw [splitSection?_of_absent hnone] at hsection
    have hplain : r.body = e := hbody.trans (dropMarkers_of_absent hnone)
    refine ⟨fun s hs => ?_, fun _ d => ?_⟩
    · rw [hsection] at hs
      cases hs
    · rw [sectionSource_of_none hsection, hplain]
      exact ⟨hnone d, hnone d⟩
  rw [t.splitSection?_text] at hsection
  -- The section stands between the markers; the body is put together from three texts.
  refine ⟨fun s hs => ?_, fun hdangling => ?_⟩
  · rw [hsection] at hs
    split at hs
    · exact Option.some.inj hs ▸ t.plainBetween
    · cases hs
  have hbodyPlain : ∀ d : Directive, ¬d.OccursIn r.body := by
    intro d
    obtain ⟨w₁, l₁, hm₁, -⟩ := t.stands₁
    obtain ⟨w₂, l₂, hm₂, -⟩ := t.stands₂
    rw [hbody]
    refine t.not_occursIn_dropMarkers ?_ ?_ d
    · refine hdangling _ t.before (l₁ ++ (t.between ++ (t.marker₂ ++ t.behind))) he _ w₁
        (Directive.isSplit_marker _) ?_
      rw [Marked.text, hm₁, List.append_assoc]
    · refine hdangling _ _ (l₂ ++ t.behind) he _ w₂ (Directive.isSplit_marker _) ?_
      simp only [Marked.text, hm₂, List.append_assoc]
  intro d
  refine ⟨hbodyPlain d, ?_⟩
  rw [sectionSource, hsection]
  split
  · exact t.plainBetween d
  · exact hbodyPlain d

/-- A section around which the word for its opening stands. -/
theorem no_directive_left_word :
    let t := "SPL\x7b\x7bSPLIT\x7d\x7dIT\x7d\x7d\x7b\x7b/SPLIT\x7d\x7d"
    ∃ r, Renderer.compile "main" t = .ok r ∧ r.body = "SPLIT\x7d\x7d".toList ∧
      ∀ d : Directive, ¬d.OccursIn r.body ∧ ¬d.OccursIn r.sectionSource := by
  intro t
  have hpieces : pieces t.toList = "SPL".toList.map .char ++
      .directive (.opening .split) "\x7b\x7bSPLIT\x7d\x7d".toList ::
        ("IT\x7d\x7d".toList.map .char ++
          [.directive (.closing .split) "\x7b\x7b/SPLIT\x7d\x7d".toList]) := by
    decide +kernel
  have hexpand : Stencil.compile t.toList = .ok t.toList :=
    compile_of_pieces hpieces (by decide) (by decide) (by decide)
  have hcompile : Renderer.compile "main" t = .ok _ :=
    Renderer.compile_eq_ok_iff.2 ⟨_, hexpand, rfl⟩
  refine ⟨_, hcompile, by decide +kernel, (no_directive_left hcompile).2 ?_⟩
  intro e xs ys he d w hd hxs
  rw [hexpand] at he
  obtain rfl := Except.ok.inj he
  -- The pieces in front of the marker are a part of the cut that ends in front of one.
  obtain ⟨l, zs, -, -, hmarker⟩ := exists_pieces_spelling w ys
  have hcut := hpieces
  rw [hxs, pieces_append xs (d.startsMark_spelling w ys), hmarker] at hcut
  have hfront : xs = sourceOf ((pieces xs ++ .directive d (w.source ++ l) :: pieces zs).take
      (pieces xs).length) := by
    rw [List.take_left, source_pieces]
  have hat : (pieces xs ++ .directive d (w.source ++ l) :: pieces zs)[(pieces xs).length]? =
      some (.directive d (w.source ++ l)) := by
    simp
  rw [hcut] at hfront hat
  generalize (pieces xs).length = n at hfront hat
  match n with
  | 3 =>
    rw [hfront]
    exact not_dangling_of_not_mem (by decide)
  | 8 =>
    rw [hfront, show sourceOf (List.take 8 _) =
      "SPL\x7b\x7bSPLIT".toList ++ "\x7d\x7dIT\x7d\x7d".toList by decide]
    exact not_dangling_of_closed (by decide)
  | 0 | 1 | 2 | 4 | 5 | 6 | 7 => cases hat
  | n + 9 => cases hat

/-- A marker inside of another makes up that other one. -/
theorem exists_directive_left :
    let t := "\x7b\x7bSPL\x7b\x7bSPLIT\x7d\x7dIT\x7d\x7dx\x7b\x7b/SPLIT\x7d\x7d"
    ∃ r, Renderer.compile "main" t = .ok r ∧ (Directive.opening .split).OccursIn r.body := by
  intro t
  have hpieces : pieces t.toList = "\x7b\x7bSPL".toList.map .char ++
      .directive (.opening .split) "\x7b\x7bSPLIT\x7d\x7d".toList ::
        ("IT\x7d\x7dx".toList.map .char ++
          [.directive (.closing .split) "\x7b\x7b/SPLIT\x7d\x7d".toList]) := by
    decide +kernel
  have hexpand : Stencil.compile t.toList = .ok t.toList :=
    compile_of_pieces hpieces (by decide) (by decide) (by decide)
  exact ⟨_, Renderer.compile_eq_ok_iff.2 ⟨_, hexpand, rfl⟩, .plain _, [], ['x'], by decide +kernel⟩

end Renderer

end Stencil
