import Mathlib.Data.List.Basic
import Stencil.Proofs.Naming.Pascal
import Stencil.Proofs.Naming.Words

/-!
# Delimited styles

Snake, kebab and dot case put a separator between the small forms of the words. A small form has no
capitals, so nothing opens a word within it, and cutting the joined text again gives the small
forms. A style never looks at the case of what it joins, hence it makes the same of these as of the
words themselves.

## Key results

- `words_intercalate`: words without capitals, joined with a separator, are cut apart again
- `words_joinLower`: a delimited text has the words that it was made of, in small letters
- `join_map_lowerText`: the case of the words does not matter to a style
- `convert_convert_of_delimited`: a style can be put on top of a delimited one, which is lost then
-/

namespace Stencil.Naming

open Text

/-! ## Cutting joined words -/

/-- A word that could stay as it is in snake, kebab or dot case: nothing opens a new word within
it. -/
structure SmallWord (w : List Char) : Prop where
  nonempty : w ≠ []
  alphanumeric : ∀ c ∈ w, isAlphanumeric c = true
  small : ∀ c ∈ w, isUpper c = false

/-- Letters and digits that are no capitals belong to the word in front of them. -/
theorem wordsAfter_append_of_small {w : List Char} (halnum : ∀ c ∈ w, isAlphanumeric c = true)
    (hsmall : ∀ c ∈ w, isUpper c = false) (word cs : List Char) :
    wordsAfter word (w ++ cs) = wordsAfter (w.reverse ++ word) cs := by
  induction w generalizing word with
  | nil => rfl
  | cons c w ih =>
    obtain ⟨hc, hw⟩ := List.forall_mem_cons.1 halnum
    obtain ⟨hupper, hws⟩ := List.forall_mem_cons.1 hsmall
    -- Only a capital could open a word here.
    have hgrown : wordsAfter word (c :: (w ++ cs)) = wordsAfter (c :: word) (w ++ cs) := by
      cases word with
      | nil => rw [wordsAfter, if_pos hc]
      | cons prev word => simp [wordsAfter, hc, opensWord, hupper]
    rw [List.cons_append, hgrown, ih hw hws, List.reverse_cons, List.append_assoc,
      List.singleton_append]

/-- Behind a separator a new word starts. -/
theorem SmallWord.words_append {w : List Char} (hw : SmallWord w) {sep : Char}
    (hsep : isAlphanumeric sep = false) (cs : List Char) :
    words (w ++ sep :: cs) = w :: words cs := by
  have hpending : w.reverse.isEmpty = false := by simp [hw.nonempty]
  rw [words, wordsAfter_append_of_small hw.alphanumeric hw.small, List.append_nil]
  simp [wordsAfter, hsep, close, hpending, words]

/-- A word without capitals is its only word. -/
theorem SmallWord.words_eq {w : List Char} (hw : SmallWord w) : words w = [w] := by
  have hpending : w.reverse.isEmpty = false := by simp [hw.nonempty]
  have hread := wordsAfter_append_of_small hw.alphanumeric hw.small [] []
  rw [List.append_nil, List.append_nil] at hread
  rw [words, hread]
  simp [wordsAfter, close, hpending]

/-- Words without capitals, joined with a separator, are cut apart again. -/
theorem words_intercalate {sep : Char} (hsep : isAlphanumeric sep = false) {ws : List (List Char)}
    (h : ∀ w ∈ ws, SmallWord w) : words ([sep].intercalate ws) = ws := by
  induction ws with
  | nil => rfl
  | cons w ws ih =>
    obtain ⟨hw, hws⟩ := List.forall_mem_cons.1 h
    -- The last word has no separator behind it.
    cases ws with
    | nil => rw [List.intercalate_singleton, hw.words_eq]
    | cons v vs =>
      rw [List.intercalate_cons_cons, List.append_assoc, List.singleton_append,
        hw.words_append hsep, ih hws]

/-! ## Small forms -/

/-- The words of an ASCII text are ASCII texts. -/
theorem ascii_of_mem_words {cs w : List Char} (h : Ascii cs) (hw : w ∈ words cs) : Ascii w :=
  fun c hc => h c (mem_of_mem_words hw hc).1

/-- Only the capital sigma, which is no ASCII character, has a small form that depends on its
place. -/
theorem lowerAfter_of_ascii {cs : List Char} (h : Ascii cs) (before : List Char) :
    lowerAfter before cs = cs.map Char.toLower := by
  induction cs generalizing before with
  | nil => rfl
  | cons c cs ih =>
    obtain ⟨hc, hcs⟩ := List.forall_mem_cons.1 h
    have hsigma : c ≠ 'Σ' := by
      rintro rfl
      exact absurd hc (by decide)
    rw [lowerAfter, if_neg hsigma, lower_ascii hc, ih hcs, List.singleton_append, List.map_cons]

/-- In ASCII, a text is made small letter by letter. -/
theorem lowerText_of_ascii {cs : List Char} (h : Ascii cs) : lowerText cs = cs.map Char.toLower :=
  lowerAfter_of_ascii h []

/-- A small form is an ASCII character with the same small form and the same capital form. -/
private theorem ascii_toLower {c : Char} (hc : c.toNat < 128) :
    c.toLower.toNat < 128 ∧ c.toLower.toLower = c.toLower ∧ c.toLower.toUpper = c.toUpper := by
  -- There are 128 characters to check.
  refine forall_ascii ?_ hc
  decide +kernel

/-- An ASCII text made small is one. -/
theorem ascii_map_toLower {cs : List Char} (h : Ascii cs) : Ascii (cs.map Char.toLower) := by
  intro d hd
  obtain ⟨c, hc, rfl⟩ := List.mem_map.1 hd
  exact (ascii_toLower (h c hc)).1

/-- The small form of a word of an ASCII text has no capitals. -/
theorem smallWord_lowerText {cs w : List Char} (h : Ascii cs) (hw : w ∈ words cs) :
    SmallWord (lowerText w) := by
  have hascii := ascii_of_mem_words h hw
  rw [lowerText_of_ascii hascii]
  -- Nothing is lost, letters and digits stay what they are, and no capital is left.
  refine ⟨?_, fun d hd => ?_, fun d hd => ?_⟩
  · rw [Ne, List.map_eq_nil_iff]
    exact ne_nil_of_mem_words hw
  · obtain ⟨c, hc, rfl⟩ := List.mem_map.1 hd
    have halnum := (mem_of_mem_words hw hc).2
    exact isAlphanumeric_of_isAlphanum (isAlphanum_toUpper_toLower (hascii c hc) halnum).2
  · obtain ⟨c, hc, rfl⟩ := List.mem_map.1 hd
    exact isUpper_toLower (hascii c hc)

/-- A delimited text has the words that it was made of, in small letters. -/
theorem words_joinLower {cs : List Char} (h : Ascii cs) {sep : Char}
    (hsep : isAlphanumeric sep = false) :
    words (joinLower sep (words cs)) = (words cs).map lowerText := by
  refine words_intercalate hsep fun v hv => ?_
  obtain ⟨w, hw, rfl⟩ := List.mem_map.1 hv
  exact smallWord_lowerText h hw

/-! ## Joining small forms -/

/-- Making a text small twice is making it small once. -/
theorem lowerText_lowerText {w : List Char} (h : Ascii w) :
    lowerText (lowerText w) = lowerText w := by
  rw [lowerText_of_ascii h, lowerText_of_ascii (ascii_map_toLower h), List.map_map]
  exact List.map_congr_left fun c hc => (ascii_toLower (h c hc)).2.1

/-- Capitalizing does not look at the case of the word. -/
theorem capitalize_lowerText {w : List Char} (h : Ascii w) :
    capitalize (lowerText w) = capitalize w := by
  rw [lowerText_of_ascii h]
  cases w with
  | nil => rfl
  | cons c cs =>
    obtain ⟨hc, hcs⟩ := List.forall_mem_cons.1 h
    obtain ⟨hsmall, -, hupper⟩ := ascii_toLower hc
    -- The first letter is made a capital, all others are made small again.
    have htail : ∀ d ∈ cs, lower d.toLower = lower d := by
      intro d hd
      obtain ⟨hdsmall, hlower, -⟩ := ascii_toLower (hcs d hd)
      rw [lower_ascii hdsmall, lower_ascii (hcs d hd), hlower]
    rw [List.map_cons, capitalize, capitalize, upper_ascii hsmall, upper_ascii hc, hupper,
      List.flatMap_map, List.flatMap_congr htail]

/-- The case of the words does not matter to a style. -/
theorem join_map_lowerText (style : Style) {ws : List (List Char)} (h : ∀ w ∈ ws, Ascii w) :
    style.join (ws.map lowerText) = style.join ws := by
  -- A style makes words small or capitalizes them, and neither looks at their case.
  have hlower : ∀ vs : List (List Char), (∀ v ∈ vs, Ascii v) →
      (vs.map lowerText).map lowerText = vs.map lowerText := by
    intro vs hvs
    rw [List.map_map]
    exact List.map_congr_left fun v hv => lowerText_lowerText (hvs v hv)
  have hcapitalize : ∀ vs : List (List Char), (∀ v ∈ vs, Ascii v) →
      (vs.map lowerText).flatMap capitalize = vs.flatMap capitalize := by
    intro vs hvs
    rw [List.flatMap_map]
    exact List.flatMap_congr fun v hv => capitalize_lowerText (hvs v hv)
  cases style with
  | camel =>
    cases ws with
    | nil => rfl
    | cons w ws =>
      obtain ⟨hw, hws⟩ := List.forall_mem_cons.1 h
      rw [List.map_cons, Style.join, Style.join, lowerText_lowerText hw, hcapitalize ws hws]
  | pascal => exact hcapitalize ws h
  | snake => exact congrArg ['_'].intercalate (hlower ws h)
  | kebab => exact congrArg ['-'].intercalate (hlower ws h)
  | dot => exact congrArg ['.'].intercalate (hlower ws h)

/-! ## Delimited styles -/

/-- The delimited styles differ in the separator only, which is neither a letter nor a digit. -/
theorem exists_join_eq_joinLower {style : Style} (h : style ∈ [Style.snake, .kebab, .dot]) :
    ∃ sep, isAlphanumeric sep = false ∧ ∀ ws, style.join ws = joinLower sep ws := by
  simp only [List.mem_cons, List.not_mem_nil, or_false] at h
  rcases h with rfl | rfl | rfl
  · exact ⟨'_', by decide +kernel, fun _ => rfl⟩
  · exact ⟨'-', by decide +kernel, fun _ => rfl⟩
  · exact ⟨'.', by decide +kernel, fun _ => rfl⟩

/-- Snake, kebab and dot case keep the words of an ASCII text, in small letters, so any style makes
the same of the delimited text as of the text itself. -/
theorem convert_convert_of_delimited {s : String} (h : Ascii s.toList) {delimited : Style}
    (hd : delimited ∈ [Style.snake, Style.kebab, Style.dot]) :
    words (delimited.convert s).toList = (words s.toList).map lowerText ∧
      ∀ style : Style, style.convert (delimited.convert s) = style.convert s := by
  obtain ⟨sep, hsep, hjoin⟩ := exists_join_eq_joinLower hd
  have hwords : words (delimited.convert s).toList = (words s.toList).map lowerText := by
    rw [Style.convert, String.toList_ofList, Style.apply, hjoin, words_joinLower h hsep]
  refine ⟨hwords, fun style => ?_⟩
  -- The words of the delimited text are the small forms, which a style joins as it does the words.
  rw [Style.convert, Style.apply, hwords,
    join_map_lowerText style fun w hw => ascii_of_mem_words h hw]
  rfl

/-- A text with an acronym, digits and separators at both ends. -/
theorem convert_convert_of_delimited_acronym :
    let s := "_HTTPServer-v2Api "
    Style.kebab.convert s = "http-server-v2-api" ∧
      Style.camel.convert (Style.kebab.convert s) = "httpServerV2Api" := by
  intro s
  have hascii : Ascii s.toList := by
    have hall : s.toList.all (fun c => decide (c.toNat < 128)) = true := by decide
    intro c hc
    exact of_decide_eq_true (List.all_eq_true.1 hall c hc)
  have hkebab : Style.kebab ∈ [Style.snake, .kebab, .dot] := by decide
  obtain ⟨-, hconvert⟩ := convert_convert_of_delimited hascii hkebab
  refine ⟨by decide +kernel, ?_⟩
  rw [hconvert]
  decide +kernel

end Stencil.Naming
