import Stencil.Directive.Piece
import Stencil.Proofs.Lists

/-!
# How a directive may be written

A directive may be written in any case and with any white space inside its braces: a `Spelling` is
one way to write it. Cutting finds it again, whatever follows: no other directive is taken for it,
since behind a keyword there is nothing but white space in front of the closing braces.

## Key results

- `Directive.letters_prefix`: a text that starts with a keyword starts with its small letters
- `Directive.eq_of_width?`: a text that starts with a spelling starts with no other directive
- `Directive.ahead?_spelling`: the directive at the start of a text that starts with a spelling
-/

namespace Stencil

open Text

/-! ## Letters of keywords -/

/-- The letter of a keyword, made small, that a character is a form of. -/
def keyLetter (c : Char) : Char :=
  if c = 'ſ' then 's' else if c = '\u212a' then 'k' else c.toLower

/-- The characters of a keyword, made small. -/
def Directive.letters (d : Directive) : List Char := d.keyword.toList.map Char.toLower

/-- Keywords consist of letters, dots and slashes, which lie in this range once made small. -/
theorem Directive.letters_range (d : Directive) :
    ∀ k ∈ d.letters, 46 ≤ k.toNat ∧ k.toNat ≤ 122 := by
  -- There are only so many directives.
  have hall : ∀ d ∈ Directive.all,
      d.letters.all (fun k => 46 ≤ k.toNat ∧ k.toNat ≤ 122) = true := by
    decide +kernel
  intro k hk
  exact of_decide_eq_true (List.all_eq_true.1 (hall d (mem_all d)) k hk)

/-- No keyword is empty. -/
theorem Directive.letters_ne_nil (d : Directive) : d.letters ≠ [] := by
  cases d with
  | name s =>
    cases s with
    | none => decide
    | some s => cases s <;> decide
  | type => decide
  | docType => decide
  | opening b => cases b <;> decide
  | closing b => cases b <;> decide

/-- Directives are told apart by the small letters of their keywords. -/
theorem Directive.letters_inj {d e : Directive} (h : d.letters = e.letters) : d = e := by
  have hall : ∀ d ∈ Directive.all, ∀ e ∈ Directive.all, d.letters = e.letters → d = e := by
    decide +kernel
  exact hall d (mem_all d) e (mem_all e) h

/-- Only capital letters change when they are made small. -/
private theorem toLower_eq_or (c : Char) : c.toLower = c ∨ 65 ≤ c.toNat ∧ c.toNat ≤ 90 := by
  unfold Char.toLower
  split
  · next h => exact .inr h
  · exact .inl rfl

/-- A character that is taken for a letter of a keyword is a form of it. -/
private theorem keyLetter_of_sameLetter {k c : Char} (hk : k.toLower.toNat ≤ 122)
    (h : sameLetter k c = true) : keyLetter c = k.toLower := by
  simp only [sameLetter, Bool.or_eq_true, Bool.and_eq_true, decide_eq_true_eq, or_assoc] at h
  unfold keyLetter
  rcases h with h | ⟨hs, rfl⟩ | ⟨hk, rfl⟩
  · -- Small letters apart, the long s and the Kelvin sign are out of range, so the character is
    -- none of them.
    have hlong : c ≠ 'ſ' := by
      rintro rfl
      rw [h] at hk
      exact absurd hk (by decide)
    have hkelvin : c ≠ '\u212a' := by
      rintro rfl
      rw [h] at hk
      exact absurd hk (by decide)
    rw [if_neg hlong, if_neg hkelvin, h]
  · exact hs.symm
  · exact hk.symm

/-- A text that starts with a keyword starts with forms of its letters. -/
private theorem startsWithKeyword_prefix {ks cs : List Char}
    (hks : ∀ k ∈ ks.map Char.toLower, k.toNat ≤ 122) (h : startsWithKeyword ks cs = true) :
    ks.map Char.toLower <+: cs.map keyLetter := by
  -- The keyword and the text are read side by side.
  induction ks generalizing cs with
  | nil => exact List.nil_prefix
  | cons k ks ih =>
    cases cs with
    | nil => cases h
    | cons c cs =>
      rw [startsWithKeyword, Bool.and_eq_true] at h
      rw [List.map_cons, List.forall_mem_cons] at hks
      rw [List.map_cons, List.map_cons, keyLetter_of_sameLetter hks.1 h.1]
      exact List.cons_prefix_cons.2 ⟨rfl, ih hks.2 h.2⟩

/-- A text that starts with a keyword starts with its letters, made small. -/
theorem Directive.letters_prefix (d : Directive) {cs : List Char}
    (h : startsWithKeyword d.keyword.toList cs = true) : d.letters <+: cs.map keyLetter :=
  startsWithKeyword_prefix (fun k hk => (d.letters_range k hk).2) h

/-- A keyword at the start of a text is there as well when more follows. -/
theorem startsWithKeyword_append {ks cs : List Char} (h : startsWithKeyword ks cs = true)
    (rest : List Char) : startsWithKeyword ks (cs ++ rest) = true := by
  induction ks generalizing cs with
  | nil => rfl
  | cons k ks ih =>
    cases cs with
    | nil => cases h
    | cons c cs =>
      rw [startsWithKeyword, Bool.and_eq_true] at h
      rw [List.cons_append, startsWithKeyword, h.1, ih h.2]
      rfl

/-- A form of a letter of a keyword is neither white space nor a brace. -/
private theorem solid_of_keyLetter {c : Char}
    (h : 46 ≤ (keyLetter c).toNat ∧ (keyLetter c).toNat ≤ 122) :
    isWhitespace c = false ∧ c ≠ '\x7d' := by
  -- The two signs outside ASCII are looked at by themselves.
  by_cases hlong : c = 'ſ'
  · subst hlong; decide +kernel
  by_cases hkelvin : c = '\u212a'
  · subst hkelvin; decide +kernel
  rw [keyLetter, if_neg hlong, if_neg hkelvin] at h
  -- Making a letter small moves it up, so the letter itself is in range as well.
  have hrange : 46 ≤ c.toNat ∧ c.toNat ≤ 122 := by
    rcases toLower_eq_or c with heq | hupper
    · rwa [heq] at h
    · omega
  constructor
  · have hblank : c ≠ ' ' := by
      rintro rfl
      exact absurd hrange.1 (by decide)
    rw [isWhitespace, hasClass_ascii (by omega), isAsciiWhitespace, decide_eq_false hblank]
    simp only [Bool.false_or, Bool.and_eq_false_iff, decide_eq_false_iff_not]
    omega
  · rintro rfl
    exact absurd hrange.2 (by decide)

/-- A keyword starts with itself. -/
private theorem startsWithKeyword_self (ks : List Char) : startsWithKeyword ks ks = true := by
  induction ks with
  | nil => rfl
  | cons k ks ih => simp [startsWithKeyword, sameLetter, ih]

/-! ## Spellings -/

/-- A way to write a directive: its keyword in any case, with white space around it. -/
structure Spelling (d : Directive) where
  before : List Char
  word : List Char
  after : List Char
  blankBefore : ∀ c ∈ before, isWhitespace c = true
  spells : startsWithKeyword d.keyword.toList word = true
  length : word.length = d.keyword.length
  blankAfter : ∀ c ∈ after, isWhitespace c = true

namespace Spelling

variable {d : Directive}

/-- What stands behind the opening braces. -/
def inside (w : Spelling d) : List Char := w.before ++ (w.word ++ (w.after ++ ['\x7d', '\x7d']))

/-- The directive as it is written. -/
def source (w : Spelling d) : List Char := '\x7b' :: '\x7b' :: w.inside

/-- The directive as it is usually written. -/
def plain (d : Directive) : Spelling d where
  before := []
  word := d.keyword.toList
  after := []
  blankBefore := by simp
  spells := startsWithKeyword_self _
  length := String.length_toList
  blankAfter := by simp

/-- How many characters a directive takes: four braces, the white space and the keyword. -/
theorem length_source (w : Spelling d) :
    w.source.length = 4 + w.before.length + d.keyword.length + w.after.length := by
  simp only [source, inside, List.length_cons, List.length_append, List.length_nil, w.length]
  omega

/-- The characters of the word are forms of the letters of the keyword. -/
theorem map_keyLetter_word (w : Spelling d) : w.word.map keyLetter = d.letters := by
  refine ((d.letters_prefix w.spells).eq_of_length ?_).symm
  rw [Directive.letters, List.length_map, List.length_map, w.length, String.length_toList]

/-- In the word there is neither white space nor a brace. -/
theorem solid_of_mem_word (w : Spelling d) {c : Char} (hc : c ∈ w.word) :
    isWhitespace c = false ∧ c ≠ '\x7d' :=
  solid_of_keyLetter (d.letters_range _ (w.map_keyLetter_word ▸ List.mem_map.2 ⟨c, hc, rfl⟩))

/-- The word is not empty. -/
theorem word_ne_nil (w : Spelling d) : w.word ≠ [] := by
  intro h
  have hw := w.map_keyLetter_word
  rw [h] at hw
  exact d.letters_ne_nil hw.symm

/-- Behind the opening braces there is nothing that could open a mark. -/
theorem not_mem_inside (w : Spelling d) {c : Char} (hc : c = '\x7b' ∨ c = '%') : c ∉ w.inside := by
  have hblank : isWhitespace c = false := by rcases hc with rfl | rfl <;> decide +kernel
  have hletter : ¬(46 ≤ (keyLetter c).toNat ∧ (keyLetter c).toNat ≤ 122) := by
    rcases hc with rfl | rfl <;> decide
  have hclose : c ≠ '\x7d' := by rcases hc with rfl | rfl <;> decide
  simp only [inside, List.mem_append, List.mem_cons, List.not_mem_nil, or_false, not_or]
  -- It is neither white space, nor in the word, nor a closing brace.
  refine ⟨fun h => ?_, fun h => ?_, fun h => ?_, hclose, hclose⟩
  · rw [w.blankBefore c h] at hblank; cases hblank
  · exact hletter (d.letters_range _ (w.map_keyLetter_word ▸ List.mem_map.2 ⟨c, h, rfl⟩))
  · rw [w.blankAfter c h] at hblank; cases hblank

end Spelling

/-! ## Finding a directive -/

/-- White space, followed by something else, that is cut off. -/
private theorem drop_blanksAhead {blank : List Char} (cs : List Char)
    (hb : ∀ c ∈ blank, isWhitespace c = true) (hcs : ∀ c ∈ cs.head?, isWhitespace c = false) :
    blanksAhead (blank ++ cs) = blank.length ∧
      (blank ++ cs).drop (blanksAhead (blank ++ cs)) = cs := by
  have h : blanksAhead (blank ++ cs) = blank.length := by
    rw [blanksAhead, (List.span_append_of_stop hb hcs).1]
  rw [h]
  exact ⟨rfl, List.drop_left⟩

namespace Directive

variable {d e : Directive}

/-- A word does not start with white space. -/
private theorem head?_solid (w : Spelling d) (cs : List Char) :
    ∀ c ∈ (w.word ++ cs).head?, isWhitespace c = false := by
  cases hw : w.word with
  | nil => exact absurd hw w.word_ne_nil
  | cons c word =>
    rintro _ ⟨rfl⟩
    exact (w.solid_of_mem_word (hw ▸ List.mem_cons_self)).1

/-- The line break that a marker of the split section takes along from the text behind it. -/
def lineBreak (d : Directive) (rest : List Char) : List Char :=
  if d.isSplit && rest.head? == some '\n' then ['\n'] else []

/-- Only markers of the split section take a line break along. -/
theorem lineBreak_of_not_isSplit (hd : d.isSplit = false) (rest : List Char) :
    d.lineBreak rest = [] := by
  simp [lineBreak, hd]

/-- The line break is the start of the text behind the directive. -/
theorem lineBreak_prefix (d : Directive) (rest : List Char) : d.lineBreak rest <+: rest := by
  unfold lineBreak
  split
  · next h =>
    rw [Bool.and_eq_true, beq_iff_eq] at h
    obtain ⟨cs, rfl⟩ := List.head?_eq_some_iff.1 h.2
    exact ⟨cs, rfl⟩
  · exact List.nil_prefix

/-- There is a line break to take along or there is none. -/
theorem lineBreak_eq_or (d : Directive) (rest : List Char) :
    d.lineBreak rest = [] ∨ d.lineBreak rest = ['\n'] := by
  unfold lineBreak
  split
  · exact .inr rfl
  · exact .inl rfl

/-- What a marker takes along is no brace. -/
theorem not_mem_lineBreak (d : Directive) (rest : List Char) : '\x7b' ∉ d.lineBreak rest := by
  rcases d.lineBreak_eq_or rest with h | h <;> rw [h] <;> decide

/-- A directive is found where it is written, as wide as it is written, with its line break. -/
theorem width?_spelling (w : Spelling d) (rest : List Char) :
    d.width? (w.source ++ rest) = some (w.source ++ d.lineBreak rest).length := by
  -- The white space in front of the word is cut off, since the word starts with none.
  have hblank := drop_blanksAhead _ w.blankBefore
    (head?_solid w (w.after ++ ['\x7d', '\x7d'] ++ rest))
  -- The word is as long as the keyword, so what is left is the white space behind it and the
  -- braces.
  have hdrop : (w.word ++ (w.after ++ ['\x7d', '\x7d'] ++ rest)).drop d.keyword.length =
      w.after ++ (['\x7d', '\x7d'] ++ rest) := by
    rw [← w.length, List.drop_left, List.append_assoc]
  have hblank' := drop_blanksAhead (['\x7d', '\x7d'] ++ rest) w.blankAfter
    (by rintro _ ⟨rfl⟩; decide +kernel)
  have hlineBreak : (d.lineBreak rest).length =
      if d.isSplit && rest.head? == some '\n' then 1 else 0 := by
    unfold lineBreak
    split <;> rfl
  rw [List.length_append, w.length_source, hlineBreak]
  simp only [Spelling.source, Spelling.inside, List.cons_append, List.append_assoc, width?] at *
  rw [hblank.2, hblank.1, if_pos (startsWithKeyword_append w.spells _), hdrop, hblank'.2, hblank'.1]
  rfl

/-- The white space ahead is dropped. -/
private theorem drop_blanksAhead_eq (cs : List Char) :
    cs.drop (blanksAhead cs) = cs.dropWhile isWhitespace := by
  unfold blanksAhead
  induction cs with
  | nil => rfl
  | cons c cs ih => cases hc : isWhitespace c <;> simp [hc, ih]

/-- Behind a keyword there is nothing but white space in front of the closing braces. -/
private theorem closed_of_width? (cs : List Char) {n : Nat}
    (h : e.width? ('\x7b' :: '\x7b' :: cs) = some n) :
    startsWithKeyword e.keyword.toList (cs.drop (blanksAhead cs)) = true ∧
      ∃ rest, ((cs.drop (blanksAhead cs)).drop e.keyword.length).dropWhile isWhitespace =
        '\x7d' :: '\x7d' :: rest := by
  rw [width?] at h
  dsimp only at h
  -- Only a text with the keyword and, behind white space, the closing braces has a width.
  split at h
  · next hkey =>
    refine ⟨hkey, ?_⟩
    split at h
    · next rest hrest => exact ⟨rest, by rw [← drop_blanksAhead_eq, hrest]⟩
    · cases h
  · cases h

/-- No keyword ends inside of a word: more of the word, which is no white space, would follow. -/
private theorem letters_eq_of_closed (w : Spelling d) {tail rest : List Char}
    (hclosed : ((w.word ++ tail).drop e.keyword.length).dropWhile isWhitespace =
      '\x7d' :: '\x7d' :: rest)
    (hpre : e.letters <+: d.letters) : e.letters = d.letters := by
  obtain ⟨ks, hks⟩ := hpre
  cases ks with
  | nil => rwa [List.append_nil] at hks
  | cons k ks =>
    -- The shorter keyword ends in front of a character of the word.
    have hlt : e.keyword.length < w.word.length := by
      have := congrArg List.length hks
      rw [← w.map_keyLetter_word] at this
      simp only [letters, List.length_append, List.length_map, String.length_toList,
        List.length_cons] at this
      omega
    -- That character would have to be white space or a brace.
    rw [List.drop_append_of_le_length (Nat.le_of_lt hlt), List.drop_eq_getElem_cons hlt,
      List.cons_append] at hclosed
    have hsolid := w.solid_of_mem_word (List.getElem_mem hlt)
    rw [List.dropWhile_cons, hsolid.1, if_neg Bool.false_ne_true] at hclosed
    exact absurd (List.cons.inj hclosed).1 hsolid.2

/-- No keyword goes on behind a word: white space or a brace would be a form of a letter. -/
private theorem letters_eq_of_stop {tail : List Char}
    (hstop : ∀ c ∈ tail.head?, isWhitespace c = true ∨ c = '\x7d')
    (hpre : e.letters <+: d.letters ++ tail.map keyLetter) (hword : d.letters <+: e.letters) :
    e.letters = d.letters := by
  obtain ⟨ks, hks⟩ := hword
  cases ks with
  | nil => rw [← hks, List.append_nil]
  | cons k ks =>
    rw [← hks, List.prefix_append_right_inj] at hpre
    obtain ⟨more, hmore⟩ := hpre
    cases tail with
    | nil => cases hmore
    | cons c tail =>
      rw [List.map_cons, List.cons_append] at hmore
      -- The longer keyword goes on with the character behind the word.
      have hk : k = keyLetter c := (List.cons.inj hmore).1
      have hmem : k ∈ e.letters := by rw [← hks]; simp
      have hsolid := solid_of_keyLetter (hk ▸ e.letters_range k hmem)
      rcases hstop c rfl with hc | hc
      · rw [hsolid.1] at hc; cases hc
      · exact absurd hc hsolid.2

/-- A text that starts with a spelling of a directive starts with no other directive. -/
theorem eq_of_width? (w : Spelling d) {rest : List Char} {n : Nat}
    (h : e.width? (w.source ++ rest) = some n) : e = d := by
  obtain ⟨hkey, rest', hclosed⟩ := closed_of_width? (w.inside ++ rest) h
  -- Behind the word there is white space or the first closing brace.
  have hstop : ∀ c ∈ (w.after ++ ['\x7d', '\x7d'] ++ rest).head?,
      isWhitespace c = true ∨ c = '\x7d' := by
    cases ha : w.after with
    | nil => rintro _ ⟨rfl⟩; exact .inr rfl
    | cons c after =>
      rintro _ ⟨rfl⟩
      exact .inl (w.blankAfter c (ha ▸ List.mem_cons_self))
  generalize htail : w.after ++ ['\x7d', '\x7d'] ++ rest = tail at hstop
  have hinside : w.inside ++ rest = w.before ++ (w.word ++ tail) := by
    simp [Spelling.inside, ← htail]
  rw [hinside, (drop_blanksAhead _ w.blankBefore (head?_solid w tail)).2] at hkey hclosed
  have hpre := e.letters_prefix hkey
  rw [List.map_append, w.map_keyLetter_word] at hpre
  -- Both keywords start the same text, so one of them starts the other.
  refine letters_inj ?_
  rcases List.prefix_or_prefix_of_prefix hpre (List.prefix_append _ _) with hshort | hlong
  · exact letters_eq_of_closed w hclosed hshort
  · exact letters_eq_of_stop hstop hpre hlong

/-- The directive at the start of a text that starts with a spelling. -/
theorem ahead?_spelling (w : Spelling d) (rest : List Char) :
    ahead? (w.source ++ rest) = some (d, (w.source ++ d.lineBreak rest).length) := by
  rw [ahead?, List.findSome?_eq_of_mem (mem_all d), width?_spelling w rest]
  · rfl
  · -- Any directive found at this place is this one, wherever it stands in the list.
    intro e _ he
    cases hw : e.width? (w.source ++ rest) with
    | none => rw [hw] at he; exact absurd rfl he
    | some n => exact eq_of_width? w hw

/-- A text that starts with a keyword is as long as that. -/
private theorem length_le_of_startsWithKeyword {ks cs : List Char}
    (h : startsWithKeyword ks cs = true) : ks.length ≤ cs.length := by
  induction ks generalizing cs with
  | nil => exact Nat.zero_le _
  | cons k ks ih =>
    cases cs with
    | nil => cases h
    | cons c cs =>
      rw [startsWithKeyword, Bool.and_eq_true] at h
      exact Nat.succ_le_succ (ih h.2)

/-- The keyword is in as many characters as it has. -/
private theorem startsWithKeyword_take {ks cs : List Char} (h : startsWithKeyword ks cs = true) :
    startsWithKeyword ks (cs.take ks.length) = true := by
  induction ks generalizing cs with
  | nil => rfl
  | cons k ks ih =>
    cases cs with
    | nil => cases h
    | cons c cs =>
      rw [startsWithKeyword, Bool.and_eq_true] at h
      rw [List.length_cons, List.take_succ_cons, startsWithKeyword, h.1, ih h.2]
      rfl

/-- A directive that a text starts with is written in one of its spellings. -/
theorem exists_spelling_of_width? {cs : List Char} {n : Nat} (h : d.width? cs = some n) :
    ∃ (w : Spelling d) (rest : List Char), w.source ++ rest = cs := by
  -- Nothing has a width that does not start with two braces.
  have hbraces : ∃ inner, cs = '\x7b' :: '\x7b' :: inner := by
    unfold width? at h
    split at h
    · exact ⟨_, rfl⟩
    · cases h
  obtain ⟨inner, rfl⟩ := hbraces
  obtain ⟨hkey, rest, hclosed⟩ := closed_of_width? inner h
  rw [drop_blanksAhead_eq] at hkey hclosed
  have hlength := length_le_of_startsWithKeyword hkey
  have hspells := startsWithKeyword_take hkey
  rw [String.length_toList] at hlength hspells
  -- The text behind the braces: blanks, a word as long as the keyword, blanks, and braces.
  refine ⟨{ before := inner.takeWhile isWhitespace
            word := (inner.dropWhile isWhitespace).take d.keyword.length
            after := ((inner.dropWhile isWhitespace).drop d.keyword.length).takeWhile isWhitespace
            blankBefore := List.all_eq_true.1 List.all_takeWhile
            spells := hspells
            length := List.length_take_of_le hlength
            blankAfter := List.all_eq_true.1 List.all_takeWhile }, rest, ?_⟩
  rw [Spelling.source, Spelling.inside]
  simp only [List.cons_append, List.append_assoc]
  rw [List.nil_append, ← hclosed, List.takeWhile_append_dropWhile, List.take_append_drop,
    List.takeWhile_append_dropWhile]

end Directive

end Stencil
