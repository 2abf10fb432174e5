import Mathlib.Data.List.Induction
import Stencil.Naming

/-!
# Words

Cutting a text into words takes its separators away and loses nothing else. Two letters or digits
that stand side by side fall into different words exactly where the second one opens a word. What is
read of a text leaves some words that are finished and one that may go on, which ends with the
character that was read last.

## Key results

- `exists_wordsAfter_append`: what has been read, as finished words and the one that may go on
- `flatten_words`: the words of a text are the text without its separators
- `wordOf_words_ne_iff`: where letters fall into different words
- `splitWords_exact`: the words of a text, one by one
-/

namespace Stencil.Naming

open Text

/-! ## Reading on -/

/-- Closing a word loses none of its characters. -/
theorem flatten_close (word : List Char) : (close word).flatten = word.reverse := by
  cases word <;> simp [close]

/-- An empty word is not closed but left out. -/
theorem nil_not_mem_close (word : List Char) : [] ∉ close word := by
  cases word <;> simp [close]

/-- A character finishes some words, at most one, and leaves one that may go on. -/
theorem exists_wordsAfter_cons (word : List Char) (c : Char) (cs : List Char) :
    ∃ (finished : List (List Char)) (pending : List Char),
      wordsAfter word (c :: cs) = finished ++ wordsAfter pending cs ∧ [] ∉ finished ∧
        finished.flatten ++ pending.reverse = word.reverse ++ [c].filter isAlphanumeric ∧
        (isAlphanumeric c = true → pending.head? = some c) := by
  -- A separator closes the word that is open.
  cases hc : isAlphanumeric c with
  | false =>
    refine ⟨close word, [], ?_, nil_not_mem_close word, ?_, nofun⟩
    · simp [wordsAfter, hc]
    · simp [flatten_close, hc]
  | true =>
    cases word with
    | nil =>
      refine ⟨[], [c], ?_, by simp, ?_, fun _ => rfl⟩
      · simp [wordsAfter, hc]
      · simp [hc]
    | cons prev word =>
      -- Either a new word is opened, or the pending one grows.
      cases ho : opensWord prev c cs.head? with
      | true =>
        refine ⟨[(prev :: word).reverse], [c], ?_, by simp, ?_, fun _ => rfl⟩
        · simp [wordsAfter, hc, ho]
        · simp [hc]
      | false =>
        refine ⟨[], c :: prev :: word, ?_, by simp, ?_, fun _ => rfl⟩
        · simp [wordsAfter, hc, ho]
        · simp [hc]

/-- What has been read of a text is finished words and the word that may go on, whose last character
is the one read last. -/
theorem exists_wordsAfter_append (word xs cs : List Char) :
    ∃ (finished : List (List Char)) (pending : List Char),
      wordsAfter word (xs ++ cs) = finished ++ wordsAfter pending cs ∧ [] ∉ finished ∧
        finished.flatten ++ pending.reverse = word.reverse ++ xs.filter isAlphanumeric ∧
        ∀ x, xs.getLast? = some x → isAlphanumeric x = true → pending.head? = some x := by
  -- Characters are read at the end, so that the one read last is at hand.
  induction xs using List.reverseRecOn generalizing cs with
  | nil => exact ⟨[], word, rfl, by simp, by simp, nofun⟩
  | append_singleton xs x ih =>
    obtain ⟨finished, pending, hwords, hproper, hflatten, -⟩ := ih (x :: cs)
    obtain ⟨more, next, hnext, hmore, hgrown, hlast⟩ := exists_wordsAfter_cons pending x cs
    refine ⟨finished ++ more, next, ?_, ?_, ?_, ?_⟩
    · rw [List.append_assoc, List.singleton_append, hwords, hnext, List.append_assoc]
    · simp [hproper, hmore]
    · rw [List.flatten_append, List.append_assoc, hgrown, ← List.append_assoc, hflatten,
        List.append_assoc, List.filter_append]
    · intro y hy
      obtain rfl : x = y := by simpa using hy
      exact hlast

/-- The words of a text are the text without its separators, and none of them is empty. -/
theorem words_finished (cs : List Char) :
    (words cs).flatten = cs.filter isAlphanumeric ∧ [] ∉ words cs := by
  obtain ⟨finished, pending, hwords, hproper, hflatten, -⟩ := exists_wordsAfter_append [] cs []
  rw [List.append_nil, wordsAfter] at hwords
  rw [words, hwords]
  refine ⟨?_, ?_⟩
  · rw [List.flatten_append, flatten_close, hflatten, List.reverse_nil, List.nil_append]
  · rw [List.mem_append, not_or]
    exact ⟨hproper, nil_not_mem_close pending⟩

/-- The words of a text are the text without its separators. -/
theorem flatten_words (cs : List Char) : (words cs).flatten = cs.filter isAlphanumeric :=
  (words_finished cs).1

/-- No word is empty. -/
theorem ne_nil_of_mem_words {cs w : List Char} (hw : w ∈ words cs) : w ≠ [] :=
  fun h => (words_finished cs).2 (h ▸ hw)

/-- The words of a text are made up of the letters and digits in it. -/
theorem mem_of_mem_words {cs w : List Char} (hw : w ∈ words cs) {c : Char} (hc : c ∈ w) :
    c ∈ cs ∧ isAlphanumeric c = true := by
  have hflatten : c ∈ (words cs).flatten := List.mem_flatten.2 ⟨w, hw, hc⟩
  rw [flatten_words] at hflatten
  exact List.mem_filter.1 hflatten

/-! ## Neighbours -/

/-- The word, counted from 0, that holds the `n`th of all characters of some words, counted from 0
as well. -/
def wordOf : List (List Char) → Nat → Nat
  | [], _ => 0
  | w :: ws, n => if n < w.length then 0 else wordOf ws (n - w.length) + 1

theorem wordOf_cons_of_lt {w : List Char} {n : Nat} (h : n < w.length) (ws : List (List Char)) :
    wordOf (w :: ws) n = 0 := by
  rw [wordOf, if_pos h]

/-- Behind some words counting starts anew. -/
theorem wordOf_append (vs ws : List (List Char)) (n : Nat) :
    wordOf (vs ++ ws) (vs.flatten.length + n) = vs.length + wordOf ws n := by
  induction vs with
  | nil => simp
  | cons v vs ih =>
    have hlong : ¬(v :: vs).flatten.length + n < v.length := by
      rw [List.flatten_cons, List.length_append]
      omega
    have hrest : (v :: vs).flatten.length + n - v.length = vs.flatten.length + n := by
      rw [List.flatten_cons, List.length_append]
      omega
    rw [List.cons_append, wordOf, if_neg hlong, hrest, ih, List.length_cons]
    omega

/-- The word that may go on is the beginning of the next one that is finished. -/
theorem exists_wordsAfter_eq_cons {word : List Char} (hword : word ≠ []) (cs : List Char) :
    ∃ more ws, wordsAfter word cs = (word.reverse ++ more) :: ws := by
  induction cs generalizing word with
  | nil =>
    refine ⟨[], [], ?_⟩
    rw [wordsAfter, close, if_neg (by simpa using hword), List.append_nil]
  | cons c cs ih =>
    obtain ⟨prev, before, rfl⟩ := List.exists_cons_of_ne_nil hword
    rw [wordsAfter]
    -- A letter or digit opens a word or goes on with the one that is open, a separator closes it.
    split
    · split
      · exact ⟨[], _, by rw [List.append_nil]⟩
      · obtain ⟨more, ws, hws⟩ := ih (List.cons_ne_nil c (prev :: before))
        refine ⟨c :: more, ws, ?_⟩
        rw [hws, List.reverse_cons, List.append_assoc, List.singleton_append]
    · exact ⟨[], wordsAfter [] cs, by simp [close]⟩

/-- Letters and digits that stand side by side fall into different words iff the second opens a
word. -/
theorem wordOf_words_ne_iff {a b : Char} (ha : isAlphanumeric a = true)
    (hb : isAlphanumeric b = true) (xs ys : List Char) :
    let n := (xs.filter isAlphanumeric).length
    wordOf (words (xs ++ a :: b :: ys)) n ≠ wordOf (words (xs ++ a :: b :: ys)) (n + 1) ↔
      opensWord a b ys.head? = true := by
  intro n
  obtain ⟨finished, pending, hwords, -, hflatten, hlast⟩ :=
    exists_wordsAfter_append [] (xs ++ [a]) (b :: ys)
  obtain ⟨before, rfl⟩ := List.head?_eq_some_iff.1 (hlast a (by simp) ha)
  rw [List.append_assoc, List.singleton_append, ← words] at hwords
  -- The first of the two is the last character read of the word that may go on.
  have hn : n = finished.flatten.length + before.length := by
    have hlength := congrArg List.length hflatten
    rw [List.filter_append, List.filter_cons_of_pos ha] at hlength
    simp only [List.length_append, List.length_reverse, List.length_cons, List.filter_nil,
      List.length_nil] at hlength
    omega
  rw [hwords, hn, Nat.add_assoc, wordOf_append, wordOf_append, wordsAfter, if_pos hb]
  -- If the second opens a word, the first is the last one of the word before it.
  cases ho : opensWord a b ys.head? with
  | true =>
    have hfirst : before.length < (a :: before).reverse.length := by simp
    have hsecond : ¬before.length + 1 < (a :: before).reverse.length := by simp
    simp only [if_true, wordOf_cons_of_lt hfirst, wordOf, if_neg hsecond, iff_true]
    omega
  | false =>
    -- Otherwise both are in the word that goes on.
    obtain ⟨more, ws, hws⟩ := exists_wordsAfter_eq_cons (List.cons_ne_nil b (a :: before)) ys
    have hlength : before.length + 1 < ((b :: a :: before).reverse ++ more).length := by
      simp only [List.length_append, List.length_reverse, List.length_cons]
      omega
    simp only [Bool.false_eq_true, if_false, hws, wordOf_cons_of_lt hlength,
      wordOf_cons_of_lt (Nat.lt_of_succ_lt hlength), ne_eq, not_true_eq_false]

/-- When a character opens a word behind another one. -/
theorem opensWord_eq_true_iff {a b : Char} {next? : Option Char} :
    opensWord a b next? = true ↔
      isUpper b = true ∧
        (isLower a = true ∨ a.isDigit = true ∨
          isUpper a = true ∧ ∃ c ∈ next?, isLower c = true) := by
  simp [opensWord, or_assoc, Option.any_eq_true]

/-- The words of a text are the text without its separators, each of them has characters, all of
them letters and digits. Two that stand side by side fall into different words iff the second is a
capital and the first is a small letter or an ASCII digit, or the first is a capital, too, and a
small letter follows. -/
theorem splitWords_exact (s : String) :
    String.join (splitWords s) = String.ofList (s.toList.filter isAlphanumeric) ∧
      (∀ w ∈ splitWords s, w ≠ "" ∧ ∀ c ∈ w.toList, isAlphanumeric c = true) ∧
      ∀ (xs ys : List Char) (a b : Char), s.toList = xs ++ a :: b :: ys →
        isAlphanumeric a = true → isAlphanumeric b = true →
        let n := (xs.filter isAlphanumeric).length
        let ws := (splitWords s).map String.toList
        wordOf ws n ≠ wordOf ws (n + 1) ↔
          isUpper b = true ∧
            (isLower a = true ∨ a.isDigit = true ∨
              isUpper a = true ∧ ∃ c ∈ ys.head?, isLower c = true) := by
  -- The words of a string are those of its characters.
  have hwords : (splitWords s).map String.toList = words s.toList := by
    simp [splitWords, Function.comp_def]
  refine ⟨?_, fun w hw => ?_, fun xs ys a b hs ha hb => ?_⟩
  · rw [← flatten_words, ← hwords, ← List.flatMap_def, ← String.toList_join, String.ofList_toList]
  · have hmem : w.toList ∈ words s.toList := hwords ▸ List.mem_map_of_mem hw
    refine ⟨fun hempty => ?_, fun c hc => (mem_of_mem_words hmem hc).2⟩
    exact ne_nil_of_mem_words hmem (by rw [hempty, String.toList_empty])
  · rw [hwords, hs, ← opensWord_eq_true_iff]
    exact wordOf_words_ne_iff ha hb xs ys

/-- The end of an acronym, behind a separator. -/
theorem splitWords_exact_acronym :
    let s := "my_HTTPServer2Go"
    let ws := (splitWords s).map String.toList
    splitWords s = ["my", "HTTP", "Server2", "Go"] ∧ wordOf ws 5 ≠ wordOf ws 6 := by
  intro s ws
  obtain ⟨-, -, hneighbours⟩ := splitWords_exact s
  refine ⟨by decide +kernel, ?_⟩
  have hboundary := hneighbours "my_HTT".toList "erver2Go".toList 'P' 'S' (by decide)
    (by decide +kernel) (by decide +kernel)
  have hnext : isLower 'e' = true := by decide +kernel
  exact hboundary.2 ⟨by decide +kernel, .inr (.inr ⟨by decide +kernel, 'e', rfl, hnext⟩)⟩

end Stencil.Naming
