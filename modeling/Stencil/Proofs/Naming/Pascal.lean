import Stencil.Naming

/-!
# Pascal case, character by character

The words of a text are found by looking at a character and its neighbours, so its Pascal case can be
read off in one pass, without the words: `pascalAfter` carries the character in front along.

Applying Pascal case a second time may change the text: single letters that were words of their own
are taken for an acronym, as in `XA` from `x_a`. A text is `settled` if that cannot happen.

## Key results

- `pascal_eq`: Pascal case in one pass
- `pascal_pascal_iff`: for ASCII texts, a second application changes nothing iff the first one gives a
  settled text
- `settled_pascal`: the first one does so if there are no separators and no small letter in front
- `pascal_pascal_pascal`: for ASCII texts, a third application changes nothing
-/

namespace Stencil.Naming

open Text

/-! ## One pass -/

/-- The Pascal case of a text behind a character that belongs to a word, if there is one. -/
def pascalAfter (prev? : Option Char) : List Char → List Char
  | [] => []
  | c :: cs =>
    if isAlphanumeric c then
      (if prev?.all (opensWord · c cs.head?) then upper c else lower c) ++ pascalAfter (some c) cs
    else pascalAfter none cs

/-- A word grows by the small form of what is added to it. -/
private theorem capitalize_append_singleton {w : List Char} (h : w ≠ []) (c : Char) :
    capitalize (w ++ [c]) = capitalize w ++ lower c := by
  obtain ⟨a, as, rfl⟩ := List.exists_cons_of_ne_nil h
  simp [capitalize]

/-- The last character of a word that is still open decides how the text goes on. -/
theorem flatMap_capitalize_wordsAfter (word cs : List Char) :
    (wordsAfter word cs).flatMap capitalize =
      capitalize word.reverse ++ pascalAfter word.head? cs := by
  induction cs generalizing word with
  | nil => cases word <;> simp [wordsAfter, close, pascalAfter, capitalize]
  | cons c cs ih =>
    cases hc : isAlphanumeric c with
    -- A separator closes the word that is open, if there is one.
    | false => cases word <;> simp [wordsAfter, pascalAfter, hc, ih, close, capitalize]
    | true =>
      cases word with
      | nil => simp [wordsAfter, pascalAfter, hc, ih, capitalize]
      | cons prev word =>
        have hgrown := capitalize_append_singleton
          (List.reverse_ne_nil_iff.2 (List.cons_ne_nil prev word)) c
        -- Either a new word is opened, or the open one grows.
        cases ho : opensWord prev c cs.head? with
        | true => simp [wordsAfter, pascalAfter, hc, ho, ih, capitalize]
        | false =>
          simp only [wordsAfter, pascalAfter, hc, ho, ih, if_true, List.head?_cons, Option.all_some,
            Bool.false_eq_true, if_false, List.reverse_cons (a := c), hgrown, List.append_assoc]

/-- Pascal case in one pass. -/
theorem pascal_eq (cs : List Char) : Style.pascal.apply cs = pascalAfter none cs := by
  rw [Style.apply, Style.join, words, flatMap_capitalize_wordsAfter]
  rfl

/-! ## ASCII characters -/

/-- A text of ASCII characters. -/
def Ascii (cs : List Char) : Prop := ∀ c ∈ cs, c.toNat < 128

/-- What holds of the first 128 characters holds of all ASCII characters. -/
@[elab_as_elim]
theorem forall_ascii {P : Char → Prop} (h : ∀ n < 128, P (Char.ofNat n)) {c : Char}
    (hc : c.toNat < 128) : P c := by
  have hn := h c.toNat hc
  rwa [Char.ofNat_toNat] at hn

variable {c : Char} {cs : List Char}

/-- Letters and digits of ASCII are ASCII characters. -/
theorem lt_of_isAlphanum (h : c.isAlphanum = true) : c.toNat < 128 := by
  replace h : (decide ('A'.val ≤ c.val ∧ c.val ≤ 'Z'.val) ||
      decide ('a'.val ≤ c.val) && decide (c.val ≤ 'z'.val) ||
      decide ('0'.val ≤ c.val) && decide (c.val ≤ '9'.val)) = true := h
  simp only [Bool.or_eq_true, Bool.and_eq_true, decide_eq_true_eq, UInt32.le_iff_toNat_le] at h
  have htoNat : c.toNat = c.val.toNat := rfl
  have hZ : 'Z'.val.toNat = 90 := rfl
  have hz : 'z'.val.toNat = 122 := rfl
  have h9 : '9'.val.toNat = 57 := rfl
  omega

/-- They are letters and digits of any script as well. -/
theorem isAlphanumeric_of_isAlphanum (h : c.isAlphanum = true) : isAlphanumeric c = true := by
  rw [isAlphanumeric, hasClass_ascii (lt_of_isAlphanum h), h]

/-- What case means among ASCII characters: letters and digits are capitals unless they are small
letters or digits, a character is changed by a change of case only if it is a letter of the other
one, and letters and digits stay what they are. -/
private theorem ascii_case (hc : c.toNat < 128) :
    (c.isAlphanum = true → (isLower c || c.isDigit) = !isUpper c) ∧
      ((c.toUpper = c ↔ isLower c = false) ∧ (c.toLower = c ↔ isUpper c = false)) ∧
      (isLower c.toUpper = false ∧ isUpper c.toLower = false) ∧
      (isAlphanumeric c = true → c.toUpper.isAlphanum = true ∧ c.toLower.isAlphanum = true) := by
  -- One check of all 128 characters, for all of these at once.
  refine forall_ascii ?_ hc
  decide +kernel

/-- A letter or digit is a capital unless it is a small letter or a digit. -/
private theorem isLower_or_isDigit (h : c.isAlphanum = true) :
    (isLower c || c.isDigit) = !isUpper c :=
  (ascii_case (lt_of_isAlphanum h)).1 h

/-- Only small letters have another capital form. -/
private theorem toUpper_eq_self_iff (hc : c.toNat < 128) : c.toUpper = c ↔ isLower c = false :=
  (ascii_case hc).2.1.1

/-- Only capitals have another small form. -/
private theorem toLower_eq_self_iff (hc : c.toNat < 128) : c.toLower = c ↔ isUpper c = false :=
  (ascii_case hc).2.1.2

/-- A capital form is no small letter. -/
private theorem isLower_toUpper (hc : c.toNat < 128) : isLower c.toUpper = false :=
  (ascii_case hc).2.2.1.1

/-- A small form is no capital. -/
theorem isUpper_toLower (hc : c.toNat < 128) : isUpper c.toLower = false :=
  (ascii_case hc).2.2.1.2

/-- Letters and digits stay letters and digits of ASCII when their case is changed. -/
theorem isAlphanum_toUpper_toLower (hc : c.toNat < 128) :
    isAlphanumeric c = true → c.toUpper.isAlphanum = true ∧ c.toLower.isAlphanum = true :=
  (ascii_case hc).2.2.2

/-- The Pascal form of a letter or digit: small, unless a word is opened with it. -/
def pascalForm (prev? : Option Char) (c : Char) (next? : Option Char) : Char :=
  if prev?.all (opensWord · c next?) then c.toUpper else c.toLower

/-- A letter or digit gets its Pascal form, which is one character. -/
theorem pascalAfter_cons (hc : c.toNat < 128) (ha : isAlphanumeric c = true) (prev? : Option Char)
    (cs : List Char) :
    pascalAfter prev? (c :: cs) = pascalForm prev? c cs.head? :: pascalAfter (some c) cs := by
  rw [pascalAfter, if_pos ha, pascalForm]
  split
  · rw [upper_ascii hc, List.singleton_append]
  · rw [lower_ascii hc, List.singleton_append]

/-- Pascal case leaves nothing but letters and digits. -/
theorem isAlphanum_of_mem_pascalAfter (h : Ascii cs) (prev? : Option Char) :
    ∀ d ∈ pascalAfter prev? cs, d.isAlphanum = true := by
  induction cs generalizing prev? with
  | nil => exact fun d hd => absurd hd List.not_mem_nil
  | cons c cs ih =>
    obtain ⟨hc, hcs⟩ := List.forall_mem_cons.1 h
    -- A separator leaves nothing, a letter or digit leaves its form.
    cases ha : isAlphanumeric c with
    | false =>
      rw [pascalAfter, ha, if_neg Bool.false_ne_true]
      exact ih hcs none
    | true =>
      rw [pascalAfter_cons hc ha, List.forall_mem_cons]
      refine ⟨?_, ih hcs (some c)⟩
      obtain ⟨hupper, hlower⟩ := isAlphanum_toUpper_toLower hc ha
      rw [pascalForm]
      split
      · exact hupper
      · exact hlower

/-- Pascal case starts with no small letter. -/
theorem isLower_head?_pascalAfter (h : Ascii cs) :
    (pascalAfter none cs).head?.any isLower = false := by
  induction cs with
  | nil => rfl
  | cons c cs ih =>
    obtain ⟨hc, hcs⟩ := List.forall_mem_cons.1 h
    -- Behind separators, the first letter opens a word.
    cases ha : isAlphanumeric c with
    | false =>
      rw [pascalAfter, ha, if_neg Bool.false_ne_true]
      exact ih hcs
    | true =>
      rw [pascalAfter_cons hc ha]
      exact isLower_toUpper hc

/-- Pascal case leaves nothing but letters and digits. -/
theorem isAlphanum_of_mem_pascal (h : Ascii cs) :
    ∀ d ∈ Style.pascal.apply cs, d.isAlphanum = true := by
  rw [pascal_eq]
  exact isAlphanum_of_mem_pascalAfter h none

/-- Pascal case starts with no small letter. -/
theorem isLower_head?_pascal (h : Ascii cs) :
    (Style.pascal.apply cs).head?.any isLower = false := by
  rw [pascal_eq]
  exact isLower_head?_pascalAfter h

/-! ## Settled texts -/

/-- Whether every capital behind a capital has a small letter behind it. -/
def settled : List Char → Bool
  | a :: b :: cs => (!(isUpper a && isUpper b) || cs.head?.any isLower) && settled (b :: cs)
  | _ => true

/-- A letter or digit within a word keeps its form unless it is a capital behind a capital that no
small letter follows. -/
private theorem pascalForm_eq_self_iff {p : Char} (hp : p.isAlphanum = true)
    (hc : c.isAlphanum = true) (next? : Option Char) :
    pascalForm (some p) c next? = c ↔ (!(isUpper p && isUpper c) || next?.any isLower) = true := by
  rw [pascalForm, Option.all_some, opensWord]
  have hprev := isLower_or_isDigit hp
  -- A small letter or a digit does not open a word, and is kept.
  cases hu : isUpper c with
  | false =>
    have hlower := (toLower_eq_self_iff (lt_of_isAlphanum hc)).2 hu
    simp [hlower]
  | true =>
    -- A capital keeps its form iff it opens a word.
    have hupper : c.toUpper = c := (toUpper_eq_self_iff (lt_of_isAlphanum hc)).2
      (not_isLower_of_isUpper_ascii (lt_of_isAlphanum hc) hu)
    have hlower : c.toLower ≠ c := by
      rw [Ne, toLower_eq_self_iff (lt_of_isAlphanum hc), hu]
      exact Bool.true_eq_false.mp
    rw [hprev]
    cases isUpper p <;> cases next?.any isLower <;> simp [hupper, hlower]

/-- Behind a letter or digit, a text keeps its form iff it is settled together with it. -/
private theorem pascalAfter_some_eq_self_iff {p : Char} (hp : p.isAlphanum = true)
    (h : ∀ c ∈ cs, c.isAlphanum = true) :
    pascalAfter (some p) cs = cs ↔ settled (p :: cs) = true := by
  induction cs generalizing p with
  | nil => simp [pascalAfter, settled]
  | cons c cs ih =>
    obtain ⟨hc, hcs⟩ := List.forall_mem_cons.1 h
    rw [pascalAfter_cons (lt_of_isAlphanum hc) (isAlphanumeric_of_isAlphanum hc), List.cons.injEq,
      pascalForm_eq_self_iff hp hc, ih hc hcs, settled, Bool.and_eq_true]

/-- A text of letters and digits is in Pascal case iff it is settled and starts with no small
letter. -/
theorem pascal_eq_self_iff (h : ∀ c ∈ cs, c.isAlphanum = true) :
    Style.pascal.apply cs = cs ↔ cs.head?.any isLower = false ∧ settled cs = true := by
  -- The first character opens a word, so it is made a capital; the others are settled or not.
  rw [pascal_eq]
  cases cs with
  | nil => simp [pascalAfter, settled]
  | cons c cs =>
    obtain ⟨hc, hcs⟩ := List.forall_mem_cons.1 h
    rw [pascalAfter_cons (lt_of_isAlphanum hc) (isAlphanumeric_of_isAlphanum hc), List.cons.injEq,
      pascalAfter_some_eq_self_iff hc hcs]
    exact and_congr_left' (toUpper_eq_self_iff (lt_of_isAlphanum hc))

/-- Pascal case is kept by a second application iff it is settled. -/
theorem pascal_pascal_iff (h : Ascii cs) :
    Style.pascal.apply (Style.pascal.apply cs) = Style.pascal.apply cs ↔
      settled (Style.pascal.apply cs) = true := by
  rw [pascal_eq_self_iff (isAlphanum_of_mem_pascal h), and_iff_right_iff_imp]
  exact fun _ => isLower_head?_pascal h

/-! ## Texts without separators -/

/-- A small letter within a word stays what it is. -/
private theorem head?_pascalAfter_of_isLower {p : Char} (hp : p.isAlphanum = true)
    (h : ∀ c ∈ cs, c.isAlphanum = true) (hlower : cs.head?.any isLower = true) :
    (pascalAfter (some p) cs).head?.any isLower = true := by
  cases cs with
  | nil => cases hlower
  | cons c cs =>
    have hc := h c List.mem_cons_self
    have hlt := lt_of_isAlphanum hc
    -- A small letter is no capital, so it opens no word.
    have hupper : isUpper c = false := by
      rw [← Bool.not_eq_true]
      intro hu
      rw [List.head?_cons, Option.any_some, not_isLower_of_isUpper_ascii hlt hu] at hlower
      cases hlower
    have hform := (pascalForm_eq_self_iff hp hc cs.head?).2 (by simp [hupper])
    rw [pascalAfter_cons hlt (isAlphanumeric_of_isAlphanum hc), hform]
    exact hlower

/-- Within a text without separators, a capital comes out only of a capital that opens a word, and
that is one behind a capital only if a small letter follows. -/
private theorem settled_pascalAfter {p q : Char} (hp : p.isAlphanum = true)
    (hq : isUpper q = true → isUpper p = true) (h : ∀ c ∈ cs, c.isAlphanum = true) :
    settled (q :: pascalAfter (some p) cs) = true := by
  induction cs generalizing p q with
  | nil => rfl
  | cons c cs ih =>
    obtain ⟨hc, hcs⟩ := List.forall_mem_cons.1 h
    have hlt := lt_of_isAlphanum hc
    rw [pascalAfter_cons hlt (isAlphanumeric_of_isAlphanum hc)]
    -- A small form is no capital, so a capital is the form of one that opens a word.
    have hopens : isUpper (pascalForm (some p) c cs.head?) = true →
        opensWord p c cs.head? = true := by
      rw [pascalForm, Option.all_some]
      split
      · exact fun _ => ‹_›
      · rw [isUpper_toLower hlt]
        exact fun h => absurd h Bool.false_ne_true
    simp only [opensWord, isLower_or_isDigit hp, Bool.and_eq_true] at hopens
    rw [settled, ih hc (fun hu => (hopens hu).1) hcs, Bool.and_true]
    cases hqu : isUpper q with
    | false => rfl
    -- Two capitals in a row: the second one opens a word behind a capital, so a small letter
    -- follows.
    | true =>
      cases hcu : isUpper (pascalForm (some p) c cs.head?) with
      | false => rfl
      | true =>
        have hnext := (hopens hcu).2
        rw [hq hqu] at hnext
        exact head?_pascalAfter_of_isLower hc hcs hnext

/-- A text of letters and digits that starts with no small letter is settled once it has been put into
Pascal case. -/
theorem settled_pascal (h : ∀ c ∈ cs, c.isAlphanum = true) (hfirst : cs.head?.any isLower = false) :
    settled (Style.pascal.apply cs) = true := by
  rw [pascal_eq]
  cases cs with
  | nil => rfl
  | cons c cs =>
    obtain ⟨hc, hcs⟩ := List.forall_mem_cons.1 h
    have hlt := lt_of_isAlphanum hc
    have hfirst : c.toUpper = c := (toUpper_eq_self_iff hlt).2 hfirst
    rw [pascalAfter_cons hlt (isAlphanumeric_of_isAlphanum hc)]
    exact settled_pascalAfter hc (fun hu => hfirst ▸ hu) hcs

/-- `x_a` gives a text that is not settled, and `x_ab` one that is. -/
example : settled (Style.pascal.apply "x_a".toList) = false ∧
    settled (Style.pascal.apply "x_ab".toList) = true := by
  decide +kernel

/-! ## Further applications -/

/-- A first application may leave single letters next to each other that a second one takes for an
acronym. From then on nothing changes, since the second one is given neither separators nor a small
letter in front. -/
theorem pascal_pascal_pascal (h : Ascii cs) :
    Style.pascal.apply (Style.pascal.apply (Style.pascal.apply cs)) =
      Style.pascal.apply (Style.pascal.apply cs) := by
  have halnum := isAlphanum_of_mem_pascal h
  have hascii : Ascii (Style.pascal.apply cs) := fun d hd => lt_of_isAlphanum (halnum d hd)
  exact (pascal_pascal_iff hascii).2 (settled_pascal halnum (isLower_head?_pascal h))

/-- The same for strings. -/
theorem convert_convert_convert_pascal {s : String} (h : Ascii s.toList) :
    Style.pascal.convert (Style.pascal.convert (Style.pascal.convert s)) =
      Style.pascal.convert (Style.pascal.convert s) := by
  simp only [Style.convert, String.toList_ofList, pascal_pascal_pascal h]

end Stencil.Naming
