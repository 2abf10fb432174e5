import Stencil.Proofs.Lists
import Stencil.Proofs.Naming.Pascal
import Stencil.Proofs.Naming.Words

/-!
# The characters of names

Only letters and digits get into words, and a change of case makes letters of letters, although a
capital beyond ASCII may have a small form within, and one letter may become several. So the only
other character of a name is the separator of its style.

## Key results

- `isWordChar_upper`, `isWordChar_lower`: changes of case stay among the characters of words
- `isWordChar_of_mem_apply`: the characters of a name are those of words, and the separator
- `not_mem_convert`: all other characters are lost, such as dots and slashes
-/

namespace Stencil.Naming

open Text

variable {c d : Char} {cs : List Char}

/-! ## Characters of words -/

/-- An ASCII letter or digit, or any character beyond ASCII. -/
def isWordChar (c : Char) : Bool := 128 ≤ c.toNat || c.isAlphanum

/-- All characters beyond ASCII are among them. -/
theorem isWordChar_of_le (h : 128 ≤ c.toNat) : isWordChar c = true := by
  rw [isWordChar, decide_eq_true h, Bool.true_or]

/-- ASCII letters and digits are among them. -/
theorem isWordChar_of_isAlphanum (h : c.isAlphanum = true) : isWordChar c = true := by
  rw [isWordChar, h, Bool.or_true]

/-- In ASCII, only letters and digits are. -/
theorem isAlphanum_of_isWordChar (h : isWordChar c = true) (hc : c.toNat < 128) :
    c.isAlphanum = true := by
  rwa [isWordChar, decide_eq_false (Nat.not_le.2 hc), Bool.false_or] at h

/-- Letters and digits of any script are. -/
theorem isWordChar_of_isAlphanumeric (h : isAlphanumeric c = true) : isWordChar c = true := by
  by_cases hc : c.toNat < 128
  · rw [isAlphanumeric, hasClass_ascii hc] at h
    exact isWordChar_of_isAlphanum h
  · exact isWordChar_of_le (Nat.le_of_not_lt hc)

/-- The code points of the characters of words, from the first to the last of each range. -/
def wordRanges : List (Nat × Nat) :=
  [(0x30, 0x39), (0x41, 0x5a), (0x61, 0x7a), (0x80, 0xd7ff), (0xe000, 0x10ffff)]

/-- The ranges hold characters of words only. -/
theorem isWordChar_ofNat {n : Nat} (h : ∃ r ∈ wordRanges, r.1 ≤ n ∧ n ≤ r.2) :
    isWordChar (Char.ofNat n) = true := by
  -- The ASCII code points are few enough to be checked. Beyond them the range need only be valid.
  by_cases hn : n < 128
  · have hall : ∀ n < 128, (∃ r ∈ wordRanges, r.1 ≤ n ∧ n ≤ r.2) →
        isWordChar (Char.ofNat n) = true := by
      decide +kernel
    exact hall n hn h
  · have hvalid : n.isValidChar := by
      simp only [wordRanges, List.mem_cons, List.not_mem_nil, or_false, exists_eq_or_imp,
        exists_eq_left] at h
      show n < 0xd800 ∨ 0xdfff < n ∧ n < 0x110000
      omega
    refine isWordChar_of_le ?_
    rw [Char.ofNat, dif_pos hvalid]
    exact Nat.le_of_not_lt hn

/-! ## Changes of case -/

/-- All that the tables of a mapping can put in place of a character are characters of words. -/
def mapsToWordChars (expansions : List (Nat × List Nat)) (shifts : List Shift) : Bool :=
  expansions.all (fun e => e.2.all fun n => isWordChar (Char.ofNat n)) &&
    shifts.all fun s => wordRanges.any fun r =>
      decide ((r.1 : Int) ≤ s.run.first + s.offset) && decide (s.run.last + s.offset ≤ r.2)

/-- A run of characters that is shifted into a range stays among them. -/
theorem isWordChar_of_shifted? {shifts : List Shift} {n m : Nat}
    (hshifts : ∀ s ∈ shifts, ∃ r ∈ wordRanges,
      (r.1 : Int) ≤ s.run.first + s.offset ∧ s.run.last + s.offset ≤ r.2)
    (h : shifted? shifts n = some m) : isWordChar (Char.ofNat m) = true := by
  obtain ⟨s, hs, rfl⟩ := Option.map_eq_some_iff.1 h
  have hcovers := List.find?_some hs
  simp only [Run.covers, Bool.and_eq_true, decide_eq_true_eq] at hcovers
  obtain ⟨r, hr, hfirst, hlast⟩ := hshifts s (List.mem_of_find?_eq_some hs)
  -- The ends of the run stay within the range, so all that lies between them does.
  exact isWordChar_ofNat ⟨r, hr, by omega, by omega⟩

/-- So does all that a mapping makes of a character, if its tables do. -/
theorem isWordChar_mapped {expansions : List (Nat × List Nat)} {shifts : List Shift}
    (htables : mapsToWordChars expansions shifts = true) (hc : isWordChar c = true) :
    ∀ d ∈ mapped expansions shifts c, isWordChar d = true := by
  simp only [mapsToWordChars, Bool.and_eq_true, List.all_eq_true, List.any_eq_true,
    decide_eq_true_eq] at htables
  obtain ⟨hexpansions, hshifts⟩ := htables
  rw [mapped]
  split
  · next out h =>
    intro d hd
    obtain ⟨n, hn, rfl⟩ := List.mem_map.1 hd
    exact hexpansions _ (List.mem_of_find?_eq_some h) n hn
  · intro d hd
    obtain rfl := List.mem_singleton.1 hd
    -- A character that no run covers is mapped to itself.
    cases hshift : shifted? shifts c.toNat with
    | none => exact hc
    | some m => exact isWordChar_of_shifted? hshifts hshift

/-- In ASCII, a change of case gives a letter or digit. -/
theorem isWordChar_toUpper_toLower (hc : isWordChar c = true) (hascii : c.toNat < 128) :
    isWordChar c.toUpper = true ∧ isWordChar c.toLower = true := by
  have halnum := isAlphanumeric_of_isAlphanum (isAlphanum_of_isWordChar hc hascii)
  obtain ⟨hupper, hlower⟩ := isAlphanum_toUpper_toLower hascii halnum
  exact ⟨isWordChar_of_isAlphanum hupper, isWordChar_of_isAlphanum hlower⟩

/-- A capital form consists of characters of words. -/
theorem isWordChar_upper (hc : isWordChar c = true) : ∀ d ∈ upper c, isWordChar d = true := by
  rw [upper]
  split
  · next hascii => exact List.forall_mem_singleton.2 (isWordChar_toUpper_toLower hc hascii).1
  · exact isWordChar_mapped (by decide +kernel) hc

/-- So does a small form. -/
theorem isWordChar_lower (hc : isWordChar c = true) : ∀ d ∈ lower c, isWordChar d = true := by
  rw [lower]
  split
  · next hascii => exact List.forall_mem_singleton.2 (isWordChar_toUpper_toLower hc hascii).2
  · exact isWordChar_mapped (by decide +kernel) hc

/-- And the small form of a text, in which a sigma is written by its place. -/
theorem isWordChar_lowerAfter (h : ∀ c ∈ cs, isWordChar c = true) (before : List Char) :
    ∀ d ∈ lowerAfter before cs, isWordChar d = true := by
  induction cs generalizing before with
  | nil => exact fun d hd => absurd hd List.not_mem_nil
  | cons c cs ih =>
    obtain ⟨hc, hcs⟩ := List.forall_mem_cons.1 h
    rw [lowerAfter, List.forall_mem_append]
    refine ⟨?_, ih hcs _⟩
    split
    · -- Both small forms of the sigma are letters.
      split <;> exact List.forall_mem_singleton.2 (by decide)
    · exact isWordChar_lower hc

/-- And a text with its first letter made a capital. -/
theorem isWordChar_capitalize (h : ∀ c ∈ cs, isWordChar c = true) :
    ∀ d ∈ capitalize cs, isWordChar d = true := by
  cases cs with
  | nil => exact fun d hd => absurd hd List.not_mem_nil
  | cons c cs =>
    obtain ⟨hc, hcs⟩ := List.forall_mem_cons.1 h
    rw [capitalize, List.forall_mem_append]
    refine ⟨isWordChar_upper hc, fun d hd => ?_⟩
    obtain ⟨b, hb, hd⟩ := List.mem_flatMap.1 hd
    exact isWordChar_lower (hcs b hb) d hd

/-! ## Styles -/

/-- What a style puts between words. -/
def Style.separator? : Style → Option Char
  | .camel => none
  | .pascal => none
  | .snake => some '_'
  | .kebab => some '-'
  | .dot => some '.'

/-- Between small forms there is the separator, and nothing else. -/
theorem isWordChar_of_mem_joinLower {sep : Char} {ws : List (List Char)}
    (hws : ∀ w ∈ ws, ∀ c ∈ w, isWordChar c = true) (h : d ∈ joinLower sep ws) :
    isWordChar d = true ∨ some sep = some d := by
  rcases List.eq_or_exists_of_mem_intercalate h with rfl | ⟨v, hv, hd⟩
  · exact .inr rfl
  · obtain ⟨w, hw, rfl⟩ := List.mem_map.1 hv
    exact .inl (isWordChar_lowerAfter (hws w hw) [] d hd)

/-- A style puts together forms of the words, and its separator. -/
theorem isWordChar_of_mem_join {style : Style} {ws : List (List Char)}
    (hws : ∀ w ∈ ws, ∀ c ∈ w, isWordChar c = true) (h : d ∈ style.join ws) :
    isWordChar d = true ∨ style.separator? = some d := by
  -- Capitalized words follow each other without a separator.
  have hcapitalize : ∀ vs : List (List Char), (∀ v ∈ vs, ∀ c ∈ v, isWordChar c = true) →
      d ∈ vs.flatMap capitalize → isWordChar d = true := by
    intro vs hvs hd
    obtain ⟨v, hv, hd⟩ := List.mem_flatMap.1 hd
    exact isWordChar_capitalize (hvs v hv) d hd
  cases style with
  | camel =>
    cases ws with
    | nil => cases h
    | cons w ws =>
      obtain ⟨hw, hws⟩ := List.forall_mem_cons.1 hws
      rcases List.mem_append.1 h with h | h
      · exact .inl (isWordChar_lowerAfter hw [] d h)
      · exact .inl (hcapitalize ws hws h)
  | pascal => exact .inl (hcapitalize ws hws h)
  | snake => exact isWordChar_of_mem_joinLower hws h
  | kebab => exact isWordChar_of_mem_joinLower hws h
  | dot => exact isWordChar_of_mem_joinLower hws h

/-- The characters of a name are those of words, and the separator of its style. -/
theorem isWordChar_of_mem_apply {style : Style} (h : d ∈ style.apply cs) :
    isWordChar d = true ∨ style.separator? = some d :=
  isWordChar_of_mem_join (fun _ hw _ hc => isWordChar_of_isAlphanumeric (mem_of_mem_words hw hc).2) h

/-- All other characters are lost. -/
theorem not_mem_convert {style : Style} (hd : isWordChar d = false)
    (hsep : style.separator? ≠ some d) (s : String) : d ∉ (style.convert s).toList := by
  rw [Style.convert, String.toList_ofList]
  intro h
  rcases isWordChar_of_mem_apply h with h | h
  · rw [hd] at h
    cases h
  · exact hsep h

/-- Nothing that separates the parts of a path or a file name gets through, but for the dots of dot
case. -/
theorem not_mem_convert_of_ne_dot {style : Style} (h : style ≠ .dot) {c : Char}
    (hc : c ∈ ['.', '/', '\\']) (s : String) : c ∉ (style.convert s).toList := by
  simp only [List.mem_cons, List.not_mem_nil, or_false] at hc
  refine not_mem_convert ?_ ?_ s
  · rcases hc with rfl | rfl | rfl <;> decide
  · cases style with
    | dot => exact absurd rfl h
    | _ => rcases hc with rfl | rfl | rfl <;> decide

end Stencil.Naming
