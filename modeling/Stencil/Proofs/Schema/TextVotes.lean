import Stencil.Proofs.Lists
import Stencil.Schema.Vote

/-!
# What texts look like

A text votes for the kind of value that it looks like. Here the shapes are said by a grammar, in
which a number is a sign, digits, a point among them and an exponent, and not by the reader that
takes a text apart.

## Key results

- `isDecimal_iff`: the reader of decimal numbers accepts exactly what the grammar does
- `ofText_eq`: what a text votes for, by its shape
-/

namespace Stencil.Schema

/-! ## The grammar -/

/-- Nothing but digits. -/
def Digits (cs : List Char) : Prop := ∀ c ∈ cs, c.isDigit = true

/-- A sign, or nothing. -/
def Sign (cs : List Char) : Prop := cs = [] ∨ cs = ['+'] ∨ cs = ['-']

/-- An exponent part, or nothing. -/
inductive Exponent : List Char → Prop
  | none : Exponent []
  | some {e : Char} {sign digits : List Char} (mark : e = 'e' ∨ e = 'E') (hsign : Sign sign)
    (hne : digits ≠ []) (hdigits : Digits digits) : Exponent (e :: (sign ++ digits))

/-- A decimal number without a sign. There are digits on one side of the point at least. -/
inductive Decimal : List Char → Prop
  | whole {digits exponent : List Char} (hne : digits ≠ []) (hdigits : Digits digits)
    (hexponent : Exponent exponent) : Decimal (digits ++ exponent)
  | pointed {digits fraction exponent : List Char} (hne : digits ≠ [] ∨ fraction ≠ [])
    (hdigits : Digits digits) (hfraction : Digits fraction) (hexponent : Exponent exponent) :
    Decimal (digits ++ '.' :: (fraction ++ exponent))

/-- The text looks like a whole number, which is not so large that it would be rounded to
infinity. -/
def LooksWhole (s : String) : Prop :=
  ∃ sign digits, Sign sign ∧ digits ≠ [] ∧ Digits digits ∧ s.toList = sign ++ digits ∧
    Text.decimalValue digits < infinityBound

/-- The text looks like a number, one that is not finite included. -/
def LooksNumeric (s : String) : Prop :=
  ∃ sign cs, Sign sign ∧ s.toList = sign ++ cs ∧
    (Decimal cs ∨ cs.map Char.toLower ∈ infiniteWords)

/-- The text looks like a truth value. -/
def LooksBool (s : String) : Prop := s ∈ boolWords

/-! ## Signs -/

/-- Does not start with a sign. -/
private def Bare (cs : List Char) : Prop := ∀ c ∈ cs.head?, c ≠ '+' ∧ c ≠ '-'

/-- A sign is taken off, if what stands behind it has none. -/
private theorem unsigned_append {sign cs : List Char} (hsign : Sign sign) (hcs : Bare cs) :
    unsigned (sign ++ cs) = cs := by
  -- Without a sign, the first character must not be taken for one.
  rcases hsign with rfl | rfl | rfl
  · cases cs with
    | nil => rfl
    | cons c cs =>
      obtain ⟨hplus, hminus⟩ := hcs c rfl
      simp [unsigned, hplus, hminus]
  · rfl
  · rfl

/-- Every text is a sign, or nothing, before what is left of it. -/
private theorem exists_sign (cs : List Char) : ∃ sign, Sign sign ∧ cs = sign ++ unsigned cs := by
  unfold unsigned
  split
  · exact ⟨['+'], .inr (.inl rfl), rfl⟩
  · exact ⟨['-'], .inr (.inr rfl), rfl⟩
  · exact ⟨[], .inl rfl, rfl⟩

/-- A digit is no sign. -/
private theorem bare_of_isDigit {c : Char} (h : c.isDigit = true) (cs : List Char) :
    Bare (c :: cs) := by
  rintro _ ⟨rfl⟩
  constructor <;> rintro rfl <;> simp at h

/-- Digits have no sign in front. -/
private theorem Digits.bare {cs : List Char} (h : Digits cs) : Bare cs := by
  cases cs with
  | nil => simp [Bare]
  | cons c cs => exact bare_of_isDigit (h c List.mem_cons_self) cs

/-- Neither does a decimal number, which starts with a digit or a point. -/
private theorem Decimal.bare {cs : List Char} (h : Decimal cs) : Bare cs := by
  cases h with
  | @whole digits exponent hne hdigits _ =>
    cases digits with
    | nil => exact absurd rfl hne
    | cons c digits => exact bare_of_isDigit (hdigits c List.mem_cons_self) _
  | @pointed digits fraction exponent _ hdigits _ _ =>
    cases digits with
    | nil => rintro _ ⟨rfl⟩; decide
    | cons c digits => exact bare_of_isDigit (hdigits c List.mem_cons_self) _

/-- Nor do the words for numbers that are not finite. -/
private theorem bare_of_infinite {cs : List Char} (h : cs.map Char.toLower ∈ infiniteWords) :
    Bare cs := by
  rintro c hc
  cases cs with
  | nil => cases hc
  | cons d cs =>
    obtain rfl : d = c := Option.some.inj hc
    -- All of the words start with a letter.
    have hletter : d.toLower = 'i' ∨ d.toLower = 'n' := by
      simp only [infiniteWords, List.map_cons, List.mem_cons, List.cons.injEq, List.not_mem_nil,
        or_false] at h
      rcases h with h | h | h
      · exact .inl h.1
      · exact .inl h.1
      · exact .inr h.1
    constructor <;> rintro rfl <;> revert hletter <;> decide

/-! ## Decimal numbers -/

/-- The check for an exponent part accepts nothing but these. -/
theorem isExponentPart_iff {cs : List Char} : isExponentPart cs = true ↔ Exponent cs := by
  constructor
  · intro h
    cases cs with
    | nil => exact .none
    | cons e cs =>
      -- Behind the mark, the sign and the digits are told apart by taking the sign off.
      obtain ⟨sign, hsign, hcs⟩ := exists_sign cs
      simp only [isExponentPart, Bool.and_eq_true, Bool.or_eq_true, decide_eq_true_eq,
        Bool.not_eq_true', List.isEmpty_eq_false_iff, List.all_eq_true] at h
      rw [hcs]
      exact .some h.1.1 hsign h.1.2 h.2
  · intro h
    cases h with
    | none => rfl
    | @some e sign digits mark hsign hne hdigits =>
      simp only [isExponentPart, unsigned_append hsign hdigits.bare, Bool.and_eq_true,
        Bool.or_eq_true, decide_eq_true_eq, Bool.not_eq_true', List.isEmpty_eq_false_iff,
        List.all_eq_true]
      exact ⟨⟨mark, hne⟩, hdigits⟩

/-- An exponent part does not go on with a digit. -/
private theorem Exponent.stops {cs : List Char} (h : Exponent cs) :
    ∀ c ∈ cs.head?, c.isDigit = false := by
  cases h with
  | none => simp
  | some mark _ _ _ =>
    rintro _ ⟨rfl⟩
    rcases mark with rfl | rfl <;> decide

private theorem digits_takeWhile (cs : List Char) : Digits (cs.takeWhile Char.isDigit) :=
  List.all_eq_true.1 List.all_takeWhile

/-- Digits alone are a decimal number. -/
private theorem Digits.decimal {cs : List Char} (h : Digits cs) (hne : cs ≠ []) : Decimal cs := by
  have hcs : Decimal (cs ++ []) := .whole hne h .none
  rwa [List.append_nil] at hcs

/-- The check for a decimal number accepts nothing but these. -/
theorem isDecimal_iff {cs : List Char} : isDecimal cs = true ↔ Decimal cs := by
  constructor
  · intro h
    have hcs : cs = cs.takeWhile Char.isDigit ++ cs.dropWhile Char.isDigit :=
      List.takeWhile_append_dropWhile.symm
    simp only [isDecimal] at h
    split at h
    · next rest hrest =>
      -- There is a point, so the digits behind it are the fraction.
      simp only [Bool.and_eq_true, isExponentPart_iff, Bool.not_eq_true',
        Bool.and_eq_false_iff, List.isEmpty_eq_false_iff] at h
      rw [hcs, hrest, ← List.takeWhile_append_dropWhile (p := Char.isDigit) (l := rest)]
      exact .pointed h.1 (digits_takeWhile cs) (digits_takeWhile rest) h.2
    · simp only [Bool.and_eq_true, isExponentPart_iff, Bool.not_eq_true',
        List.isEmpty_eq_false_iff] at h
      rw [hcs]
      exact .whole h.1 (digits_takeWhile cs) h.2
  · intro h
    cases h with
    | @whole digits exponent hne hdigits hexponent =>
      -- The digits end where the exponent part begins.
      obtain ⟨htake, hdrop⟩ := List.span_append_of_stop hdigits hexponent.stops
      have hpoint : ∀ rest, exponent ≠ '.' :: rest := by
        rintro rest rfl
        cases hexponent with
        | some mark _ _ _ => rcases mark with h | h <;> cases h
      simp [isDecimal, htake, hdrop, hne, isExponentPart_iff.2 hexponent]
    | @pointed digits fraction exponent hne hdigits hfraction hexponent =>
      have hpoint : ∀ c ∈ ('.' :: (fraction ++ exponent)).head?, c.isDigit = false := by
        rintro _ ⟨rfl⟩
        decide
      -- The first digits end at the point, those behind it where the exponent part begins.
      obtain ⟨htake, hdrop⟩ := List.span_append_of_stop hdigits hpoint
      obtain ⟨htake', hdrop'⟩ := List.span_append_of_stop hfraction hexponent.stops
      simp only [isDecimal, htake, hdrop, htake', hdrop', isExponentPart_iff.2 hexponent,
        Bool.and_true, Bool.not_eq_true', Bool.and_eq_false_iff, List.isEmpty_eq_false_iff]
      exact hne

/-! ## Votes of texts -/

/-- A text looks like a whole number by what is left of it without its sign. -/
private theorem looksWhole_iff {s : String} :
    LooksWhole s ↔ (unsigned s.toList ≠ [] ∧ Digits (unsigned s.toList)) ∧
      Text.decimalValue (unsigned s.toList) < infinityBound := by
  constructor
  · rintro ⟨sign, digits, hsign, hne, hdigits, hs, hlt⟩
    rw [hs, unsigned_append hsign hdigits.bare]
    exact ⟨⟨hne, hdigits⟩, hlt⟩
  · rintro ⟨⟨hne, hdigits⟩, hlt⟩
    obtain ⟨sign, hsign, hs⟩ := exists_sign s.toList
    exact ⟨sign, _, hsign, hne, hdigits, hs, hlt⟩

/-- Likewise for any number. -/
private theorem looksNumeric_iff {s : String} :
    LooksNumeric s ↔ isDecimal (unsigned s.toList) = true ∨
      (unsigned s.toList).map Char.toLower ∈ infiniteWords := by
  rw [isDecimal_iff]
  constructor
  · rintro ⟨sign, cs, hsign, hs, h⟩
    have hbare : Bare cs := h.elim Decimal.bare bare_of_infinite
    rwa [hs, unsigned_append hsign hbare]
  · intro h
    obtain ⟨sign, hsign, hs⟩ := exists_sign s.toList
    exact ⟨sign, _, hsign, hs, h⟩

instance (cs : List Char) : Decidable (Digits cs) := inferInstanceAs (Decidable (∀ _ ∈ _, _))

instance (s : String) : Decidable (LooksWhole s) := decidable_of_iff _ looksWhole_iff.symm

instance (s : String) : Decidable (LooksNumeric s) := decidable_of_iff _ looksNumeric_iff.symm

instance (s : String) : Decidable (LooksBool s) := inferInstanceAs (Decidable (_ ∈ _))

/-- What looks like a whole number looks like a number. -/
theorem LooksWhole.looksNumeric {s : String} (h : LooksWhole s) : LooksNumeric s := by
  obtain ⟨sign, digits, hsign, hne, hdigits, hs, -⟩ := h
  exact ⟨sign, digits, hsign, hs, .inl (hdigits.decimal hne)⟩

/-- What a text votes for, by its shape. Whatever looks like a number is one, also if it is a word
for a truth value. -/
theorem ofText_eq (s : String) :
    Vote.ofText s =
      if LooksWhole s then .int
      else if LooksNumeric s then .float
      else if LooksBool s then .bool
      else .text := by
  rw [Vote.ofText]
  by_cases hdigits : unsigned s.toList ≠ [] ∧ Digits (unsigned s.toList)
  · -- Digits that are too many are still a decimal number.
    have hnumeric : LooksNumeric s :=
      looksNumeric_iff.2 (.inl (isDecimal_iff.2 (hdigits.2.decimal hdigits.1)))
    rw [if_pos (by simpa [Digits] using hdigits), if_pos hnumeric]
    refine ite_congr (propext ?_) (fun _ => rfl) fun _ => rfl
    rw [looksWhole_iff, and_iff_right hdigits]
  · rw [if_neg (by simpa [Digits] using hdigits), if_neg fun h => hdigits (looksWhole_iff.1 h).1]
    -- What remains is told apart by the two checks as they come.
    by_cases hnumeric : LooksNumeric s
    · rw [if_pos (by simpa using looksNumeric_iff.1 hnumeric), if_pos hnumeric]
    · rw [if_neg (by simpa [looksNumeric_iff] using hnumeric), if_neg hnumeric]
      exact ite_congr (by simp [LooksBool]) (fun _ => rfl) fun _ => rfl

example : Vote.ofText "-07" = .int ∧ Vote.ofText "7." = .float ∧ Vote.ofText "1e5" = .float ∧
    Vote.ofText "T" = .bool ∧ Vote.ofText "e5" = .text := by
  decide

end Stencil.Schema
