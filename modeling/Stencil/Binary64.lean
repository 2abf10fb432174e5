/-! # Finite numbers of the 64-bit binary format

A `Binary64` is the sign of a number and the 63 bits behind it, read as one number.  Its size is a
whole multiple of 2^-1074, so every operation is exact arithmetic on natural numbers followed by one
rounding to the nearest number of the format, a tie going to the even pattern.

* `same_refl`, `same_symm`, `same_trans`  numeric equality is an equivalence. -/

namespace Stencil

/-- The number of patterns between one power of two and the next, which is 2^52. -/
def patternsPerOctave : Nat := 1 <<< 52

/-- The number of units in one, which is 2^1074. -/
def unitsPerOne : Nat := 1 <<< 1074

/-- A finite number of the 64-bit format. -/
structure Binary64 where
  /-- The sign bit. -/
  negative : Bool
  /-- Exponent field and fraction field, read as one number. -/
  pattern : Nat
  finite : pattern < 2047 * patternsPerOctave
  deriving DecidableEq

namespace Binary64

/-- The size of a number, in units of 2^-1074. -/
def units (x : Binary64) : Nat :=
  if x.pattern < patternsPerOctave then x.pattern
  else
    (x.pattern % patternsPerOctave + patternsPerOctave) <<< (x.pattern / patternsPerOctave - 1)

/-- Whether the number is an integer. -/
def isWhole (x : Binary64) : Bool := x.units % unitsPerOne == 0

/-- The quotient rounded to the nearest integer, a tie going to the even one. -/
def roundQuotient (num den : Nat) : Nat :=
  let q := num / den
  let r := num % den
  if den < 2 * r || (2 * r == den && q % 2 == 1) then q + 1 else q

/-- The pattern nearest to `num / den` units. -/
def roundUnits (num den : Nat) : Nat :=
  -- The neighbours of the quotient lie `2 ^ shift` units apart.
  let shift := (num / den).log2 - 52
  -- The leading bit is counted in the quotient, so rounding up to a power of two carries by itself.
  roundQuotient num (den <<< shift) + shift * patternsPerOctave

/-- The number nearest to `num / den` units, unless it is too large for the format. -/
def ofUnits? (negative : Bool) (num den : Nat) : Option Binary64 :=
  if h : roundUnits num den < 2047 * patternsPerOctave then some ⟨negative, roundUnits num den, h⟩ else none

/-- Zero. -/
def zero : Binary64 := ⟨false, 0, by decide⟩

/-- The number nearest to a natural number, unless it is too large for the format. -/
def ofNat? (n : Nat) : Option Binary64 := ofUnits? false (n * unitsPerOne) 1

/-- The product, rounded. -/
def mul? (x y : Binary64) : Option Binary64 :=
  ofUnits? (x.negative != y.negative) (x.units * y.units) unitsPerOne

/-- The quotient by a number that is not zero, rounded. -/
def div? (x y : Binary64) : Option Binary64 :=
  ofUnits? (x.negative != y.negative) (x.units * unitsPerOne) y.units

/-- The number with the other sign. -/
def neg (x : Binary64) : Binary64 := { x with negative := !x.negative }

/-- The 64 bits of the number. -/
def bits (x : Binary64) : Nat := (if x.negative then 1 <<< 63 else 0) + x.pattern

/-- Numeric equality: the two zeros are equal, all else must agree in every bit. -/
def same (x y : Binary64) : Bool :=
  x.pattern == y.pattern && (x.negative == y.negative || x.pattern == 0)

/-- Numbers are the same if their magnitudes are, and their signs unless they are zero. -/
theorem same_iff (x y : Binary64) :
    x.same y = true ↔ x.pattern = y.pattern ∧ (x.negative = y.negative ∨ x.pattern = 0) := by
  simp [same]

@[simp] theorem same_refl (x : Binary64) : x.same x = true := by simp [same]

theorem same_symm {x y : Binary64} (h : x.same y = true) : y.same x = true := by
  rw [same_iff] at h ⊢
  exact ⟨h.1.symm, h.2.imp Eq.symm fun z => h.1 ▸ z⟩

/-- Sameness is transitive, also through a zero of either sign. -/
theorem same_trans {x y z : Binary64} (h : x.same y = true) (k : y.same z = true) :
    x.same z = true := by
  rw [same_iff] at h k ⊢
  refine ⟨h.1.trans k.1, ?_⟩
  rcases h.2 with hs | hz
  · rcases k.2 with ks | kz
    · exact .inl (hs.trans ks)
    · exact .inr (h.1.trans kz)
  · exact .inr hz

end Binary64
end Stencil
