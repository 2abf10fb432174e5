import Stencil.Text.ClassTables

/-! # Character classes and digits

ASCII characters are classified by comparison, all others by the tables of the Unicode standard.  Rows
of ASCII digits, decimal or hexadecimal, denote numbers.

* `not_isLower_of_isUpper_ascii`  no ASCII character is both a capital and a small letter. -/

namespace Stencil.Text

/-- The property that `ascii` gives to ASCII characters and `runs` to the others. -/
def hasClass (ascii : Char → Bool) (runs : List Run) (c : Char) : Bool :=
  if c.toNat < 128 then ascii c else covered runs c.toNat

/-- Letters, marks that count as letters, and numbers. -/
def isAlphanumeric : Char → Bool := hasClass Char.isAlphanum alphanumericRuns

/-- Capital letters. -/
def isUpper : Char → Bool := hasClass Char.isUpper uppercaseRuns

/-- Small letters. -/
def isLower : Char → Bool := hasClass Char.isLower lowercaseRuns

/-- Letters that have case. -/
def isCased : Char → Bool := hasClass Char.isAlpha casedRuns

/-- ASCII characters that do not interrupt a word when letter case is decided. -/
def isAsciiCaseIgnorable (c : Char) : Bool :=
  c = '\'' || c = '.' || c = ':' || c = '^' || c.toNat = 0x60

/-- Characters that do not interrupt a word when letter case is decided. -/
def isCaseIgnorable : Char → Bool := hasClass isAsciiCaseIgnorable caseIgnorableRuns

/-- Decimal digits of any script. -/
def isDecimalDigit : Char → Bool := hasClass Char.isDigit decimalDigitRuns

/-- The blank and the five ASCII controls from the tabulator to the carriage return. -/
def isAsciiWhitespace (c : Char) : Bool :=
  c = ' ' || (9 ≤ c.toNat && c.toNat ≤ 13)

/-- White space of any script. -/
def isWhitespace : Char → Bool := hasClass isAsciiWhitespace whitespaceRuns

/-! ## ASCII characters -/

/-- The tables are for characters beyond ASCII. -/
theorem hasClass_ascii {ascii : Char → Bool} {runs : List Run} {c : Char} (h : c.toNat < 128) :
    hasClass ascii runs c = ascii c := by
  simp [hasClass, h]

/-- No ASCII character is both a capital and a small letter. -/
theorem not_isLower_of_isUpper_ascii {c : Char} (h : c.toNat < 128) (hu : isUpper c = true) :
    isLower c = false := by
  rw [isUpper, hasClass_ascii h] at hu
  rw [isLower, hasClass_ascii h]
  have hle : c.val ≥ 'A'.val ∧ c.val ≤ 'Z'.val := of_decide_eq_true hu
  have hlt : ¬c.val ≥ 'a'.val := fun hl => absurd (UInt32.le_trans hl hle.2) (by decide)
  change (decide (c.val ≥ 'a'.val) && decide (c.val ≤ 'z'.val)) = false
  rw [decide_eq_false hlt, Bool.false_and]

/-! ## Cutting blanks off -/

/-- The characters without the white space in front. -/
def trimStart (cs : List Char) : List Char := cs.dropWhile isWhitespace

/-- The characters without the white space behind. -/
def trimEnd (cs : List Char) : List Char := (cs.reverse.dropWhile isWhitespace).reverse

/-- The text without the white space at either end. -/
def trim (s : String) : String := String.ofList (trimEnd (trimStart s.toList))

/-- Whether a text holds nothing but white space. -/
def isBlank (s : String) : Bool := s.toList.all isWhitespace

/-- The letters `A` to `Z` made small, all else kept. -/
def asciiLower (s : String) : String := String.ofList (s.toList.map Char.toLower)

/-- Equality of texts up to the case of the letters `A` to `Z`. -/
def sameIgnoringCase (s t : String) : Bool := asciiLower s == asciiLower t

/-! ## Digits -/

/-- The value of an ASCII digit. -/
def digitValue (c : Char) : Nat := c.toNat - '0'.toNat

/-- The number that ASCII digits denote. -/
def decimalValue (ds : List Char) : Nat := ds.foldl (fun n d => 10 * n + digitValue d) 0

/-- The value of a hexadecimal digit of either case. -/
def hexValue? (c : Char) : Option Nat :=
  if c.isDigit then some (digitValue c)
  else if 'a' ≤ c && c ≤ 'f' then some (c.toNat - 'a'.toNat + 10)
  else if 'A' ≤ c && c ≤ 'F' then some (c.toNat - 'A'.toNat + 10)
  else none

/-- The number that hexadecimal digits denote. -/
def hexadecimalValue? (ds : List Char) : Option Nat :=
  (ds.mapM hexValue?).map (·.foldl (fun n d => 16 * n + d) 0)

/-- The hexadecimal digit of a number below 16. -/
def hexDigit (n : Nat) : Char :=
  if n < 10 then Char.ofNat ('0'.toNat + n) else Char.ofNat ('a'.toNat + (n - 10))

end Stencil.Text
