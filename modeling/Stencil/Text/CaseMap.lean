import Stencil.Text.CaseTables
import Stencil.Text.Classes

/-! # Changing the case of letters

`upper` and `lower` map one character, possibly to several.  `lowerText` maps a text: it differs from
`lower` only in the capital sigma, which becomes a final sigma at the end of a word. -/

namespace Stencil.Text

/-- The characters that a mapping, given by its tables, puts in place of one. -/
def mapped (expansions : List (Nat × List Nat)) (shifts : List Shift) (c : Char) : List Char :=
  match expansions.find? (·.1 == c.toNat) with
  | some (_, out) => out.map Char.ofNat
  | none => [((shifted? shifts c.toNat).map Char.ofNat).getD c]

/-- The capital form of a character. -/
def upper (c : Char) : List Char :=
  if c.toNat < 128 then [c.toUpper] else mapped upperExpansions upperShifts c

/-- The small form of a character that stands alone. -/
def lower (c : Char) : List Char :=
  if c.toNat < 128 then [c.toLower] else mapped lowerExpansions lowerShifts c

/-- Whether the first character that matters for case, looking along the list, has case. -/
def meetsCased (cs : List Char) : Bool :=
  ((cs.dropWhile isCaseIgnorable).head?.map isCased).getD false

/-- The small form of a text whose characters `before`, the nearest first, stand in front of it. -/
def lowerAfter (before : List Char) : List Char → List Char
  | [] => []
  | c :: cs =>
    (if c = 'Σ' then
        -- At the end of a word: a letter with case in front, none behind.
        if meetsCased before && !meetsCased cs then ['ς'] else ['σ']
      else lower c) ++ lowerAfter (c :: before) cs

/-- The small form of a text. -/
def lowerText (cs : List Char) : List Char := lowerAfter [] cs

/-- The capital form of a text. -/
def upperText (cs : List Char) : List Char := cs.flatMap upper

/-! ## ASCII characters -/

theorem lower_ascii {c : Char} (h : c.toNat < 128) : lower c = [c.toLower] := by
  simp [lower, h]

theorem upper_ascii {c : Char} (h : c.toNat < 128) : upper c = [c.toUpper] := by
  simp [upper, h]

end Stencil.Text
