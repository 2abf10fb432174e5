/-! # Texts as bytes of UTF-8

A text can be measured in bytes, and read from bytes that may be faulty.  Bytes that are no part of a
character are replaced: the longest row of bytes that could have begun a character, or else a single
byte, becomes one replacement character.

* `utf8Size_append`  the bytes of a text are those of its parts. -/

namespace Stencil.Text

/-- The number of bytes of a text. -/
def utf8Size : List Char → Nat
  | [] => 0
  | c :: cs => c.utf8Size + utf8Size cs

/-- Bytes are counted character by character. -/
@[simp] theorem utf8Size_append (cs ds : List Char) :
    utf8Size (cs ++ ds) = utf8Size cs + utf8Size ds := by
  induction cs with
  | nil => simp [utf8Size]
  | cons c cs ih => simp [utf8Size, ih, Nat.add_assoc]

/-- What stands for bytes that are no character. -/
def replacement : Char := '\uFFFD'

/-- What the first byte of a character says: the bits that it holds, the number of bytes that follow,
and the bounds of the next one. -/
structure LeadByte where
  bits : Nat
  following : Nat
  low : UInt8 := 0x80
  high : UInt8 := 0xBF

/-- What the first byte of a character says, unless no character begins with it. -/
def leadByte? (b : UInt8) : Option LeadByte :=
  let n := b.toNat
  if n < 0x80 then some ⟨n, 0, 0x80, 0xBF⟩
  else if n < 0xC2 then none
  else if n < 0xE0 then some ⟨n - 0xC0, 1, 0x80, 0xBF⟩
  else if n = 0xE0 then some ⟨0, 2, 0xA0, 0xBF⟩
  else if n = 0xED then some ⟨0xD, 2, 0x80, 0x9F⟩
  else if n < 0xF0 then some ⟨n - 0xE0, 2, 0x80, 0xBF⟩
  else if n = 0xF0 then some ⟨0, 3, 0x90, 0xBF⟩
  else if n < 0xF4 then some ⟨n - 0xF0, 3, 0x80, 0xBF⟩
  else if n = 0xF4 then some ⟨4, 3, 0x80, 0x8F⟩
  else none

/-- Take the bytes that follow a first one: the number that all of them denote, if none is missing, and
the bytes behind them. -/
def following (lead : LeadByte) : List UInt8 → Option Nat × List UInt8
  | [] => (if lead.following = 0 then some lead.bits else none, [])
  | b :: bs =>
    if lead.following = 0 then (some lead.bits, b :: bs)
    else if lead.low ≤ b && b ≤ lead.high then
      following ⟨64 * lead.bits + (b.toNat - 0x80), lead.following - 1, 0x80, 0xBF⟩ bs
    else (none, b :: bs)

/-- No more bytes are left than there were, which is why decoding ends. -/
theorem length_following (lead : LeadByte) (bs : List UInt8) :
    (following lead bs).2.length ≤ bs.length := by
  induction bs generalizing lead with
  | nil => simp [following]
  | cons b bs ih =>
    rw [following]
    split
    · simp
    · split
      · exact Nat.le_succ_of_le (ih _)
      · simp

/-- The characters of bytes. -/
def decodeLossy (bs : List UInt8) : List Char :=
  match bs with
  | [] => []
  | b :: bs =>
    match leadByte? b with
    | none => replacement :: decodeLossy bs
    | some lead =>
      let r := following lead bs
      (r.1.map Char.ofNat).getD replacement :: decodeLossy r.2
termination_by bs.length
decreasing_by
  · simp
  · have := length_following lead bs
    simp only [List.length_cons]
    omega

end Stencil.Text
