import Stencil.Json.Numeral
import Stencil.Text.Utf8

/-! # Lexemes of JSON texts

`lexemes` cuts a text into brackets, commas, colons and scalars.  A scalar that is well formed and
denotes nothing is `unreadable`: it stops a reader and not one who skips it.  The last lexeme may be
`broken`: the text stops being well formed there. -/

namespace Stencil.Json

open Text

/-- Why a piece of a text is not well formed. -/
structure Flaw where
  /-- The fault that a reader of the piece meets. -/
  read : Fault
  /-- The fault that one who skips the piece meets. -/
  skip : Fault

/-- The flaw that is the same to all. -/
def Flaw.plain (fault : Fault) : Flaw := ⟨fault, fault⟩

/-- A piece of a JSON text. -/
inductive Lexeme where
  | openArray
  | closeArray
  | openObject
  | closeObject
  | colon
  | comma
  | text (s : String)
  /-- A scalar that is not a text. -/
  | scalar (v : Json)
  /-- A numeral too large for the number format, or a text with half a pair of surrogates; `quoted`
  tells them apart. -/
  | unreadable (quoted : Bool)
  /-- The end of what is well formed; `quoted` tells whether a text begins here. -/
  | broken (quoted : Bool) (flaw : Flaw)

/-! ## Texts in quotes -/

/-- What follows an opening quote. -/
inductive Quoted where
  /-- A text, and the number of characters up to and including the closing quote. -/
  | text (s : String) (width : Nat)
  /-- A text that is well formed but for surrogates that stand alone. -/
  | unpaired (width : Nat)
  | broken (flaw : Flaw)

/-- The four hexadecimal digits in front of a text. -/
def fourHex (cs : List Char) : Except Fault Nat :=
  let ds := cs.take 4
  if ds.length = 4 then
    match hexadecimalValue? ds with
    | some n => .ok n
    | none => .error .malformed
  -- The four digits are looked for in bytes, so three wide characters are not too few.
  else if utf8Size ds < 4 then .error .truncated
  else .error .malformed

/-- The character that a one-letter escape stands for. -/
def simpleEscape? : Char → Option Char
  | '"' => some '"'
  | '\\' => some '\\'
  | '/' => some '/'
  | 'b' => some '\x08'
  | 'f' => some '\x0c'
  | 'n' => some '\n'
  | 'r' => some '\r'
  | 't' => some '\t'
  | _ => none

/-- What a `\u` escape stands for. -/
inductive Unicode where
  /-- A character, and the number of characters of the text behind the `u` that spell it. -/
  | char (c : Char) (width : Nat)
  /-- A surrogate that stands alone. -/
  | unpaired
  | broken (fault : Fault)

/-- Read what stands behind `\u`.  A pair of surrogates, each in an escape of its own, stands for one
character. -/
def unicodeEscape (cs : List Char) : Unicode :=
  match fourHex cs with
  | .error fault => .broken fault
  | .ok n =>
    if n < 0xD800 || 0xDFFF < n then .char (Char.ofNat n) 4
    else if 0xDC00 ≤ n then .unpaired
    else
      match cs.drop 4 with
      | [] => .broken .truncated
      | '\\' :: [] => .broken .truncated
      | '\\' :: 'u' :: more =>
        match fourHex more with
        | .error fault => .broken fault
        | .ok m =>
          if m < 0xDC00 || 0xDFFF < m then .unpaired
          else .char (Char.ofNat ((n - 0xD800) * 0x400 + (m - 0xDC00) + 0x10000)) 10
      | _ => .unpaired

/-- The flaw of a text that breaks off with a fault, where `paired` tells whether all surrogates in
front of the fault are paired. -/
def flawIn (paired : Bool) (fault : Fault) : Quoted :=
  .broken ⟨if paired then fault else .malformed, fault⟩

/-- Read a text after its opening quote; `done` holds the characters read so far, last first, `width`
their number in the text, and `paired` tells whether all surrogates among them are paired. -/
def quotedFrom (done : List Char) (width : Nat) (paired : Bool) (cs : List Char) : Quoted :=
  match cs with
  | [] => flawIn paired .truncated
  | c :: rest =>
    if c = '"' then
      if paired then .text (String.ofList done.reverse) (width + 1) else .unpaired (width + 1)
    else if c = '\\' then
      match rest with
      | [] => flawIn paired .truncated
      | e :: rest =>
        if e = 'u' then
          match unicodeEscape rest with
          | .char d n => quotedFrom (d :: done) (width + 2 + n) paired (rest.drop n)
          -- What stands alone is only the first escape; a second one is read again on its own.
          | .unpaired => quotedFrom done (width + 6) false (rest.drop 4)
          | .broken fault => flawIn paired fault
        else
          match simpleEscape? e with
          | some d => quotedFrom (d :: done) (width + 2) paired rest
          | none => flawIn paired .malformed
    else if c.toNat < 0x20 then flawIn paired .malformed
    else quotedFrom (c :: done) (width + 1) paired rest
termination_by cs.length
decreasing_by all_goals simp only [List.length_cons, List.length_drop]; omega

/-! ## Words -/

/-- Whether a text starts with a word: none if it does, else the fault. -/
def wordFault? : List Char → List Char → Option Fault
  | [], _ => none
  | _ :: _, [] => some .truncated
  | w :: ws, c :: cs => if w = c then wordFault? ws cs else some .malformed

/-- The lexemes of a text; `done` holds those read so far, last first. -/
def lexemesFrom (done : List Lexeme) (cs : List Char) : List Lexeme :=
  match cs with
  | [] => done.reverse
  | c :: rest =>
    match c with
    | ' ' | '\n' | '\t' | '\r' => lexemesFrom done rest
    | '[' => lexemesFrom (.openArray :: done) rest
    | ']' => lexemesFrom (.closeArray :: done) rest
    | '\x7b' => lexemesFrom (.openObject :: done) rest
    | '\x7d' => lexemesFrom (.closeObject :: done) rest
    | ':' => lexemesFrom (.colon :: done) rest
    | ',' => lexemesFrom (.comma :: done) rest
    | '"' =>
      match quotedFrom [] 0 true rest with
      | .text s width => lexemesFrom (.text s :: done) (rest.drop width)
      | .unpaired width => lexemesFrom (.unreadable true :: done) (rest.drop width)
      | .broken flaw => (.broken true flaw :: done).reverse
    | _ =>
      match word c with
      | some (tail, v) =>
        match wordFault? tail rest with
        | none => lexemesFrom (.scalar v :: done) (rest.drop tail.length)
        | some fault => (.broken false (.plain fault) :: done).reverse
      | none =>
        if c = '-' || c.isDigit then
          match numeralAt (c :: rest) with
          | .ok (n, width) =>
            let lexeme := match n.value? with
              | some v => Lexeme.scalar (.number v)
              | none => .unreadable false
            lexemesFrom (lexeme :: done) (rest.drop (width - 1))
          -- One who skips a numeral does not tell a missing digit from a wrong one.
          | .error fault => (.broken false ⟨fault, .malformed⟩ :: done).reverse
        else (.broken false (.plain .malformed) :: done).reverse
termination_by cs.length
decreasing_by all_goals simp only [List.length_cons, List.length_drop]; omega
where
  /-- The rest of the word that starts with the character, and what the word denotes. -/
  word : Char → Option (List Char × Json)
    | 't' => some (['r', 'u', 'e'], .bool true)
    | 'f' => some (['a', 'l', 's', 'e'], .bool false)
    | 'n' => some (['u', 'l', 'l'], .null)
    | _ => none

/-- The lexemes of a text. -/
def lexemes (cs : List Char) : List Lexeme := lexemesFrom [] cs

end Stencil.Json
