import Stencil.Text.CaseMap

/-! # Identifiers: words and styles

An identifier is cut into words at every character that is not alphanumeric, in front of a capital
that follows a small letter or an ASCII digit, and in front of the last capital of an acronym.  A
`Style` joins the words again. -/

namespace Stencil.Naming

open Text

/-- Whether `c`, between the alphanumeric `prev` and the character `next?`, opens a new word. -/
def opensWord (prev c : Char) (next? : Option Char) : Bool :=
  isUpper c && (isLower prev || prev.isDigit || (isUpper prev && next?.any isLower))

/-- A finished word, held last character first, if there is one. -/
def close (word : List Char) : List (List Char) :=
  if word.isEmpty then [] else [word.reverse]

/-- The words of a text that continues the word `word`, held last character first. -/
def wordsAfter (word : List Char) : List Char → List (List Char)
  | [] => close word
  | c :: cs =>
    if isAlphanumeric c then
      match word with
      | [] => wordsAfter [c] cs
      | prev :: _ =>
        -- The character in front belongs to the same word, so it is no separator.
        if opensWord prev c cs.head? then word.reverse :: wordsAfter [c] cs
        else wordsAfter (c :: word) cs
    else close word ++ wordsAfter [] cs

/-- The words of a text. -/
def words (cs : List Char) : List (List Char) := wordsAfter [] cs

/-- A word with its first letter made a capital and the others made small. -/
def capitalize : List Char → List Char
  | [] => []
  | c :: cs => upper c ++ cs.flatMap lower

/-- The ways to join words. -/
inductive Style where
  /-- Words after the first are capitalized, nothing in between: `userName`. -/
  | camel
  /-- All words are capitalized, nothing in between: `UserName`. -/
  | pascal
  /-- Small letters, an underscore in between: `user_name`. -/
  | snake
  /-- Small letters, a hyphen in between: `user-name`. -/
  | kebab
  /-- Small letters, a dot in between: `user.name`. -/
  | dot
  deriving DecidableEq, Repr

/-- The styles, in the order in which templates list them. -/
def Style.all : List Style := [.camel, .pascal, .snake, .kebab, .dot]

/-- The name of the template filter that applies a style. -/
def Style.filterName : Style → String
  | .camel => "camel_case"
  | .pascal => "pascal_case"
  | .snake => "snake_case"
  | .kebab => "kebab_case"
  | .dot => "dot_case"

/-- The small forms of the words, with a separator in between. -/
def joinLower (separator : Char) (ws : List (List Char)) : List Char :=
  [separator].intercalate (ws.map lowerText)

/-- Join words in a style. -/
def Style.join : Style → List (List Char) → List Char
  | .camel, [] => []
  | .camel, w :: ws => lowerText w ++ ws.flatMap capitalize
  | .pascal, ws => ws.flatMap capitalize
  | .snake, ws => joinLower '_' ws
  | .kebab, ws => joinLower '-' ws
  | .dot, ws => joinLower '.' ws

/-- Put an identifier into a style. -/
def Style.apply (style : Style) (cs : List Char) : List Char := style.join (words cs)

/-- Put a text into a style. -/
def Style.convert (style : Style) (s : String) : String := String.ofList (style.apply s.toList)

/-- The words of a text, as texts. -/
def splitWords (s : String) : List String := (words s.toList).map String.ofList

end Stencil.Naming
