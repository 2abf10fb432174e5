import Stencil.Text.Classes

/-! # Cutting a template into segments

A template is text with marks in it: outputs between pairs of braces, statements between brace and
percent sign, and comments.  A hyphen at the inner side of a mark takes away the white space of the text
on that side.  What stands between a `raw` and an `endraw` statement is text.

The template is read one character at a time, by `Scan.step`, so that what is read after `xs ++ ys` is
what `ys` makes of the state after `xs`.

* `Scan.run_append`  reading is a fold. -/

namespace Stencil.Template

open Text

/-- A sign inside a mark. -/
inductive Symbol where
  | plus
  | minus
  | times
  | divide
  | floorDivide
  | modulo
  | power
  | equal
  | notEqual
  | less
  | lessEqual
  | greater
  | greaterEqual
  | assign
  | tilde
  | pipe
  | dot
  | comma
  | colon
  | openParen
  | closeParen
  | openBracket
  | closeBracket
  | openBrace
  | closeBrace
  deriving DecidableEq, Repr

/-- A token inside a mark. -/
inductive Token where
  | word (s : String)
  | int (n : Nat)
  | text (s : String)
  | symbol (s : Symbol)
  deriving DecidableEq, Repr

/-- A piece of a template. -/
inductive Segment where
  | text (cs : List Char)
  | output (tokens : List Token)
  | statement (tokens : List Token)
  deriving DecidableEq, Repr

/-! ## Tokens -/

/-- Whether a character can begin a word. -/
def opensWord (c : Char) : Bool := c.isAlpha || c = '_'

/-- Whether a character can go on in a word. -/
def isWordChar (c : Char) : Bool := c.isAlphanum || c = '_'

/-- The symbol that is a single character and never the beginning of another. -/
def single? : Char → Option Symbol
  | '+' => some .plus
  | '-' => some .minus
  | '%' => some .modulo
  | '~' => some .tilde
  | '|' => some .pipe
  | '.' => some .dot
  | ',' => some .comma
  | ':' => some .colon
  | _ => none

/-- The symbol that is a single character and may be the beginning of another. -/
def firstOfTwo? : Char → Option Symbol
  | '*' => some .times
  | '/' => some .divide
  | '=' => some .assign
  | '<' => some .less
  | '>' => some .greater
  | _ => none

/-- The symbol of two characters. -/
def double? : Char → Char → Option Symbol
  | '*', '*' => some .power
  | '/', '/' => some .floorDivide
  | '=', '=' => some .equal
  | '!', '=' => some .notEqual
  | '<', '=' => some .lessEqual
  | '>', '=' => some .greaterEqual
  | _, _ => none

/-- The opening bracket. -/
def opening? : Char → Option Symbol
  | '(' => some .openParen
  | '[' => some .openBracket
  | '\x7b' => some .openBrace
  | _ => none

/-- The closing bracket. -/
def closing? : Char → Option Symbol
  | ')' => some .closeParen
  | ']' => some .closeBracket
  | '\x7d' => some .closeBrace
  | _ => none

/-- The number that digits denote, read from the last.  Underscores may stand between digits. -/
def intOf? (digits : List Char) : Option Nat :=
  if digits.head? = some '_' then none
  else
    some (decimalValue (digits.reverse.filter Char.isDigit))

/-- The text that a quoted text denotes. -/
def unescape? : List Char → Option (List Char)
  | [] => some []
  | '\\' :: 'u' :: a :: b :: c :: d :: cs => do
    let n ← hexadecimalValue? [a, b, c, d]
    if 0xD800 ≤ n && n ≤ 0xDFFF then none
    return Char.ofNat n :: (← unescape? cs)
  | '\\' :: e :: cs => do
    let c ← match e with
      | '"' | '\'' | '\\' | '/' => some e
      | 'b' => some '\x08'
      | 'f' => some '\x0c'
      | 'n' => some '\n'
      | 'r' => some '\r'
      | 't' => some '\t'
      | _ => none
    return c :: (← unescape? cs)
  | '\\' :: [] => none
  | c :: cs => (unescape? cs).map (c :: ·)

/-! ## Marks -/

/-- A token that may go on. -/
inductive Unfinished where
  | none
  /-- A word; its characters are held last first. -/
  | word (chars : List Char)
  | number (chars : List Char)
  /-- A text in quotes, as it is written; `escaped` tells whether a backslash came last. -/
  | quote (delimiter : Char) (chars : List Char) (escaped : Bool)
  /-- The first character of a symbol that may have two. -/
  | operator (c : Char)
  /-- A plus or minus that may belong to the end of the mark. -/
  | sign (c : Char)
  /-- A percent sign, perhaps after a sign, that may belong to the end of a statement. -/
  | percent (sign : Option Char)
  /-- A brace, perhaps after a sign, that must belong to the end of an output. -/
  | brace (sign : Option Char)
  deriving DecidableEq, Repr

/-- A mark that is being read. -/
structure Mark where
  /-- A statement, not an output. -/
  isStatement : Bool
  /-- The tokens, last first. -/
  tokens : List Token
  /-- The number of open brackets. -/
  depth : Nat
  unfinished : Unfinished
  deriving DecidableEq, Repr

/-- What becomes of a mark. -/
inductive Mark.Next where
  | goesOn (m : Mark)
  /-- The mark ends; `strip` tells whether white space behind it is taken away. -/
  | ends (isStatement : Bool) (tokens : List Token) (strip : Bool)
  | fails
  deriving DecidableEq, Repr

namespace Mark

/-- The mark with a token more, and nothing unfinished. -/
def push (m : Mark) (t : Token) : Mark := { m with tokens := t :: m.tokens, unfinished := .none }

/-- The mark with a token that may go on. -/
def await (m : Mark) (p : Unfinished) : Mark := { m with unfinished := p }

/-- The symbol of a plus or minus. -/
def signSymbol (c : Char) : Token := .symbol (if c = '-' then .minus else .plus)

/-- The mark with its unfinished token at an end. -/
def finish? (m : Mark) : Option Mark :=
  match m.unfinished with
  | .none => some m
  | .word chars => some (m.push (.word (String.ofList chars.reverse)))
  | .number chars => (intOf? chars).map fun n => m.push (.int n)
  | .operator c => (firstOfTwo? c).map fun s => m.push (.symbol s)
  | .sign c => some (m.push (signSymbol c))
  | .percent none => some (m.push (.symbol .modulo))
  | .percent (some c) => some ((m.push (signSymbol c)).push (.symbol .modulo))
  | .quote _ _ _ | .brace _ => none

/-- Read a character that begins a token. -/
def start (m : Mark) (c : Char) : Next :=
  if isWhitespace c then .goesOn m
  else if opensWord c then .goesOn (m.await (.word [c]))
  else if c.isDigit then .goesOn (m.await (.number [c]))
  else if c = '"' || c = '\'' then .goesOn (m.await (.quote c [] false))
  else if c = '!' || (firstOfTwo? c).isSome then .goesOn (m.await (.operator c))
  -- Inside brackets a sign, a percent sign or a brace never belongs to the end of the mark.
  else if m.depth = 0 && (c = '-' || c = '+') then .goesOn (m.await (.sign c))
  else if m.depth = 0 && m.isStatement && c = '%' then .goesOn (m.await (.percent none))
  else if m.depth = 0 && !m.isStatement && c = '\x7d' then .goesOn (m.await (.brace none))
  else
    match single? c, opening? c, closing? c with
    | some s, _, _ => .goesOn (m.push (.symbol s))
    | _, some s, _ => .goesOn { m.push (.symbol s) with depth := m.depth + 1 }
    | _, _, some s =>
      if m.depth = 0 then .fails else .goesOn { m.push (.symbol s) with depth := m.depth - 1 }
    | _, _, _ => .fails

/-- Read a character that does not go on with the unfinished token. -/
def restart (m : Mark) (c : Char) : Next :=
  match m.finish? with
  | some m => m.start c
  | none => .fails

/-- The end of a mark, after a sign if there is one. -/
def close (m : Mark) (sign : Option Char) : Next :=
  .ends m.isStatement m.tokens.reverse (sign == some '-')

/-- Read a character. -/
def step (m : Mark) (c : Char) : Next :=
  match m.unfinished with
  | .word chars => if isWordChar c then .goesOn (m.await (.word (c :: chars))) else m.restart c
  | .number chars =>
    if c.isDigit || c = '_' then .goesOn (m.await (.number (c :: chars)))
    -- Numbers with a fraction are not part of the language.
    else if c = '.' then .fails
    else m.restart c
  | .quote delimiter chars escaped =>
    if escaped then .goesOn (m.await (.quote delimiter (c :: chars) false))
    else if c = delimiter then
      match unescape? chars.reverse with
      | some cs => .goesOn (m.push (.text (String.ofList cs)))
      | none => .fails
    else .goesOn (m.await (.quote delimiter (c :: chars) (c = '\\')))
  | .operator first =>
    match double? first c with
    | some s => .goesOn (m.push (.symbol s))
    | none => m.restart c
  | .sign s =>
    if m.isStatement && c = '%' then .goesOn (m.await (.percent (some s)))
    else if !m.isStatement && c = '\x7d' then .goesOn (m.await (.brace (some s)))
    else m.restart c
  | .percent s => if c = '\x7d' then m.close s else m.restart c
  | .brace s => if c = '\x7d' then m.close s else .fails
  | .none => m.start c

end Mark

/-! ## Texts -/

/-- The text of characters held last first, stripped of the white space at either end. -/
def textOf (stripFront stripBack : Bool) (chars : List Char) : List Char :=
  let cs := chars.reverse
  let cs := if stripFront then trimStart cs else cs
  if stripBack then trimEnd cs else cs

/-- White space inside the tags around raw text. -/
def isTagBlank (c : Char) : Bool := c = ' ' || c = '\t' || c = '\n' || c = '\r' || c = '\x0c'

/-- Take a hyphen or plus off; tells whether it was a hyphen. -/
def takeSign : List Char → Bool × List Char
  | '-' :: cs => (true, cs)
  | '+' :: cs => (false, cs)
  | cs => (false, cs)

/-- If raw text, held last character first, ends with an `endraw` tag that lacks only its last
character: whether the tag strips the text in front of it and the text behind it, and the text in front
of it. -/
def rawEnd? (chars : List Char) : Option (Bool × Bool × List Char) :=
  match chars with
  | '%' :: chars =>
    let (stripBehind, chars) := takeSign chars
    match chars.dropWhile isTagBlank with
    | 'w' :: 'a' :: 'r' :: 'd' :: 'n' :: 'e' :: chars =>
      let (stripFront, chars) := takeSign (chars.dropWhile isTagBlank)
      match chars with
      | '%' :: '\x7b' :: chars => some (stripFront, stripBehind, chars)
      | _ => none
    | _ => none
  | _ => none

/-! ## Reading -/

/-- The kinds of marks. -/
inductive Opener where
  | output
  | statement
  | comment
  deriving DecidableEq, Repr

/-- The kind of mark that a brace and another character open. -/
def opener? : Char → Option Opener
  | '\x7b' => some .output
  | '%' => some .statement
  | '#' => some .comment
  | _ => none

/-- What is being read.  Characters are held last first; `strip` tells whether white space in front of
them is taken away. -/
inductive Mode where
  | text (strip : Bool) (chars : List Char)
  /-- A mark has been opened after a text. -/
  | opened (o : Opener) (strip : Bool) (chars : List Char)
  | comment (chars : List Char)
  | mark (m : Mark)
  | raw (strip : Bool) (chars : List Char)
  | failed
  deriving DecidableEq, Repr

/-- How far the reading of a template has come. -/
structure Scan where
  /-- The segments read so far, last first. -/
  done : List Segment
  mode : Mode
  deriving DecidableEq, Repr

namespace Scan

/-- Go on after a step inside a mark. -/
def afterMark (done : List Segment) : Mark.Next → Scan
  | .goesOn m => ⟨done, .mark m⟩
  | .fails => ⟨done, .failed⟩
  | .ends false tokens strip => ⟨.output tokens :: done, .text strip []⟩
  -- Behind this tag everything is text up to its counterpart.
  | .ends true [.word "raw"] strip => ⟨done, .raw strip []⟩
  | .ends true tokens strip => ⟨.statement tokens :: done, .text strip []⟩

/-- Go on inside a mark of a kind, with its first character if that is not a sign. -/
def enter (done : List Segment) (o : Opener) (c : Option Char) : Scan :=
  match o, c with
  | .comment, c => ⟨done, .comment c.toList⟩
  | o, none => ⟨done, .mark ⟨o = .statement, [], 0, .none⟩⟩
  | o, some c => afterMark done ((⟨o = .statement, [], 0, .none⟩ : Mark).step c)

/-- Read a character. -/
def step (s : Scan) (c : Char) : Scan :=
  match s.mode with
  | .text strip chars =>
    match chars, opener? c with
    -- The brace that opens the mark was taken for text one character ago.
    | '\x7b' :: before, some o => ⟨s.done, .opened o strip before⟩
    | _, _ => ⟨s.done, .text strip (c :: chars)⟩
  | .opened o strip chars =>
    if c = '-' then enter (.text (textOf strip true chars) :: s.done) o none
    else if c = '+' then enter (.text (textOf strip false chars) :: s.done) o none
    else enter (.text (textOf strip false chars) :: s.done) o (some c)
  | .comment chars =>
    match chars, c with
    | '#' :: before, '\x7d' => ⟨s.done, .text (before.head? == some '-') []⟩
    | _, _ => ⟨s.done, .comment (c :: chars)⟩
  | .mark m => afterMark s.done (m.step c)
  | .raw strip chars =>
    match c, rawEnd? chars with
    | '\x7d', some (stripBack, stripBehind, before) =>
      ⟨.text (textOf strip stripBack before) :: s.done, .text stripBehind []⟩
    | _, _ => ⟨s.done, .raw strip (c :: chars)⟩
  | .failed => s

/-- The state before the first character. -/
def initial : Scan := ⟨[], .text false []⟩

/-- Read characters. -/
def run (s : Scan) (cs : List Char) : Scan := cs.foldl step s

/-- The segments, unless a mark is left open. -/
def finish? (s : Scan) : Option (List Segment) :=
  match s.mode with
  | .text strip chars => some (.text (textOf strip false chars) :: s.done).reverse
  | _ => none

theorem run_append (s : Scan) (xs ys : List Char) : s.run (xs ++ ys) = (s.run xs).run ys := by
  simp [run]

end Scan

/-- The segments of a template, unless it is malformed. -/
def segments? (cs : List Char) : Option (List Segment) := (Scan.initial.run cs).finish?

end Stencil.Template
