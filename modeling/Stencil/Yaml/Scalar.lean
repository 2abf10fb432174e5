import Stencil.Text.Classes

/-! # Scalars of YAML texts

The forms of scalars: plain, in single or double quotes, and blocks that keep or fold their lines.  A
line break inside a folded scalar counts as a blank, and each empty line after it as a line break.

A reader gets the rest of the text together with its `Position`, and gives what is left. -/

namespace Stencil.Yaml

open Text

/-- A place in a text. -/
structure Position where
  line : Nat := 0
  column : Nat := 0
  index : Nat := 0
  deriving DecidableEq, Repr

namespace Position

/-- The place after `n` characters that are no line breaks. -/
def right (p : Position) (n : Nat) : Position :=
  { p with column := p.column + n, index := p.index + n }

/-- The place after a line break. -/
def down (p : Position) : Position := ⟨p.line + 1, 0, p.index + 1⟩

end Position

/-- A place in a text, and what follows it. -/
structure Cursor where
  position : Position
  rest : List Char

/-! ## Characters -/

/-- Line breaks, once all breaks of one line have been made one character. -/
def isBreak (c : Char) : Bool := c = '\n' || c = '\u2028' || c = '\u2029'

/-- The blank and the tabulator. -/
def isBlank (c : Char) : Bool := c = ' ' || c = '\t'

/-- Whether a text ends or starts with a blank or line break. -/
def atGap : List Char → Bool
  | [] => true
  | c :: _ => isBlank c || isBreak c

/-- Whether a text ends or starts with a line break. -/
def atLineEnd : List Char → Bool
  | [] => true
  | c :: _ => isBreak c

/-- Whether a text may hold the character. -/
def isPrintable (c : Char) : Bool :=
  let n := c.toNat
  n = 9 || n = 10 || n = 13 || (0x20 ≤ n && n ≤ 0x7E) || n = 0x85 ||
    (0xA0 ≤ n && n ≤ 0xFFFD && n ≠ 0xFEFF) || 0x10000 ≤ n

/-- A text with every line break in one character. -/
def oneBreakEach : List Char → List Char
  | [] => []
  | '\r' :: '\n' :: cs => '\n' :: oneBreakEach cs
  | '\r' :: cs => '\n' :: oneBreakEach cs
  | '\x85' :: cs => '\n' :: oneBreakEach cs
  | c :: cs => c :: oneBreakEach cs

/-- Whether a line starts with one of the two marks between documents. -/
def atDocumentMark (cs : List Char) : Bool :=
  (['-', '-', '-'].isPrefixOf cs || ['.', '.', '.'].isPrefixOf cs) && atGap (cs.drop 3)

/-! ## Gaps between the words of a scalar -/

/-- The blanks and line breaks between two words. -/
structure Gap where
  /-- The blanks in front of the first line break. -/
  blanks : List Char
  breaks : List Char
  after : Cursor

/-- Read a gap; `blanks` and `breaks` are held last first.  If `indent` is given, no tabulator stands to
the left of it behind a line break. -/
def gapFrom (indent : Option Nat) (blanks breaks : List Char) (p : Position) :
    List Char → Option Gap
  | [] => some ⟨blanks.reverse, breaks.reverse, ⟨p, []⟩⟩
  | c :: cs =>
    if isBreak c then gapFrom indent [] (c :: breaks) p.down cs
    else if isBlank c then
      if breaks.isEmpty then gapFrom indent (c :: blanks) breaks (p.right 1) cs
      else if c = '\t' && indent.any (p.column < ·) then none
      else gapFrom indent blanks breaks (p.right 1) cs
    else some ⟨if breaks.isEmpty then blanks.reverse else [], breaks.reverse, ⟨p, c :: cs⟩⟩

/-- What a gap leaves in a scalar. -/
def fold (blanks : List Char) : List Char → List Char
  | [] => blanks
  | '\n' :: [] => [' ']
  | '\n' :: more => more
  | breaks => breaks

/-! ## Plain scalars -/

/-- The signs that end a word inside brackets. -/
def flowSigns : List Char := [',', '[', ']', '\x7b', '\x7d']

/-- A word of a plain scalar.  Inside brackets, a colon does not stand in front of a sign. -/
def plainWord (flow : Bool) : List Char → Option (List Char)
  | [] => some []
  | c :: cs =>
    if isBlank c || isBreak c then some []
    else if c = ':' && flow && cs.head?.any fun d => d = '?' || flowSigns.contains d then none
    else if c = ':' && atGap cs then some []
    else if flow && flowSigns.contains c then some []
    else (plainWord flow cs).map (c :: ·)

/-- A scalar that has been read: its characters, whether it goes over several lines, and the place
behind it. -/
structure Scanned where
  chars : List Char
  multiline : Bool
  after : Cursor

/-- Read the words of a plain scalar.  `chars` are those in front of `gap`, `indent` is the column
where the lines of the scalar have to start, and at most `fuel` words are read. -/
def plainFrom (fuel : Nat) (flow : Bool) (indent : Nat) (chars : List Char) (gap : Gap) :
    Option Scanned :=
  let p := gap.after.position
  let cs := gap.after.rest
  let multiline := !gap.breaks.isEmpty
  let stop : Scanned := ⟨chars, multiline, gap.after⟩
  match fuel with
  | 0 => some stop
  | fuel + 1 =>
    -- A line that starts too far left, or looks like something else, ends the scalar.
    if multiline && !flow && p.column < indent then some stop
    else if (p.column = 0 && atDocumentMark cs) || cs.head? = some '#' then some stop
    else do
      let word ← plainWord flow cs
      if word.isEmpty then some stop
      else
        let chars := chars ++ fold gap.blanks gap.breaks ++ word
        let next ← gapFrom (some indent) [] [] (p.right word.length) (cs.drop word.length)
        if next.blanks.isEmpty && next.breaks.isEmpty then some ⟨chars, false, next.after⟩
        else plainFrom fuel flow indent chars next

/-- Read a plain scalar.  The scalar counts as multiline if a line break follows its last word. -/
def plain? (flow : Bool) (indent : Nat) (c : Cursor) : Option Scanned :=
  plainFrom (c.rest.length + 1) flow indent [] ⟨[], [], c⟩

/-! ## Scalars in quotes -/

/-- The character of a code that is written in so many hexadecimal digits. -/
def coded? (digits : Nat) (cs : List Char) : Option Char := do
  let ds := cs.take digits
  if ds.length < digits then none
  else
    let n ← hexadecimalValue? ds
    if (0xD800 ≤ n && n ≤ 0xDFFF) || 0x10FFFF < n then none else some (Char.ofNat n)

/-- What a backslash and the character behind it stand for, and the number of characters that follow
them. -/
def escape? (e : Char) (cs : List Char) : Option (Char × Nat) :=
  match e with
  | '0' => some ('\x00', 0)
  | 'a' => some ('\x07', 0)
  | 'b' => some ('\x08', 0)
  | 't' | '\t' => some ('\t', 0)
  | 'n' => some ('\n', 0)
  | 'v' => some ('\x0b', 0)
  | 'f' => some ('\x0c', 0)
  | 'r' => some ('\r', 0)
  | 'e' => some ('\x1b', 0)
  | ' ' | '"' | '/' | '\\' => some (e, 0)
  | 'N' => some ('\u0085', 0)
  | '_' => some ('\u00a0', 0)
  | 'L' => some ('\u2028', 0)
  | 'P' => some ('\u2029', 0)
  | 'x' => (coded? 2 cs).map (·, 2)
  | 'u' => (coded? 4 cs).map (·, 4)
  | 'U' => (coded? 8 cs).map (·, 8)
  | _ => none

/-- How a word in quotes ends. -/
inductive WordEnd where
  | gap
  | quote
  /-- A backslash at the end of a line. -/
  | joint
  deriving DecidableEq, Repr

/-- A word in quotes: its characters, the number of characters that spell it, and how it ends;
`skip` of the characters belong to an escape that has been read. -/
def quotedWord (double : Bool) (skip : Nat) : List Char → Option (List Char × Nat × WordEnd)
  | [] => some ([], 0, .gap)
  | c :: cs =>
    let more (d : List Char) (skip : Nat) : Option (List Char × Nat × WordEnd) :=
      (quotedWord double skip cs).map fun (w, n, e) => (d ++ w, n + 1, e)
    match skip with
    | n + 1 => more [] n
    | 0 =>
      if isBlank c || isBreak c then some ([], 0, .gap)
      else if !double && c = '\'' then
        if cs.head? = some '\'' then more ['\''] 1 else some ([], 0, .quote)
      else if double && c = '"' then some ([], 0, .quote)
      else if double && c = '\\' then
        match cs with
        | [] => none
        | e :: rest =>
          if isBreak e then some ([], 0, .joint)
          else
            match escape? e rest with
            | some (d, n) => more [d] (n + 1)
            | none => none
      else more [c] 0

/-- Read the words of a scalar in quotes up to the closing quote.  `chars` are those in front, and at
most `fuel` words are read. -/
def quotedFrom (fuel : Nat) (double : Bool) (chars : List Char) (c : Cursor) : Option Scanned :=
  match fuel with
  | 0 => none
  | fuel + 1 =>
    if c.rest.isEmpty || (c.position.column = 0 && atDocumentMark c.rest) then none
    else do
      let (word, width, ending) ← quotedWord double 0 c.rest
      let p := c.position.right width
      let rest := c.rest.drop width
      match ending with
      | .quote => some ⟨chars ++ word, false, ⟨p.right 1, rest.drop 1⟩⟩
      | .joint => do
        let gap ← gapFrom none [] [] (p.right 1).down (rest.drop 2)
        quotedFrom fuel double (chars ++ word ++ gap.breaks) gap.after
      | .gap => do
        let gap ← gapFrom none [] [] p rest
        quotedFrom fuel double (chars ++ word ++ fold gap.blanks gap.breaks) gap.after

/-- Read a scalar after its opening quote. -/
def quoted? (double : Bool) (c : Cursor) : Option Scanned :=
  quotedFrom (c.rest.length + 1) double [] c

/-! ## Block scalars -/

/-- What becomes of the line breaks at the end of a block. -/
inductive Chomping where
  /-- None is kept. -/
  | strip
  /-- The first is kept. -/
  | clip
  /-- All are kept. -/
  | keep
  deriving DecidableEq, Repr

/-- The signs behind the indicator of a block: what becomes of the last line breaks, how far the block
is indented (0 if that is left open), and what follows. -/
def blockHeader : List Char → Option (Chomping × Nat × List Char)
  | '+' :: cs => (digit cs).map fun (n, cs) => (.keep, n, cs)
  | '-' :: cs => (digit cs).map fun (n, cs) => (.strip, n, cs)
  | cs => do
    let (n, rest) ← digit cs
    match n, rest with
    | 0, _ => return (.clip, 0, cs)
    | n, '+' :: cs => return (.keep, n, cs)
    | n, '-' :: cs => return (.strip, n, cs)
    | n, cs => return (.clip, n, cs)
where
  /-- A digit that is not zero, if there is one. -/
  digit : List Char → Option (Nat × List Char)
    | c :: cs =>
      if c = '0' then none
      else if c.isDigit then some (digitValue c, cs)
      else some (0, c :: cs)
    | [] => some (0, [])

/-- Empty lines, and the blanks in front of the next line up to the indentation of the block (0 if that
is still open): the widest indentation seen, the line breaks, and the place behind. -/
def blockGap (indent widest : Nat) (breaks : List Char) (p : Position) :
    List Char → Option (Nat × List Char × Cursor)
  | [] => some (max widest p.column, breaks.reverse, ⟨p, []⟩)
  | c :: cs =>
    let inside := indent = 0 || p.column < indent
    if inside && c = ' ' then blockGap indent widest breaks (p.right 1) cs
    else if inside && c = '\t' then none
    else if isBreak c then blockGap indent (max widest p.column) (c :: breaks) p.down cs
    else some (max widest p.column, breaks.reverse, ⟨p, c :: cs⟩)

/-- The lines of a block that have been read. -/
structure Lines where
  chars : List Char
  /-- The line break behind the last line. -/
  lineBreak : List Char
  /-- The empty lines after it. -/
  empty : List Char
  /-- The last line starts with a blank. -/
  indented : Bool
  after : Cursor

/-- Read the lines of a block, at most `fuel` of them. -/
def blockLines (fuel : Nat) (literal : Bool) (indent : Nat) (l : Lines) : Option Lines :=
  match fuel with
  | 0 => some l
  | fuel + 1 =>
    let p := l.after.position
    let cs := l.after.rest
    if p.column ≠ indent || cs.isEmpty then some l
    else do
      let indented := cs.head?.any isBlank
      let joint :=
        if !literal && l.lineBreak == ['\n'] && !l.indented && !indented then
          if l.empty.isEmpty then [' '] else []
        else l.lineBreak
      let line := cs.takeWhile (!isBreak ·)
      let rest := cs.drop line.length
      let chars := l.chars ++ joint ++ l.empty ++ line
      let p := p.right line.length
      match rest with
      | [] => some ⟨chars, [], [], indented, ⟨p, []⟩⟩
      | b :: rest => do
        let (_, empty, after) ← blockGap indent 0 [] p.down rest
        blockLines fuel literal indent ⟨chars, [b], empty, indented, after⟩

/-- Read a block after its indicator.  The block lies inside one that is indented by `outer - 1`. -/
def block? (literal : Bool) (outer : Nat) (c : Cursor) : Option Scanned := do
  let (chomping, increment, rest) ← blockHeader c.rest
  let rest := rest.dropWhile isBlank
  let rest := if rest.head? = some '#' then rest.dropWhile (!isBreak ·) else rest
  if !atLineEnd rest then none
  else do
    let p := c.position.right (c.rest.length - rest.length)
    let c : Cursor := if rest.isEmpty then ⟨p, []⟩ else ⟨p.down, rest.drop 1⟩
    let fixed := if increment = 0 then 0 else outer - 1 + increment
    let (widest, empty, after) ← blockGap fixed 0 [] c.position c.rest
    -- Unless it is given, the first line that is not empty tells the indentation.
    let indent := if fixed = 0 then max widest (max outer 1) else fixed
    let l ← blockLines (c.rest.length + 1) literal indent ⟨[], [], empty, false, after⟩
    let tail :=
      match chomping with
      | .strip => []
      | .clip => l.lineBreak
      | .keep => l.lineBreak ++ l.empty
    return ⟨l.chars ++ tail, false, l.after⟩

end Stencil.Yaml
