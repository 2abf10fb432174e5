import Stencil.Yaml.Scalar

/-! # Tokens of YAML texts

Outside brackets, the structure of a text lies in its indentation: where a line starts farther right a
block opens, and where one starts farther left blocks close.  Whether a scalar is a key shows only at
the colon behind it, so the lexer remembers where a `Candidate` stands and puts the key token in front
of it later. -/

namespace Stencil.Yaml

/-- A token of a YAML text. -/
inductive Token where
  /-- A line that tells the version of the format. -/
  | version
  | documentStart
  | documentEnd
  | listStart
  | recordStart
  | blockEnd
  | openList
  | closeList
  | openRecord
  | closeRecord
  /-- The hyphen in front of an item. -/
  | item
  | comma
  | key
  | value
  | alias (name : List Char)
  | anchor (name : List Char)
  /-- A tag, whatever it says. -/
  | tag
  | scalar (plain : Bool) (chars : List Char)
  deriving DecidableEq

/-- A place where a key may turn out to begin. -/
structure Candidate where
  /-- The number of tokens in front of it. -/
  tokens : Nat
  position : Position
  /-- Nothing else can stand there. -/
  required : Bool
  deriving DecidableEq

/-- How far a text has been cut into tokens. -/
structure Lexer where
  /-- The tokens, last first. -/
  tokens : List Token := []
  /-- The columns of the open blocks, the innermost first. -/
  columns : List Nat := []
  /-- A key may begin here. -/
  keyAllowed : Bool := true
  /-- The candidate outside brackets and in each open bracket, the innermost first. -/
  candidates : List (Option Candidate) := [none]

namespace Lexer

/-- Whether a bracket is open. -/
def inFlow (l : Lexer) : Bool := !l.candidates.tail.isEmpty

/-- The first column that lies inside the innermost block. -/
def inner (l : Lexer) : Nat := (l.columns.head?.map (· + 1)).getD 0

/-- Add a token. -/
def push (l : Lexer) (t : Token) : Lexer := { l with tokens := t :: l.tokens }

/-- Put a token behind the first `n`. -/
def insert (l : Lexer) (n : Nat) (t : Token) : Lexer :=
  let later := l.tokens.length - n
  { l with tokens := l.tokens.take later ++ t :: l.tokens.drop later }

/-- Allow a key, or not. -/
def allow (l : Lexer) (keyAllowed : Bool) : Lexer := { l with keyAllowed }

/-- Close the blocks that lie to the right of a column. -/
def closeDown (column : Nat) (tokens : List Token) : List Nat → List Token × List Nat
  | [] => (tokens, [])
  | c :: cs => if column < c then closeDown column (.blockEnd :: tokens) cs else (tokens, c :: cs)

/-- Close the blocks that lie to the right of a column, unless a bracket is open. -/
def unroll (l : Lexer) (column : Nat) : Lexer :=
  if l.inFlow then l
  else
    let (tokens, columns) := closeDown column l.tokens l.columns
    { l with tokens, columns }

/-- Close all blocks. -/
def unrollAll (l : Lexer) : Lexer :=
  if l.inFlow then l
  else { l with tokens := l.columns.map (fun _ => .blockEnd) ++ l.tokens, columns := [] }

/-- Open a block at a column if none is open there, with its token behind the first `n`. -/
def roll (l : Lexer) (column n : Nat) (t : Token) : Lexer :=
  if l.inFlow || column < l.inner then l
  else { l.insert n t with columns := column :: l.columns }

/-- Replace the innermost candidate; it must not be required. -/
def renew? (l : Lexer) (c : Option Candidate) : Option Lexer :=
  match l.candidates with
  | some old :: _ => if old.required then none else some (put l)
  | _ => some (put l)
where
  /-- Put the candidate in the innermost place. -/
  put (l : Lexer) : Lexer := { l with candidates := c :: l.candidates.tail }

/-- Forget the innermost candidate. -/
def forget? (l : Lexer) : Option Lexer := l.renew? none

/-- Note that a key may begin at a place, if it is allowed there. -/
def note? (l : Lexer) (p : Position) : Option Lexer :=
  if l.keyAllowed then
    -- What starts at the very column of an open block has to be a key.
    let required := !l.inFlow && l.columns.head? = some p.column
    l.renew? (some ⟨l.tokens.length, p, required⟩)
  else some l

end Lexer

/-! ## Blanks and comments -/

/-- Skip blanks, comments and line breaks.  Outside brackets a tabulator is no blank where a key may
begin, and a key may begin on every new line. -/
def skipFrom (flow keyAllowed comment : Bool) (p : Position) : List Char → Bool × Cursor
  | [] => (keyAllowed, ⟨p, []⟩)
  | c :: cs =>
    if isBreak c then skipFrom flow (keyAllowed || !flow) false p.down cs
    else if comment || c = ' ' || (c = '\t' && (flow || !keyAllowed)) then
      skipFrom flow keyAllowed comment (p.right 1) cs
    else if c = '#' then skipFrom flow keyAllowed true (p.right 1) cs
    else (keyAllowed, ⟨p, c :: cs⟩)

/-! ## Tokens by their first character -/

/-- A lexer, and the place that it has come to. -/
abbrev Fetched := Option (Lexer × Cursor)

/-- Go on behind so many characters. -/
def after (l : Lexer) (c : Cursor) (n : Nat) : Fetched :=
  some (l, ⟨c.position.right n, c.rest.drop n⟩)

/-- A mark between documents. -/
def fetchDocument (l : Lexer) (c : Cursor) (t : Token) : Fetched := do
  let l ← l.unrollAll.forget?
  after ((l.push t).allow false) c 3

/-- Whether a directive names a version of the format that is known. -/
def isVersion (cs : List Char) : Bool :=
  match cs.dropWhile isBlank with
  | '1' :: '.' :: d :: rest => (d = '1' || d = '2') && atGap rest
  | _ => false

/-- A line that tells the version of the format. -/
def fetchDirective (l : Lexer) (c : Cursor) : Fetched := do
  let l ← l.unrollAll.forget?
  let line := c.rest.takeWhile (!isBreak ·)
  if ['%', 'Y', 'A', 'M', 'L'].isPrefixOf line && (line.drop 5).head?.any isBlank &&
      isVersion (line.drop 5) then
    after ((l.push .version).allow false) c line.length
  else none

/-- An opening bracket. -/
def fetchOpening (l : Lexer) (c : Cursor) (t : Token) : Fetched := do
  let l ← l.note? c.position
  after ({ l.push t with candidates := none :: l.candidates }.allow true) c 1

/-- A closing bracket. -/
def fetchClosing (l : Lexer) (c : Cursor) (t : Token) : Fetched := do
  let l ← l.forget?
  let candidates := if l.inFlow then l.candidates.tail else l.candidates
  after ({ l.push t with candidates }.allow false) c 1

/-- A comma inside brackets. -/
def fetchComma (l : Lexer) (c : Cursor) : Fetched := do
  let l ← l.forget?
  after ((l.push .comma).allow true) c 1

/-- The hyphen in front of an item. -/
def fetchItem (l : Lexer) (c : Cursor) : Fetched :=
  if !l.inFlow && !l.keyAllowed then none
  else do
    let l ← (l.roll c.position.column l.tokens.length .listStart).forget?
    after ((l.push .item).allow true) c 1

/-- The question mark in front of a key. -/
def fetchKey (l : Lexer) (c : Cursor) : Fetched :=
  if !l.inFlow && !l.keyAllowed then none
  else do
    let l ← (l.roll c.position.column l.tokens.length .recordStart).forget?
    after ((l.push .key).allow (!l.inFlow)) c 1

/-- The candidate that a colon makes a key: it stands on the same line and not too far in front. -/
def keyAhead? (l : Lexer) (p : Position) : Option Candidate :=
  match l.candidates with
  | some k :: _ =>
    if k.position.line = p.line && p.index ≤ k.position.index + 1024 then some k else none
  | _ => none

/-- The colon in front of a value. -/
def fetchValue (l : Lexer) (c : Cursor) : Fetched :=
  match keyAhead? l c.position with
  | some k =>
    -- The tokens are put in front of the scalar that turns out to be a key.
    let l := (l.insert k.tokens .key).roll k.position.column k.tokens .recordStart
    let l := { l with candidates := none :: l.candidates.tail }
    after ((l.push .value).allow false) c 1
  | none =>
    if !l.inFlow && !l.keyAllowed then none
    else do
      let l ← (l.roll c.position.column l.tokens.length .recordStart).forget?
      after ((l.push .value).allow (!l.inFlow)) c 1

/-- The characters of names of anchors. -/
def isNameChar (c : Char) : Bool := c.isAlphanum || c = '_' || c = '-'

/-- An anchor or alias. -/
def fetchName (l : Lexer) (c : Cursor) (t : List Char → Token) : Fetched := do
  let l ← l.note? c.position
  let name := (c.rest.drop 1).takeWhile isNameChar
  let rest := c.rest.drop (1 + name.length)
  let ends := rest.head?.any fun d => ['?', ':', ',', ']', '\x7d', '%', '@', '\x60'].contains d
  if name.isEmpty || !(atGap rest || ends) then none
  else after ((l.push (t name)).allow false) c (1 + name.length)

/-- Whether a tag needs no declaration: it has at most two exclamation marks, both in front, or stands
between angle brackets. -/
def isPlainTag (cs : List Char) : Bool :=
  match cs with
  | '!' :: '<' :: rest => rest.getLast? == some '>'
  | '!' :: '!' :: rest => !rest.isEmpty && !rest.contains '!'
  | '!' :: rest => !rest.contains '!'
  | _ => false

/-- A tag. -/
def fetchTag (l : Lexer) (c : Cursor) : Fetched := do
  let l ← l.note? c.position
  let isEnd (d : Char) : Bool := isBlank d || isBreak d || (l.inFlow && flowSigns.contains d)
  let tag := c.rest.takeWhile (!isEnd ·)
  let rest := c.rest.drop tag.length
  if isPlainTag tag && (atGap rest || rest.head? == some ',') then
    after ((l.push .tag).allow false) c tag.length
  else none

/-- A scalar in quotes. -/
def fetchQuoted (l : Lexer) (c : Cursor) (double : Bool) : Fetched := do
  let l ← l.note? c.position
  let s ← quoted? double ⟨c.position.right 1, c.rest.drop 1⟩
  return ((l.push (.scalar false s.chars)).allow false, s.after)

/-- A block scalar. -/
def fetchBlock (l : Lexer) (c : Cursor) (literal : Bool) : Fetched := do
  let l ← l.forget?
  let s ← block? literal l.inner ⟨c.position.right 1, c.rest.drop 1⟩
  return ((l.push (.scalar false s.chars)).allow true, s.after)

/-- A plain scalar. -/
def fetchPlain (l : Lexer) (c : Cursor) : Fetched := do
  let l ← l.note? c.position
  let s ← plain? l.inFlow l.inner c
  return ((l.push (.scalar true s.chars)).allow s.multiline, s.after)

/-- Whether a plain scalar can begin with a character; `rest` follows it. -/
def opensPlain (flow : Bool) (c : Char) (rest : List Char) : Bool :=
  !(['-', '?', ':', ',', '[', ']', '\x7b', '\x7d', '#', '&', '*', '!', '|', '>', '\'', '"', '%', '@',
      '\x60'].contains c || isBlank c) ||
    (c = '-' && !rest.head?.any isBlank) || (!flow && (c = '?' || c = ':') && !atGap rest)

/-- Read the token that starts with a character. -/
def fetch (l : Lexer) (c : Cursor) (d : Char) (rest : List Char) : Fetched :=
  let flow := l.inFlow
  if c.position.column = 0 && d = '%' then fetchDirective l c
  else if c.position.column = 0 && atDocumentMark c.rest then
    fetchDocument l c (if d = '-' then .documentStart else .documentEnd)
  else
    match d with
    | '[' => fetchOpening l c .openList
    | '\x7b' => fetchOpening l c .openRecord
    | ']' => fetchClosing l c .closeList
    | '\x7d' => fetchClosing l c .closeRecord
    | ',' => fetchComma l c
    | '*' => fetchName l c .alias
    | '&' => fetchName l c .anchor
    | '!' => fetchTag l c
    | '\'' => fetchQuoted l c false
    | '"' => fetchQuoted l c true
    | _ =>
      if d = '-' && atGap rest then fetchItem l c
      else if d = '?' && (flow || atGap rest) then fetchKey l c
      else if d = ':' && (flow || atGap rest) then fetchValue l c
      else if d = '|' && !flow then fetchBlock l c true
      else if d = '>' && !flow then fetchBlock l c false
      else if opensPlain flow d rest then fetchPlain l c
      else none

/-- Cut a text into tokens, at most `fuel` of them. -/
def tokensFrom (fuel : Nat) (l : Lexer) (c : Cursor) : Option (List Token) :=
  match fuel with
  | 0 => none
  | fuel + 1 =>
    -- Blocks close before the token is read that stands to the left of them.
    let (keyAllowed, c) := skipFrom l.inFlow l.keyAllowed false c.position c.rest
    let l := (l.allow keyAllowed).unroll c.position.column
    match c.rest with
    | [] => do
      let l ← l.unrollAll.forget?
      return l.tokens.reverse
    | d :: rest => do
      let (l, c) ← fetch l c d rest
      tokensFrom fuel l c

/-- The tokens of a text. -/
def tokens? (cs : List Char) : Option (List Token) :=
  let cs := if cs.head? = some '\uFEFF' then cs.drop 1 else cs
  if cs.all isPrintable then tokensFrom (cs.length + 1) {} ⟨{}, oneBreakEach cs⟩ else none

end Stencil.Yaml
