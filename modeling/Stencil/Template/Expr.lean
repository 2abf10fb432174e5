import Stencil.Template.Segment

/-! # Expressions of the template language

`Expr.ofTokens?` reads an expression.  From the loosest to the tightest, operators are `or`, `and`,
`not`, comparisons, sums, joining, products and signs; attributes, items, calls, filters and tests come
after what they apply to. -/

namespace Stencil.Template

/-- An operator between two operands. -/
inductive Binary where
  | or
  | and
  | equal
  | notEqual
  | less
  | lessEqual
  | greater
  | greaterEqual
  | isIn
  | add
  | subtract
  | join
  | multiply
  | floorDivide
  | modulo
  deriving DecidableEq, Repr

/-- An expression. -/
inductive Expr where
  | none
  | bool (b : Bool)
  | int (n : Nat)
  | text (s : String)
  | list (items : List Expr)
  | variable (name : String)
  | member (e : Expr) (name : String)
  | item (e key : Expr)
  | call (e : Expr) (args : List Expr) (named : List (String × Expr))
  | filter (e : Expr) (name : String) (args : List Expr) (named : List (String × Expr))
  | test (e : Expr) (name : String) (args : List Expr) (named : List (String × Expr))
  | negate (e : Expr)
  | not (e : Expr)
  | binary (op : Binary) (left right : Expr)
  deriving Inhabited

namespace Expr

/-- How deep statements and expressions may be nested. -/
def maxDepth : Nat := 150

/-- The expression that a word stands for. -/
def ofWord : String → Expr
  | "true" | "True" => .bool true
  | "false" | "False" => .bool false
  | "none" | "None" => .none
  | name => .variable name

/-- How tightly an operator binds. -/
inductive Level where
  | or
  | and
  | not
  | comparison
  | sum
  | join
  | product
  | sign
  deriving DecidableEq, Repr

/-- The level of tighter operators. -/
def Level.next : Level → Level
  | .or => .and
  | .and => .not
  | .not => .comparison
  | .comparison => .sum
  | .sum => .join
  | .join => .product
  | .product | .sign => .sign

/-- The comparison that a symbol stands for. -/
def comparison? : Symbol → Option Binary
  | .equal => some .equal
  | .notEqual => some .notEqual
  | .less => some .less
  | .lessEqual => some .lessEqual
  | .greater => some .greater
  | .greaterEqual => some .greaterEqual
  | _ => Option.none

/-- The operator of a level in front of tokens, whether its result is negated, and the tokens behind
it. -/
def operator? : Level → List Token → Option (Binary × Bool × List Token)
  | .or, .word "or" :: ts => some (.or, false, ts)
  | .and, .word "and" :: ts => some (.and, false, ts)
  | .comparison, .word "in" :: ts => some (.isIn, false, ts)
  | .comparison, .word "not" :: .word "in" :: ts => some (.isIn, true, ts)
  | .comparison, .symbol s :: ts => (comparison? s).map fun op => (op, false, ts)
  | .sum, .symbol .plus :: ts => some (.add, false, ts)
  | .sum, .symbol .minus :: ts => some (.subtract, false, ts)
  | .join, .symbol .tilde :: ts => some (.join, false, ts)
  | .product, .symbol .times :: ts => some (.multiply, false, ts)
  | .product, .symbol .floorDivide :: ts => some (.floorDivide, false, ts)
  | .product, .symbol .modulo :: ts => some (.modulo, false, ts)
  | _, _ => Option.none

/-- The expression, negated if so told. -/
def negatedIf (negated : Bool) (e : Expr) : Expr := if negated then .not e else e

/-- Whether tokens begin an operand that a test takes without brackets. -/
def startsOperand : List Token → Bool
  | .word w :: _ => !(["and", "or", "else", "is", "if", "in", "not"].contains w)
  | .int _ :: _ | .text _ :: _ => true
  | .symbol .openBracket :: _ => true
  | _ => false

/-- An expression in front of tokens, and the tokens behind it. -/
abbrev Read := Option (Expr × List Token)

/-- Arguments in front of tokens, and the tokens behind the closing bracket. -/
abbrev ReadArgs := Option (List Expr × List (String × Expr) × List Token)

mutual

/-- Read an expression whose operators bind at least as tightly as a level, `depth` brackets and
statements deep.  No more than `fuel` readings lie inside one another. -/
def read (fuel depth : Nat) (level : Level) (ts : List Token) : Read :=
  match fuel with
  | 0 => Option.none
  | fuel + 1 =>
    match level, ts with
    | .not, .word "not" :: ts => do
      let (e, ts) ← read fuel depth .not ts
      return (.not e, ts)
    | .not, ts => read fuel depth .comparison ts
    | .sign, ts => do
      let (e, ts) ← readSigned fuel (depth + 1) ts
      let (e, ts) ← readPostfix fuel depth e ts
      readFilters fuel depth e ts
    | level, ts => do
      let (e, ts) ← read fuel depth level.next ts
      readOperators fuel depth level e ts

/-- Go on behind an operand with the operators of a level. -/
def readOperators (fuel depth : Nat) (level : Level) (left : Expr) (ts : List Token) : Read :=
  match fuel with
  | 0 => Option.none
  | fuel + 1 =>
    match operator? level ts with
    | some (op, negated, ts) => do
      let (right, ts) ← read fuel depth level.next ts
      readOperators fuel depth level (negatedIf negated (.binary op left right)) ts
    | Option.none => some (left, ts)

/-- Read signs and what they stand in front of. -/
def readSigned (fuel depth : Nat) (ts : List Token) : Read :=
  match fuel with
  | 0 => Option.none
  | fuel + 1 =>
    if maxDepth < depth then Option.none
    else
      match ts with
      | .symbol .minus :: ts => do
        let (e, ts) ← readSigned fuel (depth + 1) ts
        return (.negate e, ts)
      | .word w :: ts => some (ofWord w, ts)
      | .int n :: ts => some (.int n, ts)
      | .text s :: ts => some (.text s, ts)
      | .symbol .openParen :: ts =>
        match read fuel depth .or ts with
        | some (e, .symbol .closeParen :: ts) => some (e, ts)
        | _ => Option.none
      | .symbol .openBracket :: ts => do
        let (items, named, ts) ← readArgs fuel depth .closeBracket ts
        if named.isEmpty then return (.list items, ts) else Option.none
      | _ => Option.none

/-- Go on behind a value with attributes, items and calls. -/
def readPostfix (fuel depth : Nat) (e : Expr) (ts : List Token) : Read :=
  match fuel with
  | 0 => Option.none
  | fuel + 1 =>
    match ts with
    | .symbol .dot :: .word name :: ts => readPostfix fuel depth (.member e name) ts
    | .symbol .dot :: _ => Option.none
    | .symbol .openBracket :: ts =>
      match read fuel depth .or ts with
      | some (key, .symbol .closeBracket :: ts) => readPostfix fuel depth (.item e key) ts
      | _ => Option.none
    | .symbol .openParen :: ts => do
      let (args, named, ts) ← readArgs fuel depth .closeParen ts
      readPostfix fuel depth (.call e args named) ts
    | ts => some (e, ts)

/-- Go on behind a value with filters and tests. -/
def readFilters (fuel depth : Nat) (e : Expr) (ts : List Token) : Read :=
  match fuel with
  | 0 => Option.none
  | fuel + 1 =>
    match ts with
    | .symbol .pipe :: .word name :: .symbol .openParen :: ts => do
      let (args, named, ts) ← readArgs fuel depth .closeParen ts
      readFilters fuel depth (.filter e name args named) ts
    | .symbol .pipe :: .word name :: ts => readFilters fuel depth (.filter e name [] []) ts
    | .symbol .pipe :: _ => Option.none
    | .word "is" :: .word "not" :: ts => readTest fuel depth e true ts
    | .word "is" :: ts => readTest fuel depth e false ts
    | ts => some (e, ts)

/-- Go on behind the word `is`. -/
def readTest (fuel depth : Nat) (e : Expr) (negated : Bool) (ts : List Token) : Read :=
  match fuel with
  | 0 => Option.none
  | fuel + 1 =>
    match ts with
    | .word name :: .symbol .openParen :: ts => do
      let (args, named, ts) ← readArgs fuel depth .closeParen ts
      readFilters fuel depth (negatedIf negated (.test e name args named)) ts
    | .word name :: ts =>
      -- `x is divisibleby 3` is short for `x is divisibleby(3)`.
      if startsOperand ts then do
        let (arg, ts) ← readSigned fuel (depth + 1) ts
        let (arg, ts) ← readPostfix fuel depth arg ts
        readFilters fuel depth (negatedIf negated (.test e name [arg] [])) ts
      else readFilters fuel depth (negatedIf negated (.test e name [] [])) ts
    | _ => Option.none

/-- Read arguments with commas in between up to a closing bracket.  Named arguments come last. -/
def readArgs (fuel depth : Nat) (close : Symbol) (ts : List Token) : ReadArgs :=
  match fuel with
  | 0 => Option.none
  | fuel + 1 =>
    match ts with
    | .symbol s :: rest =>
      if s = close then some ([], [], rest) else readArg fuel depth close Option.none ts
    | .word name :: .symbol .assign :: ts => readArg fuel depth close (some name) ts
    | ts => readArg fuel depth close Option.none ts

/-- Read an argument, which may have a name, and those behind it. -/
def readArg (fuel depth : Nat) (close : Symbol) (name : Option String) (ts : List Token) : ReadArgs :=
  match fuel with
  | 0 => Option.none
  | fuel + 1 => do
    let (e, ts) ← read fuel depth .or ts
    let (args, named, ts) ←
      match ts with
      | .symbol .comma :: ts => readArgs fuel depth close ts
      | .symbol s :: ts => if s = close then some ([], [], ts) else Option.none
      | _ => Option.none
    match name with
    -- No argument without a name stands behind one with a name.
    | some name => if args.isEmpty then return ([], (name, e) :: named, ts) else Option.none
    | Option.none => return (e :: args, named, ts)

end

/-- More readings than this never lie inside one another, for so many tokens. -/
def enoughFuel (ts : List Token) : Nat := 12 * (ts.length + 2)

/-- The expression in front of tokens, inside so many statements, and the tokens behind it. -/
def ahead? (depth : Nat) (ts : List Token) : Read := read (enoughFuel ts) depth .or ts

/-- The expression that tokens denote. -/
def ofTokens? (depth : Nat) (ts : List Token) : Option Expr :=
  match ahead? depth ts with
  | some (e, []) => some e
  | _ => Option.none

end Expr
end Stencil.Template
