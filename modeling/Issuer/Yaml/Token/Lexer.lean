import Issuer.Yaml.Token
/-!
# Moving through a document

The lexer's state: what lies ahead, where it stands, the block collections around it, and the
keys that may yet turn out to be such.

A key has to stand on one line and within 1024 code points; a key that begins a line of a block
mapping has to be followed by its colon.
-/
namespace Issuer.Yaml

/-- Which texts are let through beyond the strict rules. -/
inductive Leniency where
  | strict
  /-- Tabs may separate tokens, and a question mark may stand inside a plain scalar of a flow
  collection. -/
  | lenient
  deriving DecidableEq, Repr

structure PossibleKey where
  number : Nat
  required : Bool
  index : Nat
  line : Nat
  column : Nat

structure Progress where
  leniency : Leniency
  rest : Text
  index : Nat := 0
  line : Nat := 0
  column : Nat := 0
  flowLevel : Nat := 0
  /-- The columns of the open block collections, innermost first. -/
  indents : List Nat := []
  /-- The tokens so far, last one first. -/
  tokens : List Token := []
  marks : List Token.KeyMark := []
  possible : List (Nat × PossibleKey) := []
  keyAllowed : Bool := true

abbrev Lexer := StateT Progress (Except Problem)

/-! ## Classes of code points -/

def isBreak (c : CodePoint) : Bool :=
  c == '\n' || c.val == 0x85 || c.val == 0x2028 || c.val == 0x2029

def endsLine : Option CodePoint → Bool
  | none => true
  | some c => isBreak c

def endsWord : Option CodePoint → Bool
  | none => true
  | some c => c == ' ' || c == '\t' || isBreak c

def endsPart : Option CodePoint → Bool
  | none => true
  | some c => c == ' ' || isBreak c

def isNameCharacter (c : CodePoint) : Bool := c.isDigit || c.isAsciiLetter || c == '-' || c == '_'

def isFlowIndicator (c : CodePoint) : Bool :=
  c == ',' || c == '[' || c == ']' || c == '\x7b' || c == '\x7d'

namespace Lexer

/-! ## Moves -/

def fail {α : Type} : Lexer α := throw .badToken

def peek : Lexer (Option CodePoint) := return (← get).rest.head?

def peekAt (n : Nat) : Lexer (Option CodePoint) := return (← get).rest[n]?

/-- The number of code points ahead, a bound for every loop over them. -/
def ahead : Lexer Nat := return (← get).rest.length

def inFlow : Lexer Bool := return (← get).flowLevel != 0

/-- The column after a code point; the mark of a byte order has no width. -/
def columnAfter (column : Nat) (c : CodePoint) : Nat :=
  if c.val = 0xFEFF then column else column + 1

/-- Takes `n` code points, none of which ends a line. -/
def take (n : Nat) : Lexer Text := do
  let p ← get
  let taken := p.rest.take n
  set { p with
    rest := p.rest.drop n, index := p.index + taken.length
    column := taken.foldl columnAfter p.column }
  return taken

def skip (n : Nat) : Lexer Unit := do
  let _ ← take n

def takeRun (wanted : CodePoint → Bool) : Lexer Text := do
  let p ← get
  take (p.rest.takeWhile wanted).length

def skipRun (wanted : CodePoint → Bool) : Lexer Unit := do
  let _ ← takeRun wanted

def skipSpaces : Lexer Unit := skipRun (· == ' ')

/-- Takes the end of a line, if it comes next: a line feed, or the separator that it is. -/
def lineBreak? : Lexer (Option CodePoint) := do
  let p ← get
  match p.rest with
  | c :: rest =>
    if isBreak c then
      set { p with rest, index := p.index + 1, line := p.line + 1, column := 0 }
      return some (if c.val = 0x85 then '\n' else c)
    else return none
  | [] => return none

def atDocumentMark : Lexer Bool := do
  let p ← get
  let mark := p.rest.take 3
  return (mark == "---" || mark == "...") && endsWord p.rest[3]?

/-- Skips what may stand between a directive or the head of a block scalar and its line's end. -/
def finishLine : Lexer Unit := do
  skipSpaces
  if (← peek) = some '#' then skipRun (!isBreak ·)
  if !endsLine (← peek) then fail
  let _ ← lineBreak?

/-! ## Tokens and keys -/

def push (t : Token) : Lexer Unit := modify fun p => { p with tokens := t :: p.tokens }

def allowKey (allowed : Bool) : Lexer Unit := modify fun p => { p with keyAllowed := allowed }

def dropKey : Lexer Unit := do
  let p ← get
  if let some key := p.possible.lookup p.flowLevel then
    if key.required then fail
    set { p with possible := p.possible.filter (·.1 != p.flowLevel) }

def noteKey : Lexer Unit := do
  let p ← get
  if p.keyAllowed then
    let required := p.flowLevel == 0 && p.indents.head? == some p.column
    dropKey
    modify fun q => { q with
      possible :=
        (p.flowLevel, ⟨p.tokens.length, required, p.index, p.line, p.column⟩) :: q.possible }

def dropStaleKeys : Lexer Unit := do
  let p ← get
  let isStale (key : PossibleKey) : Bool := key.line != p.line || 1024 < p.index - key.index
  if p.possible.any fun (_, key) => isStale key && key.required then fail
  set { p with possible := p.possible.filter fun (_, key) => !isStale key }

/-- Closes the block collections further in than a column; `none` closes all. -/
def unwind (column : Option Nat) : Lexer Unit := do
  if ← inFlow then return
  modify fun p =>
    let keeps (indent : Nat) : Bool := column.any (indent ≤ ·)
    let kept := p.indents.dropWhile (!keeps ·)
    { p with
      indents := kept
      tokens := List.replicate (p.indents.length - kept.length) Token.blockEnd ++ p.tokens }

def indent (column : Nat) : Lexer Bool := do
  let p ← get
  if p.indents.head?.any (column ≤ ·) then return false
  set { p with indents := column :: p.indents }
  return true

end Lexer

end Issuer.Yaml
