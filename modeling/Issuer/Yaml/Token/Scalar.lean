import Issuer.Yaml.Token.Lexer
import Issuer.Text.Encoding
/-!
# Scalars

Plain scalars, scalars in quotation marks and block scalars, each read to the text that it stands
for.  A line end inside a plain or quoted scalar stands for a space, further line ends for
themselves.
-/
namespace Issuer.Yaml.Lexer

def foldBreaks (first : CodePoint) (others : Text) : Text :=
  (if first = '\n' then if others.isEmpty then [CodePoint.ofChar ' '] else []
   else [first]) ++ others

/-! ## Plain scalars -/

def plainLength (leniency : Leniency) (inFlow : Bool) : Text → Nat
  | [] => 0
  | c :: rest =>
    if endsWord (some c) then 0
    else if c = ':' && (endsWord rest.head? || (inFlow && rest.head?.any isFlowIndicator)) then 0
    else if inFlow && (isFlowIndicator c || (c == '?' && leniency = .strict)) then 0
    else plainLength leniency inFlow rest + 1

def isPlainBlank (leniency : Leniency) (c : CodePoint) : Bool :=
  c == ' ' || (c == '\t' && leniency = .lenient)

/-- The line ends between the parts of a plain scalar; none if a document ends there. -/
def plainBreaks : Nat → Text → Lexer (Option Text)
  | 0, breaks => return some breaks
  | fuel + 1, breaks => do
    skipRun (isPlainBlank (← get).leniency)
    match ← lineBreak? with
    | none => return some breaks
    | some c => if ← atDocumentMark then return none else plainBreaks fuel (breaks ++ [c])

/-- What separates two parts of a plain scalar; empty where the scalar ends. -/
def plainSpace : Lexer Text := do
  let blanks ← takeRun (isPlainBlank (← get).leniency)
  match ← lineBreak? with
  | none => return blanks
  | some first =>
    allowKey true
    if ← atDocumentMark then return []
    match ← plainBreaks (← ahead) [] with
    | none => return []
    | some breaks => return foldBreaks first breaks

def plainParts (least : Nat) : Nat → Text → Text → Lexer Text
  | 0, done, _ => return done
  | fuel + 1, done, space => do
    let p ← get
    if p.rest.head? = some '#' then return done
    let part ← take (plainLength p.leniency (p.flowLevel != 0) p.rest)
    if part.isEmpty then return done
    if p.leniency = .lenient && p.flowLevel != 0 && (← peek) = some ':' &&
        !endsWord (← peekAt 1) then fail
    allowKey false
    let done := done ++ space ++ part
    let space ← plainSpace
    let q ← get
    if space.isEmpty || (q.flowLevel == 0 && q.column < least) then return done
    plainParts least fuel done space

def plainScalar : Lexer Token := do
  let least := match (← get).indents with
    | [] => 0
    | column :: _ => column + 1
  return .scalar (← plainParts least (← ahead) [] []) true

/-! ## Quoted scalars -/

def escapes : List (CodePoint × CodePoint) := [
  ('0', '\x00'), ('a', '\x07'), ('b', '\x08'), ('t', '\t'), ('\t', '\t'), ('n', '\n'),
  ('v', '\x0b'), ('f', '\x0c'), ('r', '\r'), ('e', '\x1b'), (' ', ' '), ('"', '"'),
  ('\\', '\\'), ('/', '/'), ('N', '\x85'), ('_', '\xa0'), ('L', '\u2028'), ('P', '\u2029')]

def escapeWidths : List (CodePoint × Nat) := [('x', 2), ('u', 4), ('U', 8)]

/-- The line ends inside quotation marks, and the blanks before each line. -/
def quotedBreaks : Nat → Text → Lexer Text
  | 0, breaks => return breaks
  | fuel + 1, breaks => do
    if ← atDocumentMark then fail
    skipRun fun c => c == ' ' || c == '\t'
    match ← lineBreak? with
    | none => return breaks
    | some c => quotedBreaks fuel (breaks ++ [c])

def escapedNumber (width : Nat) : Lexer CodePoint := do
  let digits := (← take width).map CodePoint.hexValue?
  if digits.length < width || digits.any Option.isNone then fail
  let n : Nat := digits.foldl (fun n d => 16 * n + d.getD 0) 0
  if 0x110000 ≤ n then fail
  return .ofNat n

def escaped : Lexer Text := do
  let some c ← peek | fail
  if let some value := escapes.lookup c then
    skip 1
    return [value]
  if let some width := escapeWidths.lookup c then
    skip 1
    return [← escapedNumber width]
  match ← lineBreak? with
  | none => fail
  | some _ => quotedBreaks (← ahead) []

def quotedSpace : Lexer Text := do
  let blanks ← takeRun fun c => c == ' ' || c == '\t'
  match ← lineBreak? with
  | none => return blanks
  | some first => return foldBreaks first (← quotedBreaks (← ahead) [])

def quotedParts (mark : CodePoint) : Nat → Text → Lexer Text
  | 0, _ => fail
  | fuel + 1, done => do
    let some c ← peek | fail
    if c = mark then
      skip 1
      if mark = '\'' && (← peek) = some mark then
        skip 1
        quotedParts mark fuel (done ++ [mark])
      else return done
    else if c = '\\' && mark = '"' then
      skip 1
      quotedParts mark fuel (done ++ (← escaped))
    else if endsWord (some c) then quotedParts mark fuel (done ++ (← quotedSpace))
    else
      skip 1
      quotedParts mark fuel (done ++ [c])

def quotedScalar (mark : CodePoint) : Lexer Token := do
  skip 1
  return .scalar (← quotedParts mark ((← ahead) + 1) []) false

/-! ## Block scalars -/

inductive Chomping where
  | strip
  | clip
  | keep
  deriving DecidableEq

def chomping? : Lexer (Option Chomping) := do
  match ← peek with
  | some '+' => skip 1; return some .keep
  | some '-' => skip 1; return some .strip
  | _ => return none

def indentation? : Lexer (Option Nat) := do
  let some c ← peek | return none
  if !c.isDigit then return none
  if c = '0' then fail
  skip 1
  return some c.digitValue

/-- The head of a block scalar: a sign and a digit, each optional, in any order. -/
def blockHead : Lexer (Chomping × Option Nat) := do
  if let some chomping ← chomping? then
    return (chomping, ← indentation?)
  let indentation ← indentation?
  if indentation.isNone then return (.clip, none)
  return ((← chomping?).getD .clip, indentation)

/-- The empty lines at the start of a block scalar, and how far the deepest of them and the first
line of text are indented. -/
def leadingBreaks : Nat → Text → Nat → Lexer (Text × Nat)
  | 0, breaks, deepest => return (breaks, deepest)
  | fuel + 1, breaks, deepest => do
    skipSpaces
    let deepest := max deepest (← get).column
    match ← lineBreak? with
    | none => return (breaks, deepest)
    | some c => leadingBreaks fuel (breaks ++ [c]) deepest

def blockBreaks (indent : Nat) : Nat → Text → Lexer Text
  | 0, breaks => return breaks
  | fuel + 1, breaks => do
    let p ← get
    let spaces := p.rest.takeWhile (· == CodePoint.ofChar ' ')
    skip (min (indent - p.column) spaces.length)
    match ← lineBreak? with
    | none => return breaks
    | some c => blockBreaks indent fuel (breaks ++ [c])

def startsWithText : Option CodePoint → Bool
  | none => true
  | some c => c != ' ' && c != '\t'

/-- Reads the lines of a block scalar: the text, its last line end and the empty lines after it. -/
def blockLines (folded : Bool) (indent : Nat) :
    Nat → Text → Text → Text → Lexer (Text × Text × Text)
  | 0, done, last, breaks => return (done, last, breaks)
  | fuel + 1, done, last, breaks => do
    let p ← get
    if p.column != indent || p.rest.isEmpty then return (done, last, breaks)
    let hasText := startsWithText p.rest.head?
    let done := done ++ breaks ++ (← takeRun (!isBreak ·))
    let last := (← lineBreak?).toList
    let breaks ← blockBreaks indent (← ahead) []
    let q ← get
    if q.column != indent || q.rest.isEmpty then return (done, last, breaks)
    let joined := folded && last == "\n" && hasText && startsWithText q.rest.head?
    let space : Text :=
      if joined then if breaks.isEmpty then [CodePoint.ofChar ' '] else [] else last
    blockLines folded indent fuel (done ++ space) last breaks

def blockScalar (folded : Bool) : Lexer Token := do
  skip 1
  let (chomping, indentation) ← blockHead
  if !endsPart (← peek) then fail
  finishLine
  let least := match (← get).indents with
    | [] => 1
    | column :: _ => column + 1
  let (breaks, indent) ← match indentation with
    | none => do
      let (breaks, deepest) ← leadingBreaks ((← ahead) + 1) [] 0
      pure (breaks, max least deepest)
    | some n => do
      let indent := least + n - 1
      pure (← blockBreaks indent ((← ahead) + 1) [], indent)
  let (done, last, breaks) ← blockLines folded indent ((← ahead) + 1) [] [] breaks
  let ending := match chomping with
    | .strip => []
    | .clip => last
    | .keep => last ++ breaks
  return .scalar (done ++ ending) false

end Issuer.Yaml.Lexer
