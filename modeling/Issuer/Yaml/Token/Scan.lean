import Issuer.Yaml.Token.Scalar
/-!
# From text to tokens

`Token.scan` cuts a document into its tokens.  What a code point starts depends on whether it
stands inside a flow collection, and indentation opens and closes block collections.
-/
namespace Issuer.Yaml

namespace Lexer

/-! ## Between tokens -/

def isSeparator (p : Progress) (c : CodePoint) : Bool :=
  c == ' ' || (c == '\t' && p.leniency = .lenient && (p.flowLevel != 0 || !p.keyAllowed))

/-- Skips blanks, comments and line ends; after a line end a key may start. -/
def toNextToken : Nat → Lexer Unit
  | 0 => return ()
  | fuel + 1 => do
    skipRun (isSeparator (← get))
    if (← peek) = some '#' then skipRun (!isBreak ·)
    if (← lineBreak?).isNone then return
    if !(← inFlow) then allowKey true
    toNextToken fuel

/-! ## Names and tags -/

def takeName : Lexer Text := do
  let name ← takeRun isNameCharacter
  if name.isEmpty then fail
  return name

def endsName : Option CodePoint → Bool
  | none => true
  | some c => endsWord (some c) ||
      c == '?' || c == ':' || c == ',' || c == ']' || c == '\x7d' || c == '%' || c == '@' ||
      c.val == 0x60

def anchorName : Lexer Text := do
  skip 1
  let name ← takeName
  if !endsName (← peek) then fail
  return name

def addressMarks : Text := "-;/?:@&=+$,_.!~*'()[]"

def isAddressCharacter (c : CodePoint) : Bool :=
  c.isDigit || c.isAsciiLetter || addressMarks.contains c

def percentBytes : Nat → Bytes → Lexer Bytes
  | 0, bytes => return bytes
  | fuel + 1, bytes => do
    if (← peek) != some '%' then return bytes
    skip 1
    let n ← escapedNumber 2
    percentBytes fuel (bytes ++ [UInt8.ofNat n.val])

def addressParts : Nat → Text → Lexer Text
  | 0, done => return done
  | fuel + 1, done => do
    let done := done ++ (← takeRun isAddressCharacter)
    if (← peek) != some '%' then return done
    match Utf8.decode? false (← percentBytes (← ahead) []) with
    | none => fail
    | some t => addressParts fuel (done ++ t)

def address : Lexer Text := do
  let t ← addressParts ((← ahead) + 1) []
  if t.isEmpty then fail
  return t

/-- The handle of a tag: an exclamation mark, or a name between two. -/
def handle : Lexer Text := do
  if (← peek) != some '!' then fail
  skip 1
  let name ← takeRun isNameCharacter
  if (← peek) = some '!' then
    skip 1
    return "!" ++ name ++ "!"
  else if name.isEmpty then return "!"
  else fail

def tag : Lexer Token := do
  let p ← get
  let next ← peekAt 1
  let token ←
    if next = some '<' then do
      skip 2
      let t ← address
      if (← peek) != some '>' then fail
      skip 1
      pure (Token.tag none t)
    else if endsWord next then do
      skip 1
      pure (Token.tag none "!")
    else
      let word := (p.rest.drop 1).takeWhile fun c => !endsPart (some c)
      if word.contains '!' then do
        let h ← handle
        pure (Token.tag (some h) (← address))
      else do
        skip 1
        pure (Token.tag (some "!") (← address))
  if !endsPart (← peek) then fail
  return token

/-! ## Directives -/

def versionNumber : Lexer Nat := do
  let digits ← takeRun CodePoint.isDigit
  if digits.isEmpty then fail
  return Text.digitsValue digits

def directive : Lexer Token := do
  skip 1
  let name ← takeName
  if !endsPart (← peek) then fail
  let d ←
    if name = ("YAML" : Text) then do
      skipSpaces
      let major ← versionNumber
      if (← peek) != some '.' then fail
      skip 1
      let minor ← versionNumber
      if !endsPart (← peek) then fail
      pure (Directive.version major minor)
    else if name = ("TAG" : Text) then do
      skipSpaces
      let h ← handle
      if (← peek) != some ' ' then fail
      skipSpaces
      let stem ← address
      if !endsPart (← peek) then fail
      pure (Directive.handle h stem)
    else do
      skipRun (!isBreak ·)
      pure Directive.other
  finishLine
  return .directive d

/-! ## Structure -/

def endBlocks : Lexer Unit := do
  unwind none
  dropKey
  allowKey false

def documentMark (t : Token) : Lexer Unit := do
  endBlocks
  skip 3
  push t

def openFlow (t : Token) : Lexer Unit := do
  noteKey
  modify fun p => { p with flowLevel := p.flowLevel + 1, keyAllowed := true }
  skip 1
  push t

/-- Closes a flow collection; one that is not open is refused. -/
def closeFlow (t : Token) : Lexer Unit := do
  dropKey
  if !(← inFlow) then fail
  modify fun p => { p with flowLevel := p.flowLevel - 1, keyAllowed := false }
  skip 1
  push t

def flowEntry : Lexer Unit := do
  allowKey true
  dropKey
  skip 1
  push .flowEntry

/-- Opens a block collection if the next token is further in; a token that may only start a line
is refused elsewhere. -/
def startBlock (t : Token) : Lexer Unit := do
  if ← inFlow then return
  let p ← get
  if !p.keyAllowed then fail
  if ← indent p.column then push t

def blockEntry : Lexer Unit := do
  startBlock .blockSequence
  allowKey true
  dropKey
  skip 1
  push .blockEntry

def explicitKey : Lexer Unit := do
  startBlock .blockMapping
  allowKey (!(← inFlow))
  dropKey
  skip 1
  push .key

/-- A colon: the possible key of this level is one, and without one the value stands alone. -/
def value : Lexer Unit := do
  let p ← get
  match p.possible.lookup p.flowLevel with
  | some key =>
    modify fun q => { q with possible := q.possible.filter (·.1 != q.flowLevel) }
    let opens ← if p.flowLevel = 0 then indent key.column else pure false
    modify fun q => { q with marks := (key.number, opens) :: q.marks, keyAllowed := false }
  | none =>
    startBlock .blockMapping
    allowKey (!(← inFlow))
    dropKey
  skip 1
  push .value

def mayStartKey (read : Lexer Token) : Lexer Unit := do
  noteKey
  allowKey false
  push (← read)

def block (folded : Bool) : Lexer Unit := do
  allowKey true
  dropKey
  push (← blockScalar folded)

/-- The code points that no plain scalar starts with. -/
def indicators : Text := "-?:,[]\x7b\x7d#&*!|>'\"%@`"

def startsPlain (inFlow : Bool) (c : CodePoint) (next : Option CodePoint) : Bool :=
  !(endsWord (some c) || indicators.contains c) ||
    (!endsWord next && (c == '-' || (!inFlow && (c == '?' || c == ':'))))

def tokenAt (p : Progress) (c : CodePoint) : Lexer Unit := do
  let inFlow := p.flowLevel != 0
  let next := p.rest[1]?
  let mark ← atDocumentMark
  if p.column = 0 && c = '%' then
    endBlocks
    push (← directive)
  else if p.column = 0 && mark && c = '-' then documentMark .documentStart
  else if p.column = 0 && mark && c = '.' then documentMark .documentEnd
  else if c = '[' then openFlow .flowSequence
  else if c = '\x7b' then openFlow .flowMapping
  else if c = ']' then closeFlow .flowSequenceEnd
  else if c = '\x7d' then closeFlow .flowMappingEnd
  else if c = ',' then flowEntry
  else if c = '-' && endsWord next then blockEntry
  else if c = '?' && (inFlow || endsWord next) then explicitKey
  else if c = ':' && (inFlow || endsWord next) then value
  else if c = '*' then mayStartKey (return .reference (← anchorName))
  else if c = '&' then mayStartKey (return .anchor (← anchorName))
  else if c = '!' then mayStartKey tag
  else if c = '|' && !inFlow then block false
  else if c = '>' && !inFlow then block true
  else if c = '\'' || c = '"' then mayStartKey (quotedScalar c)
  else if startsPlain inFlow c next then mayStartKey plainScalar
  else fail

def tokens : Nat → Lexer Unit
  | 0 => fail
  | fuel + 1 => do
    toNextToken ((← ahead) + 1)
    dropStaleKeys
    let p ← get
    unwind (some p.column)
    match p.rest with
    | [] => endBlocks
    | c :: _ =>
      tokenAt p c
      tokens fuel

end Lexer

def isPrintable (c : CodePoint) : Bool :=
  c == '\t' || c == '\n' || c == '\r' || (0x20 ≤ c.val && c.val ≤ 0x7E) || c.val == 0x85 ||
    (0xA0 ≤ c.val && c.val ≤ 0xD7FF) || (0xE000 ≤ c.val && c.val ≤ 0xFFFD) || 0x10000 ≤ c.val

def Token.scan (leniency : Leniency) (t : Text) : Except Problem (List Token) := do
  if !t.all isPrintable then throw .unprintable
  let rest := match t with
    | c :: rest => if c.val = 0xFEFF then rest else t
    | [] => []
  let (_, p) ← (Lexer.tokens (rest.length + 1)).run { leniency, rest }
  return Token.weave p.marks p.tokens.reverse

end Issuer.Yaml
