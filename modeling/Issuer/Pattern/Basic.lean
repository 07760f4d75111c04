import Issuer.Pattern.Reader
/-!
# Patterns

Whether a text is a well-formed pattern: alternatives of sequences of pieces, where a piece is a
code point, a set, a place, a group or a repeat of the piece before it.  What a pattern matches is
of no concern here, but for the widths of look-behinds.
-/
namespace Issuer.Pattern

namespace Reader

def isSkipped (t : Text) : Bool :=
  match t with
  | [c] => c.isAsciiBlank
  | _ => false

def skipLine : Nat → Reader Unit
  | 0 => return ()
  | fuel + 1 => do
    match ← next with
    | none => return ()
    | some t => if t = ("\n" : Text) then return () else skipLine fuel

def skipComment (start : Nat) : Nat → Reader Unit
  | 0 => failAt start .unterminatedComment
  | fuel + 1 => do
    match ← peek with
    | none => failAt start .unterminatedComment
    | some _ => if (← next) = some ")" then return () else skipComment start fuel

/-! ## Repeats -/

def repeatCount (digits : Text) : Reader Nat := do
  if Text.maxDigits < digits.length then throw (.tooManyDigits digits.length)
  let n := Text.digitsValue digits
  if unlimited ≤ n then throw .repeatTooLarge
  return n

/-- The least and the greatest number of repeats after an opening brace; `none` if the brace
opens no repeat and stands for itself. -/
def readBounds : Reader (Option (Nat × Nat)) := do
  if (← peek) = some "\x7d" then return none
  let before ← get
  let start ← here
  let least ← readWhile CodePoint.isDigit (← ahead)
  let most ← if ← accept ',' then readWhile CodePoint.isDigit (← ahead) else pure least
  if !(← accept '\x7d') then
    set before
    return none
  let low ← if least.isEmpty then pure 0 else repeatCount least
  if most.isEmpty then return some (low, unlimited)
  let high ← repeatCount most
  if high < low then failAt start .repeatOrder
  return some (low, high)

/-- The least and the greatest number of repeats that a token stands for; `none` if it stands for
itself. -/
def readBoundsOf (mark : CodePoint) : Reader (Option (Nat × Nat)) := do
  if mark = '?' then return some (0, 1)
  else if mark = '*' then return some (0, unlimited)
  else if mark = '+' then return some (1, unlimited)
  else readBounds

/-- The name of a repeat: one that takes little, one that gives nothing back, or neither. -/
def readOperator : Reader Text := do
  if ← accept '?' then return "MIN_REPEAT"
  if ← accept '+' then return "POSSESSIVE_REPEAT"
  return "MAX_REPEAT"

def readRepeat (mark : CodePoint) (pieces : List Piece) : Reader (List Piece) := do
  let start ← here
  match ← readBoundsOf mark with
  | none => return ⟨.other, .unit⟩ :: pieces
  | some (least, most) =>
    match pieces with
    | [] => failAt (start - 1) .nothingToRepeat
    | last :: before =>
      match last.kind with
      | .place => failAt (start - 1) .nothingToRepeat
      | .repeated => failAt (start - 1) .multipleRepeat
      | .other =>
        let operator ← readOperator
        let extent := last.extent.times least most
        let flags := (← get).flags
        let complaint := if flags.contains templateFlag then some (.repeatInTemplate operator)
          else extent.complaint
        return ⟨.repeated, { extent with complaint }⟩ :: before

/-! ## Groups -/

def checkName (name : Text) : Reader Unit := do
  if !name.isIdentifier then fail (.badNameCharacter name) (name.length + 1)

def openGroup (name : Option Text) : Reader Nat := do
  let p ← get
  let number := p.groups.length + 1
  match name with
  | none => set { p with groups := p.groups ++ [none] }
  | some name =>
    match p.names.lookup name with
    | some earlier => fail (.redefinedGroup name number earlier) (name.length + 1)
    | none => set { p with groups := p.groups ++ [none], names := p.names ++ [(name, number)] }
  return number

def closeGroup (number : Nat) (extent : Extent) : Reader Unit :=
  modify fun p => { p with groups := p.groups.set (number - 1) (some extent) }

/-- Takes the closing parenthesis of a group that was opened at `start`. -/
def readClose (start : Nat) : Reader Unit := do
  if !(← accept ')') then failAt start .unterminatedGroup

def readNamedReference : Reader Piece := do
  let name ← readName ')' "group name"
  checkName name
  match (← get).names.lookup name with
  | none => fail (.unknownGroup name) (name.length + 1)
  | some number =>
    let extent ← referTo number (name.length + 1)
    checkLookBehind number
    return referencePiece extent

def greatestGroup : Nat := 0x7FFFFFFE

def readCondition : Reader Unit := do
  let name ← readName ')' "group name"
  if name.isIdentifier then
    match (← get).names.lookup name with
    | none => fail (.unknownGroup name) (name.length + 1)
    | some number => checkLookBehind number
  else
    match Text.numeral? name with
    | none | some (.negSucc _) => fail (.badNameCharacter name) (name.length + 1)
    | some (.ofNat number) =>
      if number = 0 then fail .badGroupNumber (name.length + 1)
      if greatestGroup < number then fail (.invalidReference number) (name.length + 1)
      let position := (← here) - name.length - 1
      modify fun p =>
        if (p.conditions.lookup number).isSome then p
        else { p with conditions := p.conditions ++ [(number, position)] }
      checkLookBehind number

/-- How a group starts, after its parenthesis and question mark. -/
inductive Opening where
  | group (isNumbered : Bool) (name : Option Text) (on off : List CodePoint)
  | look (isBehind : Bool)
  | conditional
  | complete (piece : Option Piece)
  | flags

def readNamedExtension : Reader Opening := do
  if ← accept '<' then
    let name ← readName '>' "group name"
    checkName name
    return .group true (some name) [] []
  if ← accept '=' then return .complete (some (← readNamedReference))
  match ← next with
  | none => fail .unexpectedEnd
  | some t => fail (.unknownExtension ('P' :: t)) (t.length + 2)

/-- The start of a group whose parenthesis, at `start`, has been taken. -/
def readOpening (start : Nat) : Reader Opening := do
  if !(← accept '?') then return .group true none [] []
  match ← next with
  | none => fail .unexpectedEnd
  | some t =>
    match t with
    | ['P'] => readNamedExtension
    | [':'] | ['>'] => return .group false none [] []
    | ['#'] =>
      skipComment start ((← ahead) + 1)
      return .complete none
    | ['='] | ['!'] => return .look false
    | ['<'] =>
      match ← next with
      | none => fail .unexpectedEnd
      | some u =>
        if u = ("=" : Text) || u = ("!" : Text) then return .look true
        else fail (.unknownExtension ('<' :: u)) (u.length + 2)
    | ['('] => return .conditional
    | _ =>
      let first := asFlag? t
      if first.isNone && t ≠ ("-" : Text) then fail (.unknownExtension t) (t.length + 1)
      match ← readFlags first with
      | none => return .flags
      | some (on, off) => return .group false none on off

/-! ## Sequences and alternatives -/

mutual

/-- Alternatives, joined with those read before; `isTop` outside every group. -/
def readAlternatives : Nat → Bool → Bool → Option Extent → Reader Extent
  | 0, _, _, _ => fail .unexpectedEnd
  | fuel + 1, verbose, isTop, before => do
    let extent ← readSequence fuel verbose (isTop && before.isNone) []
    let all := match before with
      | none => extent
      | some e => e.either extent
    if ← accept '|' then
      let flags := (← get).flags
      let verbose := if isTop then flags.contains verboseFlag else verbose
      readAlternatives fuel verbose isTop (some all)
    else return all

/-- A sequence of pieces, after those read before, the last of them first; `isStart` where flags
for the whole pattern may stand. -/
def readSequence : Nat → Bool → Bool → List Piece → Reader Extent
  | 0, _, _, _ => fail .unexpectedEnd
  | fuel + 1, verbose, isStart, pieces => do
    let again (pieces : List Piece) := readSequence fuel verbose isStart pieces
    match ← peek with
    | none => return Piece.total pieces
    | some t =>
      if t = ("|" : Text) || t = (")" : Text) then return Piece.total pieces
      let _ ← next
      if verbose && isSkipped t then again pieces
      else if verbose && t = ("#" : Text) then
        skipLine ((← ahead) + 1)
        again pieces
      else
        match t with
        | ['\\', c] => again ((← readEscape c) :: pieces)
        | ['['] =>
          let start := (← here) - 1
          let _ ← accept '^'
          readSet start ((← ahead) + 1) true
          again (⟨.other, .unit⟩ :: pieces)
        | ['^'] | ['$'] => again (⟨.place, .empty⟩ :: pieces)
        | ['('] =>
          let start := (← here) - 1
          match ← readOpening start with
          | .complete none => again pieces
          | .complete (some piece) => again (piece :: pieces)
          | .flags =>
            if !isStart || !pieces.isEmpty then failAt start .misplacedFlags
            readSequence fuel ((← get).flags.contains verboseFlag) isStart pieces
          | opening => again ((← readGroup fuel verbose start opening) :: pieces)
        | [c] =>
          if c = '*' || c = '+' || c = '?' || c = '\x7b' then again (← readRepeat c pieces)
          else again (⟨.other, .unit⟩ :: pieces)
        | _ => again (⟨.other, .unit⟩ :: pieces)

def readGroup : Nat → Bool → Nat → Opening → Reader Piece
  | 0, _, _, _ => fail .unexpectedEnd
  | fuel + 1, verbose, start, opening => do
    match opening with
    | .group isNumbered name on off =>
      let number ← if isNumbered then some <$> openGroup name else pure none
      let verbose := (verbose || on.contains verboseFlag) && !off.contains verboseFlag
      let extent ← readAlternatives fuel verbose false none
      readClose start
      match number with
      | some number => closeGroup number extent
      | none => pure ()
      return ⟨.other, extent⟩
    | .look isBehind =>
      let outer := (← get).lookBehind
      if isBehind && outer.isNone then
        modify fun p => { p with lookBehind := some p.groups.length }
      let extent ← readAlternatives fuel verbose false none
      if isBehind then modify fun p => { p with lookBehind := outer }
      readClose start
      return ⟨.other, if isBehind then extent.behind else extent.ahead⟩
    | .conditional =>
      readCondition
      let yes ← readSequence fuel verbose false []
      let no ← if ← accept '|' then
          let no ← readSequence fuel verbose false []
          if (← peek) = some "|" then fail .thirdAlternative
          pure no
        else pure .empty
      readClose start
      return ⟨.other, yes.either no⟩
    | .complete piece => return piece.getD ⟨.other, .empty⟩
    | .flags => return ⟨.other, .empty⟩

end

def readPattern : Reader Unit := do
  refuseDangling
  let extent ← readAlternatives (3 * (← ahead) + 3) false true none
  let p ← get
  if p.flags.contains 'a' && p.flags.contains 'u' then throw .conflictingFlags
  if !p.rest.isEmpty then fail .unbalanced
  match p.conditions.find? fun (number, _) => p.groups.length < number with
  | some (number, position) => failAt position (.invalidReference number)
  | none => pure ()
  match extent.complaint with
  | some complaint => throw (.at none complaint)
  | none => return ()

end Reader

def problem? (names : CharacterNames) (pattern : Text) : Option Problem :=
  let start : Progress := { rest := tokens 0 pattern, length := pattern.length }
  match (Reader.readPattern.run names).run start with
  | .ok _ => none
  | .error problem => some problem

end Issuer.Pattern
