import Issuer.Pattern.Extent
import Issuer.Text.CharacterName
import Issuer.Text.Letter
/-!
# Reading a pattern

A pattern is read token by token: a code point, or a backslash with the code point after it.  A
backslash at the very end is refused as soon as it comes next.  This module has the moves of the
reader and the parts of a pattern that hold no other parts: escapes, sets and flags.
-/
namespace Issuer.Pattern

structure Token where
  position : Nat
  text : Text

def tokens : Nat → Text → List Token
  | _, [] => []
  | position, '\\' :: c :: rest => ⟨position, ['\\', c]⟩ :: tokens (position + 2) rest
  | position, c :: rest => ⟨position, [c]⟩ :: tokens (position + 1) rest

structure Progress where
  rest : List Token
  length : Nat
  groups : List (Option Extent) := []
  names : List (Text × Nat) := []
  /-- Inside a look-behind, the number of groups opened before it. -/
  lookBehind : Option Nat := none
  /-- The numbers of the groups that conditions ask for, and where each first did. -/
  conditions : List (Nat × Nat) := []
  flags : List CodePoint := []

abbrev Reader := ReaderT CharacterNames (StateT Progress (Except Problem))

namespace Reader

/-! ## Moves -/

def here : Reader Nat := do
  let p ← get
  return match p.rest with
    | [] => p.length
    | t :: _ => t.position

def failAt {α : Type} (position : Nat) (complaint : Complaint) : Reader α :=
  throw (.at (some position) complaint)

/-- Refuses the pattern `back` code points before the next token. -/
def fail {α : Type} (complaint : Complaint) (back : Nat := 0) : Reader α := do
  failAt ((← here) - back) complaint

def refuseDangling : Reader Unit := do
  match (← get).rest with
  | [⟨position, ['\\']⟩] => failAt position .danglingBackslash
  | _ => return ()

def peek : Reader (Option Text) := return (← get).rest.head?.map Token.text

def next : Reader (Option Text) := do
  let p ← get
  match p.rest with
  | [] => return none
  | t :: rest =>
    set { p with rest }
    refuseDangling
    return some t.text

def accept (c : CodePoint) : Reader Bool := do
  if (← peek) = some [c] then
    let _ ← next
    return true
  else return false

def readWhile (wanted : CodePoint → Bool) : Nat → Reader Text
  | 0 => return []
  | n + 1 => do
    match ← peek with
    | some [c] =>
      if wanted c then
        let _ ← next
        return c :: (← readWhile wanted n)
      else return []
    | _ => return []

def ahead : Reader Nat := return (← get).rest.length

/-- Takes tokens up to a terminator, which is taken too; `what` is what they spell. -/
def readUntil (terminator : CodePoint) (what : Text) : Nat → Text → Reader Text
  | 0, _ => fail .unexpectedEnd
  | fuel + 1, name => do
    match ← next with
    | none =>
      if name.isEmpty then fail (.missing what)
      else fail (.unterminatedName [terminator]) name.length
    | some t =>
      if t = [terminator] then
        if name.isEmpty then fail (.missing what) 1 else return name
      else readUntil terminator what fuel (name ++ t)

def readName (terminator : CodePoint) (what : Text) : Reader Text := do
  readUntil terminator what ((← ahead) + 1) []

/-! ## Escapes -/

def isOctal (c : CodePoint) : Bool := '0' ≤ c && c ≤ '7'

def valueIn (base : Nat) (digits : Text) : Nat :=
  digits.foldl (fun n c => base * n + (c.hexValue?.getD 0)) 0

def readHex (escape : Text) (count : Nat) : Reader Nat := do
  let digits ← readWhile (·.hexValue?.isSome) count
  let escape := escape ++ digits
  if digits.length < count then fail (.incompleteEscape escape) escape.length
  let n := valueIn 16 digits
  if 0x10FFFF < n then fail (.badEscape escape) escape.length
  return n

/-- The code point of an escape that names it.  A name is looked up as bytes, and one with a
surrogate is none. -/
def readNamed : Reader Nat := do
  if !(← accept '\x7b') then fail (.missing "\x7b")
  let name ← readName '\x7d' "character name"
  if name.any CodePoint.isSurrogate then fail (.badEscape "\\N") 2
  match (← read) name with
  | some c => return c.val
  | none => fail (.undefinedCharacter name) (name.length + 4)

/-- The code point of an escape by number or by name; `none` for every other escape. -/
def readNumbered (c : CodePoint) : Reader (Option Nat) := do
  if c = 'x' then return some (← readHex ['\\', c] 2)
  else if c = 'u' then return some (← readHex ['\\', c] 4)
  else if c = 'U' then return some (← readHex ['\\', c] 8)
  else if c = 'N' then return some (← readNamed)
  else return none

def controlEscapes : List (CodePoint × Nat) :=
  [('a', 7), ('b', 8), ('f', 12), ('n', 10), ('r', 13), ('t', 9), ('v', 11), ('\\', 92)]

def classEscapes : Text := "dDsSwW"

def placeEscapes : Text := "AbBZ"

/-- The code point of an escape inside a set; `none` for a class. -/
def readSetEscape (c : CodePoint) : Reader (Option Nat) := do
  match controlEscapes.lookup c with
  | some n => return some n
  | none =>
    if classEscapes.contains c then return none
    match ← readNumbered c with
    | some n => return some n
    | none =>
      if isOctal c then
        let digits := c :: (← readWhile isOctal 2)
        let n := valueIn 8 digits
        if 0o377 < n then fail (.octalTooLarge ('\\' :: digits)) (digits.length + 1)
        return some n
      else if c.isDigit || c.isAsciiLetter then fail (.badEscape ['\\', c]) 2
      else return some c.val

/-- The extent of a closed group, which `back` code points before the next token refer to. -/
def referTo (number back : Nat) : Reader Extent := do
  match (← get).groups[number - 1]? with
  | some (some extent) => return extent
  | _ => fail .openGroup back

/-- Inside a look-behind a reference needs a group that was closed before it. -/
def checkLookBehind (number : Nat) : Reader Unit := do
  let p ← get
  match p.lookBehind with
  | none => return ()
  | some before =>
    let _ ← referTo number 0
    if before < number then fail .groupOfSameLookBehind

def referencePiece (extent : Extent) : Piece := ⟨.other, { extent with complaint := none }⟩

/-- An escape that starts with a digit other than zero: three octal digits, or a reference. -/
def readDigitEscape (c : CodePoint) : Reader Piece := do
  let more ← readWhile CodePoint.isDigit 1
  let digits := c :: more
  if more.length = 1 && digits.all isOctal then
    let third ← readWhile isOctal 1
    if third.length = 1 then
      let digits := digits ++ third
      if 0o377 < valueIn 8 digits then
        fail (.octalTooLarge ('\\' :: digits)) (digits.length + 1)
      return ⟨.other, .unit⟩
  let number := Text.digitsValue digits
  if number ≤ (← get).groups.length then
    let extent ← referTo number (digits.length + 1)
    checkLookBehind number
    return referencePiece extent
  else fail (.invalidReference number) digits.length

def readEscape (c : CodePoint) : Reader Piece := do
  if placeEscapes.contains c then return ⟨.place, .empty⟩
  if classEscapes.contains c || (controlEscapes.lookup c).isSome then return ⟨.other, .unit⟩
  match ← readNumbered c with
  | some _ => return ⟨.other, .unit⟩
  | none =>
    if c = '0' then
      let _ ← readWhile isOctal 2
      return ⟨.other, .unit⟩
    else if c.isDigit then readDigitEscape c
    else if c.isAsciiLetter then fail (.badEscape ['\\', c]) 2
    else return ⟨.other, .unit⟩

/-! ## Sets -/

/-- The code point that a token stands for inside a set; `none` for a class. -/
def readSetItem (t : Text) : Reader (Option Nat) :=
  match t with
  | ['\\', c] => readSetEscape c
  | c :: _ => return some c.val
  | [] => return none

/-- The rest of a set whose bracket stands at `start`; a closing bracket in first place counts as
an item. -/
def readSet (start : Nat) : Nat → Bool → Reader Unit
  | 0, _ => failAt start .unterminatedSet
  | fuel + 1, isFirst => do
    match ← next with
    | none => failAt start .unterminatedSet
    | some t =>
      if t = ("]" : Text) && !isFirst then return ()
      let item ← readSetItem t
      if !(← accept '-') then readSet start fuel false
      else
        match ← next with
        | none => failAt start .unterminatedSet
        | some u =>
          if u = ("]" : Text) then return ()
          let last ← readSetItem u
          match item, last with
          | some a, some b =>
            if b < a then fail (.badRange t u) (t.length + 1 + u.length)
            readSet start fuel false
          | _, _ => fail (.badRange t u) (t.length + 1 + u.length)

/-! ## Flags -/

def flagLetters : Text := "iLmsxatu"

def typeFlags : Text := "aLu"

def templateFlag : CodePoint := 't'

def verboseFlag : CodePoint := 'x'

def asFlag? : Text → Option CodePoint
  | [c] => if flagLetters.contains c then some c else none
  | _ => none

def refuseFlag {α : Type} (t : Text) (expected : Text) : Reader α :=
  let complaint : Complaint := match t with
    | [c] => if c.isLetter then .unknownFlag else .missing expected
    | _ => .missing expected
  fail complaint t.length

def readFlagsOn : Nat → CodePoint → List CodePoint → Reader (List CodePoint × Text)
  | 0, _, _ => fail .unexpectedEnd
  | fuel + 1, flag, on => do
    if flag = 'L' then fail .byteFlag
    let on := flag :: on
    if typeFlags.contains flag && on.any (fun f => typeFlags.contains f && f ≠ flag) then
      fail .incompatibleFlags
    match ← next with
    | none => fail (.missing "-, : or )")
    | some t =>
      if t = (")" : Text) || t = ("-" : Text) || t = (":" : Text) then return (on, t)
      match asFlag? t with
      | some flag => readFlagsOn fuel flag on
      | none => refuseFlag t "-, : or )"

def readFlagsOff : Nat → CodePoint → List CodePoint → Reader (List CodePoint)
  | 0, _, _ => fail .unexpectedEnd
  | fuel + 1, flag, off => do
    if typeFlags.contains flag then fail .typeFlagOff
    let off := flag :: off
    match ← next with
    | none => fail (.missing ":")
    | some t =>
      if t = (":" : Text) then return off
      match asFlag? t with
      | some flag => readFlagsOff fuel flag off
      | none => refuseFlag t ":"

/-- Flags in a group that starts with the given one, or with a minus sign: those turned on and
those turned off in the group, or `none` if they were turned on for the whole pattern. -/
def readFlags (first : Option CodePoint) : Reader (Option (List CodePoint × List CodePoint)) := do
  let fuel := (← ahead) + 1
  let (on, ending) ← match first with
    | some flag => readFlagsOn fuel flag []
    | none => pure ([], "-")
  if ending = (")" : Text) then
    modify fun p => { p with flags := on ++ p.flags }
    return none
  if on.contains templateFlag then fail .globalFlagOn 1
  let off ← if ending = ("-" : Text) then
      match ← next with
      | none => fail (.missing "flag")
      | some t =>
        match asFlag? t with
        | some flag => readFlagsOff fuel flag []
        | none => refuseFlag t "flag"
    else pure []
  if off.contains templateFlag then fail .globalFlagOff 1
  if on.any off.contains then fail .flagOnAndOff 1
  return some (on, off)

end Reader

end Issuer.Pattern
