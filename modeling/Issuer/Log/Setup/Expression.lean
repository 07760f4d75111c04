import Issuer.Fault
import Issuer.Text.Letter
import Issuer.Yaml.Basic
/-!
# Arguments as expressions

A file of sections gives the arguments of a handler as an expression: a text in quotation marks, a
whole number, a name, a sequence of expressions in parentheses or brackets, or named arguments in
braces.  Its value is a YAML value.
-/
namespace Issuer.Log.Setup

inductive Expression where
  | text (t : Text)
  | number (n : Int)
  | name (t : Text)
  | sequence (items : List Expression)
  | mapping (pairs : List (Expression × Expression))

namespace Expression

inductive Problem where
  | empty
  | unclosedText
  | unclosed (bracket : CodePoint)
  | misplaced
  deriving DecidableEq, Repr

def Problem.fault (p : Problem) : Fault :=
  .outside .expressionSyntax (match p with
    | empty => "invalid syntax (<string>, line 0)"
    | unclosedText => "unterminated string literal (detected at line 1) (<string>, line 1)"
    | unclosed bracket => "'" ++ bracket :: "' was never closed (<string>, line 1)"
    | misplaced => "invalid syntax (<string>, line 1)")

/-! ## Reading -/

def isSpace (c : CodePoint) : Bool := c == ' ' || c == '\t' || c == '\n' || c == '\x0c'

def skipSpace (t : Text) : Text := t.dropWhile isSpace

def escapes : List (CodePoint × CodePoint) := [
  ('\\', '\\'), ('\'', '\''), ('"', '"'), ('n', '\n'), ('t', '\t'), ('r', '\r'), ('a', '\x07'),
  ('b', '\x08'), ('f', '\x0c'), ('v', '\x0b'), ('0', '\x00')]

/-- A text up to its closing mark, and what follows it; other backslashes stand for themselves. -/
def quoted? (mark : CodePoint) : Text → Option (Text × Text)
  | [] => none
  | '\\' :: c :: rest =>
    match escapes.lookup c with
    | some e => (quoted? mark rest).map fun (t, r) => (e :: t, r)
    | none => (quoted? mark rest).map fun (t, r) => ('\\' :: c :: t, r)
  | c :: rest =>
    if c = mark then some ([], rest)
    else if c = '\n' then none
    else (quoted? mark rest).map fun (t, r) => (c :: t, r)

def isWordCharacter (c : CodePoint) : Bool :=
  c.isAsciiLetter || c.isDigit || c == '_' || c == '.' || c == '-' || c == '+'

/-- The expression that a word is: a whole number, or a name. -/
def ofWord (t : Text) : Except Problem Expression :=
  let (negative, digits) : Bool × Text := match t with
    | '-' :: rest => (true, rest)
    | '+' :: rest => (false, rest)
    | rest => (false, rest)
  if !digits.isEmpty && digits.all CodePoint.isDigit then
    if digits != "0" && digits.head? == some '0' then .error .misplaced
    else
      let n : Int := (Text.digitsValue digits : Nat)
      .ok (.number (if negative then -n else n))
  else if (t.split '.').all Text.isIdentifier then .ok (.name t)
  else .error .misplaced

mutual

/-- An expression at the start of a text, and what follows it; `fuel` bounds the number of its
parts. -/
def readOne : Nat → Text → Except Problem (Expression × Text)
  | 0, _ => .error .misplaced
  | fuel + 1, t =>
    match skipSpace t with
    | [] => .error .misplaced
    | c :: rest =>
      if c = '\'' || c = '"' then
        match quoted? c rest with
        | some (s, r) => .ok (.text s, skipSpace r)
        | none => .error .unclosedText
      else if c = '(' then do
        let (items, commas, r) ← readItems '(' ')' fuel rest
        match items, commas with
        | [e], 0 => return (e, skipSpace r)
        | _, _ => return (.sequence items, skipSpace r)
      else if c = '[' then do
        let (items, _, r) ← readItems '[' ']' fuel rest
        return (.sequence items, skipSpace r)
      else if c = '\x7b' then do
        let (pairs, r) ← readPairs fuel rest
        return (.mapping pairs, skipSpace r)
      else do
        let word := (c :: rest).takeWhile isWordCharacter
        return (← ofWord word, skipSpace ((c :: rest).drop word.length))

def readItems (opening closing : CodePoint) :
    Nat → Text → Except Problem (List Expression × Nat × Text)
  | 0, _ => .error .misplaced
  | fuel + 1, t =>
    match skipSpace t with
    | [] => .error (.unclosed opening)
    | c :: rest =>
      if c = closing then .ok ([], 0, rest)
      else do
        let (e, after) ← readOne fuel (c :: rest)
        match after with
        | [] => throw (.unclosed opening)
        | d :: more =>
          if d = closing then return ([e], 0, more)
          else if d = ',' then
            let (es, commas, r) ← readItems opening closing fuel more
            return (e :: es, commas + 1, r)
          else throw .misplaced

def readPairs : Nat → Text → Except Problem (List (Expression × Expression) × Text)
  | 0, _ => .error .misplaced
  | fuel + 1, t =>
    match skipSpace t with
    | [] => .error (.unclosed '\x7b')
    | '\x7d' :: rest => .ok ([], rest)
    | t => do
      let (key, after) ← readOne fuel t
      match after with
      | [] => throw (.unclosed '\x7b')
      | ':' :: more =>
        let (e, after) ← readOne fuel more
        match after with
        | [] => throw (.unclosed '\x7b')
        | ',' :: more =>
          let (pairs, r) ← readPairs fuel more
          return ((key, e) :: pairs, r)
        | '\x7d' :: more => return ([(key, e)], more)
        | _ => throw .misplaced
      | _ => throw .misplaced

end

def ofText (t : Text) : Except Problem Expression := do
  if (skipSpace t).isEmpty then throw .empty
  let (e, rest) ← readOne (2 * t.length + 2) t
  if rest.isEmpty then return e else throw .misplaced

/-! ## Values -/

/-- The values of names.  A stream has none. -/
def values : List (Text × Yaml) := [
  ("None", .null), ("True", .bool true), ("False", .bool false), ("sys.stderr", .null),
  ("sys.stdout", .null), ("sys.stdin", .null), ("CRITICAL", .int 50), ("FATAL", .int 50),
  ("ERROR", .int 40), ("WARN", .int 30), ("WARNING", .int 30), ("INFO", .int 20),
  ("DEBUG", .int 10), ("NOTSET", .int 0)]

def noValue (name : Text) : Fault :=
  match name.partition? '.' with
  | some (owner, member) =>
    if owner = ("sys" : Text) then
      .outside .missingOperation ("module 'sys' has no attribute '" ++ member ++ "'")
    else .outside .unknownName ("name '" ++ owner ++ "' is not defined")
  | none => .outside .unknownName ("name '" ++ name ++ "' is not defined")

mutual

def value : Expression → Except Fault Yaml
  | text t => .ok (.str t)
  | number n => .ok (.int n)
  | name t =>
    match values.lookup t with
    | some v => .ok v
    | none => .error (noValue t)
  | sequence items => .list <$> valueItems items
  | mapping pairs => .map <$> valuePairs pairs

def valueItems : List Expression → Except Fault (List Yaml)
  | [] => .ok []
  | e :: es => do
    let v ← value e
    return v :: (← valueItems es)

/-- The values of pairs; a later pair replaces an earlier one with the same key. -/
def valuePairs : List (Expression × Expression) → Except Fault (List (Yaml × Yaml))
  | [] => .ok []
  | (k, e) :: rest => do
    let key ← value k
    let v ← value e
    let others ← valuePairs rest
    return if others.any fun (k, _) => k.isSameKey key then others else (key, v) :: others

end

def evaluate (t : Text) : Except Fault Yaml := do
  value (← (ofText t).mapError Problem.fault)

end Expression

end Issuer.Log.Setup
