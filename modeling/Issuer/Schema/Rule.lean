import Issuer.Json.Compare
import Issuer.Pattern.Basic
/-!
# Rules for schemas

A schema is a JSON value whose members, the keywords, obey rules: each keyword has rules for its
value, and the values of some keywords hold schemas again.  Every keyword may be absent, and
members that are no keywords are free.  A dialect says which keywords there are.

`check` lists what violates the rules, in the order of the keywords in the dialect, given the names
of characters that patterns may use.
-/
namespace Issuer.Schema

inductive JsonType where
  | null
  | boolean
  | integer
  | number
  | string
  | array
  | object
  deriving DecidableEq, Repr

/-- How a string has to be spelt.  A line feed at the very end does not count. -/
inductive Spelling where
  /-- A URL without a fragment; an empty one may be announced. -/
  | withoutFragment
  /-- A letter, then letters, digits and `- . : _`. -/
  | anchor
  /-- A letter or an underscore, then letters, digits and `- . _`. -/
  | plainAnchor
  deriving DecidableEq, Repr

inductive Rule where
  | type (allowed : List JsonType)
  | among (values : List Text)
  | positive
  | notNegative
  | nonempty
  | distinct
  | pattern
  | spelt (spelling : Spelling)
  | items (rules : List Rule)
  | members (rules : List Rule)
  | patternKeys
  | either (first second : List Rule)
  | schema
  deriving Repr

structure Keyword where
  name : Text
  rules : List Rule
  deriving Repr

structure Dialect where
  types : List JsonType
  keywords : List Keyword
  needs : List (Text × Text)
  /-- Whether a number without a fraction is an integer however it is written. -/
  integralFloats : Bool

inductive Violation where
  | value
  | pattern (text : Text) (problem : Pattern.Problem)
  deriving DecidableEq, Repr

/-- Some problems of a pattern are not violations that an alternative can make good: the check
itself ends there. -/
def Violation.isFatal : Violation → Bool
  | value | pattern _ (.at ..) => false
  | pattern _ .repeatTooLarge | pattern _ (.tooManyDigits _) | pattern _ .conflictingFlags => true

/-! ## Single values -/

/-- Whether a value has a type.  True and false are no numbers. -/
def JsonType.holds (d : Dialect) : JsonType → Json → Bool
  | null, .null | boolean, .bool _ | integer, .int _ | number, .int _ | number, .float _
  | string, .str _ | array, .arr _ | object, .obj _ => true
  | integer, .float x => d.integralFloats && x.isIntegral
  | _, _ => false

def dropLineFeed (t : Text) : Text :=
  match t.reverse with
  | '\n' :: rest => rest.reverse
  | _ => t

def isHeadAndTail (head tail : CodePoint → Bool) : Text → Bool
  | [] => false
  | c :: rest => head c && rest.all tail

/-- Whether a text without a line feed at its end is spelt as asked for. -/
def Spelling.holdsExactly : Spelling → Text → Bool
  | withoutFragment, t => !(match t.reverse with
    | '#' :: rest => rest
    | _ => t).contains '#'
  | anchor, t => isHeadAndTail CodePoint.isAsciiLetter (fun c => c.isAsciiLetter || c.isDigit ||
      c = '-' || c = '.' || c = ':' || c = '_') t
  | plainAnchor, t => isHeadAndTail (fun c => c.isAsciiLetter || c = '_')
      (fun c => c.isAsciiLetter || c.isDigit || c = '-' || c = '.' || c = '_') t

def Spelling.holds (s : Spelling) (t : Text) : Bool :=
  s.holdsExactly t || s.holdsExactly (dropLineFeed t)

def patternViolation (names : CharacterNames) (t : Text) : List Violation :=
  match Pattern.problem? names t with
  | none => []
  | some problem => [.pattern t problem]

def require (condition : Bool) : List Violation := if condition then [] else [.value]

def eitherViolation (first second : List Violation) : List Violation :=
  match first.find? Violation.isFatal with
  | some fatal => [fatal]
  | none =>
    if first.isEmpty then []
    else match second.find? Violation.isFatal with
      | some fatal => [fatal]
      | none => require second.isEmpty

/-! ## Whole values -/

abbrev Checker := Rule → List Violation

mutual

def applyRule (names : CharacterNames) (d : Dialect) (v : Json) (items : List Checker)
    (members : List (Text × Checker)) : Rule → List Violation
  | .type allowed => require (allowed.any fun t => t.holds d v)
  | .among values => require (values.any fun t => v == .str t)
  | .positive =>
    match v with
    | .int n => require (0 < n)
    | .float x => require (!(x.isNegative || x.isZero))
    | _ => []
  | .notNegative =>
    match v with
    | .int n => require (0 ≤ n)
    | .float x => require (!x.isNegative)
    | _ => []
  | .nonempty =>
    match v with
    | .arr vs => require (!vs.isEmpty)
    | _ => []
  | .distinct =>
    match v with
    | .arr vs => require (Json.areDistinct vs)
    | _ => []
  | .pattern =>
    match v with
    | .str t => patternViolation names t
    | _ => []
  | .spelt spelling =>
    match v with
    | .str t => require (spelling.holds t)
    | _ => []
  | .items rules => items.flatMap rules.flatMap
  | .members rules => members.flatMap fun (_, check) => rules.flatMap check
  | .patternKeys => members.flatMap fun (key, _) => patternViolation names key
  | .either first second =>
    eitherViolation (applyRules names d v items members first)
      (applyRules names d v items members second)
  | .schema =>
    require (d.types.any fun t => t.holds d v) ++
      (d.keywords.flatMap fun keyword =>
        match members.lookup keyword.name with
        | some check => keyword.rules.flatMap check
        | none => []) ++
      d.needs.flatMap fun (keyword, other) =>
        require ((members.lookup keyword).isNone || (members.lookup other).isSome)

def applyRules (names : CharacterNames) (d : Dialect) (v : Json) (items : List Checker)
    (members : List (Text × Checker)) : List Rule → List Violation
  | [] => []
  | rule :: rules =>
    applyRule names d v items members rule ++ applyRules names d v items members rules

end

mutual

def check (names : CharacterNames) (d : Dialect) : Json → Checker
  | .arr vs => applyRule names d (.arr vs) (checkItems names d vs) []
  | .obj ms => applyRule names d (.obj ms) [] (checkMembers names d ms)
  | v => applyRule names d v [] []

def checkItems (names : CharacterNames) (d : Dialect) : List Json → List Checker
  | [] => []
  | v :: vs => check names d v :: checkItems names d vs

def checkMembers (names : CharacterNames) (d : Dialect) :
    List (Text × Json) → List (Text × Checker)
  | [] => []
  | (key, v) :: ms => (key, check names d v) :: checkMembers names d ms

end

def Dialect.violation? (names : CharacterNames) (d : Dialect) (v : Json) : Option Violation :=
  (check names d v .schema).head?

end Issuer.Schema
