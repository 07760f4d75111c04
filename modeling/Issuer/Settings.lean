import Issuer.Fault
import Issuer.Json.Compare
/-!
# Settings

Settings have dotted names and values of any kind.  A value can be fetched as it is, as a text or
as a list; of several names the first that is defined counts.
-/
namespace Issuer

/-- The value of a setting: a JSON value, or a fixed sequence of values. -/
inductive Setting where
  | json (v : Json)
  | sequence (items : List Json)
  deriving DecidableEq

namespace Setting

def showSequence : List Json → Text
  | [] => "()"
  | [v] => "(" ++ v.inspect ++ ",)"
  | items => "(" ++ Text.join ", " (items.map Json.inspect) ++ ")"

def display : Setting → Text
  | json v => v.display
  | sequence items => showSequence items

def hasLongNumber : Setting → Bool
  | json v => v.hasLongNumber
  | sequence items => Json.haveLongNumber items

def isNull : Setting → Bool
  | json .null => true
  | _ => false

def isTruthy : Setting → Bool
  | json v => v.isTruthy
  | sequence items => !items.isEmpty

/-- A value as a list; a single value is its only item, and null stays null. -/
def toList? : Setting → Option (List Json)
  | json .null => none
  | json (.arr items) => some items
  | json v => some [v]
  | sequence items => some items

def agree : Setting → Setting → Bool
  | json a, json b => Json.agree true a b
  | sequence a, sequence b => Json.agreeItems true a b
  | _, _ => false

end Setting

structure Settings where
  values : List (Text × Setting)

namespace Settings

def empty : Settings := ⟨[]⟩

def get? (s : Settings) (name : Text) : Option Setting := s.values.lookup name

def first? (s : Settings) (names : List Text) : Option Setting := names.findSome? s.get?

def value (s : Settings) (names : List Text) (default : Setting) : Setting :=
  (s.first? names).getD default

/-- A setting as text; null has none. -/
def text? (s : Settings) (names : List Text) (default : Setting) : Option Text :=
  let v := s.value names default
  if v.isNull then none else some v.display

/-- A setting as a list; null is none. -/
def list? (s : Settings) (names : List Text) (default : Setting) : Option (List Json) :=
  (s.value names default).toList?

def valueOf (s : Settings) (name : Text) : Setting := s.value [name] (.json .null)

def textOf? (s : Settings) (name : Text) : Option Text := s.text? [name] (.json .null)

def undefined (name : Text) : Fault := .outside .missingKey ("Undefined setting: " ++ name)

def require (s : Settings) (name : Text) : Except Fault Setting :=
  match s.get? name with
  | some v => .ok v
  | none => .error (undefined name)

def contains (s : Settings) (name : Text) : Bool := (s.get? name).isSome

def size (s : Settings) : Nat := s.values.length

def names (s : Settings) : List Text := s.values.map (·.1)

def agree (a b : Settings) : Bool :=
  a.size == b.size && a.values.all fun (name, v) => (b.get? name).any v.agree

end Settings

end Issuer
