import Issuer.Json.Compare
import Issuer.Json.Display
import Issuer.Yaml.Moment
/-!
# YAML values

Besides what JSON has, a value may be a moment, and a mapping may have keys of any scalar kind.
-/
namespace Issuer

inductive Yaml where
  | null
  | bool (b : Bool)
  | int (n : Int)
  | float (x : Binary64)
  | str (t : Text)
  | moment (m : Yaml.Moment)
  | list (items : List Yaml)
  | map (pairs : List (Yaml × Yaml))

namespace Yaml

def scalar? : Yaml → Option Json
  | null => some .null
  | bool b => some (.bool b)
  | int n => some (.int n)
  | float x => some (.float x)
  | str t => some (.str t)
  | moment _ | list _ | map _ => none

mutual

def ofJson : Json → Yaml
  | .null => null
  | .bool b => bool b
  | .int n => int n
  | .float x => float x
  | .str t => str t
  | .arr items => list (ofJsonItems items)
  | .obj members => map (ofJsonMembers members)

def ofJsonItems : List Json → List Yaml
  | [] => []
  | v :: vs => ofJson v :: ofJsonItems vs

def ofJsonMembers : List (Text × Json) → List (Yaml × Yaml)
  | [] => []
  | (k, v) :: ms => (str k, ofJson v) :: ofJsonMembers ms

end

/-- Whether two values are the same key.  Numbers are by their value, true and false are one and
zero, and what is not a number is no key twice. -/
def isSameKey : Yaml → Yaml → Bool
  | moment a, moment b => a == b
  | float .nan, _ | _, float .nan => false
  | a, b =>
    match a.scalar?, b.scalar? with
    | some a, some b => Json.agreeScalar true a b
    | _, _ => false

def setPair (key value : Yaml) : List (Yaml × Yaml) → List (Yaml × Yaml)
  | [] => [(key, value)]
  | (k, v) :: rest =>
    if isSameKey k key then (k, value) :: rest else (k, v) :: setPair key value rest

def member? (key : Text) : Yaml → Option Yaml
  | map pairs => (pairs.find? fun (k, _) => k.isSameKey (str key)).map (·.2)
  | _ => none

/-- Whether a value counts as given: null, false, zero and whatever is empty do not. -/
def isTruthy : Yaml → Bool
  | null => false
  | bool b => b
  | int n => n != 0
  | float x => !x.isZero
  | str t => !t.isEmpty
  | moment _ => true
  | list items => !items.isEmpty
  | map pairs => !pairs.isEmpty

/-! ## Values in messages -/

def kindName : Yaml → Text
  | null => "NoneType"
  | bool _ => "bool"
  | int _ => "int"
  | float _ => "float"
  | str _ => "str"
  | moment ⟨_, _, _, none⟩ => "date"
  | moment _ => "datetime"
  | list _ => "list"
  | map _ => "dict"

def fullKindName (v : Yaml) : Text :=
  match v with
  | moment _ => "datetime." ++ v.kindName
  | _ => v.kindName

mutual

def inspect : Yaml → Text
  | null => "None"
  | bool true => "True"
  | bool false => "False"
  | int n => Text.ofInt n
  | float x => x.toText
  | str t => t.quoted
  | moment m => m.inspect
  | list items => '[' :: (inspectItems items ++ "]")
  | map pairs => '\x7b' :: (inspectPairs pairs ++ "\x7d")

def inspectItems : List Yaml → Text
  | [] => ""
  | [v] => inspect v
  | v :: w :: vs => inspect v ++ ", " ++ inspectItems (w :: vs)

def inspectPairs : List (Yaml × Yaml) → Text
  | [] => ""
  | [(k, v)] => inspect k ++ ": " ++ inspect v
  | (k, v) :: p :: ps => inspect k ++ ": " ++ inspect v ++ ", " ++ inspectPairs (p :: ps)

end

/-- A value on its own: texts and moments are not quoted. -/
def display : Yaml → Text
  | str t => t
  | moment m => m.display
  | v => inspect v

end Yaml

end Issuer
