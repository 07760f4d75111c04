import Issuer.Json.Basic
import Issuer.Text.Quoted
/-!
# Values in messages

How a value is shown inside a message: a text on its own as it is, everything inside a list or an
object quoted.  Null, true and false are spelt `None`, `True` and `False`.  An integer of too many
digits has no text of its own; it is for those who show a value to ask whether it holds one.
-/
namespace Issuer.Json

mutual

def inspect : Json → Text
  | null => "None"
  | bool true => "True"
  | bool false => "False"
  | int n => Text.ofInt n
  | float x => x.toText
  | str t => t.quoted
  | arr items => '[' :: (inspectItems items ++ "]")
  | obj ms => '\x7b' :: (inspectMembers ms ++ "\x7d")

def inspectItems : List Json → Text
  | [] => ""
  | [v] => inspect v
  | v :: w :: vs => inspect v ++ ", " ++ inspectItems (w :: vs)

def inspectMembers : List (Text × Json) → Text
  | [] => ""
  | [(k, v)] => k.quoted ++ ": " ++ inspect v
  | (k, v) :: m :: ms => k.quoted ++ ": " ++ inspect v ++ ", " ++ inspectMembers (m :: ms)

end

/-- A value on its own: a text is not quoted. -/
def display : Json → Text
  | str t => t
  | v => inspect v

mutual

def hasLongNumber : Json → Bool
  | int n => 10 ^ Text.maxDigits ≤ n.natAbs
  | arr items => haveLongNumber items
  | obj ms => membersHaveLongNumber ms
  | null | bool _ | float _ | str _ => false

def haveLongNumber : List Json → Bool
  | [] => false
  | v :: vs => hasLongNumber v || haveLongNumber vs

def membersHaveLongNumber : List (Text × Json) → Bool
  | [] => false
  | (_, v) :: ms => hasLongNumber v || membersHaveLongNumber ms

end

end Issuer.Json
