import Issuer.Schema.Rule
import Issuer.Settings
import Issuer.Text.Encoding
/-!
# The machine

What an inspection takes from the machine it runs on, besides the network and the files: what the
names of characters stand for, how a check words what it finds, and the limits of what can be done.
Work on data that nests goes as deep as the data does; how deep that can be depends on the machine
and on how deep it is already.  A number is only written if it does not have too many digits.
-/
namespace Issuer

inductive Work where
  /-- Writing a setting as text. -/
  | write (v : Setting)
  /-- Reading a document, checking it with the patterns in it, and telling of it. -/
  | load (document : Bytes)

inductive Limit where
  /-- The stack of calls is full. -/
  | stack (wording : Text)
  | digits

namespace Limit

def fault : Limit → Fault
  | stack wording => .reported "RecursionError" [.str wording]
  | digits => .outside .invalidValue Text.numberTooLong

theorem isOwn_fault (l : Limit) : l.fault.isOwn = false := by
  cases l <;> rfl

end Limit

structure Machine where
  names : CharacterNames := Text.asciiNames
  /-- What a check says of a violation in a document, if that is told. -/
  wording? : Json → Schema.Violation → Option Text := fun _ _ => none
  /-- The wording of the fault where work goes too deep. -/
  exhausted? : Work → Option Text := fun _ => none

def Machine.limit? (m : Machine) (work : Work) : Option Limit :=
  ((m.exhausted? work).map .stack).or <|
    match work with
    | .write v => if v.hasLongNumber then some .digits else none
    | .load _ => none

end Issuer
