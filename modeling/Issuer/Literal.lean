import Issuer.Text.Quoted
/-!
# Literals

The spellings of integers and booleans that a credential attribute may have.  Both are ASCII: no
blank, no separator, no digit of another script.
-/
namespace Issuer

namespace Literal

inductive Problem where
  | notInteger (text : Text)
  | tooLong (digits : Nat)
  /-- The integer does not fit into 64 bits. -/
  | outOfRange (text : Text)
  | notBoolean (text : Text)
  deriving DecidableEq, Repr

def Problem.message : Problem → Text
  | notInteger text => "invalid integer literal: " ++ text.quoted
  | tooLong digits => Text.tooManyDigits digits
  | outOfRange text => "integer out of range: " ++ text.quoted
  | notBoolean text => "invalid boolean literal: " ++ text.quoted

def minInteger : Int := -0x8000000000000000

def maxInteger : Int := 0x7FFFFFFFFFFFFFFF

/-- A sign and what follows it; without a sign the text is positive. -/
def splitSign : Text → Bool × Text
  | '-' :: rest => (true, rest)
  | '+' :: rest => (false, rest)
  | t => (false, t)

/-- Reads an integer: an optional sign and one or more digits. -/
def readInteger (t : Text) : Except Problem Int :=
  let (negative, digits) := splitSign t
  if digits.isEmpty || !digits.all CodePoint.isDigit then .error (.notInteger t)
  else if Text.maxDigits < digits.length then .error (.tooLong digits.length)
  else
    let size : Int := Text.digitsValue digits
    let n := if negative then -size else size
    if minInteger ≤ n ∧ n ≤ maxInteger then .ok n else .error (.outOfRange t)

def trueSpellings : List Text := ["1", "t", "T", "TRUE", "true", "True"]

def falseSpellings : List Text := ["0", "f", "F", "FALSE", "false", "False"]

def readBoolean (t : Text) : Except Problem Bool :=
  if trueSpellings.contains t then .ok true
  else if falseSpellings.contains t then .ok false
  else .error (.notBoolean t)

end Literal

end Issuer
