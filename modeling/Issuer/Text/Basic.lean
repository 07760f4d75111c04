/-!
# Text

A text is a list of code points.  Unlike `String` it may hold lone surrogates: a JSON document
can spell one as an escape, and everything read from a document is kept as it was read until
something has to be written as bytes.

Texts are compared and sorted by code point, as `Text.le` does.
-/
namespace Issuer

abbrev CodePoint := Fin 0x110000

namespace CodePoint

def ofChar (c : Char) : CodePoint :=
  ⟨c.toNat, by
    rcases c.valid with h | ⟨_, h⟩
    · exact Nat.lt_of_lt_of_le h (by decide)
    · exact h⟩

instance : Coe Char CodePoint := ⟨ofChar⟩

/-- The code point of a number; the replacement character stands for a number past the end. -/
def ofNat (n : Nat) : CodePoint := if h : n < 0x110000 then ⟨n, h⟩ else ⟨0xFFFD, by decide⟩

/-- Surrogates are the code points that UTF-16 uses in pairs; no encoding writes one alone. -/
def isSurrogate (c : CodePoint) : Bool := 0xD800 ≤ c.val && c.val ≤ 0xDFFF

def isAscii (c : CodePoint) : Bool := c.val < 0x80

def isDigit (c : CodePoint) : Bool := '0' ≤ c && c ≤ '9'

def isAsciiUpper (c : CodePoint) : Bool := 'A' ≤ c && c ≤ 'Z'

def isAsciiLower (c : CodePoint) : Bool := 'a' ≤ c && c ≤ 'z'

def isAsciiLetter (c : CodePoint) : Bool := isAsciiUpper c || isAsciiLower c

/-- The value of a digit; only for `isDigit`. -/
def digitValue (c : CodePoint) : Nat := c.val - 48

def hexValue? (c : CodePoint) : Option Nat :=
  if isDigit c then some (c.val - 48)
  else if 'a' ≤ c && c ≤ 'f' then some (c.val - 87)
  else if 'A' ≤ c && c ≤ 'F' then some (c.val - 55)
  else none

def asciiLower (c : CodePoint) : CodePoint := if isAsciiUpper c then ofNat (c.val + 32) else c

/-! The tables of Unicode are ascending arrays of ranges, both ends included; they are searched by
halving. -/

/-- Looks for the range of an ascending table that holds `n`, between the positions `lo` and
`hi`, halving them `fuel` times at most. -/
def inRanges (table : Array (Nat × Nat)) (n : Nat) : Nat → Nat → Nat → Bool
  | 0, _, _ => false
  | fuel + 1, lo, hi =>
    if lo < hi then
      let mid := (lo + hi) / 2
      match table[mid]? with
      | none => false
      | some (first, last) =>
        if n < first then inRanges table n fuel lo mid
        else if last < n then inRanges table n fuel (mid + 1) hi
        else true
    else false

def isIn (table : Array (Nat × Nat)) (c : CodePoint) : Bool :=
  inRanges table c.val table.size 0 table.size

end CodePoint

abbrev Text := List CodePoint

namespace Text

def ofString (s : String) : Text := s.toList.map CodePoint.ofChar

instance : Coe String Text := ⟨ofString⟩

/-- The text as a `String`; the replacement character stands for a surrogate. -/
def toString (t : Text) : String :=
  String.ofList (t.map fun c => Char.ofNat (if c.isSurrogate then 0xFFFD else c.val))

/-! ## Numbers as text -/

def digit (n : Nat) : CodePoint := CodePoint.ofNat (if n < 10 then 48 + n else 87 + n)

/-- Decimal digits of a number, at most `fuel` of them, before the text `tail`. -/
def decimalDigits : Nat → Nat → Text → Text
  | 0, _, tail => tail
  | fuel + 1, n, tail =>
    if n < 10 then digit n :: tail else decimalDigits fuel (n / 10) (digit (n % 10) :: tail)

def ofNat (n : Nat) : Text := decimalDigits (n.log2 + 1) n []

/-- An integer in base ten, with a sign only if it is negative. -/
def ofInt : Int → Text
  | .ofNat n => ofNat n
  | .negSucc n => '-' :: ofNat (n + 1)

def digitsValue (t : Text) : Nat := t.foldl (fun n c => 10 * n + c.digitValue) 0

/-- A number in base sixteen, lower case, with at least `width` digits. -/
def hexDigits : Nat → Nat → Text
  | 0, _ => []
  | width + 1, n => hexDigits width (n / 16) ++ [digit (n % 16)]

/-! A text of decimal digits is read as a number only up to a limit on its length, whatever its
value: leading zeros count, a sign does not.  A number of more digits is not written either. -/

def maxDigits : Nat := 4300

def tooManyDigits (digits : Nat) : Text :=
  "Exceeds the limit (4300 digits) for integer string conversion: value has " ++ ofNat digits ++
    " digits; use sys.set_int_max_str_digits() to increase the limit"

def numberTooLong : Text :=
  "Exceeds the limit (4300 digits) for integer string conversion; " ++
    "use sys.set_int_max_str_digits() to increase the limit"

/-! ## Order -/

/-- Whether a text comes before another in the order of code points, or is equal to it. -/
def le : Text → Text → Bool
  | [], _ => true
  | _ :: _, [] => false
  | a :: s, b :: t => if a = b then le s t else a.val < b.val

/-! ## Cutting and joining -/

/-- What follows `head`, if the text starts with it. -/
def afterPrefix? : Text → Text → Option Text
  | [], t => some t
  | _ :: _, [] => none
  | h :: hs, c :: cs => if h = c then afterPrefix? hs cs else none

def startsWith (t head : Text) : Bool := (afterPrefix? head t).isSome

def endsWith (t tail : Text) : Bool := startsWith t.reverse tail.reverse

def hasPart (t part : Text) : Bool :=
  startsWith t part || match t with
    | [] => false
    | _ :: rest => hasPart rest part

/-- The parts before and after the first `sep`; `none` where it does not occur. -/
def partition? (sep : CodePoint) : Text → Option (Text × Text)
  | [] => none
  | c :: cs => if c = sep then some ([], cs) else (partition? sep cs).map fun (a, b) => (c :: a, b)

/-- The parts before and after the last `sep`; `none` where it does not occur. -/
def rpartition? (sep : CodePoint) : Text → Option (Text × Text)
  | [] => none
  | c :: cs =>
    match rpartition? sep cs with
    | some (a, b) => some (c :: a, b)
    | none => if c = sep then some ([], cs) else none

/-- The parts between the separators, in order; a text without one is its only part. -/
def split (sep : CodePoint) : Text → List Text
  | [] => [[]]
  | c :: cs =>
    if c = sep then [] :: split sep cs
    else match split sep cs with
      | [] => [[c]]
      | part :: parts => (c :: part) :: parts

def join (sep : Text) : List Text → Text
  | [] => []
  | [t] => t
  | t :: ts => t ++ sep ++ join sep ts

def dropWhileEnd (p : CodePoint → Bool) (t : Text) : Text := (t.reverse.dropWhile p).reverse

end Text

end Issuer
