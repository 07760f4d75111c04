import Issuer.Json.Basic
import Issuer.Text.Encoding
/-!
# Reading JSON

A document is a sequence of bytes in UTF-8, UTF-16 or UTF-32; the encoding shows in a byte order
mark or in where the zero bytes of the first characters are.  `NaN`, `Infinity` and `-Infinity`
are numbers too.  Of members with one key the last gives the value and the first the place.
Surrogates may stand alone, as escapes and as bytes.
-/
namespace Issuer.Json

inductive ReadError where
  | encoding
  | malformed
  | integerTooLong (digits : Nat)
  deriving DecidableEq, Repr

/-! ## Encodings -/

/-- The encoding of a document, after a byte order mark of `mark` bytes. -/
inductive Encoding where
  | utf8 (mark : Nat)
  | utf16 (order : ByteOrder) (mark : Nat)
  | utf32 (order : ByteOrder) (mark : Nat)
  deriving DecidableEq

/-- The byte order marks, and the encodings that they show.  Of two marks that start alike the
longer one comes first. -/
def byteOrderMarks : List (Bytes × Encoding) := [
  ([0x00, 0x00, 0xFE, 0xFF], .utf32 .big 4), ([0xFF, 0xFE, 0x00, 0x00], .utf32 .little 4),
  ([0xFE, 0xFF], .utf16 .big 2), ([0xFF, 0xFE], .utf16 .little 2), ([0xEF, 0xBB, 0xBF], .utf8 3)]

/-- The encoding that the zeros among the first bytes show where there is no mark. -/
def Encoding.ofZeros : Bytes → Encoding
  | a :: b :: c :: d :: _ =>
    if a = 0 then (if b = 0 then .utf32 .big 0 else .utf16 .big 0)
    else if b = 0 then (if c = 0 && d = 0 then .utf32 .little 0 else .utf16 .little 0)
    else .utf8 0
  | [a, b] => if a = 0 then .utf16 .big 0 else if b = 0 then .utf16 .little 0 else .utf8 0
  | _ => .utf8 0

def Encoding.detect (bytes : Bytes) : Encoding :=
  match byteOrderMarks.find? fun (mark, _) => mark.isPrefixOf bytes with
  | some (_, encoding) => encoding
  | none => .ofZeros bytes

def decodeText? (bytes : Bytes) : Option Text :=
  match Encoding.detect bytes with
  | .utf8 mark => Utf8.decode? true (bytes.drop mark)
  | .utf16 order mark => Utf16.decode? order (bytes.drop mark)
  | .utf32 order mark => Utf32.decode? order (bytes.drop mark)

/-! ## Tokens -/

def isSpace (c : CodePoint) : Bool := c = ' ' || c = '\t' || c = '\n' || c = '\r'

def skipSpace (t : Text) : Text := t.dropWhile isSpace

/-- A code point of a string as it was read: as itself, or as a `\u` escape. -/
inductive Scanned where
  | plain (c : CodePoint)
  | unit (n : Nat)

def joinEscapes : List Scanned → Text
  | [] => []
  | [.plain c] => [c]
  | [.unit n] => [.ofNat n]
  | .plain c :: rest => c :: joinEscapes rest
  | .unit u :: .unit v :: rest =>
    if Utf16.isHigh u && Utf16.isLow v then Utf16.pair u v :: joinEscapes rest
    else .ofNat u :: joinEscapes (.unit v :: rest)
  | .unit u :: rest => .ofNat u :: joinEscapes rest

def escaped? (c : CodePoint) : Option CodePoint :=
  if c = '"' || c = '\\' || c = '/' then some c
  else if c = 'b' then some '\x08'
  else if c = 'f' then some '\x0c'
  else if c = 'n' then some '\n'
  else if c = 'r' then some '\r'
  else if c = 't' then some '\t'
  else none

def scanString : Text → Option (List Scanned × Text)
  | [] => none
  | c :: rest =>
    if c = '"' then some ([], rest)
    else if c.val < 0x20 then none
    else if c = '\\' then
      match rest with
      | [] => none
      | e :: rest =>
        if e = 'u' then
          match rest with
          | a :: b :: c :: d :: rest =>
            match a.hexValue?, b.hexValue?, c.hexValue?, d.hexValue? with
            | some a, some b, some c, some d =>
              (scanString rest).map fun (s, r) => (.unit (((a * 16 + b) * 16 + c) * 16 + d) :: s, r)
            | _, _, _, _ => none
          | _ => none
        else
          match escaped? e with
          | some c => (scanString rest).map fun (s, r) => (.plain c :: s, r)
          | none => none
    else (scanString rest).map fun (s, r) => (.plain c :: s, r)

def readString (t : Text) : Except ReadError (Text × Text) :=
  match scanString t with
  | some (s, rest) => .ok (joinEscapes s, rest)
  | none => .error .malformed

/-! ## Numbers -/

def spanDigits (t : Text) : Text × Text :=
  (t.takeWhile CodePoint.isDigit, t.dropWhile CodePoint.isDigit)

/-- The digits of the whole part: a zero alone, or digits that start with another one. -/
def spanWhole : Text → Option (Text × Text)
  | '0' :: rest => some ("0", rest)
  | t =>
    match spanDigits t with
    | ([], _) => none
    | found => some found

def spanFraction : Text → Option (Text × Text)
  | '.' :: rest =>
    match spanDigits rest with
    | ([], _) => none
    | found => some found
  | _ => none

def spanExponent (t : Text) : Option (Int × Text) :=
  let unsigned : Option Text := match t with
    | 'e' :: rest => some rest
    | 'E' :: rest => some rest
    | _ => none
  match unsigned with
  | none => none
  | some rest =>
    let (negative, rest) : Bool × Text := match rest with
      | '-' :: rest => (true, rest)
      | '+' :: rest => (false, rest)
      | rest => (false, rest)
    match spanDigits rest with
    | ([], _) => none
    | (digits, rest) =>
      let n : Int := Text.digitsValue digits
      some (if negative then -n else n, rest)

def readNumber (negative : Bool) (t : Text) : Except ReadError (Json × Text) :=
  match spanWhole t with
  | none => .error .malformed
  | some (whole, rest) =>
    let fraction := spanFraction rest
    let afterFraction := (fraction.map (·.2)).getD rest
    let exponent := spanExponent afterFraction
    match fraction, exponent with
    | none, none =>
      if Text.maxDigits < whole.length then .error (.integerTooLong whole.length)
      else
        let n : Int := Text.digitsValue whole
        .ok (.int (if negative then -n else n), rest)
    | _, _ =>
      let places := (fraction.map (·.1)).getD []
      let digits := whole ++ places
      let scale := (exponent.map (·.1)).getD 0 - places.length
      let x := Binary64.ofDecimal negative (Text.digitsValue digits) digits.length scale
      .ok (.float x, (exponent.map (·.2)).getD afterFraction)

/-! ## Values -/

def readScalar (t : Text) : Except ReadError (Json × Text) :=
  let words : List (Text × Json) :=
    [("null", .null), ("true", .bool true), ("false", .bool false), ("NaN", .float .nan),
      ("Infinity", .float (.infinite false)), ("-Infinity", .float (.infinite true))]
  match words.findSome? fun (word, v) => (Text.afterPrefix? word t).map fun rest => (v, rest) with
  | some found => .ok found
  | none =>
    match t with
    | '-' :: rest => readNumber true rest
    | _ => readNumber false t

mutual

def readValue : Nat → Text → Except ReadError (Json × Text)
  | 0, _ => .error .malformed
  | fuel + 1, t =>
    match t with
    | '"' :: rest => do
      let (s, rest) ← readString rest
      return (.str s, rest)
    | '[' :: rest =>
      match skipSpace rest with
      | ']' :: rest => .ok (.arr [], rest)
      | rest => do
        let (items, rest) ← readItems fuel rest
        return (.arr items, rest)
    | '\x7b' :: rest =>
      match skipSpace rest with
      | '\x7d' :: rest => .ok (.obj [], rest)
      | rest => do
        let (members, rest) ← readMembers fuel [] rest
        return (.obj members, rest)
    | _ => readScalar t

def readItems : Nat → Text → Except ReadError (List Json × Text)
  | 0, _ => .error .malformed
  | fuel + 1, t => do
    let (v, rest) ← readValue fuel t
    match skipSpace rest with
    | ']' :: rest => return ([v], rest)
    | ',' :: rest => do
      let (vs, rest) ← readItems fuel (skipSpace rest)
      return (v :: vs, rest)
    | _ => .error .malformed

/-- The members of an object up to its closing brace, added to those before. -/
def readMembers : Nat → Members → Text → Except ReadError (Members × Text)
  | 0, _, _ => .error .malformed
  | fuel + 1, before, t =>
    match t with
    | '"' :: rest => do
      let (key, rest) ← readString rest
      match skipSpace rest with
      | ':' :: rest => do
        let (v, rest) ← readValue fuel (skipSpace rest)
        let members := Members.set key v before
        match skipSpace rest with
        | '\x7d' :: rest => return (members, rest)
        | ',' :: rest => readMembers fuel members (skipSpace rest)
        | _ => .error .malformed
      | _ => .error .malformed
    | _ => .error .malformed

end

/-- Reads a text that is one JSON value.  Each step of the reader takes at least half a code
point, so twice the length bounds the steps. -/
def ofText (t : Text) : Except ReadError Json := do
  let (v, rest) ← readValue (2 * t.length + 2) (skipSpace t)
  match skipSpace rest with
  | [] => return v
  | _ => .error .malformed

def ofBytes (bytes : Bytes) : Except ReadError Json :=
  match decodeText? bytes with
  | none => .error .encoding
  | some t => ofText t

end Issuer.Json
