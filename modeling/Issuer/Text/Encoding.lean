import Issuer.Text.Basic
/-!
# Encodings

Bytes as text and text as bytes.  The decoder of UTF-8 reads one byte at a time and keeps the
sequence it is in; it either refuses a broken sequence or replaces it.  The encodings of UTF-16
and UTF-32 are read unit by unit.
-/
namespace Issuer

abbrev Bytes := List UInt8

namespace Bytes

def toHex (bytes : Bytes) : Text := bytes.flatMap fun b => Text.hexDigits 2 b.toNat

end Bytes

namespace Utf8

/-- A sequence of several bytes that has begun: the bits read so far, the bytes still missing, and
the least and the greatest value that the next byte may have. -/
structure Pending where
  bits : Nat
  missing : Nat
  low : Nat
  high : Nat

/-- What a first byte starts: a code point of its own, or a sequence.  The bounds of the second
byte rule out long forms, numbers past the end of Unicode and, unless they are admitted,
surrogates. -/
def start (surrogates : Bool) (b : Nat) : Option (CodePoint ⊕ Pending) :=
  if b < 0x80 then some (.inl (.ofNat b))
  else if b < 0xC2 then none
  else if b < 0xE0 then some (.inr ⟨b - 0xC0, 1, 0x80, 0xBF⟩)
  else if b = 0xE0 then some (.inr ⟨0, 2, 0xA0, 0xBF⟩)
  else if b = 0xED && !surrogates then some (.inr ⟨0xD, 2, 0x80, 0x9F⟩)
  else if b < 0xF0 then some (.inr ⟨b - 0xE0, 2, 0x80, 0xBF⟩)
  else if b = 0xF0 then some (.inr ⟨0, 3, 0x90, 0xBF⟩)
  else if b < 0xF4 then some (.inr ⟨b - 0xF0, 3, 0x80, 0xBF⟩)
  else if b = 0xF4 then some (.inr ⟨4, 3, 0x80, 0x8F⟩)
  else none

/-- What a further byte makes of a sequence; `none` if it cannot belong to it. -/
def Pending.next (p : Pending) (b : Nat) : Option (CodePoint ⊕ Pending) :=
  if p.low ≤ b && b ≤ p.high then
    let bits := p.bits * 64 + (b - 0x80)
    if p.missing ≤ 1 then some (.inl (.ofNat bits))
    else some (.inr ⟨bits, p.missing - 1, 0x80, 0xBF⟩)
  else none

/-- Decodes bytes that follow a sequence begun, if there is one; `none` if any is out of place. -/
def decodeFrom (surrogates : Bool) : Option Pending → Bytes → Option Text
  | none, [] => some []
  | some _, [] => none
  | state, b :: rest =>
    let step := match state with
      | none => start surrogates b.toNat
      | some p => p.next b.toNat
    match step with
    | none => none
    | some (.inl c) => (decodeFrom surrogates none rest).map (c :: ·)
    | some (.inr p) => decodeFrom surrogates (some p) rest

/-- Decodes UTF-8; lone surrogates only if they are admitted. -/
def decode? (surrogates : Bool) (bytes : Bytes) : Option Text := decodeFrom surrogates none bytes

def replacement : CodePoint := '\uFFFD'

/-- Decodes UTF-8 with a replacement character for the longest start of a sequence wherever one
breaks off, and for each byte that starts none. -/
def decodeReplacingFrom : Option Pending → Bytes → Text
  | none, [] => []
  | some _, [] => [replacement]
  | state, b :: rest =>
    let fresh := start false b.toNat
    let (broken, step) : Text × Option (CodePoint ⊕ Pending) := match state with
      | none => ([], fresh)
      | some p => match p.next b.toNat with
        | some next => ([], some next)
        | none => ([replacement], fresh)
    broken ++ match step with
      | none => replacement :: decodeReplacingFrom none rest
      | some (.inl c) => c :: decodeReplacingFrom none rest
      | some (.inr p) => decodeReplacingFrom (some p) rest

/-- Decodes UTF-8 and replaces what is not well formed. -/
def decodeReplacing (bytes : Bytes) : Text := decodeReplacingFrom none bytes

def encodeOne (c : CodePoint) : Bytes :=
  let n := c.val
  if n < 0x80 then [.ofNat n]
  else if n < 0x800 then [.ofNat (0xC0 + n / 64), .ofNat (0x80 + n % 64)]
  else if n < 0x10000 then
    [.ofNat (0xE0 + n / 4096), .ofNat (0x80 + n / 64 % 64), .ofNat (0x80 + n % 64)]
  else
    [.ofNat (0xF0 + n / 262144), .ofNat (0x80 + n / 4096 % 64), .ofNat (0x80 + n / 64 % 64),
      .ofNat (0x80 + n % 64)]

/-- Encodes a text in UTF-8; `none` if it holds a surrogate. -/
def encode? (t : Text) : Option Bytes :=
  if t.any CodePoint.isSurrogate then none else some (t.flatMap encodeOne)

/-- Encodes a text in UTF-8, surrogates as if they were characters. -/
def encodeAll (t : Text) : Bytes := t.flatMap encodeOne

end Utf8

inductive ByteOrder where
  | big
  | little
  deriving DecidableEq

def ByteOrder.value (order : ByteOrder) (bytes : Bytes) : Nat :=
  let inOrder := match order with
    | .big => bytes
    | .little => bytes.reverse
  inOrder.foldl (fun n b => n * 256 + b.toNat) 0

namespace Utf16

/-- The units of two bytes each; `none` for an odd number of bytes. -/
def units? (order : ByteOrder) : Bytes → Option (List Nat)
  | [] => some []
  | [_] => none
  | a :: b :: rest => (units? order rest).map (order.value [a, b] :: ·)

def isHigh (n : Nat) : Bool := 0xD800 ≤ n && n ≤ 0xDBFF

def isLow (n : Nat) : Bool := 0xDC00 ≤ n && n ≤ 0xDFFF

def pair (high low : Nat) : CodePoint := .ofNat (0x10000 + (high - 0xD800) * 0x400 + (low - 0xDC00))

/-- Joins the pairs of surrogates among UTF-16 units; a lone one stays. -/
def join : List Nat → Text
  | [] => []
  | [u] => [.ofNat u]
  | u :: v :: rest =>
    if isHigh u && isLow v then pair u v :: join rest else .ofNat u :: join (v :: rest)

def decode? (order : ByteOrder) (bytes : Bytes) : Option Text := (units? order bytes).map join

end Utf16

namespace Utf32

/-- Decodes units of four bytes; `none` if bytes are missing or a number is past the end. -/
def decode? (order : ByteOrder) : Bytes → Option Text
  | [] => some []
  | a :: b :: c :: d :: rest =>
    let n := order.value [a, b, c, d]
    if n < 0x110000 then (decode? order rest).map (.ofNat n :: ·) else none
  | _ => none

end Utf32

end Issuer
