import Issuer.Keccak
import Issuer.Text.Blank
/-!
# Schema hashes

Claims name the type of a credential by sixteen bytes: the end of the Keccak-256 digest of the
type's identifier.  They are written in base sixteen, and stored in claims as a number whose first
byte is the least significant.
-/
namespace Issuer

def schemaHashLength : Nat := 16

structure SchemaHash where
  bytes : Bytes
  length_eq : bytes.length = schemaHashLength

namespace SchemaHash

inductive Problem where
  /-- At this place of the text there is no hexadecimal digit where there has to be one. -/
  | notHex (position : Nat)
  | wrongLength (length : Nat)
  deriving DecidableEq, Repr

def Problem.message : Problem → Text
  | notHex position =>
    "non-hexadecimal number found in fromhex() arg at position " ++ Text.ofNat position
  | wrongLength length => "schema hash must be 16 bytes, got " ++ Text.ofNat length

def ofBytes (bytes : Bytes) : Except Problem SchemaHash :=
  if h : bytes.length = schemaHashLength then .ok ⟨bytes, h⟩
  else .error (.wrongLength bytes.length)

/-- Reads pairs of hexadecimal digits, with blanks of ASCII before, between and after the pairs;
`position` counts the code points read before. -/
def readPairs (position : Nat) : Text → Except Problem Bytes
  | [] => .ok []
  | a :: rest =>
    if a.isAsciiBlank then readPairs (position + 1) rest
    else match a.hexValue? with
      | none => .error (.notHex position)
      | some high =>
        match rest with
        | [] => .error (.notHex (position + 1))
        | b :: rest =>
          match b.hexValue? with
          | none => .error (.notHex (position + 1))
          | some low => (readPairs (position + 2) rest).map (UInt8.ofNat (high * 16 + low) :: ·)

/-- Reads a hash in base sixteen.  A code point outside ASCII is refused before all else. -/
def ofHex (t : Text) : Except Problem SchemaHash :=
  match t.findIdx? fun c => !c.isAscii with
  | some position => .error (.notHex position)
  | none => readPairs 0 t >>= ofBytes

def toHex (h : SchemaHash) : Text := h.bytes.toHex

def toNat (h : SchemaHash) : Nat := ByteOrder.little.value h.bytes

instance : BEq SchemaHash := ⟨fun a b => a.bytes == b.bytes⟩

def inspect (h : SchemaHash) : Text := "<SchemaHash(" ++ h.toHex ++ ")>"

def hashesLike (h : SchemaHash) (t : Text) : Bool := t.map (·.val) == h.bytes.map (·.toNat)

theorem length_digest256 (message : Bytes) : (Keccak.digest256 message).length = 32 := by
  simp [Keccak.digest256, Keccak.laneBytes, List.range, List.range.loop]

/-- The hash of an identifier: the last bytes of its digest. -/
def ofIdentifier (identifier : Bytes) : SchemaHash where
  bytes := (Keccak.digest256 identifier).drop 16
  length_eq := by simp [length_digest256, schemaHashLength]

end SchemaHash

end Issuer
