import Issuer.Text.Encoding
/-!
# Keccak-256

The sponge of Keccak with a rate of 136 bytes and a digest of 32, in its first form: the padding
starts with the byte `01`.  The state is 25 lanes of 64 bits; lane `x + 5 * y` is in column `x`
and row `y`.
-/
namespace Issuer.Keccak

abbrev State := Array UInt64

/-- A lane; the state has one for each index below 25. -/
def lane (s : State) (i : Nat) : UInt64 := s.getD i 0

def at_ (s : State) (x y : Nat) : UInt64 := lane s (x % 5 + 5 * (y % 5))

def build (f : Nat → Nat → UInt64) : State := Array.ofFn fun i : Fin 25 => f (i.val % 5) (i.val / 5)

def rotate (w : UInt64) (n : Nat) : UInt64 :=
  if n % 64 = 0 then w else (w <<< UInt64.ofNat (n % 64)) ||| (w >>> UInt64.ofNat (64 - n % 64))

def column (s : State) (x : Nat) : UInt64 :=
  at_ s x 0 ^^^ at_ s x 1 ^^^ at_ s x 2 ^^^ at_ s x 3 ^^^ at_ s x 4

def theta (s : State) : State :=
  let parity : Array UInt64 := Array.ofFn fun x : Fin 5 => column s x
  build fun x y =>
    at_ s x y ^^^ parity.getD ((x + 4) % 5) 0 ^^^ rotate (parity.getD ((x + 1) % 5) 0) 1

def offsets : Array Nat :=
  #[0, 1, 62, 28, 27, 36, 44, 6, 55, 20, 3, 10, 43, 25, 39, 41, 45, 15, 21, 8, 18, 2, 61, 56, 14]

/-- Rotates each lane and moves the lane at `(x, y)` to `(y, 2x + 3y)`. -/
def rhoPi (s : State) : State :=
  build fun x y =>
    let column := (x + 3 * y) % 5
    rotate (at_ s column x) (offsets.getD (column + 5 * x) 0)

def chi (s : State) : State :=
  build fun x y => at_ s x y ^^^ (~~~ at_ s (x + 1) y &&& at_ s (x + 2) y)

def roundConstants : List UInt64 := [
  0x0000000000000001, 0x0000000000008082, 0x800000000000808A, 0x8000000080008000,
  0x000000000000808B, 0x0000000080000001, 0x8000000080008081, 0x8000000000008009,
  0x000000000000008A, 0x0000000000000088, 0x0000000080008009, 0x000000008000000A,
  0x000000008000808B, 0x800000000000008B, 0x8000000000008089, 0x8000000000008003,
  0x8000000000008002, 0x8000000000000080, 0x000000000000800A, 0x800000008000000A,
  0x8000000080008081, 0x8000000000008080, 0x0000000080000001, 0x8000000080008008]

def round (s : State) (constant : UInt64) : State :=
  let t := chi (rhoPi (theta s))
  t.set! 0 (lane t 0 ^^^ constant)

def permute (s : State) : State := roundConstants.foldl round s

def rate : Nat := 136

/-- The message with its padding: a multiple of the rate. -/
def pad (message : Bytes) : Bytes :=
  let missing := rate - message.length % rate
  if missing = 1 then message ++ [0x81]
  else message ++ [0x01] ++ List.replicate (missing - 2) 0 ++ [0x80]

def laneOfBytes (bytes : Bytes) : UInt64 :=
  .ofNat (ByteOrder.little.value bytes)

def blockLanes (block : Bytes) : Array UInt64 :=
  Array.ofFn fun i : Fin 17 => laneOfBytes ((block.drop (8 * i)).take 8)

def absorb (s : State) (block : Bytes) : State :=
  let lanes := blockLanes block
  permute (Array.ofFn fun i : Fin 25 => lane s i ^^^ lanes.getD i 0)

/-- The first `count` blocks of a padded message. -/
def blocks : Nat → Bytes → List Bytes
  | 0, _ => []
  | count + 1, bytes => bytes.take rate :: blocks count (bytes.drop rate)

def laneBytes (w : UInt64) : Bytes :=
  (List.range 8).map fun i => (w >>> UInt64.ofNat (8 * i)).toUInt8

def digest256 (message : Bytes) : Bytes :=
  let padded := pad message
  let s := (blocks (padded.length / rate) padded).foldl absorb (Array.replicate 25 0)
  (List.range 4).flatMap fun i => laneBytes (lane s i)

end Issuer.Keccak
