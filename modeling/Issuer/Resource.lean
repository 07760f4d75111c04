import Issuer.Packaged
import Issuer.Text.Blank
/-!
# Resources

A resource is a file below the working directory or one that comes with the program.  A colon in
its name parts the package from the path in it.
-/
namespace Issuer.Resource

inductive Encoding where
  | utf8
  | ascii
  | latin1
  deriving DecidableEq, Repr

def Encoding.decode? : Encoding → Bytes → Option Text
  | utf8, bytes => Utf8.decode? false bytes
  | ascii, bytes =>
    if bytes.all (· < 0x80) then some (bytes.map fun b => .ofNat b.toNat) else none
  | latin1, bytes => some (bytes.map fun b => .ofNat b.toNat)

inductive Content where
  | text (t : Text)
  | bytes (b : Bytes)

/-- Why a name is refused; a file that cannot be opened is no reason. -/
inductive Problem where
  | emptyPackage
  | relativePackage (name : Text)
  | path (cause : Disk.Problem)
  | undecodable

def Problem.fault : Problem → Fault
  | emptyPackage => .outside .invalidValue "Empty module name"
  | relativePackage name =>
    .outside .wrongType ("the 'package' argument is required to perform a relative import for " ++
      name.quoted)
  | path cause => cause.fault
  | undecodable => .outside .textDecoding ""

def packagedBytes (package path : Text) : Except Problem (Option Bytes) :=
  match package with
  | [] => .error .emptyPackage
  | '.' :: _ => .error (.relativePackage package)
  | _ => .ok ((Packaged.file? package path).map Utf8.encodeAll)

def localBytes (disk : Disk) (path : Text) : Except Problem (Option Bytes) :=
  match disk.read path with
  | .ok bytes => .ok (some bytes)
  | .error p => if p.isOfFiles then .ok none else .error (.path p)

/-- The bytes of a resource, and whether it comes with the program; none if it cannot be opened. -/
def bytes? (disk : Disk) (name : Text) : Except Problem (Option (Bytes × Bool)) :=
  match name.rpartition? ':' with
  | some (package, path) => (packagedBytes package path).map (·.map fun b => (b, true))
  | none => (localBytes disk name).map (·.map fun b => (b, false))

def readText (encoding : Encoding) (bytes : Bytes) : Except Problem Text :=
  match encoding.decode? bytes with
  | some t => .ok t.joinReturns
  | none => .error .undecodable

/-- Loads a resource: as text if an encoding is given or the file is local, else as bytes. -/
def load (disk : Disk) (name : Text) (encoding : Option Encoding) :
    Except Problem (Option Content) := do
  match ← bytes? disk name, encoding with
  | none, _ => return none
  | some (bytes, true), none => return some (.bytes bytes)
  | some (bytes, _), encoding => return some (.text (← readText (encoding.getD .utf8) bytes))

end Issuer.Resource
