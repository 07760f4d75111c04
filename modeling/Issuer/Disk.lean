import Issuer.Fault
import Issuer.Text.Encoding
/-!
# Files

Files stand under the components of their paths from the root on.  A path is followed component by
component, from the root or from the working directory; the way to a file, and to the working
directory, leads through directories.
-/
namespace Issuer

/-- Files by the components of their paths, and the components of the working directory. -/
structure Disk where
  files : List (List Text × Bytes)
  workingDirectory : List Text
  deriving DecidableEq

namespace Disk

/-- Why a path leads to no file. -/
inductive Problem where
  | missing
  | isDirectory
  | notDirectory
  | zero
  | surrogate
  deriving DecidableEq, Repr

def Problem.fault : Problem → Fault
  | missing => .outside .fileMissing ""
  | isDirectory => .outside .isDirectory ""
  | notDirectory => .outside .notDirectory ""
  | zero => .outside .invalidValue "embedded null byte"
  | surrogate => .outside .textEncoding ""

def Problem.isOfFiles : Problem → Bool
  | missing | isDirectory | notDirectory => true
  | zero | surrogate => false

/-! ## Paths -/

/-- The components of a path; empty ones and single dots lead nowhere. -/
def components (path : Text) : List Text :=
  (path.split '/').filter fun c => !(c.isEmpty || c == ".")

/-- The root of a path: one slash or exactly two, or nothing for a relative path. -/
def root : Text → Text
  | '/' :: '/' :: '/' :: _ => "/"
  | '/' :: '/' :: _ => "//"
  | '/' :: _ => "/"
  | _ => ""

def tidy (path : Text) : Text :=
  let parts := root path ++ Text.join "/" (components path)
  if parts.isEmpty then "." else parts

/-- Components with one more; two dots take the component before them back. -/
def stepOver (done : List Text) (component : Text) : List Text :=
  if component = ".." && (done.getLast?.any fun c : Text => c != "..") then done.dropLast
  else done ++ [component]

/-- A path whose double dots are taken back together with the components before them, whatever
these are. -/
def straighten (path : Text) : Text :=
  let parts := (components path).foldl stepOver []
  if (root path).isEmpty then (if parts.isEmpty then "." else Text.join "/" parts)
  else root path ++ Text.join "/" (parts.dropWhile (· == ".."))

def baseName (path : Text) : Text := ((path.rpartition? '/').map (·.2)).getD path

def asksDirectory (path : Text) : Bool := baseName path == "" || baseName path == "."

/-! ## Following paths -/

def start (workingDirectory : List Text) (path : Text) : List Text :=
  if (root path).isEmpty then workingDirectory else []

def ofFiles (files : List (Text × Bytes)) (workingDirectory : Text := "/srv/issuer") : Disk :=
  let current := components workingDirectory
  ⟨files.map fun (p, b) => (start current p ++ components p, b), current⟩

def empty : Disk := ⟨[], []⟩

def file? (d : Disk) (place : List Text) : Option Bytes := d.files.lookup place

def isDirectory (d : Disk) (place : List Text) : Bool :=
  place.isPrefixOf d.workingDirectory ||
    d.files.any fun (p, _) => place.isPrefixOf p && p != place

/-- Follows components from a place on.  From the root double dots lead to the root. -/
def follow (d : Disk) (current : List Text) : List Text → Except Problem (List Text)
  | [] => .ok current
  | c :: rest =>
    if c = ".." then follow d current.dropLast rest
    else
      let next := current ++ [c]
      if rest.isEmpty || d.isDirectory next then follow d next rest
      else if (d.file? next).isSome then .error .notDirectory
      else .error .missing

def place (d : Disk) (path : Text) : Except Problem (List Text) :=
  if path.any fun c => c.isSurrogate && !(0xDC80 ≤ c.val && c.val ≤ 0xDCFF) then .error .surrogate
  else if path.any fun c => c.val = 0 then .error .zero
  else if path.isEmpty then .error .missing
  else follow d (start d.workingDirectory path) (components path)

def read (d : Disk) (path : Text) : Except Problem Bytes := do
  let place ← d.place path
  match d.file? place with
  | some content => if asksDirectory path then throw .notDirectory else return content
  | none => throw (if d.isDirectory place then .isDirectory else .missing)

/-- Opens a file for writing at its end: the file, which is new if there was none. -/
def create (d : Disk) (path : Text) : Except Problem (Disk × List Text) := do
  let place ← d.place path
  if (d.file? place).isSome then
    if asksDirectory path then throw .notDirectory else return (d, place)
  else if d.isDirectory place || asksDirectory path then throw .isDirectory
  else if d.isDirectory place.dropLast then
    return ({ d with files := d.files ++ [(place, [])] }, place)
  else throw .missing

def append (d : Disk) (place : List Text) (content : Bytes) : Disk :=
  { d with files := d.files.map fun (p, b) => if p = place then (p, b ++ content) else (p, b) }

def clear (d : Disk) (place : List Text) : Disk :=
  { d with files := d.files.map fun (p, b) => if p = place then (p, []) else (p, b) }

/-- The names of the files directly in a directory; a directory that is not there has none. -/
def list (d : Disk) (path : Text) : Except Problem (List Text) :=
  match d.place path with
  | .ok place =>
    if (d.file? place).isSome then .error .notDirectory
    else .ok (d.files.filterMap fun (p, _) => if p.dropLast = place then p.getLast? else none)
  | .error _ => .ok []

end Disk

end Issuer
