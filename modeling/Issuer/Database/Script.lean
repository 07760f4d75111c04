import Issuer.Disk
/-!
# Migration scripts

A migration is a script whose file name, less the suffix, is its id.  Scripts are taken in the
order of their names; scripts that undo others do not count.  The program brings scripts of its
own.
-/
namespace Issuer.Database

def packagedIds : List Text := ["0001.identities", "0002.schemas", "0003.claims", "0004.links"]

def scriptSuffixes : List Text := [".sql", ".py"]

/-- A file name cut before the last dot; a name that starts with its only dot has no suffix. -/
def splitSuffix (name : Text) : Text × Text :=
  match name.rpartition? '.' with
  | some (stem, suffix) => if stem.all (· == '.') then (name, []) else (stem, '.' :: suffix)
  | none => (name, [])

def scriptId? (name : Text) : Option Text :=
  let (stem, suffix) := splitSuffix name
  if scriptSuffixes.contains suffix && !name.endsWith ".rollback.sql" then some stem else none

def scriptIds (names : List Text) : List Text :=
  (names.mergeSort Text.le).filterMap scriptId?

inductive Scripts where
  | packaged
  | directory (path : Text)
  deriving DecidableEq

/-- The ids of the scripts, in order; a directory that is not there has none. -/
def Scripts.read (disk : Disk) : Scripts → Except Disk.Problem (List Text)
  | packaged => .ok packagedIds
  | directory path => (disk.list path).map scriptIds

end Issuer.Database
