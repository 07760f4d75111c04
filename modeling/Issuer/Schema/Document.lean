import Issuer.Conversion
import Issuer.SchemaHash
/-!
# Schema documents

Where a credential schema keeps what the issuer needs: the attributes of the credential's subject
stand under `properties`, `credentialSubject`, `properties`, each under its id; the URL of the
JSON-LD context stands under `$metadata`, `uris`, `jsonLdContext`.  Together with a type the
context gives the hash of the schema.  Whatever else a document holds does not matter.
-/
namespace Issuer.Schema

/-! ## Walking into a document -/

/-- Follows a path of keys through nested objects and reads what it leads to.  Of a path that
cannot be followed the part up to the first key that is missing or holds the wrong kind of value
is given; `walked` is the part followed so far. -/
def lookupFrom {α : Type} (leaf : Json → Option α) (walked : List Text) :
    Json → Text → List Text → Except (List Text) α
  | node, key, [] =>
    match (node.member? key).bind leaf with
    | some v => .ok v
    | none => .error (walked ++ [key])
  | node, key, next :: rest =>
    match node.member? key with
    | some (.obj ms) => lookupFrom leaf (walked ++ [key]) (.obj ms) next rest
    | _ => .error (walked ++ [key])

/-- Follows a path, a first key and further ones, from the top of a document. -/
def lookup {α : Type} (leaf : Json → Option α) (document : Json) (key : Text) (rest : List Text) :
    Except (List Text) α :=
  lookupFrom leaf [] document key rest

/-! ## Attributes -/

inductive Problem where
  | level (path : List Text)
  /-- An attribute is not an object, or its fields are refused. -/
  | entry (key : Text) (cause : Option Record.Problem)
  deriving DecidableEq, Repr

def levelFailure (path : List Text) : Failure :=
  let path : Text := Text.join "." path
  .of (.ofMessage .schemaStructure ("missing " ++ path ++ " field") { path := .str path })

def Problem.failure : Problem → Failure
  | level path => levelFailure path
  | entry key cause =>
    ⟨.ofMessage .attributeDecoding ("parsing attribute <" ++ key ++ ">") { key := .str key },
      (cause.map fun p => Fault.outside .invalidRecord p.message).toList⟩

/-- The attribute under a key: its id is the key, whatever the value says. -/
def readAttribute (key : Text) (v : Json) : Except Problem Attribute :=
  match v with
  | .obj ms =>
    match Attribute.ofJson (.obj (Members.set "id" (.str key) ms)) with
    | .ok a => .ok a
    | .error p => .error (.entry key (some p))
  | _ => .error (.entry key none)

def attributes (document : Json) : Except Problem (List Attribute) :=
  match lookup Json.members? document "properties" ["credentialSubject", "properties"] with
  | .error path => .error (.level path)
  | .ok ms => ms.mapM fun (key, v) => readAttribute key v

/-! ## Context and hash -/

def jsonLdContext (document : Json) : Except (List Text) Text :=
  lookup Json.text? document "$metadata" ["uris", "jsonLdContext"]

inductive HashProblem where
  | level (path : List Text)
  | surrogate
  deriving DecidableEq, Repr

def HashProblem.failure : HashProblem → Failure
  | level path => levelFailure path
  | surrogate => .of (.outside .textEncoding "")

/-- What identifies a type: the context and the type, joined by a number sign. -/
def typeIdentifier (context type : Text) : Text := context ++ "#" ++ type

def hash (document : Json) (type : Text) : Except HashProblem SchemaHash :=
  match jsonLdContext document with
  | .error path => .error (.level path)
  | .ok context =>
    match Utf8.encode? (typeIdentifier context type) with
    | some bytes => .ok (SchemaHash.ofIdentifier bytes)
    | none => .error .surrogate

/-! ## Conversion -/

inductive ConvertProblem where
  | document (problem : Problem)
  | conversion (problem : Conversion.Problem)
  deriving DecidableEq, Repr

def ConvertProblem.failure : ConvertProblem → Failure
  | document p => p.failure.under (.ofMessage .schemaProcessing "cannot process schema")
  | conversion p => p.failure

/-- The credential attributes, converted as far as the conversion came, and what stopped it. -/
structure Converted where
  attributes : List CredentialAttribute
  problem : Option ConvertProblem
  deriving DecidableEq, Repr

def validateAndConvert (document : Json) (supplied : List CredentialAttribute) : Converted :=
  match attributes document with
  | .error p => ⟨supplied, some (.document p)⟩
  | .ok declared =>
    let outcome := Conversion.validateAndConvert declared supplied
    ⟨outcome.attributes, outcome.problem.map .conversion⟩

end Issuer.Schema
