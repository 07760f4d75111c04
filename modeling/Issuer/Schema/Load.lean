import Issuer.Json.Read
import Issuer.Log.Event
import Issuer.Machine
import Issuer.Schema.Dialect
import Issuer.Schema.Document
/-!
# Loading a schema document

The bytes of a document are read as JSON and checked by the rules of the dialect that the document
names.  Only a document that passes is a schema.
-/
namespace Issuer.Schema

structure Loaded where
  content : Json
  dialect : DialectName

inductive LoadProblem where
  | notJson (cause : Json.ReadError)
  | notObject
  | dialectNotText
  | dialectUrl (cause : Url.Problem)
  /-- The document violates the rules of its dialect, which the check may word. -/
  | invalid (violation : Violation) (wording : Option Text)
  deriving Repr

def readFault : Json.ReadError → Fault
  | .encoding => .outside .textDecoding ""
  | .malformed => .outside .jsonSyntax ""
  | .integerTooLong digits => .outside .invalidValue (Text.tooManyDigits digits)

/-- The failure that a violation is reported as, with the wording of the check.  A pattern whose
check cannot end is told as it is. -/
def Violation.failure (v : Violation) (wording : Option Text) : Failure :=
  let told : Text := match wording with
    | some t => ": " ++ t
    | none => []
  let invalid : Fault := .ofMessage .schemaLoad ("Invalid JSON schema" ++ told)
  let schemaFault : Fault := .outside .schemaViolation ""
  match v with
  | value => ⟨invalid, [schemaFault]⟩
  | pattern text problem =>
    match problem with
    | .at .. => ⟨invalid, [schemaFault, .outside .invalidPattern (problem.message text)]⟩
    | .repeatTooLarge => .of (.outside .overflow (problem.message text))
    | .tooManyDigits _ | .conflictingFlags => .of (.outside .invalidValue (problem.message text))

def LoadProblem.failure : LoadProblem → Failure
  | notJson cause =>
    ⟨.ofMessage .schemaLoad "Schema document is not valid JSON", [readFault cause]⟩
  | notObject => .of (.ofMessage .schemaLoad "Schema document must be a JSON object")
  | dialectNotText => .of (.ofMessage .schemaLoad "Schema document $schema must be a string")
  | dialectUrl cause => .of (.outside .invalidValue cause.message)
  | invalid violation wording => violation.failure wording

def dialectOf (ms : Members) : Except LoadProblem DialectName :=
  match ms.get? "$schema" with
  | none => .ok .draft2020
  | some (.str url) => (DialectName.ofUrl url).mapError .dialectUrl
  | some _ => .error .dialectNotText

def ofJson (v : Json) (m : Machine := {}) : Except LoadProblem Loaded :=
  match v with
  | .obj ms => do
    let dialect ← dialectOf ms
    match dialect.dialect.violation? m.names v with
    | some violation => .error (.invalid violation (m.wording? v violation))
    | none => .ok ⟨v, dialect⟩
  | _ => .error .notObject

/-- Reads a schema, as if no document nested too deep. -/
def load (bytes : Bytes) (m : Machine := {}) : Except LoadProblem Loaded := do
  ofJson (← (Json.ofBytes bytes).mapError .notJson) m

def loadWithin (m : Machine) (bytes : Bytes) : Except Failure Loaded :=
  match m.limit? (.load bytes) with
  | some limit => .error (.of limit.fault)
  | none => (load bytes m).mapError LoadProblem.failure

/-- What is told of a schema that was loaded: its `$id` and the check that it passed. -/
def Loaded.event (s : Loaded) : Log.Event where
  severity := .debug
  source := .schemaDocument
  message := "Loaded schema " ++ (s.content.memberOrNull "$id").display ++ " using " ++
    s.dialect.validator

end Issuer.Schema
