import Issuer.Loader
import Issuer.Schema.Load
/-!
# Inspection of a schema

The configured schema is loaded and reported on: the labels of its attributes; with a type the
context and the hash of the type; with credential attributes the attributes as they are converted.
Settings are written as text where they are needed: those that say where the schema is at the
start, and the type after the labels.
-/
namespace Issuer.Inspection

/-! ## Settings that matter -/

structure Inquiry where
  url : Option Text
  gateway : Option Text
  type : Option Text
  supplied : List Json
  placeLimit : Option Limit
  typeLimit : Option Limit

def Inquiry.ofSettings (s : Settings) (m : Machine) : Inquiry where
  url := s.textOf? "schema.url"
  gateway := s.textOf? "schema.ipfs_gateway"
  type := s.textOf? "schema.type"
  supplied := (s.list? ["schema.attributes"] (.json .null)).getD []
  placeLimit := (m.limit? (.write (s.valueOf "schema.url"))).or
    (m.limit? (.write (s.valueOf "schema.ipfs_gateway")))
  typeLimit := m.limit? (.write (s.valueOf "schema.type"))

/-! ## Reports -/

structure TypeReport where
  type : Text
  context : Text
  hash : SchemaHash

structure Report where
  url : Text
  labels : List Text
  typed : Option TypeReport
  credential : Option (List CredentialAttribute)

def Report.toJson (r : Report) : Json :=
  let typed : Members := match r.typed with
    | some t => [("type", .str t.type), ("jsonLdContext", .str t.context),
        ("schemaHash", .str t.hash.toHex)]
    | none => []
  let credential : Members := match r.credential with
    | some attributes =>
      [("credentialAttributes", .arr (attributes.map CredentialAttribute.toJson))]
    | none => []
  let always : Members := [("url", .str r.url), ("attributes", .arr (r.labels.map .str))]
  .obj (always ++ typed ++ credential)

/-! ## Parts of an inspection -/

def sortedLabels (attributes : List Attribute) : List Text :=
  (attributes.filterMap Attribute.label?).mergeSort Text.le

def labelsOf (document : Json) : Except Failure (List Text) :=
  ((Schema.attributes document).mapError Schema.Problem.failure).map sortedLabels

def reportType (document : Json) : Option Text → Except Failure (Option TypeReport)
  | none | some [] => .ok none
  | some type => do
    let context ← (Schema.jsonLdContext document).mapError Schema.levelFailure
    let hash ← (Schema.hash document type).mapError Schema.HashProblem.failure
    return some ⟨type, context, hash⟩

def readSupplied (v : Json) : Except Failure CredentialAttribute :=
  (CredentialAttribute.ofJson v).mapError (Record.Problem.failure CredentialAttribute.owner)

def reportCredential (document : Json) (supplied : List Json) :
    Except Failure (Option (List CredentialAttribute)) :=
  if supplied.isEmpty then .ok none
  else do
    let attributes ← supplied.mapM readSupplied
    let converted := Schema.validateAndConvert document attributes
    match converted.problem with
    | some problem => .error problem.failure
    | none => return some converted.attributes

def unlessLimited : Option Limit → Except Failure Unit
  | some limit => .error (.of limit.fault)
  | none => .ok ()

def reportOn (inquiry : Inquiry) (url : Text) (document : Json) : Except Failure Report := do
  let labels ← labelsOf document
  unlessLimited inquiry.typeLimit
  let typed ← reportType document inquiry.type
  let credential ← reportCredential document inquiry.supplied
  return ⟨url, labels, typed, credential⟩

def loaderOf (inquiry : Inquiry) : Except Failure Loader := do
  unlessLimited inquiry.placeLimit
  (Loader.ofUrl inquiry.url inquiry.gateway).mapError Loader.Problem.failure

def attempt (network : Network) (disk : Disk) (machine : Machine) (inquiry : Inquiry) :
    Except Failure Report × Activity :=
  match loaderOf inquiry with
  | .error f => (.error f, {})
  | .ok loader =>
    let (loaded, activity) := loader.load network disk
    match loaded with
    | .error p => (.error p.failure, activity)
    | .ok bytes =>
      match Schema.loadWithin machine bytes with
      | .error f => (.error f, activity)
      | .ok schema =>
        (reportOn inquiry (Loader.shownUrl inquiry.url) schema.content,
          activity.append ⟨[], [schema.event]⟩)

/-! ## Inspections -/

def isExpected (f : Failure) : Bool :=
  match f.fault with
  | .own kind _ _ => kind.isA .schema || kind.isA .model
  | _ => false

def processedEvent (url : Text) : Log.Event where
  severity := .info
  source := .schemaCommand
  message := "Processed schema " ++ url

def run (network : Network) (disk : Disk) (machine : Machine) (inquiry : Inquiry) :
    Except Failure Report × Activity :=
  let url := Loader.shownUrl inquiry.url
  match attempt network disk machine inquiry with
  | (.ok report, activity) => (.ok report, activity.append ⟨[], [processedEvent url]⟩)
  | (.error f, activity) =>
    if isExpected f then
      (.error (f.under (.ofMessage .schemaCommand ("Error processing schema " ++ url))), activity)
    else (.error f, activity)

def ofSettings (network : Network) (disk : Disk) (settings : Settings) (machine : Machine := {}) :
    Except Failure Report × Activity :=
  run network disk machine (.ofSettings settings machine)

end Issuer.Inspection
