import Issuer.Proofs.CommandLine.Selection
import Issuer.Proofs.Inspection.Cause
import Issuer.Proofs.Inspection.Report
import Issuer.Proofs.Program.Course
/-!
# Cause — what the fault of the schema command is caused by

A command line gives credential attributes as objects of two texts (`areGiven_of_settles`), so that
they are always read and never of the wrong kind.  What is left are a few kinds of fault, by which
every fault of the schema command is caused (`cause_of_schemaCommand`); other callers meet more.
-/
namespace Issuer.Program

open CommandLine (Given Group)
open Inspection (AreGiven FaultsFromOutside Inquiry IsOf causeKind? causeKinds)

variable {s : Surroundings} {arguments : List Text} {given : Given} {settings : Settings}

theorem first?_singleton (settings : Settings) (name : Text) :
    settings.first? [name] = settings.get? name := by
  rw [Settings.first?, List.findSome?_cons, List.findSome?_nil]
  cases settings.get? name <;> rfl

theorem supplied_of_settles (settles : Settles s .schema arguments given settings) :
    ∃ pairs : List (Text × Text),
      (Inquiry.ofSettings settings s.machine).supplied =
        pairs.map CommandLine.attributeSetting := by
  obtain ⟨-, pairs, -, -, -, found⟩ := CommandLine.attributes_of_schema settles.settled
  refine ⟨pairs, ?_⟩
  simp only [Inquiry.ofSettings, Settings.list?, Settings.value, first?_singleton, found]
  split
  · rename_i none
    rw [none]
    rfl
  · rfl

/-- **A command line gives attributes as objects of two texts.** -/
theorem areGiven_of_settles (settles : Settles s .schema arguments given settings) :
    AreGiven (Inquiry.ofSettings settings s.machine).supplied := by
  obtain ⟨pairs, supplied⟩ := supplied_of_settles settles
  rw [supplied]
  intro v hv
  obtain ⟨pair, -, rfl⟩ := List.mem_map.1 hv
  exact ⟨pair.1, pair.2, rfl, rfl⟩

/-! ## Other callers -/

/-- The bytes of a document that declares an age, and nothing else. -/
def ageBytes : Bytes :=
  Utf8.encodeAll ("\x7b\"properties\": \x7b\"credentialSubject\": \x7b\"properties\": " ++
    "\x7b\"age\": \x7b\"type\": \"integer\"\x7d\x7d\x7d\x7d\x7d")

def supplying (v : Json) : Settings :=
  ⟨[("schema.url", .json (.str Inspection.localUrl)), ("schema.attributes", .json (.arr [v]))]⟩

theorem exists_failed {network : Network} {disk : Disk} {settings : Settings} {kind : FaultKind}
    (h : (match (Inspection.ofSettings network disk settings).1 with
      | .ok _ => none
      | .error f => causeKind? f) = some kind) :
    ∃ f, (Inspection.ofSettings network disk settings).1 = .error f ∧ causeKind? f = some kind := by
  split at h
  · cases h
  · rename_i f failed
    exact ⟨f, failed, h⟩

/-- An attribute that is no object, and one whose value is a number, are refused as such. -/
theorem exists_failed_of_supplying :
    (∃ f, (Inspection.ofSettings (Inspection.answering ageBytes) .empty (supplying .null)).1 =
      .error f ∧ causeKind? f = some .model) ∧
    ∃ f, (Inspection.ofSettings (Inspection.answering ageBytes) .empty
      (supplying (.obj [("name", .str "age"), ("value", .int 18)]))).1 = .error f ∧
      causeKind? f = some .typeMismatch :=
  ⟨exists_failed (by decide +kernel), exists_failed (by decide +kernel)⟩

/-- **What the command line keeps from happening.**  However the schema command is given its
arguments, and whatever the network answers and the files hold, a fault of the command is caused by
a fault of one of a few kinds: never by a credential attribute that is refused as a record, by a
value of the wrong kind, by attributes of the schema that cannot be told or by an id that repeats.
Those are met by other callers alone: by an inspection of other settings, by a conversion of
attributes by a document that was not inspected, or by attributes that come from no document. -/
theorem cause_of_schemaCommand :
    (∀ (s : Surroundings) (arguments : List Text) (given : Given) (settings : Settings)
      (logging : Log.Logging) (disk : Disk) (f : Failure),
      FaultsFromOutside s.network → Settles s .schema arguments given settings →
      Log.configure settings s.env s.disk = (.ok (), logging, disk) →
      (Inspection.ofSettings s.network disk settings s.machine).1 = .error f →
      IsOf .schemaCommand f →
      (runCategory s .schema arguments).ending = .failed f ∧
      ∃ kind, causeKind? f = some kind ∧ kind ∈ causeKinds ∧
        kind ∉ [FaultKind.model, .typeMismatch, .schemaProcessing, .conversion]) ∧
    (∀ kind ∈ [FaultKind.model, .typeMismatch], ∃ network disk settings f,
      FaultsFromOutside network ∧ (Inspection.ofSettings network disk settings).1 = .error f ∧
      causeKind? f = some kind) ∧
    (∃ document supplied problem,
      (Schema.validateAndConvert document supplied).problem = some problem ∧
      IsOf .schemaProcessing problem.failure) ∧
    ∃ declared supplied problem,
      (Conversion.validateAndConvert declared supplied).problem = some problem ∧
      IsOf .conversion problem.failure := by
  refine ⟨?_, ?_, ⟨.obj [], [], _, rfl, _, _, rfl⟩,
    [{ id := some "age" }, { id := some "age" }], [], _, rfl, _, _, rfl⟩
  · intro s arguments given settings logging disk f outside settles configured failed command
    have ended := course_iff.1 (Course.acted settles configured)
    obtain ⟨kind, known, cause⟩ :=
      Inspection.cause_of_failed outside (areGiven_of_settles settles) failed command
    have excluded : ∀ kind ∈ causeKinds,
        kind ∉ [FaultKind.model, .typeMismatch, .schemaProcessing, .conversion] := by decide
    refine ⟨?_, kind, cause, known, excluded kind known⟩
    rw [ended]
    simp only [act, inspect, Outcome.ofDeed, failed, Except.map]
  · obtain ⟨⟨f, failed, cause⟩, f', failed', cause'⟩ := exists_failed_of_supplying
    intro kind hkind
    obtain rfl | hkind := List.mem_cons.1 hkind
    · exact ⟨_, _, _, f, Inspection.faultsFromOutside_answering _, failed, cause⟩
    · obtain rfl := List.mem_singleton.1 hkind
      exact ⟨_, _, _, f', Inspection.faultsFromOutside_answering _, failed', cause'⟩

def ageSurroundings : Surroundings := surroundingsOf (Inspection.answering ageBytes)

/-- A command line for the schema command that supplies no integer for an age. -/
def agelessArguments : List Text :=
  ["--schema-url", Inspection.localUrl, "--attribute=age=unknown"]

/-- The settings of a command line that supplies no integer for an age. -/
def agelessSettings : Settings :=
  ⟨[("schema.url", .json (.str Inspection.localUrl)),
    ("schema.attributes", .json (.arr [.obj [("name", .str "age"), ("value", .str "unknown")]])),
    ("log.config", .json (.str "log.yml"))]⟩

theorem settles_ageless :
    ∃ given, Settles ageSurroundings .schema agelessArguments given agelessSettings := by
  have gives : (commandLine ageSurroundings .schema agelessArguments).toOption.map Given.flags =
      some [(.logConfig, ("log.yml" : Text)), (.schemaUrl, Inspection.localUrl),
        (.attributes, ("age=unknown" : Text))] := by decide +kernel
  obtain ⟨⟨flags, extras⟩, parsed, rfl⟩ := exists_given gives
  exact ⟨_, parsed, rfl⟩

theorem configures_ageless : ∃ logging, Log.configure agelessSettings ageSurroundings.env
    ageSurroundings.disk = (.ok (), logging, ageSurroundings.disk) :=
  exists_configured (by decide +kernel) (by decide +kernel)

/-- An age that is no integer is the cause of the fault that the command ends with. -/
theorem cause_of_schemaCommand_ageless :
    ∃ f, (runCategory ageSurroundings .schema agelessArguments).ending = .failed f ∧
      causeKind? f = some .valueParse ∧
      FaultKind.valueParse ∉ [FaultKind.model, .typeMismatch, .schemaProcessing, .conversion] := by
  obtain ⟨given, settles⟩ := settles_ageless
  obtain ⟨logging, configured⟩ := configures_ageless
  obtain ⟨f, failed, cause⟩ : ∃ f, (Inspection.ofSettings ageSurroundings.network
      ageSurroundings.disk agelessSettings).1 = .error f ∧ causeKind? f = some .valueParse :=
    exists_failed (by decide +kernel)
  have command : IsOf .schemaCommand f := Inspection.isOf_of_causeKind? cause
  obtain ⟨ended, kind, cause', -, other⟩ := cause_of_schemaCommand.1 _ _ _ _ _ _ _
    (Inspection.faultsFromOutside_answering _) settles configured failed command
  obtain rfl := Option.some.inj (cause.symm.trans cause')
  exact ⟨f, ended, cause, other⟩

end Issuer.Program
