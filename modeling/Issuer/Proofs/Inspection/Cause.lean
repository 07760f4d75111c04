import Issuer.Proofs.Inspection.Escape
import Issuer.Proofs.Inspection.Supplied
import Issuer.Proofs.Schema.Conversion
import Issuer.Proofs.Schema.Flaw
/-!
# Cause — what a fault of an inspection is caused by

Over a network whose faults are none of the program's own, and with credential attributes that are
objects of two texts, whatever stops an attempt is of a few kinds (`isPlain_of_course`): a schema
that cannot be loaded or lacks what is asked for, or attributes that do not match.  Texts are never
of the wrong kind to be read or converted; by the time they are converted the attributes of the
document have been told, and their keys are distinct.
-/
namespace Issuer.Inspection

/-- The kinds of fault that an inspection for the command line may be caused by. -/
def causeKinds : List FaultKind :=
  [.schemaLoad, .schemaStructure, .attributeDecoding, .attributeNotFound, .valueParse,
    .unsupportedType, .countMismatch]

/-- A fault of the program itself is of a kind that the command line can cause. -/
def IsPlain (f : Failure) : Prop :=
  ∀ kind argument details, f.fault = .own kind argument details → kind ∈ causeKinds

/-- The faults of a network that have nothing to do with requests are none of the program's own. -/
def FaultsFromOutside (network : Network) : Prop :=
  ∀ url kind argument details, network url ≠ .trouble .foreign (.own kind argument details)

theorem faultsFromOutside_answering (bytes : Bytes) : FaultsFromOutside (answering bytes) := nofun

variable {network : Network} {disk : Disk} {machine : Machine} {inquiry : Inquiry} {f : Failure}

theorem isPlain_ofMessage {kind : FaultKind} (known : kind ∈ causeKinds) (message : Text)
    (details : Details) (causes : List Fault) :
    IsPlain ⟨.ofMessage kind message details, causes⟩ := by
  rintro _ _ _ ⟨⟩
  exact known

theorem isPlain_outside (kind : OutsideKind) (text : Text) : IsPlain (.of (.outside kind text)) :=
  nofun

theorem isPlain_limit (limit : Limit) : IsPlain (.of limit.fault) := by
  cases limit <;> nofun

/-! ## Loading -/

theorem isPlain_loaderProblem (p : Loader.Problem) :
    IsPlain p.failure ∨ ∃ url cause, p = .transfer url .foreign cause := by
  cases p with
  | malformed | notDereferenced | notIpfs | gatewayRequired | unsupported =>
    exact .inl (isPlain_ofMessage (by decide) _ _ _)
  | ipfsMalformed cause => exact .inl (isPlain_outside _ _)
  | transfer url kind cause =>
    cases kind with
    | connection | status | timeout | other => exact .inl (isPlain_ofMessage (by decide) _ _ _)
    | foreign => exact .inr ⟨url, cause, rfl⟩
  | file path cause =>
    cases cause with
    | missing | isDirectory | notDirectory => exact .inl (isPlain_ofMessage (by decide) _ _ _)
    | zero | surrogate => exact .inl (isPlain_outside _ _)

theorem isPlain_loadProblem (p : Schema.LoadProblem) : IsPlain p.failure := by
  obtain ⟨causes, message, reported⟩ | told := p.isReported_or_isTold
  · rw [reported]
    exact isPlain_ofMessage (by decide) _ _ _
  · match p, told with
    | .dialectUrl cause, _ => exact isPlain_outside _ _
    | .invalid (.pattern text problem) wording, fatal =>
      rw [Schema.failure_of_isFatal fatal]
      exact isPlain_outside _ _

theorem reply_of_download {url named : Text} {options : Members} {cause : Fault}
    (h : (Loader.download network url options).1 = .error (.transfer named .foreign cause)) :
    network url = .trouble .foreign cause := by
  unfold Loader.download at h
  split at h
  · rename_i refused
    cases h
    unfold Loader.validateHttpUrl at refused
    split at refused
    · cases refused
    · split at refused
      · cases refused
      · cases refused
  · dsimp only at h
    split at h
    · cases h
    · rename_i body
      cases h
      exact Loader.reply_of_body body

/-- **What keeps a document from being retrieved is plain**, over a network whose faults are none of
the program's own. -/
theorem isPlain_of_load (outside : FaultsFromOutside network) {loader : Loader}
    {p : Loader.Problem} (missed : (loader.load network disk).1 = .error p) :
    IsPlain p.failure := by
  obtain plain | ⟨named, cause, rfl⟩ := isPlain_loaderProblem p
  · exact plain
  · have asked : ∃ url, network url = .trouble .foreign cause := by
      cases loader with
      | http url options => exact ⟨_, reply_of_download missed⟩
      | ipfs url gateway options => exact ⟨_, reply_of_download missed⟩
      | file path =>
        rw [Loader.load] at missed
        split at missed
        · cases missed
        · cases missed
    obtain ⟨url, replied⟩ := asked
    rintro kind argument details rfl
    exact absurd replied (outside url kind argument details)

theorem isPlain_of_ofUrl {url gateway : Option Text} {p : Loader.Problem}
    (refused : Loader.ofUrl url gateway = .error p) : IsPlain p.failure := by
  obtain ⟨causes, message, reported⟩ := Loader.isReported_of_ofUrl refused
  rw [reported]
  exact isPlain_ofMessage (by decide) _ _ _

theorem isPlain_of_loaderOf (refused : loaderOf inquiry = .error f) : IsPlain f := by
  obtain ⟨limit, -, rfl⟩ | ⟨-, p, named, rfl⟩ := loaderOf_eq_error_iff.1 refused
  · exact isPlain_limit limit
  · exact isPlain_of_ofUrl named

theorem isPlain_of_loadWithin {bytes : Bytes}
    (invalid : Schema.loadWithin machine bytes = .error f) : IsPlain f := by
  obtain ⟨limit, -, rfl⟩ | ⟨-, p, -, rfl⟩ := Schema.loadWithin_eq_error_iff.1 invalid
  · exact isPlain_limit limit
  · exact isPlain_loadProblem p

/-! ## Reporting -/

theorem isPlain_of_labelsOf {document : Json} (h : labelsOf document = .error f) : IsPlain f := by
  obtain ⟨p, -, rfl⟩ := problem_of_labelsOf h
  cases p with
  | level path => exact isPlain_ofMessage (by decide) _ _ _
  | entry key cause => exact isPlain_ofMessage (by decide) _ _ _

theorem isPlain_of_reportType {document : Json} {asked : Option Text}
    (h : reportType document asked = .error f) : IsPlain f := by
  obtain ⟨path, rfl⟩ | ⟨_, _, -, -, -, -, rfl⟩ := problem_of_reportType h
  · exact isPlain_ofMessage (by decide) _ _ _
  · exact isPlain_outside _ _

/-! ## Credential attributes of a command line -/

/-- Attributes as a command line gives them: objects with a name and a value, both texts. -/
def AreGiven (supplied : List Json) : Prop :=
  ∀ v ∈ supplied, ∃ name text, v.member? "name" = some (.str name) ∧
    v.member? "value" = some (.str text)

theorem areTexts_of_read {supplied : List Json} {as : List CredentialAttribute}
    (given : AreGiven supplied) (read : supplied.mapM readSupplied = .ok as) :
    Conversion.AreTexts as := by
  have each := (mapM_eq_ok_iff _ _ _).1 read
  clear read
  induction each with
  | nil => nofun
  | @cons v a _ _ first _ ih =>
    intro b hb
    obtain rfl | hb := List.mem_cons.1 hb
    · obtain ⟨name, text, -, valued⟩ := given v List.mem_cons_self
      obtain ⟨-, value, -, valued', -, rfl⟩ := readSupplied_eq_ok_iff.1 first
      exact ⟨text, Option.some.inj (valued'.symm.trans valued)⟩
    · exact ih (fun w hw => given w (List.mem_cons_of_mem v hw)) b hb

theorem read_of_given {supplied : List Json} (given : AreGiven supplied) {v : Json}
    (hv : v ∈ supplied) : ∃ a, readSupplied v = .ok a := by
  obtain ⟨name, text, named, valued⟩ := given v hv
  exact ⟨_, readSupplied_eq_ok_iff.2 ⟨name, _, named, valued, nofun, rfl⟩⟩

/-- **What stops a conversion of texts is plain**, by a document whose attributes can be told. -/
theorem isPlain_of_convert {document : Json} {declared : List Attribute}
    {as : List CredentialAttribute} {p : Schema.ConvertProblem} (keys : document.HasDistinctKeys)
    (told : Schema.attributes document = .ok declared) (texts : Conversion.AreTexts as)
    (stopped : (Schema.validateAndConvert document as).problem = some p) : IsPlain p.failure := by
  have fresh (id) : (Schema.validateAndConvert document as).problem ≠
      some (.conversion (.duplicated id)) := Schema.validateAndConvert_ne_duplicated keys id
  have ids := Schema.nodup_ids_of_hasDistinctKeys keys told
  simp only [Schema.validateAndConvert, told, Conversion.validateAndConvert_of_nodup ids]
    at stopped fresh
  obtain ⟨q, problem, rfl⟩ := Option.map_eq_some_iff.1 stopped
  cases q with
  | duplicated id => exact absurd stopped (fresh id)
  | typeMismatch name =>
    exact absurd problem (Conversion.convertEach_ne_typeMismatch name as texts declared)
  | notFound | integer | boolean | unsupported | count =>
    exact isPlain_ofMessage (by decide) _ _ _

theorem isPlain_of_reportCredential {document : Json} {declared : List Attribute}
    {supplied : List Json} (keys : document.HasDistinctKeys)
    (told : Schema.attributes document = .ok declared) (given : AreGiven supplied)
    (h : reportCredential document supplied = .error f) : IsPlain f := by
  obtain ⟨v, hv, refused⟩ | ⟨as, p, read, stopped, rfl⟩ := problem_of_reportCredential h
  · obtain ⟨a, accepted⟩ := read_of_given given hv
    cases refused.symm.trans accepted
  · exact isPlain_of_convert keys told (areTexts_of_read given read) stopped

/-! ## Inspections -/

theorem hasDistinctKeys_of_loads {schema : Schema.Loaded}
    (loaded : Loads network disk machine inquiry schema) : schema.content.HasDistinctKeys := by
  obtain ⟨bytes, -, load⟩ := loaded
  obtain ⟨-, load⟩ := Schema.loadWithin_eq_ok_iff.1 load
  obtain ⟨ms, read, content, -⟩ := Schema.obeys_of_load load
  rw [content]
  exact Json.hasDistinctKeys_of_ofBytes read

theorem isPlain_of_course (outside : FaultsFromOutside network) (given : AreGiven inquiry.supplied)
    (course : Course network disk machine inquiry (.error f)) : IsPlain f := by
  cases course with
  | refused refused => exact isPlain_of_loaderOf refused
  | missed named missed => exact isPlain_of_load outside missed
  | invalid fetched invalid => exact isPlain_of_loadWithin invalid
  | unlabelled loaded labelled => exact isPlain_of_labelsOf labelled
  | unwritten loaded labelled unwritten => exact isPlain_limit _
  | untyped loaded labelled written typed => exact isPlain_of_reportType typed
  | unconverted loaded labelled written typed converted =>
    obtain ⟨declared, told, -⟩ := attributes_of_labelsOf labelled
    exact isPlain_of_reportCredential (hasDistinctKeys_of_loads loaded) told given converted

def causeKind? (f : Failure) : Option FaultKind :=
  match f.fault, f.causes with
  | .own .schemaCommand _ _, .own kind _ _ :: _ => some kind
  | _, _ => none

def IsOf (kind : FaultKind) (f : Failure) : Prop :=
  ∃ argument details, f.fault = .own kind argument details

theorem isOf_of_causeKind? {kind : FaultKind} (h : causeKind? f = some kind) :
    IsOf .schemaCommand f := by
  unfold causeKind? at h
  split at h
  · exact ⟨_, _, ‹_›⟩
  · cases h

/-- **The cause of a fault of the schema command** is of one of the few kinds, if attributes are
given as a command line gives them. -/
theorem cause_of_failed (outside : FaultsFromOutside network) (given : AreGiven inquiry.supplied)
    (failed : (run network disk machine inquiry).1 = .error f) (command : IsOf .schemaCommand f) :
    ∃ kind ∈ causeKinds, causeKind? f = some kind := by
  obtain ⟨cause, course, rfl⟩ := run_eq_error_iff.1 failed
  have plain := isPlain_of_course outside given course
  obtain ⟨argument, details, command⟩ := command
  split at command
  · rename_i expected
    obtain ⟨kind, argument, details, own, -⟩ := isExpected_iff.1 expected
    rw [if_pos expected]
    refine ⟨kind, plain kind argument details own, ?_⟩
    simp only [causeKind?, Failure.under, processingFault, Fault.ofMessage, own]
  · exact absurd (plain _ _ _ command) (by decide)

end Issuer.Inspection
