import Issuer.Inspection
import Issuer.Proofs.Except
/-!
# Course — every way in which an inspection can go

An attempt at an inspection takes one of eight courses: one for each part that can stop it, and one
in which a report is made.  Each says what the parts before gave.  The courses exclude each other,
so that an attempt comes to a result exactly if a course leads there (`course_iff`).
-/
namespace Issuer.Inspection

variable (network : Network) (disk : Disk) (machine : Machine) (inquiry : Inquiry)

def Fetches (bytes : Bytes) : Prop :=
  ∃ loader, loaderOf inquiry = .ok loader ∧ (loader.load network disk).1 = .ok bytes

def Loads (schema : Schema.Loaded) : Prop :=
  ∃ bytes, Fetches network disk inquiry bytes ∧ Schema.loadWithin machine bytes = .ok schema

/-- **The courses of an attempt.** -/
inductive Course : Except Failure Report → Prop where
  /-- There is no loader: a setting cannot be written, or the URL has none. -/
  | refused {f : Failure} (refused : loaderOf inquiry = .error f) : Course (.error f)
  | missed {loader : Loader} {p : Loader.Problem} (named : loaderOf inquiry = .ok loader)
      (missed : (loader.load network disk).1 = .error p) :
    Course (.error p.failure)
  | invalid {bytes : Bytes} {f : Failure} (fetched : Fetches network disk inquiry bytes)
      (invalid : Schema.loadWithin machine bytes = .error f) :
    Course (.error f)
  | unlabelled {schema : Schema.Loaded} {f : Failure}
      (loaded : Loads network disk machine inquiry schema)
      (labelled : labelsOf schema.content = .error f) :
    Course (.error f)
  | unwritten {schema : Schema.Loaded} {labels : List Text} {limit : Limit}
      (loaded : Loads network disk machine inquiry schema)
      (labelled : labelsOf schema.content = .ok labels)
      (unwritten : inquiry.typeLimit = some limit) :
    Course (.error (.of limit.fault))
  | untyped {schema : Schema.Loaded} {labels : List Text} {f : Failure}
      (loaded : Loads network disk machine inquiry schema)
      (labelled : labelsOf schema.content = .ok labels) (written : inquiry.typeLimit = none)
      (typed : reportType schema.content inquiry.type = .error f) :
    Course (.error f)
  | unconverted {schema : Schema.Loaded} {labels : List Text} {type : Option TypeReport}
      {f : Failure} (loaded : Loads network disk machine inquiry schema)
      (labelled : labelsOf schema.content = .ok labels) (written : inquiry.typeLimit = none)
      (typed : reportType schema.content inquiry.type = .ok type)
      (converted : reportCredential schema.content inquiry.supplied = .error f) :
    Course (.error f)
  | reported {schema : Schema.Loaded} {labels : List Text} {type : Option TypeReport}
      {credential : Option (List CredentialAttribute)}
      (loaded : Loads network disk machine inquiry schema)
      (labelled : labelsOf schema.content = .ok labels) (written : inquiry.typeLimit = none)
      (typed : reportType schema.content inquiry.type = .ok type)
      (converted : reportCredential schema.content inquiry.supplied = .ok credential) :
    Course (.ok ⟨Loader.shownUrl inquiry.url, labels, type, credential⟩)

variable {network disk machine inquiry}

/-! ## Parts of a report -/

theorem attributes_of_labelsOf {document : Json} {labels : List Text}
    (h : labelsOf document = .ok labels) :
    ∃ declared, Schema.attributes document = .ok declared ∧ labels = sortedLabels declared := by
  cases told : Schema.attributes document with
  | error p =>
    rw [labelsOf, told] at h
    cases h
  | ok declared =>
    rw [labelsOf, told] at h
    exact ⟨declared, rfl, (Except.ok.inj h).symm⟩

theorem problem_of_labelsOf {document : Json} {f : Failure} (h : labelsOf document = .error f) :
    ∃ p, Schema.attributes document = .error p ∧ f = p.failure := by
  cases told : Schema.attributes document with
  | error p =>
    rw [labelsOf, told] at h
    exact ⟨p, rfl, (Except.error.inj h).symm⟩
  | ok declared =>
    rw [labelsOf, told] at h
    cases h

theorem problem_of_reportCredential {document : Json} {supplied : List Json} {f : Failure}
    (h : reportCredential document supplied = .error f) :
    (∃ v ∈ supplied, readSupplied v = .error f) ∨ ∃ as p, supplied.mapM readSupplied = .ok as ∧
      (Schema.validateAndConvert document as).problem = some p ∧ f = p.failure := by
  unfold reportCredential at h
  split at h
  · cases h
  · cases read : supplied.mapM readSupplied with
    | error e =>
      rw [read] at h
      cases h
      exact .inl (exists_error_of_mapM read)
    | ok as =>
      simp only [read, bind, Except.bind] at h
      split at h
      · rename_i p stopped
        cases h
        exact .inr ⟨as, p, rfl, stopped, rfl⟩
      · cases h

/-! ## Loaders -/

theorem loaderOf_eq_ok_iff {loader : Loader} : loaderOf inquiry = .ok loader ↔
    inquiry.placeLimit = none ∧ Loader.ofUrl inquiry.url inquiry.gateway = .ok loader := by
  unfold loaderOf
  cases inquiry.placeLimit with
  | some limit => exact ⟨nofun, nofun⟩
  | none => simp only [unlessLimited, bind, Except.bind, mapError_eq_ok_iff, true_and]

/-- There is no loader if the place of the schema cannot be written, or names none. -/
theorem loaderOf_eq_error_iff {f : Failure} : loaderOf inquiry = .error f ↔
    (∃ limit, inquiry.placeLimit = some limit ∧ f = .of limit.fault) ∨
    (inquiry.placeLimit = none ∧
      ∃ p, Loader.ofUrl inquiry.url inquiry.gateway = .error p ∧ f = p.failure) := by
  unfold loaderOf
  cases inquiry.placeLimit with
  | some limit => simp [unlessLimited, bind, Except.bind, eq_comm]
  | none =>
    cases Loader.ofUrl inquiry.url inquiry.gateway <;>
      simp [unlessLimited, bind, Except.bind, Except.mapError, eq_comm]

/-! ## Attempts -/

theorem attempt_of_refused {f : Failure} (refused : loaderOf inquiry = .error f) :
    (attempt network disk machine inquiry).1 = .error f := by
  simp only [attempt, refused]

theorem attempt_of_missed {loader : Loader} {p : Loader.Problem}
    (named : loaderOf inquiry = .ok loader) (missed : (loader.load network disk).1 = .error p) :
    (attempt network disk machine inquiry).1 = .error p.failure := by
  simp only [attempt, named, missed]

theorem attempt_of_invalid {bytes : Bytes} {f : Failure}
    (fetched : Fetches network disk inquiry bytes)
    (invalid : Schema.loadWithin machine bytes = .error f) :
    (attempt network disk machine inquiry).1 = .error f := by
  obtain ⟨loader, named, read⟩ := fetched
  simp only [attempt, named, read, invalid]

theorem attempt_of_loads {schema : Schema.Loaded}
    (loaded : Loads network disk machine inquiry schema) :
    (attempt network disk machine inquiry).1 =
      reportOn inquiry (Loader.shownUrl inquiry.url) schema.content := by
  obtain ⟨bytes, ⟨loader, named, read⟩, valid⟩ := loaded
  simp only [attempt, named, read, valid]

theorem attempt_of_course {result : Except Failure Report}
    (course : Course network disk machine inquiry result) :
    (attempt network disk machine inquiry).1 = result := by
  cases course with
  | refused refused => exact attempt_of_refused refused
  | missed named missed => exact attempt_of_missed named missed
  | invalid fetched invalid => exact attempt_of_invalid fetched invalid
  | unlabelled loaded labelled =>
    rw [attempt_of_loads loaded, reportOn, labelled]
    rfl
  | unwritten loaded labelled unwritten =>
    rw [attempt_of_loads loaded, reportOn, labelled, unwritten]
    rfl
  | untyped loaded labelled written typed =>
    rw [attempt_of_loads loaded, reportOn, labelled, written, typed]
    rfl
  | unconverted loaded labelled written typed converted =>
    rw [attempt_of_loads loaded, reportOn, labelled, written, typed, converted]
    rfl
  | reported loaded labelled written typed converted =>
    rw [attempt_of_loads loaded, reportOn, labelled, written, typed, converted]
    rfl

theorem course_reportOn {schema : Schema.Loaded}
    (loaded : Loads network disk machine inquiry schema) :
    Course network disk machine inquiry
      (reportOn inquiry (Loader.shownUrl inquiry.url) schema.content) := by
  unfold reportOn
  cases labelled : labelsOf schema.content with
  | error f => exact .unlabelled loaded labelled
  | ok labels =>
    cases written : inquiry.typeLimit with
    | some limit => exact .unwritten loaded labelled written
    | none =>
      cases typed : reportType schema.content inquiry.type with
      | error f => exact .untyped loaded labelled written typed
      | ok type =>
        cases converted : reportCredential schema.content inquiry.supplied with
        | error f => exact .unconverted loaded labelled written typed converted
        | ok credential => exact .reported loaded labelled written typed converted

theorem course_attempt :
    Course network disk machine inquiry (attempt network disk machine inquiry).1 := by
  cases named : loaderOf inquiry with
  | error f => exact attempt_of_refused named ▸ .refused named
  | ok loader =>
    cases read : (loader.load network disk).1 with
    | error p => exact attempt_of_missed named read ▸ .missed named read
    | ok bytes =>
      have fetched : Fetches network disk inquiry bytes := ⟨loader, named, read⟩
      cases valid : Schema.loadWithin machine bytes with
      | error f => exact attempt_of_invalid fetched valid ▸ .invalid fetched valid
      | ok schema =>
        have loaded : Loads network disk machine inquiry schema := ⟨bytes, fetched, valid⟩
        exact attempt_of_loads loaded ▸ course_reportOn loaded

/-- **An attempt comes to a result exactly if a course leads to it.** -/
theorem course_iff {result : Except Failure Report} :
    Course network disk machine inquiry result ↔
      (attempt network disk machine inquiry).1 = result :=
  ⟨attempt_of_course, fun h => h ▸ course_attempt⟩

/-! ## Inspections -/

def processingFault (inquiry : Inquiry) : Fault :=
  .ofMessage .schemaCommand ("Error processing schema " ++ Loader.shownUrl inquiry.url)

/-- **An inspection fails exactly as its attempt does**: under a fault of the command if the failure
is one that is expected, and with the failure itself otherwise. -/
theorem run_eq_error_iff {f : Failure} :
    (run network disk machine inquiry).1 = .error f ↔
      ∃ cause, Course network disk machine inquiry (.error cause) ∧
        f = if isExpected cause then cause.under (processingFault inquiry) else cause := by
  simp only [course_iff, run]
  rcases attempt network disk machine inquiry with ⟨cause | report, activity⟩
  · simp only [Except.error.injEq, exists_eq_left']
    split
    · exact ⟨fun h => (Except.error.inj h).symm, fun h => congrArg Except.error h.symm⟩
    · exact ⟨fun h => (Except.error.inj h).symm, fun h => congrArg Except.error h.symm⟩
  · simp only [reduceCtorEq, false_and, exists_false]

theorem run_eq_ok_iff {report : Report} :
    (run network disk machine inquiry).1 = .ok report ↔
      Course network disk machine inquiry (.ok report) := by
  simp only [course_iff, run]
  rcases attempt network disk machine inquiry with ⟨cause | found, activity⟩
  · dsimp only
    split
    · exact ⟨nofun, nofun⟩
    · exact ⟨nofun, nofun⟩
  · exact Iff.rfl

/-! ## Activity -/

theorem activity_run_of_ok {report : Report}
    (h : (attempt network disk machine inquiry).1 = .ok report) :
    (run network disk machine inquiry).2 = (attempt network disk machine inquiry).2.append
      ⟨[], [processedEvent (Loader.shownUrl inquiry.url)]⟩ := by
  unfold run
  revert h
  rcases attempt network disk machine inquiry with ⟨cause | found, activity⟩
  · nofun
  · exact fun _ => rfl

theorem activity_run_of_error {f : Failure}
    (h : (attempt network disk machine inquiry).1 = .error f) :
    (run network disk machine inquiry).2 = (attempt network disk machine inquiry).2 := by
  unfold run
  revert h
  rcases attempt network disk machine inquiry with ⟨cause | found, activity⟩
  · intro _
    dsimp only
    split
    · rfl
    · rfl
  · nofun

/-- **What an attempt does** is what its loader does, if there is one, before it tells of a schema
if it comes to one. -/
theorem activity_attempt (network : Network) (disk : Disk) (machine : Machine)
    (inquiry : Inquiry) :
    (attempt network disk machine inquiry).2 = {} ∨
    ∃ loader, ∃ told : Option Schema.Loaded,
      loaderOf inquiry = .ok loader ∧
      (attempt network disk machine inquiry).2 =
        (loader.load network disk).2.append ⟨[], told.toList.map Schema.Loaded.event⟩ := by
  have unchanged (a : Activity) : a = a.append ⟨[], []⟩ := by
    rw [Activity.append, List.append_nil, List.append_nil]
  unfold attempt
  cases loaderOf inquiry with
  | error p => exact .inl rfl
  | ok loader =>
    rcases load : loader.load network disk with ⟨p | bytes, activity⟩
    · refine .inr ⟨loader, none, rfl, ?_⟩
      simp only [load]
      exact unchanged activity
    · cases valid : Schema.loadWithin machine bytes with
      | error p =>
        refine .inr ⟨loader, none, rfl, ?_⟩
        simp only [load, valid]
        exact unchanged activity
      | ok schema =>
        refine .inr ⟨loader, some schema, rfl, ?_⟩
        simp only [load, valid]
        rfl

end Issuer.Inspection
