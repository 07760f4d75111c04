import Issuer.Proofs.Conversion.Matching
import Issuer.Proofs.Inspection.Escape
import Issuer.Proofs.Inspection.Supplied
import Issuer.Proofs.Schema.Entry
import Issuer.Proofs.Schema.LeftOver
import Issuer.Proofs.Schema.Level
import Issuer.Proofs.Text.Order
/-!
# Report — what an inspection reports

A report says of a document what the settings ask for, and nothing that they do not ask for:
`Describes`.  The labels are those of the entries of the document, one for each (`labels_of_ok`);
the part about a type is there if one is asked for (`typed_of_ok`), the part about credential
attributes if there are any (`credential_of_ok`).  That a schema was processed is told once with a
report, and never without (`ofSettings_describes`).
-/
namespace Issuer.Inspection

/-! ## What a report says -/

/-- The label of the attribute that an entry declares: its title with the key in brackets, or the
key alone if it has no title or an empty one. -/
def labelOf (key : Text) (entry : Json) : Text :=
  match entry.member? "title" with
  | some (.str (c :: rest)) => c :: rest ++ "(" ++ key ++ ")"
  | _ => key

/-- The labels of a document's attributes, one for each entry, by code point. -/
structure Labels (declared : Members) (labels : List Text) : Prop where
  perm : labels.Perm (declared.map fun m => labelOf m.1 m.2)
  sorted : labels.Pairwise fun s t => Text.le s t = true

def contextPath : List Text := ["$metadata", "uris", "jsonLdContext"]

def typeMembers : List Text := ["type", "jsonLdContext", "schemaHash"]

/-- **What a report says of a type**: nothing if none is asked for, else the type, the context that
defines it and the hash of both. -/
inductive Typed (document report : Json) : Option Text → Prop where
  | absent {asked : Option Text} (none : asked = none ∨ asked = some [])
    (absent : ∀ key ∈ typeMembers, report.member? key = .none) : Typed document report asked
  | present {type context : Text} {bytes : Bytes} (given : type ≠ [])
    (defined : document.at? contextPath = some (.str context))
    (encoded : Utf8.encode? (context ++ "#" ++ type) = some bytes)
    (named : report.member? "type" = some (.str type))
    (located : report.member? "jsonLdContext" = some (.str context))
    (hashed : report.member? "schemaHash" =
      some (.str (SchemaHash.ofIdentifier bytes).toHex)) : Typed document report (some type)

/-- A supplied attribute as it is reported: under its name, with its text converted to the type
that the document declares under the name. -/
inductive Converted (declared : Members) : Json → Json → Prop where
  | intro {supplied entry value : Json} {name text type : Text}
    (named : supplied.member? "name" = some (.str name))
    (valued : supplied.member? "value" = some (.str text))
    (known : Members.get? declared name = some entry)
    (typed : entry.member? "type" = some (.str type))
    (converts : Conversion.Converts type text value) :
    Converted declared supplied (.obj [("name", .str name), ("value", value)])

/-- **What a report says of the credential attributes**: nothing if none are supplied, else each of
them, in order. -/
inductive Credential (declared : Members) (report : Json) : List Json → Prop where
  | absent (absent : report.member? "credentialAttributes" = none) : Credential declared report []
  | present {supplied items : List Json} (given : supplied ≠ [])
    (listed : report.member? "credentialAttributes" = some (.arr items))
    (converted : List.Forall₂ (Converted declared) supplied items) :
    Credential declared report supplied

/-- **What a report says of a document** that an inquiry is about. -/
structure Describes (inquiry : Inquiry) (document report : Json) (declared : Members) : Prop where
  declares : document.at? Schema.declarationPath = some (.obj declared)
  labels : ∃ labels : List Text, report.member? "attributes" = some (.arr (labels.map .str)) ∧
    Labels declared labels
  typed : Typed document report inquiry.type
  credential : Credential declared report inquiry.supplied

variable {document : Json} {declared : Members}

/-! ## Labels -/

theorem label?_of_readAttribute {key : Text} {entry : Json} {a : Attribute}
    (read : Schema.readAttribute key entry = .ok a) : a.label? = some (labelOf key entry) := by
  obtain ⟨⟨title, type, format⟩, described, rfl⟩ := Schema.readAttribute_eq_ok_iff.1 read
  cases entry with
  | null | bool | int | float | str | arr => cases described
  | obj ms =>
    obtain ⟨titled, -, -⟩ := Schema.describe?_obj_eq_some_iff.1 described
    have member : (Json.obj ms).member? "title" = Members.get? ms "title" := rfl
    rw [labelOf, member]
    cases title with
    | none =>
      obtain absent | null := Schema.optionalText?_eq_some_none_iff.1 titled
      · rw [absent]
        rfl
      · rw [null]
        rfl
    | some t =>
      rw [Schema.optionalText?_eq_some_some_iff.1 titled]
      cases t <;> rfl

theorem labels_of_ok {labels : List Text} (labelled : labelsOf document = .ok labels) :
    ∃ declared, Schema.declarations document = .ok declared ∧ Labels declared labels := by
  obtain ⟨attributes, told, rfl⟩ := attributes_of_labelsOf labelled
  obtain ⟨declared, declares, read⟩ := Schema.forall₂_of_attributes_eq_ok told
  have named : attributes.filterMap Attribute.label? =
      declared.map fun m => labelOf m.1 m.2 := by
    clear declares told labelled
    induction read with
    | nil => rfl
    | cons read _ ih => rw [List.filterMap_cons, label?_of_readAttribute read, ih, List.map_cons]
  refine ⟨declared, declares, ?_, Text.pairwise_le_mergeSort _⟩
  rw [← named]
  exact List.mergeSort_perm _ _

/-! ## Types -/

theorem at?_of_jsonLdContext {context : Text}
    (defined : Schema.jsonLdContext document = .ok context) :
    document.at? contextPath = some (.str context) := by
  obtain ⟨v, found, text⟩ := Schema.at?_of_lookupFrom defined
  cases v with
  | str t => exact found.trans (congrArg (some ∘ Json.str) (Option.some.inj text))
  | null | bool | int | float | arr | obj => cases text

theorem reportType_eq_ok {asked : Option Text} {found : Option TypeReport}
    (typed : reportType document asked = .ok found) :
    ((asked = none ∨ asked = some []) ∧ found = none) ∨
    ∃ type context bytes, asked = some type ∧ type ≠ [] ∧
      document.at? contextPath = some (.str context) ∧
      Utf8.encode? (context ++ "#" ++ type) = some bytes ∧
      found = some ⟨type, context, .ofIdentifier bytes⟩ := by
  match asked, typed with
  | none, typed => exact .inl ⟨.inl rfl, (Except.ok.inj typed).symm⟩
  | some [], typed => exact .inl ⟨.inr rfl, (Except.ok.inj typed).symm⟩
  | some (c :: rest), typed =>
    obtain ⟨context, defined, typed⟩ := bind_eq_ok_iff.1 typed
    obtain ⟨hash, hashed, typed⟩ := bind_eq_ok_iff.1 typed
    rw [mapError_eq_ok_iff] at defined hashed
    obtain rfl := Except.ok.inj typed
    simp only [Schema.hash, defined] at hashed
    split at hashed
    · rename_i bytes encoded
      obtain rfl := Except.ok.inj hashed
      exact .inr ⟨_, context, bytes, rfl, List.cons_ne_nil c rest, at?_of_jsonLdContext defined,
        encoded, rfl⟩
    · cases hashed

/-! ## Credential attributes -/

theorem member?_type_of_readAttribute {key type : Text} {entry : Json} {a : Attribute}
    (read : Schema.readAttribute key entry = .ok a) (typed : a.type = some type) :
    entry.member? "type" = some (.str type) := by
  obtain ⟨⟨title, type, format⟩, described, rfl⟩ := Schema.readAttribute_eq_ok_iff.1 read
  obtain rfl : type = some _ := typed
  cases entry with
  | null | bool | int | float | str | arr => cases described
  | obj ms =>
    obtain ⟨-, typed, -⟩ := Schema.describe?_obj_eq_some_iff.1 described
    exact Schema.optionalText?_eq_some_some_iff.1 typed

theorem nodup_keys_of_nodup_ids {attributes : List Attribute}
    (declares : Schema.declarations document = .ok declared)
    (told : Schema.attributes document = .ok attributes)
    (ids : (attributes.map Attribute.id).Nodup) : (Members.keys declared).Nodup := by
  obtain ⟨ms, declares', keyed⟩ := Schema.ids_of_attributes_eq_ok told
  obtain rfl := Except.ok.inj (declares.symm.trans declares')
  rw [keyed] at ids
  exact ids.of_map some

theorem converted_of_matches {attributes : List Attribute}
    (declares : Schema.declarations document = .ok declared)
    (told : Schema.attributes document = .ok attributes) (keys : (Members.keys declared).Nodup)
    {v : Json} {a b : CredentialAttribute} (read : readSupplied v = .ok a)
    (matched : Conversion.Matches attributes a b) : Converted declared v b.toJson := by
  obtain ⟨name, value, named, valued, -, rfl⟩ := readSupplied_eq_ok_iff.1 read
  obtain ⟨d, hd, hid, converted⟩ := matched.value
  obtain ⟨type, text, typed, rfl, converts⟩ := Conversion.convertValue_eq_ok_iff.1 converted
  obtain ⟨key, entry, known, readEntry⟩ := (Schema.mem_attributes_iff declares told keys d).1 hd
  obtain rfl : key = name := Option.some.inj ((Schema.id_of_readAttribute readEntry).symm.trans hid)
  obtain ⟨name, value⟩ := b
  obtain rfl : name = some key := matched.name
  have written : CredentialAttribute.toJson ⟨some key, value⟩ =
      .obj [("name", .str key), ("value", value)] := by
    cases converts <;> rfl
  rw [written]
  exact .intro named valued known (member?_type_of_readAttribute readEntry typed) converts

theorem forall₂_converted {attributes : List Attribute}
    (declares : Schema.declarations document = .ok declared)
    (told : Schema.attributes document = .ok attributes) (keys : (Members.keys declared).Nodup)
    {supplied : List Json} {as bs : List CredentialAttribute}
    (read : List.Forall₂ (fun v a => readSupplied v = .ok a) supplied as)
    (matched : List.Forall₂ (Conversion.Matches attributes) as bs) :
    List.Forall₂ (Converted declared) supplied (bs.map CredentialAttribute.toJson) := by
  induction read generalizing bs with
  | nil =>
    cases matched
    exact .nil
  | cons read _ ih =>
    cases matched with
    | cons first rest =>
      exact .cons (converted_of_matches declares told keys read first) (ih rest)

theorem reportCredential_eq_ok {supplied : List Json} {found : Option (List CredentialAttribute)}
    (declares : Schema.declarations document = .ok declared)
    (reported : reportCredential document supplied = .ok found) :
    (supplied = [] ∧ found = none) ∨ ∃ attributes, supplied ≠ [] ∧ found = some attributes ∧
      List.Forall₂ (Converted declared) supplied (attributes.map CredentialAttribute.toJson) := by
  unfold reportCredential at reported
  split at reported
  · rename_i none
    exact .inl ⟨List.isEmpty_iff.1 none, (Except.ok.inj reported).symm⟩
  · rename_i given
    obtain ⟨read, readAll, reported⟩ := bind_eq_ok_iff.1 reported
    dsimp only at reported
    split at reported
    · cases reported
    · rename_i ok
      obtain rfl := Except.ok.inj reported
      refine .inr ⟨_, fun none => given (List.isEmpty_iff.2 none), rfl, ?_⟩
      obtain ⟨attributes, told, ok⟩ := Schema.conversion_ok_of_ok ok
      have keys := nodup_keys_of_nodup_ids declares told (Conversion.nodup_ids_of_ok ok)
      obtain ⟨matched, -, -⟩ := Conversion.matches_of_ok ok
      rw [Schema.validateAndConvert, told]
      exact forall₂_converted declares told keys ((mapM_eq_ok_iff _ _ _).1 readAll) matched

/-! ## Reports -/

section ToJson

variable (url : Text) (labels : List Text)

theorem typed_of_ok {asked : Option Text} {found : Option TypeReport}
    (typed : reportType document asked = .ok found)
    (credential : Option (List CredentialAttribute)) :
    Typed document (Report.mk url labels found credential).toJson asked := by
  obtain ⟨none, rfl⟩ | ⟨type, context, bytes, rfl, given, defined, encoded, rfl⟩ :=
    reportType_eq_ok typed
  · refine .absent none ?_
    simp only [typeMembers, List.forall_mem_cons, List.not_mem_nil, false_implies, implies_true,
      and_true]
    cases credential <;> exact ⟨rfl, rfl, rfl⟩
  · exact .present given defined encoded rfl rfl rfl

theorem credential_of_ok {supplied : List Json} {found : Option (List CredentialAttribute)}
    (declares : Schema.declarations document = .ok declared)
    (reported : reportCredential document supplied = .ok found) (typed : Option TypeReport) :
    Credential declared (Report.mk url labels typed found).toJson supplied := by
  obtain ⟨rfl, rfl⟩ | ⟨attributes, given, rfl, converted⟩ :=
    reportCredential_eq_ok declares reported
  · refine .absent ?_
    cases typed <;> rfl
  · refine .present given ?_ converted
    cases typed <;> rfl

end ToJson

variable {network : Network} {disk : Disk} {machine : Machine} {inquiry : Inquiry}

theorem exists_url_of_loads {schema : Schema.Loaded}
    (loaded : Loads network disk machine inquiry schema) : ∃ url, inquiry.url = some url := by
  obtain ⟨bytes, ⟨loader, named, -⟩, -⟩ := loaded
  obtain ⟨-, named⟩ := loaderOf_eq_ok_iff.1 named
  cases given : inquiry.url with
  | none =>
    rw [given] at named
    cases named
  | some url => exact ⟨url, rfl⟩

theorem exists_describes {report : Report}
    (course : Course network disk machine inquiry (.ok report)) :
    ∃ url schema declared, inquiry.url = some url ∧ Loads network disk machine inquiry schema ∧
      Describes inquiry schema.content report.toJson declared := by
  cases course with
  | reported loaded labelled written typed converted =>
    obtain ⟨url, named⟩ := exists_url_of_loads loaded
    obtain ⟨declared, declares, labels⟩ := labels_of_ok labelled
    exact ⟨url, _, declared, named, loaded, Schema.at?_of_declarations declares, ⟨_, rfl, labels⟩,
      typed_of_ok _ _ typed _, credential_of_ok _ _ declares converted _⟩

/-! ## Events -/

def tellsProcessed (e : Log.Event) : Bool := ("Processed schema " : Text).isPrefixOf e.message

theorem filter_events_download (url : Text) (options : Members) :
    (Loader.download network url options).2.events.filter tellsProcessed = [] := by
  unfold Loader.download
  split
  · rfl
  · dsimp only
    split
    · rfl
    · rfl

theorem filter_events_load (loader : Loader) :
    (loader.load network disk).2.events.filter tellsProcessed = [] := by
  cases loader with
  | http url options => exact filter_events_download url options
  | ipfs url gateway options => exact filter_events_download _ options
  | file path =>
    rw [Loader.load]
    split
    · rfl
    · rfl

theorem filter_events_attempt :
    (attempt network disk machine inquiry).2.events.filter tellsProcessed = [] := by
  obtain idle | ⟨loader, told, -, activity⟩ := activity_attempt network disk machine inquiry
  · rw [idle]
    rfl
  · rw [activity, Activity.append, List.filter_append, filter_events_load]
    cases told <;> rfl

/-- **What an inspection reports and tells**, whatever the settings, the network, the files and the
machine.  A report describes the document that is loaded, and that it was processed is told once;
without a report it is not told. -/
theorem ofSettings_describes (network : Network) (disk : Disk) (settings : Settings)
    (machine : Machine) :
    (∀ report, (ofSettings network disk settings machine).1 = .ok report →
      ∃ url schema declared, settings.textOf? "schema.url" = some url ∧
        Loads network disk machine (.ofSettings settings machine) schema ∧
        Describes (.ofSettings settings machine) schema.content report.toJson declared ∧
        (ofSettings network disk settings machine).2.events.filter tellsProcessed =
          [⟨.info, .schemaCommand, "Processed schema " ++ url⟩]) ∧
    ∀ f, (ofSettings network disk settings machine).1 = .error f →
      (ofSettings network disk settings machine).2.events.filter tellsProcessed = [] := by
  constructor
  · intro report reported
    have course := run_eq_ok_iff.1 reported
    obtain ⟨url, schema, declared, named, loaded, describes⟩ := exists_describes course
    refine ⟨url, schema, declared, named, loaded, describes, ?_⟩
    rw [ofSettings, activity_run_of_ok (course_iff.1 course), Activity.append, List.filter_append,
      filter_events_attempt, named]
    rfl
  · intro f failed
    obtain ⟨cause, course, -⟩ := run_eq_error_iff.1 failed
    rw [ofSettings, activity_run_of_error (course_iff.1 course), filter_events_attempt]

def memberDocument : Bytes :=
  let context : Text := "\"$metadata\": \x7b\"uris\": \x7b\"jsonLdContext\": \"urn:member\"\x7d\x7d"
  let declared : Text := "\"member\": \x7b\"title\": \"\", \"type\": \"boolean\"\x7d, " ++
    "\"id\": \x7b\"title\": \"Subject\"\x7d, \"age\": \x7b\"type\": \"integer\"\x7d"
  Utf8.encodeAll ("\x7b" ++ context ++ ", \"properties\": \x7b\"credentialSubject\": " ++
    "\x7b\"properties\": \x7b" ++ declared ++ "\x7d\x7d\x7d\x7d")

/-- Settings that ask for a type and supply a member of no age. -/
def memberSettings : Settings :=
  ⟨[("schema.url", .json (.str localUrl)), ("schema.type", .json (.str "Member")),
    ("schema.attributes", .json (.arr [.obj [("name", .str "member"), ("value", .str "false")],
      .obj [("name", .str "age"), ("value", .str "0")]]))]⟩

/-- False and zero are reported, and that the schema was processed is told once; of no bytes at all
it is not told. -/
theorem ofSettings_describes_member :
    (∃ report schema declared,
      (ofSettings (answering memberDocument) .empty memberSettings).1 = .ok report ∧
      Describes (.ofSettings memberSettings {}) (Schema.Loaded.content schema) report.toJson
        declared ∧
      report.toJson.member? "credentialAttributes" =
        some (.arr [.obj [("name", .str "member"), ("value", .bool false)],
          .obj [("name", .str "age"), ("value", .int 0)]]) ∧
      (ofSettings (answering memberDocument) .empty memberSettings).2.events.filter tellsProcessed =
        [⟨.info, .schemaCommand, "Processed schema http://localhost/schema.json"⟩]) ∧
    ∃ f, (ofSettings (answering []) .empty memberSettings).1 = .error f ∧
      (ofSettings (answering []) .empty memberSettings).2.events.filter tellsProcessed = [] := by
  have converted : ((ofSettings (answering memberDocument) .empty memberSettings).1.toOption.map
      fun report => report.toJson.member? "credentialAttributes") =
        some (some (.arr [.obj [("name", .str "member"), ("value", .bool false)],
          .obj [("name", .str "age"), ("value", .int 0)]])) := by decide +kernel
  obtain ⟨describes, -⟩ := ofSettings_describes (answering memberDocument) .empty memberSettings {}
  obtain ⟨-, untold⟩ := ofSettings_describes (answering []) .empty memberSettings {}
  refine ⟨?_, _, rfl, untold _ rfl⟩
  cases result : (ofSettings (answering memberDocument) .empty memberSettings).1 with
  | error f =>
    rw [result] at converted
    cases converted
  | ok report =>
    rw [result] at converted
    obtain ⟨url, schema, declared, named, -, described, told⟩ := describes report result
    obtain rfl : localUrl = url := Option.some.inj named
    exact ⟨report, schema, declared, rfl, described, Option.some.inj converted, told⟩

end Issuer.Inspection
