import Issuer.Proofs.Except
import Issuer.Proofs.Schema.Entry
import Issuer.Proofs.Schema.Load
import Issuer.Proofs.Schema.Shape
/-!
# Flaws of a schema

A document that is loaded is a schema of its dialect, so little can keep its attributes from being
told: a level that is absent, a subject or an entry that is true or false, or a type that is a list
(`flaw_of_load`).
-/
namespace Issuer.Schema

variable {document : Json}

/-- **Why the attributes of a schema cannot be told.** -/
inductive Flaw (document : Json) : Problem → Prop where
  | absent {before after : List Text} {key : Text} {parent : Members}
      (path : declarationPath = before ++ key :: after)
      (reached : document.at? before = some (.obj parent)) (missing : parent.get? key = none) :
      Flaw document (.level (before ++ [key]))
  | subject {b : Bool}
      (found : document.at? ["properties", "credentialSubject"] = some (.bool b)) :
      Flaw document (.level ["properties", "credentialSubject"])
  | entry {ms : Members} {key : Text} {b : Bool}
      (declared : document.at? declarationPath = some (.obj ms)) (found : (key, .bool b) ∈ ms) :
      Flaw document (.entry key none)
  | type {ms entry : Members} {key : Text} {items : List Json}
      (declared : document.at? declarationPath = some (.obj ms)) (found : (key, .obj entry) ∈ ms)
      (listed : entry.get? "type" = some (.arr items)) :
      Flaw document (.entry key (some (.fields [("type", .notText)])))

/-! ## Levels -/

theorem flaw_of_declarations {ms : Members} {path : List Text} (shaped : IsShaped (.obj ms))
    (h : declarations (.obj ms) = .error path) : Flaw (.obj ms) (.level path) := by
  obtain ⟨before, key, after, parent, hpath, rfl, reached, stopped⟩ := stopped_of_declarations h
  cases found : parent.get? key with
  | none => exact .absent hpath reached found
  | some v =>
    have at_key : (Json.obj ms).at? (before ++ [key]) = some v := by
      rw [Json.at?_append, reached, Option.bind_some, Json.at?, Json.member?, found]
      rfl
    have hv := stopped v found
    -- the three levels, by how many keys come before
    rcases before with _ | ⟨_, _ | ⟨_, _ | ⟨_, _⟩⟩⟩
    · cases hpath
      obtain ⟨_, rfl⟩ := shaped.properties v at_key
      cases hv
    · cases hpath
      obtain ⟨b, rfl⟩ | ⟨_, rfl⟩ := shaped.subject v at_key
      · exact .subject at_key
      · cases hv
    · cases hpath
      obtain ⟨_, rfl⟩ := shaped.declarations v at_key
      cases hv
    · simp [declarationPath] at hpath

/-! ## Entries -/

theorem problem?_of_optionalText? {member : Option Json} (name : Text)
    (h : ∃ t, optionalText? member = some t) :
    (⟨name, .text, false, true⟩ : Record.Field).problem? member = none := by
  simpa [Record.Field.problem?_eq_none_iff] using exists_optionalText?_iff.1 h

theorem readAttribute_of_typeList {key : Text} {ms : Members} {items : List Json}
    (title : ∃ t, optionalText? (ms.get? "title") = some t)
    (format : ∃ t, optionalText? (ms.get? "format") = some t)
    (listed : ms.get? "type" = some (.arr items)) :
    readAttribute key (.obj ms) = .error (.entry key (some (.fields [("type", .notText)]))) := by
  have problems : (Attribute.fields.filterMap fun f => (f.problem? (Members.get?
      (Members.set "id" (.str key) ms) f.name)).map (f.name, ·)) =
      ([("type", .notText)] : List (Text × Record.FieldProblem)) := by
    simp only [Attribute.fields, List.filterMap_cons, List.filterMap_nil, Members.get?_set,
      get?_set_id key ms (by decide : ("id" : Text) ≠ "title"),
      get?_set_id key ms (by decide : ("id" : Text) ≠ "type"),
      get?_set_id key ms (by decide : ("id" : Text) ≠ "format"),
      problem?_of_optionalText? "title" title, problem?_of_optionalText? "format" format, listed]
    rfl
  simp only [readAttribute, Attribute.ofJson, Record.read, problems]
  rfl

theorem exists_readAttribute {key : Text} {ms : Members}
    (title : ∃ t, optionalText? (ms.get? "title") = some t)
    (type : ∃ t, optionalText? (ms.get? "type") = some t)
    (format : ∃ t, optionalText? (ms.get? "format") = some t) :
    ∃ a, readAttribute key (.obj ms) = .ok a := by
  obtain ⟨title, htitle⟩ := title
  obtain ⟨type, htype⟩ := type
  obtain ⟨format, hformat⟩ := format
  have described : describe? (.obj ms) = some ⟨title, type, format⟩ :=
    describe?_obj_eq_some_iff.2 ⟨htitle, htype, hformat⟩
  exact ⟨_, readAttribute_eq_ok_iff.2 ⟨_, described, rfl⟩⟩

theorem flaw_of_readAttribute {ms : Members} {key : Text} {v : Json} {p : Problem}
    (declared : document.at? declarationPath = some (.obj ms)) (found : (key, v) ∈ ms)
    (shaped : IsEntry v) (h : readAttribute key v = .error p) : Flaw document p := by
  cases shaped with
  | boolean b =>
    cases h
    exact .entry declared found
  | @object entry title format type =>
    have hasTitle := optionalText?_of_isText title
    have hasFormat := optionalText?_of_isText format
    by_cases listed : ∃ items, entry.get? "type" = some (.arr items)
    · obtain ⟨items, listed⟩ := listed
      cases (readAttribute_of_typeList hasTitle hasFormat listed).symm.trans h
      exact .type declared found listed
    · -- the type is a text or absent, so there is nothing to refuse
      have hasType := optionalText?_of_isText fun w hw =>
        (type w hw).resolve_right fun ⟨items, hitems⟩ => listed ⟨items, hitems ▸ hw⟩
      obtain ⟨a, read⟩ : ∃ a, readAttribute key (.obj entry) = .ok a :=
        exists_readAttribute hasTitle hasType hasFormat
      cases read.symm.trans h

/-- **The attributes of a document of the shape of a schema** cannot be told only for a flaw. -/
theorem flaw_of_attributes {ms : Members} {p : Problem} (shaped : IsShaped (.obj ms))
    (h : attributes (.obj ms) = .error p) : Flaw (.obj ms) p := by
  cases declared : declarations (.obj ms) with
  | error path =>
    unfold attributes at h
    unfold declarations at declared
    rw [declared] at h
    cases h
    exact flaw_of_declarations shaped declared
  | ok entries =>
    have at_entries := at?_of_declarations declared
    unfold attributes at h
    unfold declarations at declared
    rw [declared] at h
    obtain ⟨⟨key, v⟩, found, refused⟩ := exists_error_of_mapM h
    exact flaw_of_readAttribute at_entries found (shaped.entries entries at_entries _ found) refused

/-! ## Schemas that are loaded -/

/-- **The dialect that a document selects**: the one that it names, or the latest if it names none
or one that is not known. -/
inductive Selects (ms : Members) : DialectName → Prop where
  | named {text : Text} {url : Url} {n : DialectName}
      (given : ms.get? "$schema" = some (.str text)) (read : Url.split text = .ok url)
      (known : (url.toText, n) ∈ DialectName.urls) : Selects ms n
  | unknown {text : Text} {url : Url} (given : ms.get? "$schema" = some (.str text))
      (read : Url.split text = .ok url) (unknown : ∀ n, (url.toText, n) ∉ DialectName.urls) :
      Selects ms .draft2020
  | absent (missing : ms.get? "$schema" = none) : Selects ms .draft2020

theorem selects_of_dialectOf {ms : Members} {n : DialectName} (h : dialectOf ms = .ok n) :
    Selects ms n := by
  unfold dialectOf at h
  split at h
  · rename_i missing
    cases h
    exact .absent missing
  · rename_i text given
    obtain ⟨url, read, h⟩ := bind_eq_ok_iff.1 (mapError_eq_ok_iff.1 h)
    cases h
    cases listed : DialectName.urls.lookup url.toText with
    | some n =>
      obtain ⟨before, after, hurls, -⟩ := List.lookup_eq_some_iff.1 listed
      exact .named given read (hurls ▸ List.mem_append_right _ List.mem_cons_self)
    | none =>
      refine .unknown given read fun n known => ?_
      simpa using List.lookup_eq_none_iff.1 listed _ known
  · cases h

theorem obeys_of_load {bytes : Bytes} {m : Machine} {s : Loaded} (h : load bytes m = .ok s) :
    ∃ ms : Members, Json.ofBytes bytes = .ok (.obj ms) ∧ s.content = .obj ms ∧
      Selects ms s.dialect ∧ Obeys m.names s.dialect.dialect (.obj ms) .schema := by
  obtain ⟨v, read, h⟩ := bind_eq_ok_iff.1 h
  cases v with
  | obj ms =>
    obtain ⟨n, selected, h⟩ := bind_eq_ok_iff.1 h
    split at h
    · cases h
    · rename_i valid
      cases h
      exact ⟨ms, mapError_eq_ok_iff.1 read, rfl, selects_of_dialectOf selected,
        violation?_eq_none_iff.1 valid⟩
  | null | bool | int | float | str | arr => cases h

/-- **What keeps the attributes of a loaded schema from being told.**  The document selects its
dialect and has the shape of a schema, so no level is mistyped but for a subject that is true or
false, no title or format is other than a text, and no type is other than a text or a list.  Its
attributes cannot be told only for a level that is absent, a subject or an entry that is true or
false, or a type that is a list.  So it is on every machine. -/
theorem flaw_of_load (bytes : Bytes) (m : Machine) (s : Loaded) (h : load bytes m = .ok s) :
    (∃ ms : Members, s.content = .obj ms ∧ Selects ms s.dialect) ∧ IsShaped s.content ∧
      ∀ p, attributes s.content = .error p → Flaw s.content p ∧ p.Told := by
  obtain ⟨ms, -, content, selected, obeys⟩ := obeys_of_load h
  have shaped := isShaped_of_obeys obeys
  rw [content]
  exact ⟨⟨ms, rfl, selected⟩, shaped, fun p refused => ⟨flaw_of_attributes shaped refused, p.told⟩⟩

/-- The bytes of a schema of draft 7 that declares an age of two types. -/
def twoTypes : Bytes :=
  let declared : Text := "\x7b\"age\": \x7b\"type\": [\"integer\", \"null\"]\x7d\x7d"
  Utf8.encodeAll ("\x7b\"$schema\": \"http://json-schema.org/draft-07/schema#\", " ++
    "\"properties\": \x7b\"credentialSubject\": \x7b\"properties\": " ++ declared ++ "\x7d\x7d\x7d")

def twoTypesSchema : Loaded where
  content := .obj [("$schema", .str "http://json-schema.org/draft-07/schema#"),
    ("properties", .obj [("credentialSubject", .obj [("properties", .obj [
      ("age", .obj [("type", .arr [.str "integer", .str "null"])])])])])]
  dialect := .draft7

theorem load_twoTypes : load twoTypes = .ok twoTypesSchema := by
  have read : (load twoTypes).toOption.map (fun s => (s.content, s.dialect)) =
      some (twoTypesSchema.content, twoTypesSchema.dialect) := by decide +kernel
  cases h : load twoTypes with
  | error p => simp [h, Except.toOption] at read
  | ok s =>
    rw [h] at read
    cases s
    simp only [Except.toOption, Option.map_some, Option.some.injEq, Prod.mk.injEq] at read
    obtain ⟨rfl, rfl⟩ := read
    rfl

/-- A list of types passes the rules of its dialect, and the attribute cannot be told for it. -/
theorem flaw_of_load_twoTypes : load twoTypes = .ok twoTypesSchema ∧
    Flaw twoTypesSchema.content (.entry "age" (some (.fields [("type", .notText)]))) := by
  obtain ⟨-, -, flawed⟩ := flaw_of_load twoTypes {} twoTypesSchema load_twoTypes
  exact ⟨load_twoTypes, (flawed _ rfl).1⟩

end Issuer.Schema
