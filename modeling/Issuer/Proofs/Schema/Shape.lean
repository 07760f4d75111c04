import Issuer.Proofs.Schema.Level
import Issuer.Proofs.Schema.Rule
import Issuer.Schema.Dialect
/-!
# The shape of a schema

What the rules of the six dialects say of the level that declares attributes, of the levels above it
and of its entries: they are what the attributes are read from, except that the subject and an entry
can also be true or false, and that a type can be a list (`isShaped_of_obeys`).
-/
namespace Issuer.Schema

/-- **An entry of a schema**: true or false, or an object whose title and format, if it has them,
are texts and whose type is a text or a list. -/
inductive IsEntry : Json → Prop where
  | boolean (b : Bool) : IsEntry (.bool b)
  | object {ms : Members} (title : ∀ v, ms.get? "title" = some v → ∃ t, v = .str t)
      (format : ∀ v, ms.get? "format" = some v → ∃ t, v = .str t)
      (type : ∀ v, ms.get? "type" = some v → (∃ t, v = .str t) ∨ ∃ items, v = .arr items) :
      IsEntry (.obj ms)

/-- **The shape of a document that is a schema**, as far as the declarations of attributes. -/
structure IsShaped (document : Json) : Prop where
  properties : ∀ v, document.at? ["properties"] = some v → ∃ ms, v = .obj ms
  subject : ∀ v, document.at? ["properties", "credentialSubject"] = some v →
    (∃ b, v = .bool b) ∨ ∃ ms, v = .obj ms
  declarations : ∀ v, document.at? declarationPath = some v → ∃ ms, v = .obj ms
  entries : ∀ ms : Members, document.at? declarationPath = some (.obj ms) → ∀ m ∈ ms, IsEntry m.2

/-! ## Keywords -/

namespace DialectName

def keyword? (n : DialectName) (name : Text) : Option Keyword :=
  n.dialect.keywords.find? fun k => k.name == name

theorem keyword?_properties : ∀ n, keyword? n "properties" = some ⟨"properties", Rule.schemaMap⟩
  | draft3 | draft4 | draft6 | draft7 | draft2019 | draft2020 => rfl

theorem keyword?_title : ∀ n, keyword? n "title" = some ⟨"title", Rule.string⟩
  | draft3 | draft4 | draft6 | draft7 | draft2019 | draft2020 => rfl

theorem keyword?_format : ∀ n, keyword? n "format" = some ⟨"format", Rule.string⟩
  | draft3 | draft4 | draft6 | draft7 | draft2019 | draft2020 => rfl

theorem keyword?_type : ∀ n, keyword? n "type" =
    some ⟨"type", if n = draft3 then draft3Types else Rule.types⟩
  | draft3 | draft4 | draft6 | draft7 | draft2019 | draft2020 => rfl

theorem types_subset : ∀ n : DialectName, n.dialect.types ⊆ [JsonType.object, .boolean]
  | draft3 | draft4 | draft6 | draft7 | draft2019 | draft2020 => by decide

end DialectName

/-! ## What the rules say -/

section Rules

variable {names : CharacterNames} {d : Dialect} {v : Json}

theorem holds_boolean_iff : JsonType.boolean.holds d v = true ↔ ∃ b, v = .bool b := by
  cases v <;> simp [JsonType.holds]

theorem holds_string_iff : JsonType.string.holds d v = true ↔ ∃ t, v = .str t := by
  cases v <;> simp [JsonType.holds]

theorem holds_array_iff : JsonType.array.holds d v = true ↔ ∃ items, v = .arr items := by
  cases v <;> simp [JsonType.holds]

theorem holds_object_iff : JsonType.object.holds d v = true ↔ ∃ ms, v = .obj ms := by
  cases v <;> simp [JsonType.holds]

theorem exists_holds_of_type {allowed : List JsonType} {rules : List Rule}
    (h : ObeysAll names d v (.type allowed :: rules)) : ∃ t ∈ allowed, t.holds d v = true :=
  obeys_type_iff.1 (h _ List.mem_cons_self)

theorem holds_of_type {t : JsonType} {rules : List Rule}
    (h : ObeysAll names d v (.type [t] :: rules)) : t.holds d v = true := by
  obtain ⟨u, hu, hv⟩ := exists_holds_of_type h
  exact List.mem_singleton.1 hu ▸ hv

theorem schemas_of_schemaMap (h : ObeysAll names d v Rule.schemaMap) :
    ∃ ms : Members, v = .obj ms ∧ ∀ m ∈ ms, Obeys names d m.2 .schema := by
  obtain ⟨ms, rfl⟩ := holds_object_iff.1 (holds_of_type h)
  have members : Obeys names d (.obj ms) (.members [.schema]) :=
    h _ (List.mem_cons_of_mem _ List.mem_cons_self)
  exact ⟨ms, rfl, fun m hm => obeys_members_iff.1 members m hm _ List.mem_cons_self⟩

theorem isTextOrList_of_draft3Types (h : ObeysAll names d v draft3Types) :
    (∃ t, v = .str t) ∨ ∃ items, v = .arr items := by
  obtain ⟨t, ht, hv⟩ := exists_holds_of_type h
  simp only [List.mem_cons, List.not_mem_nil, or_false] at ht
  rcases ht with rfl | rfl
  · exact .inl (holds_string_iff.1 hv)
  · exact .inr (holds_array_iff.1 hv)

theorem isTextOrList_of_types (h : ObeysAll names d v Rule.types) :
    (∃ t, v = .str t) ∨ ∃ items, v = .arr items := by
  obtain named | listed := ObeysAll.of_either (h _ List.mem_cons_self)
  · obtain ⟨t, -, rfl⟩ := obeys_among_iff.1 (named _ List.mem_cons_self)
    exact .inl ⟨t, rfl⟩
  · exact .inr (holds_array_iff.1 (holds_of_type listed))

end Rules

/-! ## Schemas -/

section Schemas

variable {names : CharacterNames} {n : DialectName} {v : Json} {ms : Members}

theorem obeysAll_of_keyword? {name : Text} {keyword : Keyword}
    (h : Obeys names n.dialect (.obj ms) .schema) (hk : n.keyword? name = some keyword)
    (hv : ms.get? name = some v) :
    ObeysAll names n.dialect v keyword.rules := by
  have named : keyword.name = name := by simpa using List.find?_some hk
  exact obeysAll_of_keyword h (List.mem_of_find?_eq_some hk) (named ▸ hv)

theorem bool_or_obj_of_obeys (h : Obeys names n.dialect v .schema) :
    (∃ b, v = .bool b) ∨ ∃ ms, v = .obj ms := by
  obtain ⟨t, ht, hv⟩ := holds_of_obeys_schema h
  have ht := n.types_subset ht
  simp only [List.mem_cons, List.not_mem_nil, or_false] at ht
  rcases ht with rfl | rfl
  · exact .inr (holds_object_iff.1 hv)
  · exact .inl (holds_boolean_iff.1 hv)

theorem isEntry_of_obeys (h : Obeys names n.dialect v .schema) : IsEntry v := by
  obtain ⟨b, rfl⟩ | ⟨ms, rfl⟩ := bool_or_obj_of_obeys h
  · exact .boolean b
  · refine .object (fun w hw => ?_) (fun w hw => ?_) fun w hw => ?_
    · exact holds_string_iff.1 (holds_of_type (obeysAll_of_keyword? h n.keyword?_title hw))
    · exact holds_string_iff.1 (holds_of_type (obeysAll_of_keyword? h n.keyword?_format hw))
    · have obeys := obeysAll_of_keyword? h n.keyword?_type hw
      dsimp only at obeys
      split at obeys
      · exact isTextOrList_of_draft3Types obeys
      · exact isTextOrList_of_types obeys

/-! ## Paths -/

variable {w : Json} {key : Text} {rest : List Text}

theorem reached_of_properties (h : Obeys names n.dialect v .schema)
    (hw : v.at? ("properties" :: rest) = some w) :
    ∃ ps : Members,
      (∀ m ∈ ps, Obeys names n.dialect m.2 .schema) ∧ (Json.obj ps).at? rest = some w := by
  obtain ⟨u, hu, hw⟩ := Option.bind_eq_some_iff.1 hw
  obtain ⟨b, rfl⟩ | ⟨ms, rfl⟩ := bool_or_obj_of_obeys h
  · cases hu
  · obtain ⟨ps, rfl, each⟩ := schemas_of_schemaMap (obeysAll_of_keyword? h n.keyword?_properties hu)
    exact ⟨ps, each, hw⟩

theorem reached_of_member (each : ∀ m ∈ ms, Obeys names n.dialect m.2 .schema)
    (hw : (Json.obj ms).at? (key :: rest) = some w) :
    ∃ u, Obeys names n.dialect u .schema ∧ u.at? rest = some w := by
  obtain ⟨u, hu, hw⟩ := Option.bind_eq_some_iff.1 hw
  exact ⟨u, each _ (Members.mem_of_get? hu), hw⟩

theorem schemas_of_declarationPath (h : Obeys names n.dialect v .schema)
    (hw : v.at? declarationPath = some w) :
    ∃ ps : Members, w = .obj ps ∧ ∀ m ∈ ps, Obeys names n.dialect m.2 .schema := by
  -- one step for each key of the path
  obtain ⟨ps, each, hw⟩ := reached_of_properties h hw
  obtain ⟨u, hu, hw⟩ := reached_of_member each hw
  obtain ⟨qs, each, ⟨⟩⟩ := reached_of_properties hu hw
  exact ⟨qs, rfl, each⟩

theorem isShaped_of_obeys (h : Obeys names n.dialect v .schema) : IsShaped v where
  properties w hw := by
    obtain ⟨ps, -, ⟨⟩⟩ := reached_of_properties h hw
    exact ⟨ps, rfl⟩
  subject w hw := by
    obtain ⟨ps, each, hw⟩ := reached_of_properties h hw
    obtain ⟨u, hu, ⟨⟩⟩ := reached_of_member each hw
    exact bool_or_obj_of_obeys hu
  declarations w hw := by
    obtain ⟨ps, rfl, -⟩ := schemas_of_declarationPath h hw
    exact ⟨ps, rfl⟩
  entries ms hms m hm := by
    obtain ⟨ps, ⟨⟩, each⟩ := schemas_of_declarationPath h hms
    exact isEntry_of_obeys (each m hm)

end Schemas

end Issuer.Schema
