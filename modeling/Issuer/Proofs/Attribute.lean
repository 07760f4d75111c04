import Issuer.Proofs.Inspection.Supplied
import Issuer.Proofs.Record.Faithful
import Issuer.Proofs.Schema.Entry
/-!
# Attributes that are read and written

Attributes of a schema and attributes of a credential are read and written faithfully
(`attributes_faithful`).  They differ in what they accept: a schema's attribute may lack each of its
fields and only its id may not be null, a credential's attribute has both of its fields.
-/
namespace Issuer

/-! ## Attributes of a schema -/

namespace Attribute

open Schema (optionalText?)

/-- **What is accepted as an attribute of a schema**: an id that is a text, if it is there, and
other fields that are texts or null. -/
structure Admits (ms : Members) : Prop where
  id : ∀ v, ms.get? "id" = some v → ∃ t, v = .str t
  title : ∃ t, optionalText? (ms.get? "title") = some t
  type : ∃ t, optionalText? (ms.get? "type") = some t
  format : ∃ t, optionalText? (ms.get? "format") = some t

theorem admits_iff {ms : Members} :
    (∀ f ∈ fields, f.problem? (ms.get? f.name) = none) ↔ Admits ms := by
  have text : (∀ v, ms.get? "id" = some v → ∃ t, v = .str t) ↔
      ms.get? "id" = none ∨ ∃ t, ms.get? "id" = some (.str t) := by
    cases ms.get? "id" <;> simp
  have parts : Admits ms ↔ (∀ v, ms.get? "id" = some v → ∃ t, v = .str t) ∧
      (∃ t, optionalText? (ms.get? "title") = some t) ∧
      (∃ t, optionalText? (ms.get? "type") = some t) ∧
      ∃ t, optionalText? (ms.get? "format") = some t :=
    ⟨fun ⟨hid, htitle, htype, hformat⟩ => ⟨hid, htitle, htype, hformat⟩,
      fun ⟨hid, htitle, htype, hformat⟩ => ⟨hid, htitle, htype, hformat⟩⟩
  rw [parts, text]
  simp [fields, Record.Field.problem?_eq_none_iff, Schema.exists_optionalText?_iff]

theorem given?_of_optionalText? {member : Option Json} {t : Option Text}
    (h : optionalText? member = some t) : Json.given? member = t.map .str := by
  cases t with
  | none => obtain rfl | rfl := Schema.optionalText?_eq_some_none_iff.1 h <;> rfl
  | some t =>
    rw [Schema.optionalText?_eq_some_some_iff.1 h]
    rfl

theorem given?_ofText?_bind {member : Option Json} (h : ∃ t, optionalText? member = some t) :
    Json.given? (some (.ofText? (member.bind Json.text?))) = Json.given? member := by
  obtain ⟨t, ht⟩ := h
  rw [Schema.bind_text?_of_optionalText? ht, given?_of_optionalText? ht, Json.given?_ofText?]

theorem optionalText?_map_str (t : Option Text) : optionalText? (t.map .str) = some t := by
  cases t <;> rfl

theorem isText_of_ofText? {t : Option Text} {v : Json} (h : some (Json.ofText? t) = some v) :
    v = .null ∨ ∃ t, v = .str t := by
  cases h
  cases t with
  | none => exact .inl rfl
  | some t => exact .inr ⟨t, rfl⟩

theorem ofMembers_of_isRestriction {a : Attribute} {kept : Members}
    (h : Record.IsRestriction fields a.toMembers kept) : Admits kept ∧ ofMembers kept = a := by
  have hsame := h.same
  simp only [fields, List.forall_mem_cons] at hsame
  obtain ⟨hid, htitle, htype, hformat, -⟩ := hsame
  replace hid : kept.get? "id" = a.id.map .str := hid.trans (Json.given?_ofText? _)
  replace htitle : kept.get? "title" = a.title.map .str := htitle.trans (Json.given?_ofText? _)
  replace htype : kept.get? "type" = a.type.map .str := htype.trans (Json.given?_ofText? _)
  replace hformat : kept.get? "format" = a.format.map .str := hformat.trans (Json.given?_ofText? _)
  constructor
  · refine ⟨fun v hv => ?_, ⟨_, htitle ▸ optionalText?_map_str _⟩,
      ⟨_, htype ▸ optionalText?_map_str _⟩, _, hformat ▸ optionalText?_map_str _⟩
    obtain ⟨t, -, rfl⟩ := Option.map_eq_some_iff.1 (hid.symm.trans hv)
    exact ⟨t, rfl⟩
  · simp only [ofMembers, hid, htitle, htype, hformat,
      Schema.bind_text?_of_optionalText? (optionalText?_map_str _)]

theorem faithful : Record.Faithful owner fields ofJson toJson (fun _ => True) Admits := by
  refine Record.faithful_of_fields (by decide) Schema.isToldBy_ofMembers (fun a => ?_)
    (fun ms hfields => ?_) (fun a _ kept hkept => ?_) (fun ms => admits_iff)
  · simp only [Record.ArePlain, fields, List.forall_mem_cons]
    exact ⟨fun _ _ => isText_of_ofText?, fun _ _ => isText_of_ofText?,
      fun _ _ => isText_of_ofText?, fun _ _ => isText_of_ofText?, List.forall_mem_nil _⟩
  · have hms := admits_iff.1 hfields
    have hid := Schema.optionalText?_of_isText hms.id
    simp only [fields, List.forall_mem_cons]
    exact ⟨given?_ofText?_bind hid, given?_ofText?_bind hms.title, given?_ofText?_bind hms.type,
      given?_ofText?_bind hms.format, List.forall_mem_nil _⟩
  · obtain ⟨hadmits, hmake⟩ := ofMembers_of_isRestriction hkept
    exact ⟨admits_iff.2 hadmits, hmake⟩

end Attribute

/-! ## Attributes of a credential -/

namespace CredentialAttribute

/-- **What is accepted as an attribute of a credential**: a name that is a text and a value that is
not null. -/
structure Admits (ms : Members) : Prop where
  name : ∃ name, ms.get? "name" = some (.str name)
  value : ∃ value, ms.get? "value" = some value ∧ value ≠ .null

structure IsComplete (a : CredentialAttribute) : Prop where
  name : ∃ name, a.name = some name
  value : a.value ≠ .null

theorem admits_iff {ms : Members} :
    (∀ f ∈ fields, f.problem? (ms.get? f.name) = none) ↔ Admits ms := by
  rw [Inspection.forall_problem?_eq_none_iff]
  constructor
  · rintro ⟨hname, hvalue⟩
    exact ⟨hname, hvalue⟩
  · rintro ⟨hname, hvalue⟩
    exact ⟨hname, hvalue⟩

theorem ofMembers_of_isRestriction {a : CredentialAttribute} {kept : Members} (ha : IsComplete a)
    (h : Record.IsRestriction fields a.toMembers kept) : Admits kept ∧ ofMembers kept = a := by
  have hsame := h.same
  simp only [fields, List.forall_mem_cons] at hsame
  obtain ⟨hname, hvalue, -⟩ := hsame
  obtain ⟨_ | t, value⟩ := a
  · obtain ⟨t, ht⟩ := ha.name
    cases ht
  · replace hname : kept.get? "name" = some (.str t) := hname
    replace hvalue : kept.get? "value" = some value :=
      hvalue.trans (Json.given?_of_ne_null ha.value)
    refine ⟨⟨⟨t, hname⟩, value, hvalue, ha.value⟩, ?_⟩
    rw [ofMembers, hname, hvalue]
    rfl

theorem faithful : Record.Faithful owner fields ofJson toJson IsComplete Admits := by
  refine Record.faithful_of_fields (by decide) Inspection.isToldBy_ofMembers
    (fun a => ?_) (fun ms hfields => ?_) (fun a ha kept hkept => ?_) (fun ms => admits_iff)
  · simp only [Record.ArePlain, fields, List.forall_mem_cons]
    refine ⟨fun _ _ => Attribute.isText_of_ofText?, fun kind => ?_, List.forall_mem_nil _⟩
    cases kind
  · obtain ⟨⟨name, hname⟩, value, hvalue, given⟩ := admits_iff.1 hfields
    simp only [fields, List.forall_mem_cons, ofMembers, hname, hvalue]
    exact ⟨rfl, rfl, List.forall_mem_nil _⟩
  · obtain ⟨hadmits, hmake⟩ := ofMembers_of_isRestriction ha hkept
    exact ⟨admits_iff.2 hadmits, hmake⟩

end CredentialAttribute

/-- **Attributes are read and written faithfully**, those of a schema and those of a credential. -/
theorem attributes_faithful :
    Record.Faithful Attribute.owner Attribute.fields Attribute.ofJson Attribute.toJson
      (fun _ => True) Attribute.Admits ∧
    Record.Faithful CredentialAttribute.owner CredentialAttribute.fields CredentialAttribute.ofJson
      CredentialAttribute.toJson CredentialAttribute.IsComplete CredentialAttribute.Admits :=
  ⟨Attribute.faithful, CredentialAttribute.faithful⟩

/-- Values that count as false come back, nulls and unknown members do not, and of an object that is
refused the fields are told in the order of the rules. -/
theorem attributes_faithful_falsy :
    (∀ v ∈ ([.bool false, .int 0, .str "", .arr []] : List Json), CredentialAttribute.ofJson
      (CredentialAttribute.toJson ⟨some "age", v⟩) = .ok ⟨some "age", v⟩) ∧
    (∃ kept, Attribute.toJson ⟨some "age", none, some "", none⟩ = .obj kept ∧
      Record.IsRestriction Attribute.fields
        [("unit", .str "year"), ("type", .str ""), ("title", .null), ("id", .str "age")] kept) ∧
    ∃ p, Attribute.ofJson (.obj [("type", .int 3), ("unit", .null), ("id", .null)]) = .error p ∧
      (p.failure Attribute.owner).Reports .model {} [.outside .invalidRecord
        (Json.obj [("id", .arr [.str "Field may not be null."]),
          ("type", .arr [.str "Not a valid string."])]).inspect] := by
  obtain ⟨hattribute, hcredential⟩ := attributes_faithful
  refine ⟨fun v hv => hcredential.back _ ⟨⟨_, rfl⟩, ?_⟩, hattribute.restricts _ _ rfl,
    ⟨_, rfl, Attribute.owner ++ " schema validation failed", rfl⟩⟩
  simp only [List.mem_cons, List.not_mem_nil, or_false] at hv
  rcases hv with rfl | rfl | rfl | rfl <;> nofun

end Issuer
