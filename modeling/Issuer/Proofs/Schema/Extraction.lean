import Issuer.Proofs.Conversion.Order
import Issuer.Proofs.Schema.Entry
import Issuer.Proofs.Schema.Level
/-!
# Extraction — the attributes that a document declares

The attributes of a document can be told exactly if every level on the way to their declarations is
an object and every entry says of its attribute what it may (`attributes_tells`).  There is one for
each entry, in order, whose id is the key.  Else what is told is the first level that is none, or
the first entry that says something else.
-/
namespace Issuer.Schema

variable {document : Json} {path : List Text}

/-! ## Levels -/

/-- A path leads to a level: an object. -/
def IsLevel (document : Json) (path : List Text) : Prop := ∃ ms, document.at? path = some (.obj ms)

/-- **The first level that is none** on the way to the declarations. -/
structure IsFirstMissing (document : Json) (path : List Text) : Prop where
  onTheWay : path <+: declarationPath
  nonempty : path ≠ []
  missing : ¬ IsLevel document path
  reached : ∀ shorter, shorter <+: path → shorter ≠ path → shorter ≠ [] → IsLevel document shorter

theorem IsLevel.of_prefix {shorter : List Text} (h : IsLevel document path)
    (way : shorter <+: path) : IsLevel document shorter := by
  obtain ⟨more, rfl⟩ := way
  obtain ⟨ms, hms⟩ := h
  rw [Json.at?_append] at hms
  obtain ⟨w, hw, hms⟩ := Option.bind_eq_some_iff.1 hms
  cases more with
  | nil =>
    obtain rfl := Option.some.inj hms
    exact ⟨ms, hw⟩
  | cons key rest =>
    cases w with
    | obj inner => exact ⟨inner, hw⟩
    | null | bool | int | float | str | arr => cases hms

/-- **Where the way to the declarations ends** is the first level that is none. -/
theorem isFirstMissing_of_declarations (h : declarations document = .error path) :
    IsFirstMissing document path := by
  cases document with
  | obj ms =>
    obtain ⟨before, key, after, parent, whole, rfl, reached, stopped⟩ := stopped_of_declarations h
    refine ⟨⟨after, by rw [whole, List.append_assoc]; rfl⟩, by simp, ?_, fun shorter way ne _ => ?_⟩
    · rintro ⟨inner, hinner⟩
      rw [Json.at?_append, reached, Option.bind_some, Json.at?, Json.member?] at hinner
      obtain ⟨w, hw, hinner⟩ := Option.bind_eq_some_iff.1 hinner
      obtain rfl := Option.some.inj hinner
      cases stopped _ hw
    · have way := (List.prefix_concat_iff.1 way).resolve_left ne
      exact IsLevel.of_prefix ⟨parent, reached⟩ way
  | null | bool | int | float | str | arr =>
    -- there is no way into what is no object
    obtain rfl := Except.error.inj h
    refine ⟨⟨_, rfl⟩, by simp, ?_, fun shorter way ne given => ?_⟩
    · rintro ⟨inner, hinner⟩
      cases hinner
    · have top : shorter = [] ++ _ ∨ shorter <+: [] := List.prefix_concat_iff.1 way
      exact absurd (List.prefix_nil.1 (top.resolve_left ne)) given

/-! ## Entries -/

/-- An entry yields an attribute: the id is its key, and the rest is what it says. -/
def Yields (entry : Text × Json) (a : Attribute) : Prop :=
  ∃ said, describe? entry.2 = some said ∧ a = said.attribute entry.1

theorem yields_iff_readAttribute {entry : Text × Json} {a : Attribute} :
    Yields entry a ↔ readAttribute entry.1 entry.2 = .ok a :=
  readAttribute_eq_ok_iff.symm

theorem refused_of_readAttribute {key : Text} {v : Json} {p : Problem}
    (h : readAttribute key v = .error p) :
    describe? v = none ∧ ∃ cause, p = .entry key cause ∧ cause.isSome = v.isObject := by
  refine ⟨?_, ?_⟩
  · cases said : describe? v with
    | none => rfl
    | some d => cases h.symm.trans (readAttribute_eq_ok_iff.2 ⟨d, said, rfl⟩)
  · cases v with
    | obj ms =>
      unfold readAttribute at h
      dsimp only at h
      split at h
      · cases h
      · exact ⟨_, (Except.error.inj h).symm, rfl⟩
    | null | bool | int | float | str | arr => exact ⟨none, (Except.error.inj h).symm, rfl⟩

/-! ## Documents -/

/-- **What comes first in the way of telling a document's attributes.** -/
inductive FirstObstacle (document : Json) : Problem → Prop where
  /-- A level is none. -/
  | level {path : List Text} (first : IsFirstMissing document path) :
    FirstObstacle document (.level path)
  /-- An entry does not say what it may.  It is told by its key; its fields are the cause if it has
  any. -/
  | entry {before after : Members} {key : Text} {v : Json} {cause : Option Record.Problem}
      (declared : document.at? declarationPath = some (.obj (before ++ (key, v) :: after)))
      (described : ∀ m ∈ before, ∃ said, describe? m.2 = some said)
      (undescribed : describe? v = none) (caused : cause.isSome = v.isObject) :
    FirstObstacle document (.entry key cause)

/-- How a problem is told: a level by its path, an entry by its key and with the cause. -/
def Problem.ToldWithCause : Problem → Prop
  | level path =>
    (Problem.level path).failure.Reports .schemaStructure { path := .str (Text.join "." path) } []
  | entry key cause =>
    (Problem.entry key cause).failure.Reports .attributeDecoding { key := .str key }
      (cause.map fun fields => Fault.outside .invalidRecord fields.message).toList

theorem Problem.toldWithCause : ∀ p : Problem, p.ToldWithCause
  | level _ => ⟨_, rfl⟩
  | entry _ _ => ⟨_, rfl⟩

theorem firstObstacle_of_attributes {p : Problem} (h : attributes document = .error p) :
    FirstObstacle document p := by
  cases hms : declarations document with
  | error path =>
    have stopped : attributes document = .error (.level path) := by
      unfold declarations at hms
      rw [attributes, hms]
    cases stopped.symm.trans h
    exact .level (isFirstMissing_of_declarations hms)
  | ok ms =>
    have read : ms.mapM (fun m => readAttribute m.1 m.2) = .error p := by
      unfold declarations at hms
      rwa [attributes, hms] at h
    obtain ⟨before, ⟨key, v⟩, after, rfl, described, refused⟩ := exists_first_error_of_mapM read
    obtain ⟨undescribed, cause, rfl, caused⟩ := refused_of_readAttribute refused
    refine .entry (at?_of_declarations hms) (fun m hm => ?_) undescribed caused
    obtain ⟨a, ha⟩ := described m hm
    obtain ⟨said, hsaid, -⟩ := yields_iff_readAttribute.2 ha
    exact ⟨said, hsaid⟩

theorem forall₂_declares_of_attributes {declared : List Attribute}
    (h : attributes document = .ok declared) :
    ∃ ms, document.at? declarationPath = some (.obj ms) ∧ List.Forall₂ Yields ms declared := by
  obtain ⟨ms, hms, read⟩ := forall₂_of_attributes_eq_ok h
  exact ⟨ms, at?_of_declarations hms, read.imp fun _ _ => yields_iff_readAttribute.2⟩

theorem exists_attributes_of_described (levels : IsLevel document declarationPath)
    (described : ∀ ms, document.at? declarationPath = some (.obj ms) →
      ∀ m ∈ ms, ∃ said, describe? m.2 = some said) :
    ∃ declared, attributes document = .ok declared := by
  cases hms : declarations document with
  | error path =>
    have first := isFirstMissing_of_declarations hms
    exact absurd (levels.of_prefix first.onTheWay) first.missing
  | ok ms =>
    refine exists_attributes hms fun m hm => ?_
    obtain ⟨said, hsaid⟩ := described ms (at?_of_declarations hms) m hm
    exact ⟨_, readAttribute_eq_ok_iff.2 ⟨said, hsaid, rfl⟩⟩

theorem exists_labels_of_declares {ms : Members} {declared : List Attribute}
    (h : List.Forall₂ Yields ms declared) : ∃ labels, Attribute.labels? declared = some labels := by
  refine ⟨_, Attribute.labels?_of_ids fun a ha => ?_⟩
  obtain ⟨m, -, said, -, rfl⟩ := exists_of_forall₂ h.flip ha
  exact Option.some_ne_none m.1

/-- **What is told of a document's attributes.**  They can be told exactly if every level on the way
to their declarations is an object and every entry says what it may.  There is one for each entry,
in order, with its key for the id; no id repeats, and each has a label.  Else the first level that
is none is told, or the first entry that says something else. -/
theorem attributes_tells (document : Json) :
    ((∃ declared, attributes document = .ok declared) ↔
      (∀ path, path <+: declarationPath → path ≠ [] → IsLevel document path) ∧
      ∀ ms, document.at? declarationPath = some (.obj ms) →
        ∀ m ∈ ms, ∃ said, describe? m.2 = some said) ∧
    (∀ declared, attributes document = .ok declared →
      (∃ ms, document.at? declarationPath = some (.obj ms) ∧ List.Forall₂ Yields ms declared) ∧
      (document.HasDistinctKeys → (declared.map Attribute.id).Nodup) ∧
      ∃ labels, Attribute.labels? declared = some labels) ∧
    ∀ p, attributes document = .error p → FirstObstacle document p ∧ p.ToldWithCause := by
  refine ⟨⟨?_, ?_⟩, fun declared h => ?_, fun p h => ?_⟩
  · rintro ⟨declared, h⟩
    obtain ⟨ms, hms, each⟩ := forall₂_declares_of_attributes h
    refine ⟨fun path way _ => IsLevel.of_prefix ⟨ms, hms⟩ way, fun ns hns m hm => ?_⟩
    obtain rfl := Json.obj.inj (Option.some.inj (hms.symm.trans hns))
    obtain ⟨a, -, said, hsaid, -⟩ := exists_of_forall₂ each hm
    exact ⟨said, hsaid⟩
  · rintro ⟨levels, described⟩
    exact exists_attributes_of_described (levels _ (List.prefix_refl _) (by decide)) described
  · obtain ⟨ms, hms, each⟩ := forall₂_declares_of_attributes h
    exact ⟨⟨ms, hms, each⟩, fun hkeys => nodup_ids_of_hasDistinctKeys hkeys h,
      exists_labels_of_declares each⟩
  · exact ⟨firstObstacle_of_attributes h, p.toldWithCause⟩

def documentOf (declarations : Members) : Json :=
  .obj [("properties", .obj [("credentialSubject", .obj [("properties", .obj declarations)])])]

/-- The entry of an age, with an id and a title that do not count and a note besides. -/
def ageEntry : Text × Json :=
  ("age", .obj [("id", .str "years"), ("title", .null), ("type", .str "integer"), ("note", .int 7)])

/-- The age of a document is declared; a title that is no text is told before an entry that is no
object, and with the fields as the cause. -/
theorem attributes_tells_age :
    (documentOf [ageEntry]).HasDistinctKeys ∧
    (∃ declared, attributes (documentOf [ageEntry]) = .ok declared ∧
      declared.map Attribute.id = [some ("age" : Text)] ∧ (declared.map Attribute.id).Nodup) ∧
    ∃ key cause, attributes (documentOf [ageEntry, ("size", .obj [("title", .int 5)]),
        ("name", .str "string")]) = .error (.entry key (some cause)) ∧
      key = "size" ∧ (Problem.entry key (some cause)).ToldWithCause := by
  have entry : ageEntry.2.HasDistinctKeys := Json.hasDistinctKeys_obj_iff.2 ⟨by decide, by
    simp [Json.HasDistinctKeys.str, Json.HasDistinctKeys.null, Json.HasDistinctKeys.int]⟩
  have distinct : (documentOf [ageEntry]).HasDistinctKeys := by
    simpa [documentOf, Json.hasDistinctKeys_obj_iff, Members.keys] using entry
  have declares : attributes (documentOf [ageEntry]) =
      .ok [⟨some "age", none, some "integer", none⟩] := by rfl
  have refuses : attributes (documentOf [ageEntry, ("size", .obj [("title", .int 5)]),
      ("name", .str "string")]) =
        .error (.entry "size" (some (.fields [("title", .notText)]))) := by
    rfl
  obtain ⟨-, tells, -⟩ := attributes_tells (documentOf [ageEntry])
  obtain ⟨-, -, obstacle⟩ := attributes_tells (documentOf [ageEntry,
    ("size", .obj [("title", .int 5)]), ("name", .str "string")])
  exact ⟨distinct, ⟨_, declares, rfl, (tells _ declares).2.1 distinct⟩,
    _, _, refuses, rfl, (obstacle _ refuses).2⟩

end Issuer.Schema
