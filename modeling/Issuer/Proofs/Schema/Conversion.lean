import Issuer.Proofs.Schema.LeftOver
import Issuer.Proofs.Schema.Level
/-!
# What stops a conversion by a document

The ids of a document's attributes are the keys of one object, so none of them repeats, and a
conversion by a document is never stopped by an id that does (`validateAndConvert_reports`).  A
document whose attributes cannot be told stops it before anything is converted.
-/
namespace Issuer

namespace Conversion

/-- The kinds of fault that a conversion reports where no id repeats. -/
def matchingKinds : List FaultKind :=
  [.attributeNotFound, .typeMismatch, .valueParse, .unsupportedType, .countMismatch]

def IsOfMatching (f : Failure) : Prop :=
  ∃ kind ∈ matchingKinds, ∃ details causes, f.Reports kind details causes

theorem Problem.duplicated_or_isOfMatching (p : Problem) :
    (∃ id, p = .duplicated id) ∨ IsOfMatching p.failure := by
  cases p with
  | duplicated id => exact .inl ⟨id, rfl⟩
  | notFound => exact .inr ⟨.attributeNotFound, by decide, _, _, _, rfl⟩
  | typeMismatch => exact .inr ⟨.typeMismatch, by decide, _, _, _, rfl⟩
  | integer | boolean => exact .inr ⟨.valueParse, by decide, _, _, _, rfl⟩
  | unsupported => exact .inr ⟨.unsupportedType, by decide, _, _, _, rfl⟩
  | count => exact .inr ⟨.countMismatch, by decide, _, _, _, rfl⟩

theorem convertValue_ne_duplicated (d : Attribute) (name : Option Text) (v : Json)
    (id : Option Text) : convertValue d name v ≠ .error (.duplicated id) := by
  unfold convertValue
  repeat' split
  all_goals rintro ⟨⟩

theorem convertEach_ne_duplicated (id : Option Text) (as : List CredentialAttribute)
    (pending : List Attribute) : (convertEach pending as).problem ≠ some (.duplicated id) := by
  induction as generalizing pending with
  | nil =>
    rw [convertEach]
    split
    · rintro ⟨⟩
    · rintro ⟨⟩
  | cons a rest ih =>
    rw [convertEach]
    split
    · rintro ⟨⟩
    · split
      · rename_i hp
        rintro ⟨⟩
        exact convertValue_ne_duplicated _ a.name a.value id hp
      · exact ih _

end Conversion

namespace Schema

variable {document : Json}

variable {supplied : List CredentialAttribute}

theorem validateAndConvert_of_error {p : Problem} (h : attributes document = .error p) :
    validateAndConvert document supplied = ⟨supplied, some (.document p)⟩ := by
  rw [validateAndConvert, h]

/-- **A conversion is not stopped by an id that repeats**, if no object of the document repeats a
key. -/
theorem validateAndConvert_ne_duplicated (hkeys : document.HasDistinctKeys) (id : Option Text) :
    (validateAndConvert document supplied).problem ≠ some (.conversion (.duplicated id)) := by
  cases h : attributes document with
  | error p =>
    rw [validateAndConvert_of_error h]
    nofun
  | ok declared =>
    have hids := nodup_ids_of_hasDistinctKeys hkeys h
    simp only [validateAndConvert, h, Conversion.validateAndConvert_of_nodup hids]
    intro hp
    obtain ⟨_, hp, ⟨⟩⟩ := Option.map_eq_some_iff.1 hp
    exact Conversion.convertEach_ne_duplicated id supplied declared hp

theorem length_declarations_of_ok
    (h : (validateAndConvert document supplied).problem = none) :
    ∃ ms, declarations document = .ok ms ∧ ms.length = supplied.length + 1 := by
  obtain ⟨declared, hdeclared, hok⟩ := conversion_ok_of_ok h
  obtain ⟨ms, hms, hread⟩ := forall₂_of_attributes_eq_ok hdeclared
  obtain ⟨-, -, hlen⟩ := Conversion.matches_of_ok hok
  exact ⟨ms, hms, hread.length_eq.trans hlen⟩

/-- **What a conversion by a document reports.**  It is never stopped by an id that repeats.  If the
document's attributes cannot be told, the conversion is reported as a document that cannot be
processed for just that reason, and no credential attribute is changed.  Else it succeeds, or it is
reported as one of matching and converting; and it succeeds only if the document declares one
attribute more than are supplied. -/
theorem validateAndConvert_reports (document : Json) (hkeys : document.HasDistinctKeys)
    (supplied : List CredentialAttribute) :
    (∀ id, (validateAndConvert document supplied).problem ≠
      some (.conversion (.duplicated id))) ∧
    (∀ p, attributes document = .error p →
      validateAndConvert document supplied = ⟨supplied, some (.document p)⟩ ∧
      (ConvertProblem.document p).failure.Reports .schemaProcessing {}
        (p.failure.fault :: p.failure.causes) ∧
      p.Told) ∧
    (∀ declared, attributes document = .ok declared →
      ∀ problem, (validateAndConvert document supplied).problem = some problem →
        Conversion.IsOfMatching problem.failure) ∧
    ((validateAndConvert document supplied).problem = none →
      ∃ ms, document.at? declarationPath = some (.obj ms) ∧ ms.length = supplied.length + 1) := by
  refine ⟨validateAndConvert_ne_duplicated hkeys, fun p h => ?_, fun declared h problem hp => ?_,
    fun h => ?_⟩
  · exact ⟨validateAndConvert_of_error h, ⟨_, rfl⟩, p.told⟩
  · have hne (id) : (validateAndConvert document supplied).problem ≠
        some (.conversion (.duplicated id)) := validateAndConvert_ne_duplicated hkeys id
    simp only [validateAndConvert, h] at hp hne
    obtain ⟨p, -, rfl⟩ := Option.map_eq_some_iff.1 hp
    obtain ⟨id, rfl⟩ | matching := p.duplicated_or_isOfMatching
    · exact absurd hp (hne id)
    · exact matching
  · obtain ⟨ms, hms, hlen⟩ := length_declarations_of_ok h
    exact ⟨ms, at?_of_declarations hms, hlen⟩

def repeatedAge : Bytes :=
  let declared : Text := "\x7b\"age\": \x7b\x7d, \"id\": \x7b\"type\": \"string\"\x7d, " ++
    "\"age\": \x7b\"type\": \"integer\"\x7d\x7d"
  Utf8.encodeAll ("\x7b\"properties\": \x7b\"credentialSubject\": \x7b\"properties\": " ++
    declared ++ "\x7d\x7d\x7d")

/-- What `repeatedAge` is read as: the later age stands in the place of the first. -/
def repeatedAgeDocument : Json :=
  .obj [("properties", .obj [("credentialSubject", .obj [("properties", .obj [
    ("age", .obj [("type", .str "integer")]), ("id", .obj [("type", .str "string")])])])])]

theorem ofBytes_repeatedAge : Json.ofBytes repeatedAge = .ok repeatedAgeDocument := by
  have read : (Json.ofBytes repeatedAge).toOption = some repeatedAgeDocument := by decide +kernel
  cases h : Json.ofBytes repeatedAge with
  | error e => simp [h, Except.toOption] at read
  | ok v =>
    rw [h] at read
    exact congrArg Except.ok (Option.some.inj read)

/-- A document whose attributes cannot be told, as the entry of one is no object. -/
def bareAgeDocument : Json :=
  .obj [("properties", .obj [("credentialSubject", .obj [("properties", .obj [
    ("age", .str "integer")])])])]

theorem hasDistinctKeys_bareAgeDocument : bareAgeDocument.HasDistinctKeys := by
  simp [bareAgeDocument, Json.hasDistinctKeys_obj_iff, Json.HasDistinctKeys.str, Members.keys]

/-- A key that is written twice does not stop a conversion; an age that is no number does, and so
does an entry that is no object. -/
theorem validateAndConvert_reports_repeatedAge :
    repeatedAgeDocument.HasDistinctKeys ∧ bareAgeDocument.HasDistinctKeys ∧
    (∃ ms, repeatedAgeDocument.at? declarationPath = some (.obj ms) ∧ ms.length = 2) ∧
    Conversion.IsOfMatching
      (ConvertProblem.conversion (.integer (some "age") (.notInteger "x"))).failure ∧
    validateAndConvert bareAgeDocument [⟨some "age", .str "42"⟩] =
      ⟨[⟨some "age", .str "42"⟩], some (.document (.entry "age" none))⟩ := by
  have hkeys := Json.hasDistinctKeys_of_ofBytes ofBytes_repeatedAge
  have hbare := hasDistinctKeys_bareAgeDocument
  obtain ⟨-, -, -, ok⟩ :=
    validateAndConvert_reports repeatedAgeDocument hkeys [⟨some "age", .str "42"⟩]
  obtain ⟨-, -, matching, -⟩ :=
    validateAndConvert_reports repeatedAgeDocument hkeys [⟨some "age", .str "x"⟩]
  obtain ⟨-, told, -, -⟩ :=
    validateAndConvert_reports bareAgeDocument hbare [⟨some "age", .str "42"⟩]
  exact ⟨hkeys, hbare, ok (by decide), matching _ rfl _ (by decide), (told _ rfl).1⟩

end Schema

end Issuer
