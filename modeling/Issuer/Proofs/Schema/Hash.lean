import Issuer.Proofs.Schema.Level
import Issuer.Proofs.Text.Cut
import Issuer.Proofs.Text.Encoding
/-!
# Hashes — what a type is hashed by

A type has a hash exactly if the document says which context defines it and both can be encoded
(`exists_hash_iff`).  The hash is that of the identifier of the type, which is the context, a number
sign and the type in UTF-8; so context and type can be told from it wherever the type holds no
number sign, whatever the context holds (`hash_identifies`).
-/
namespace Issuer.Schema

variable {document : Json} {type context : Text} {bytes : Bytes}

/-- The bytes that identify a type: its context, a number sign and the type in UTF-8. -/
structure Identifies (document : Json) (type context : Text) (bytes : Bytes) : Prop where
  defined : jsonLdContext document = .ok context
  encoded : Utf8.encode? (context ++ ('#' : CodePoint) :: type) = some bytes

/-- Different bytes whose digests have the same end. -/
structure Collide (bytes bytes' : Bytes) : Prop where
  different : bytes ≠ bytes'
  sameEnd : (Keccak.digest256 bytes).drop 16 = (Keccak.digest256 bytes').drop 16

/-! ## Which types have a hash -/

theorem isScalar_identifier_iff :
    (typeIdentifier context type).IsScalar ↔ context.IsScalar ∧ type.IsScalar := by
  have hmark : Text.IsScalar ("#" : Text) := by
    intro c hc
    rw [List.mem_singleton.1 hc]
    rfl
  simp [typeIdentifier, Text.isScalar_append, hmark]

theorem typeIdentifier_eq (context type : Text) :
    typeIdentifier context type = context ++ ('#' : CodePoint) :: type :=
  List.append_assoc context [('#' : CodePoint)] type

theorem hash_of_identifies (h : Identifies document type context bytes) :
    hash document type = .ok (.ofIdentifier bytes) := by
  have henc : Utf8.encode? (typeIdentifier context type) = some bytes := by
    rw [typeIdentifier_eq]
    exact h.encoded
  unfold hash
  simp only [h.defined, henc]

theorem hash_of_undefined {path : List Text} (h : jsonLdContext document = .error path) :
    hash document type = .error (.level path) := by
  unfold hash
  simp only [h]

theorem hash_of_surrogate (defined : jsonLdContext document = .ok context)
    (h : ¬ (context.IsScalar ∧ type.IsScalar)) : hash document type = .error .surrogate := by
  have hnone : Utf8.encode? (typeIdentifier context type) = none := by
    rw [Utf8.encode?_eq_none_iff, isScalar_identifier_iff]
    exact h
  unfold hash
  simp only [defined, hnone]

theorem exists_identifies (defined : jsonLdContext document = .ok context)
    (hcontext : context.IsScalar) (htype : type.IsScalar) :
    Identifies document type context (Utf8.encodeAll (typeIdentifier context type)) := by
  refine ⟨defined, ?_⟩
  rw [← typeIdentifier_eq, Utf8.encode?_eq_some_iff]
  exact ⟨isScalar_identifier_iff.2 ⟨hcontext, htype⟩, rfl⟩

theorem hash_eq_ok_iff {h : SchemaHash} : hash document type = .ok h ↔
    ∃ context bytes, Identifies document type context bytes ∧ h = .ofIdentifier bytes := by
  constructor
  · intro hashed
    cases hdefined : jsonLdContext document with
    | error path =>
      rw [hash_of_undefined hdefined] at hashed
      cases hashed
    | ok context =>
      by_cases hscalar : context.IsScalar ∧ type.IsScalar
      · have hid := exists_identifies hdefined hscalar.1 hscalar.2
        rw [hash_of_identifies hid] at hashed
        exact ⟨context, _, hid, (Except.ok.inj hashed).symm⟩
      · rw [hash_of_surrogate hdefined hscalar] at hashed
        cases hashed
  · rintro ⟨context, bytes, hid, rfl⟩
    exact hash_of_identifies hid

theorem exists_hash_iff : (∃ h, hash document type = .ok h) ↔
    ∃ context, jsonLdContext document = .ok context ∧ context.IsScalar ∧ type.IsScalar := by
  constructor
  · rintro ⟨h, hashed⟩
    obtain ⟨context, bytes, hid, -⟩ := hash_eq_ok_iff.1 hashed
    have hscalar := (Utf8.encode?_eq_some_iff.1 hid.encoded).1
    rw [← typeIdentifier_eq, isScalar_identifier_iff] at hscalar
    exact ⟨context, hid.defined, hscalar⟩
  · rintro ⟨context, defined, hcontext, htype⟩
    exact ⟨_, hash_of_identifies (exists_identifies defined hcontext htype)⟩

/-! ## What an identifier tells -/

section

variable {document' : Json} {type' context' : Text} {bytes' : Bytes}

/-- **An identifier tells context and type** of a type without a number sign. -/
theorem Identifies.eq_iff (h : Identifies document type context bytes)
    (h' : Identifies document' type' context' bytes') (unmarked : ('#' : CodePoint) ∉ type)
    (unmarked' : ('#' : CodePoint) ∉ type') :
    bytes = bytes' ↔ context = context' ∧ type = type' := by
  constructor
  · rintro rfl
    exact (Text.append_cons_inj unmarked unmarked').1 (Utf8.encode?_inj h.encoded h'.encoded)
  · rintro ⟨rfl, rfl⟩
    exact Option.some.inj (h.encoded.symm.trans h'.encoded)

theorem ofIdentifier_eq_iff : SchemaHash.ofIdentifier bytes = .ofIdentifier bytes' ↔
    bytes = bytes' ∨ Collide bytes bytes' := by
  constructor
  · intro same
    by_cases heq : bytes = bytes'
    · exact .inl heq
    · exact .inr ⟨heq, congrArg SchemaHash.bytes same⟩
  · rintro (rfl | ⟨-, same⟩)
    · rfl
    · unfold SchemaHash.ofIdentifier
      simp only [same]

end

/-- **The hash of a type identifies it.**  There is one exactly if the document says which context
defines the type and neither holds a surrogate; else the level of the context that is missing is
told, or that something cannot be encoded.  It is the hash of the context, a number sign and the
type in UTF-8.  For types without a number sign these bytes are the same only if contexts and types
are, so that others share a hash only if digests collide. -/
theorem hash_identifies (document : Json) (type : Text) :
    ((∃ h, hash document type = .ok h) ↔
      ∃ context, jsonLdContext document = .ok context ∧ context.IsScalar ∧ type.IsScalar) ∧
    (∀ path, jsonLdContext document = .error path → ∃ p, hash document type = .error p ∧
      p.failure.Reports .schemaStructure { path := .str (Text.join "." path) } []) ∧
    (∀ context, jsonLdContext document = .ok context → ¬ (context.IsScalar ∧ type.IsScalar) →
      ∃ p, hash document type = .error p ∧ p.failure = .of (.outside .textEncoding "")) ∧
    (∀ h, hash document type = .ok h ↔
      ∃ context bytes, Identifies document type context bytes ∧ h = .ofIdentifier bytes) ∧
    ∀ context bytes, Identifies document type context bytes →
      Utf8.decode? false bytes = some (context ++ ('#' : CodePoint) :: type) ∧
      ∀ document' type' context' bytes', Identifies document' type' context' bytes' →
        ('#' : CodePoint) ∉ type → ('#' : CodePoint) ∉ type' →
        (bytes = bytes' ↔ context = context' ∧ type = type') ∧
        (SchemaHash.ofIdentifier bytes = .ofIdentifier bytes' ↔
          (context = context' ∧ type = type') ∨ Collide bytes bytes') := by
  refine ⟨exists_hash_iff, fun path undefined => ?_, fun context defined hscalar => ?_,
    fun h => hash_eq_ok_iff, fun context bytes h => ⟨Utf8.decode?_of_encode? h.encoded, ?_⟩⟩
  · exact ⟨_, hash_of_undefined undefined, _, rfl⟩
  · exact ⟨_, hash_of_surrogate defined hscalar, rfl⟩
  · intro document' type' context' bytes' h' unmarked unmarked'
    have hsame := h.eq_iff h' unmarked unmarked'
    exact ⟨hsame, by rw [ofIdentifier_eq_iff, hsame]⟩

def locatedDocument (context : Text) : Json :=
  .obj [("$metadata", .obj [("uris", .obj [("jsonLdContext", .str context)])])]

/-- A number sign in the context is told from the one before the type, a surrogate in the type is
refused, and so is a document that does not locate its context. -/
theorem hash_identifies_located :
    (∃ bytes bytes', Identifies (locatedDocument "urn:kyc#1") "Age" "urn:kyc#1" bytes ∧
      Identifies (locatedDocument "urn:kyc") "1" "urn:kyc" bytes' ∧ bytes ≠ bytes') ∧
    (∃ h, hash (locatedDocument "urn:kyc#1") "Age" = .ok h) ∧
    (∃ p, hash (locatedDocument "urn:kyc") [0xD800] = .error p ∧
      p.failure = .of (.outside .textEncoding "")) ∧
    ∃ p, hash (.obj [("$metadata", .obj [])]) "Age" = .error p ∧
      p.failure.Reports .schemaStructure { path := .str "$metadata.uris" } [] := by
  have hdefined : jsonLdContext (locatedDocument "urn:kyc#1") = .ok "urn:kyc#1" := by rfl
  have hdefined' : jsonLdContext (locatedDocument "urn:kyc") = .ok "urn:kyc" := by rfl
  have hmissing : jsonLdContext (.obj [("$metadata", .obj [])]) =
      .error ["$metadata", "uris"] := by rfl
  obtain ⟨-, -, -, -, htell⟩ := hash_identifies (locatedDocument "urn:kyc#1") "Age"
  obtain ⟨-, -, hsurrogate, -⟩ := hash_identifies (locatedDocument "urn:kyc") [0xD800]
  obtain ⟨-, hlevel, -⟩ := hash_identifies (.obj [("$metadata", .obj [])]) "Age"
  have hid : Identifies (locatedDocument "urn:kyc#1") "Age" "urn:kyc#1" _ := ⟨hdefined, rfl⟩
  have hid' : Identifies (locatedDocument "urn:kyc") "1" "urn:kyc" _ := ⟨hdefined', rfl⟩
  have hbytes := ((htell _ _ hid).2 _ _ _ _ hid' (by decide) (by decide)).1
  refine ⟨⟨_, _, hid, hid', fun heq => ?_⟩, ⟨_, hash_of_identifies hid⟩, ?_, hlevel _ hmissing⟩
  · exact absurd (hbytes.1 heq).2 (by decide)
  · exact hsurrogate _ hdefined' fun hscalar => absurd (hscalar.2 _ List.mem_cons_self) (by decide)

end Issuer.Schema
