import Issuer.Proofs.Conversion.Matching
import Issuer.Proofs.Schema.Attributes
/-!
# The attribute that is left over

A conversion by a document leaves exactly one declared attribute without a credential attribute.
It is meant to be the id of the credential's subject, but only its being one is checked: it is the
id exactly if no credential attribute is named `id` (`leavesId_iff`), and a document with two
attributes shows that it can be the other one (`not_leavesId_of_id_supplied`).
-/
namespace Issuer.Schema

def Declares (document : Json) (key : Text) : Prop :=
  ∃ ms, declarations document = .ok ms ∧ key ∈ Members.keys ms

/-- No credential attribute is named `id`, and every other attribute of the document has one. -/
def LeavesId (document : Json) (supplied : List CredentialAttribute) : Prop :=
  (∀ a ∈ supplied, a.name ≠ some "id") ∧
    ∀ key, Declares document key → key ≠ "id" → ∃ a ∈ supplied, a.name = some key

theorem declares_iff {document : Json} {declared : List Attribute}
    (h : attributes document = .ok declared) (key : Text) :
    Declares document key ↔ some key ∈ declared.map Attribute.id := by
  obtain ⟨ms, hms, hids⟩ := ids_of_attributes_eq_ok h
  rw [hids]
  constructor
  · rintro ⟨ms', hms', hkey⟩
    obtain rfl := Except.ok.inj (hms'.symm.trans hms)
    exact List.mem_map_of_mem hkey
  · intro hkey
    obtain ⟨k, hk, hkk⟩ := List.mem_map.1 hkey
    exact ⟨ms, hms, Option.some.inj hkk ▸ hk⟩

theorem conversion_ok_of_ok {document : Json} {supplied : List CredentialAttribute}
    (h : (validateAndConvert document supplied).problem = none) :
    ∃ declared, attributes document = .ok declared ∧
      (Conversion.validateAndConvert declared supplied).problem = none := by
  unfold validateAndConvert at h
  split at h
  · cases h
  · rename_i declared hdeclared
    exact ⟨declared, hdeclared, Option.map_eq_none_iff.1 h⟩

theorem existsUnique_left_over {document : Json} {supplied : List CredentialAttribute}
    (h : (validateAndConvert document supplied).problem = none) :
    ∃! key, Declares document key ∧ ∀ a ∈ supplied, a.name ≠ some key := by
  obtain ⟨declared, hdeclared, hok⟩ := conversion_ok_of_ok h
  obtain ⟨d, ⟨hd, hleft⟩, hunique⟩ := Conversion.existsUnique_left_of_ok hok
  obtain ⟨ms, hms, hids⟩ := ids_of_attributes_eq_ok hdeclared
  have hmem : d.id ∈ (Members.keys ms).map some := hids ▸ List.mem_map_of_mem hd
  obtain ⟨key, hkey, hdkey⟩ := List.mem_map.1 hmem
  refine ⟨key, ⟨⟨ms, hms, hkey⟩, fun a ha hak => ?_⟩, ?_⟩
  · exact hleft (hdkey ▸ hak ▸ List.mem_map_of_mem ha)
  · rintro k ⟨hk, hnone⟩
    obtain ⟨e, he, hek⟩ := List.mem_map.1 ((declares_iff hdeclared k).1 hk)
    have hleft' : e.id ∉ supplied.map CredentialAttribute.name := by
      intro hm
      obtain ⟨a, ha, hae⟩ := List.mem_map.1 hm
      exact hnone a ha (hae.trans hek)
    obtain rfl := hunique e ⟨he, hleft'⟩
    exact Option.some.inj (hek.symm.trans hdkey.symm)

/-- **The id is left over exactly if nobody supplies it.**  Where it is supplied, another declared
attribute has no value. -/
theorem leavesId_iff (document : Json) (supplied : List CredentialAttribute)
    (hid : Declares document "id")
    (h : (validateAndConvert document supplied).problem = none) :
    (∃! key, Declares document key ∧ ∀ a ∈ supplied, a.name ≠ some key) ∧
      (LeavesId document supplied ↔ ∀ a ∈ supplied, a.name ≠ some "id") ∧
      ((∃ a ∈ supplied, a.name = some "id") →
        ∃ key : Text, key ≠ "id" ∧ Declares document key ∧
          ∀ a ∈ supplied, a.name ≠ some key) := by
  obtain ⟨key, ⟨hkey, hnone⟩, hunique⟩ := existsUnique_left_over h
  refine ⟨existsUnique_left_over h, ⟨fun hl => hl.1, fun hl => ⟨hl, fun k hk hne => ?_⟩⟩, ?_⟩
  · by_contra hno
    have hk' : k = key := hunique k ⟨hk, fun a ha hak => hno ⟨a, ha, hak⟩⟩
    exact hne (hk'.trans (hunique "id" ⟨hid, hl⟩).symm)
  · rintro ⟨a, ha, hname⟩
    exact ⟨key, fun hk => hnone a ha (hk ▸ hname), hkey, hnone⟩

def personDocument : Json :=
  .obj [("properties", .obj [("credentialSubject", .obj [("properties",
    .obj [("id", .obj [("type", .str "string")]), ("name", .obj [("type", .str "string")])])])])]

theorem declares_id_personDocument : Declares personDocument "id" :=
  ⟨[("id", .obj [("type", .str "string")]), ("name", .obj [("type", .str "string")])],
    by decide, by decide⟩

/-- The name of a person is enough. -/
theorem leavesId_of_name_supplied :
    Declares personDocument "id" ∧
      (validateAndConvert personDocument [⟨some "name", .str "alice"⟩]).problem = none ∧
      LeavesId personDocument [⟨some "name", .str "alice"⟩] := by
  have hok : (validateAndConvert personDocument [⟨some "name", .str "alice"⟩]).problem = none := by
    decide
  obtain ⟨_, hiff, _⟩ := leavesId_iff _ _ declares_id_personDocument hok
  exact ⟨declares_id_personDocument, hok, hiff.2 (by decide)⟩

/-- **A person without a name**: the id is supplied and the name is left over. -/
theorem not_leavesId_of_id_supplied :
    ¬ ∀ (document : Json) (supplied : List CredentialAttribute), Declares document "id" →
      (validateAndConvert document supplied).problem = none → LeavesId document supplied := by
  intro hall
  have hleaves := hall personDocument [⟨some "id", .str "did:example:1"⟩]
    declares_id_personDocument (by decide)
  exact hleaves.1 _ List.mem_cons_self rfl

end Issuer.Schema
