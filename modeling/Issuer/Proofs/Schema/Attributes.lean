import Issuer.Proofs.Except
import Issuer.Proofs.Members
import Issuer.Proofs.Record
import Issuer.Schema.Document
/-!
# Attributes of a document

Reading the attributes of a document gives one for each member of the level that declares them, in
order (`forall₂_of_attributes_eq_ok`), and its id is the key of the member (`id_of_readAttribute`).
Where no key repeats the attributes are those that are found under a key (`mem_attributes_iff`).
-/
namespace Issuer.Schema

/-- **The id of an attribute is its key**, whatever its members say. -/
theorem id_of_readAttribute {key : Text} {v : Json} {a : Attribute}
    (h : readAttribute key v = .ok a) : a.id = some key := by
  unfold readAttribute at h
  split at h
  · rename_i ms
    split at h
    · rename_i b hb
      obtain rfl : b = a := Except.ok.inj h
      unfold Attribute.ofJson at hb
      cases hread : Record.read Attribute.fields (.obj (Members.set "id" (.str key) ms)) with
      | error p => simp [hread, Except.map] at hb
      | ok record =>
        have hid : Members.get? record "id" = some (.str key) :=
          (Record.get?_of_read hread (by decide)
            (f := ⟨"id", .text, false, false⟩) List.mem_cons_self).trans (Members.get?_set _ _ ms)
        rw [hread] at hb
        rw [← Except.ok.inj hb]
        simp [Attribute.ofMembers, hid, Json.text?]
    · cases h
  · cases h

def declarations (document : Json) : Except (List Text) Members :=
  lookup Json.members? document "properties" ["credentialSubject", "properties"]

theorem forall₂_of_attributes_eq_ok {document : Json} {declared : List Attribute}
    (h : attributes document = .ok declared) :
    ∃ ms, declarations document = .ok ms ∧
      List.Forall₂ (fun m a => readAttribute m.1 m.2 = .ok a) ms declared := by
  unfold attributes at h
  unfold declarations
  split at h
  · cases h
  · rename_i ms hms
    exact ⟨ms, hms, (mapM_eq_ok_iff _ ms declared).1 h⟩

theorem ids_of_attributes_eq_ok {document : Json} {declared : List Attribute}
    (h : attributes document = .ok declared) :
    ∃ ms, declarations document = .ok ms ∧
      declared.map Attribute.id = (Members.keys ms).map some := by
  obtain ⟨ms, hms, hread⟩ := forall₂_of_attributes_eq_ok h
  refine ⟨ms, hms, ?_⟩
  rw [Members.keys, List.map_map]
  clear hms h
  induction hread with
  | nil => rfl
  | cons hm _ ih =>
    rw [List.map_cons, List.map_cons, ih, id_of_readAttribute hm, Function.comp_apply]

theorem attributes_eq_ok_iff {document : Json} {ds : List Attribute} {ms : Members}
    (h : declarations document = .ok ms) : attributes document = .ok ds ↔
      List.Forall₂ (fun m a => readAttribute m.1 m.2 = .ok a) ms ds := by
  unfold declarations at h
  unfold attributes
  rw [h]
  exact mapM_eq_ok_iff _ ms ds

theorem exists_attributes {document : Json} {ms : Members} (h : declarations document = .ok ms)
    (hread : ∀ m ∈ ms, ∃ a, readAttribute m.1 m.2 = .ok a) :
    ∃ ds, attributes document = .ok ds := by
  cases hms : ms.mapM fun m => readAttribute m.1 m.2 with
  | ok ds => exact ⟨ds, (attributes_eq_ok_iff h).2 ((mapM_eq_ok_iff _ ms ds).1 hms)⟩
  | error p =>
    obtain ⟨m, hm, hp⟩ := exists_error_of_mapM hms
    obtain ⟨a, ha⟩ := hread m hm
    cases hp.symm.trans ha

theorem mem_attributes_iff {document : Json} {ds : List Attribute} {ms : Members}
    (hms : declarations document = .ok ms) (h : attributes document = .ok ds)
    (hn : (Members.keys ms).Nodup) (a : Attribute) :
    a ∈ ds ↔ ∃ key v, Members.get? ms key = some v ∧ readAttribute key v = .ok a := by
  have hread := (attributes_eq_ok_iff hms).1 h
  have hmem : a ∈ ds ↔ ∃ m ∈ ms, readAttribute m.1 m.2 = .ok a := by
    clear h hms hn
    induction hread with
    | nil => simp
    | @cons m b ms ds hm _ ih => simp [ih, hm, eq_comm]
  rw [hmem]
  constructor
  · rintro ⟨⟨key, v⟩, hm, ha⟩
    exact ⟨key, v, (lookup_eq_some_iff_mem hn).2 hm, ha⟩
  · rintro ⟨key, v, hget, ha⟩
    exact ⟨(key, v), (lookup_eq_some_iff_mem hn).1 hget, ha⟩

theorem nodup_ids_of_attributes {document : Json} {ds : List Attribute} {ms : Members}
    (hms : declarations document = .ok ms) (h : attributes document = .ok ds)
    (hn : (Members.keys ms).Nodup) : (ds.map Attribute.id).Nodup := by
  obtain ⟨ns, hns, hids⟩ := ids_of_attributes_eq_ok h
  obtain rfl := Except.ok.inj (hms.symm.trans hns)
  rw [hids]
  exact hn.map fun _ _ h => Option.some.inj h

end Issuer.Schema
