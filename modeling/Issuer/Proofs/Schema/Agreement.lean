import Issuer.Inspection
import Issuer.Proofs.Conversion.Order
import Issuer.Proofs.Schema.Attributes
import Issuer.Proofs.Schema.Entry
/-!
# Documents that agree

Two documents agree if they declare attributes under the same keys, with the same title, type and
format under each, and name the same context (`Agree`).  Nothing else of a document counts, nor does
the order of its members: documents that agree have the same attributes by id, the same sorted
labels, the same context, the same hash of every type and the same outcome of every conversion
(`sameTo_of_agree`).
-/
namespace Issuer.Schema

/-- **Two documents agree** on what they declare and on their context. -/
structure Agree (d e : Json) : Prop where
  declared : ∃ ms ns, declarations d = .ok ms ∧ declarations e = .ok ns ∧
    (Members.keys ms).Nodup ∧ (Members.keys ns).Nodup ∧
    (∀ key, key ∈ Members.keys ms ↔ key ∈ Members.keys ns) ∧
    ∀ key v w, Members.get? ms key = some v → Members.get? ns key = some w →
      ∃ said, describe? v = some said ∧ describe? w = some said
  context : ∃ context, jsonLdContext d = .ok context ∧ jsonLdContext e = .ok context

/-- **Two documents are the same to an issuer.** -/
structure SameTo (d e : Json) : Prop where
  /-- The attributes are the same by id, and so are their sorted labels. -/
  attributes : ∃ ds es, attributes d = .ok ds ∧ attributes e = .ok es ∧
    (∀ id, (Attribute.byId ds).lookup id = (Attribute.byId es).lookup id) ∧
    ∃ ls ks, Attribute.labels? ds = some ls ∧ Attribute.labels? es = some ks ∧
      ls.mergeSort Text.le = ks.mergeSort Text.le
  labels : Inspection.labelsOf d = Inspection.labelsOf e
  context : jsonLdContext d = jsonLdContext e
  hash : ∀ type, hash d type = hash e type
  /-- Every conversion converts the same and has the same problem. -/
  conversion : ∀ supplied, validateAndConvert d supplied = validateAndConvert e supplied

section Agree

variable {d e : Json}

theorem Agree.symm (h : Agree d e) : Agree e d where
  declared := by
    obtain ⟨ms, ns, hms, hns, hn, hn', hkeys, hsaid⟩ := h.declared
    refine ⟨ns, ms, hns, hms, hn', hn, fun key => (hkeys key).symm, fun key v w hv hw => ?_⟩
    obtain ⟨said, hw', hv'⟩ := hsaid key w v hw hv
    exact ⟨said, hv', hw'⟩
  context := by
    obtain ⟨context, hd, he⟩ := h.context
    exact ⟨context, he, hd⟩

theorem Agree.readAttribute_eq_ok (h : Agree d e) {ms ns : Members}
    (hms : declarations d = .ok ms) (hns : declarations e = .ok ns) {key : Text} {v : Json}
    (hv : Members.get? ms key = some v) :
    ∃ w a, Members.get? ns key = some w ∧ readAttribute key v = .ok a ∧
      readAttribute key w = .ok a := by
  obtain ⟨ms', ns', hms', hns', hn, hn', hkeys, hsaid⟩ := h.declared
  obtain rfl := Except.ok.inj (hms.symm.trans hms')
  obtain rfl := Except.ok.inj (hns.symm.trans hns')
  have hkey : key ∈ Members.keys ms := by
    have hm : (key, v) ∈ ms := (lookup_eq_some_iff_mem hn).1 hv
    exact List.mem_map_of_mem hm
  obtain ⟨w, hw⟩ := Members.exists_get?_of_mem hn' ((hkeys key).1 hkey)
  obtain ⟨said, hsv, hsw⟩ := hsaid key v w hv hw
  exact ⟨w, said.attribute key, hw, readAttribute_eq_ok_iff.2 ⟨said, hsv, rfl⟩,
    readAttribute_eq_ok_iff.2 ⟨said, hsw, rfl⟩⟩

theorem Agree.exists_attributes (h : Agree d e) : ∃ ds, attributes d = .ok ds := by
  obtain ⟨ms, ns, hms, hns, hn, -⟩ := h.declared
  refine Schema.exists_attributes hms fun m hm => ?_
  obtain ⟨-, a, -, ha, -⟩ :=
    h.readAttribute_eq_ok hms hns ((lookup_eq_some_iff_mem hn).2 hm : Members.get? ms m.1 = _)
  exact ⟨a, ha⟩

theorem Agree.attributes_subset (h : Agree d e) {ds es : List Attribute}
    (hd : attributes d = .ok ds) (he : attributes e = .ok es) : ds ⊆ es := by
  obtain ⟨ms, ns, hms, hns, hn, hn', -⟩ := h.declared
  intro a ha
  obtain ⟨key, v, hv, hread⟩ := (mem_attributes_iff hms hd hn a).1 ha
  obtain ⟨w, b, hw, hreadv, hreadw⟩ := h.readAttribute_eq_ok hms hns hv
  obtain rfl := Except.ok.inj (hread.symm.trans hreadv)
  exact (mem_attributes_iff hns he hn' a).2 ⟨key, w, hw, hreadw⟩

theorem Agree.attributes_perm (h : Agree d e) : ∃ ds es, attributes d = .ok ds ∧
    attributes e = .ok es ∧ ds.Perm es ∧ (ds.map Attribute.id).Nodup ∧
    ∀ a ∈ ds, a.id ≠ none := by
  obtain ⟨ms, ns, hms, hns, hn, hn', -⟩ := h.declared
  obtain ⟨ds, hd⟩ := h.exists_attributes
  obtain ⟨es, he⟩ := h.symm.exists_attributes
  have hids := nodup_ids_of_attributes hms hd hn
  have hids' := nodup_ids_of_attributes hns he hn'
  have hperm : ds.Perm es := (List.perm_ext_iff_of_nodup hids.of_map hids'.of_map).2 fun a =>
    ⟨fun ha => h.attributes_subset hd he ha, fun ha => h.symm.attributes_subset he hd ha⟩
  refine ⟨ds, es, hd, he, hperm, hids, fun a ha => ?_⟩
  obtain ⟨key, v, -, hread⟩ := (mem_attributes_iff hms hd hn a).1 ha
  rw [id_of_readAttribute hread]
  exact Option.some_ne_none key

end Agree

/-- **Documents that agree are the same to an issuer**, whatever else they hold and in whatever
order their members come. -/
theorem sameTo_of_agree (d e : Json) (h : Agree d e) : SameTo d e := by
  obtain ⟨ds, es, hd, he, hperm, hids, hsome⟩ := h.attributes_perm
  obtain ⟨context, hcd, hce⟩ := h.context
  exact {
    attributes := ⟨ds, es, hd, he, Attribute.lookup_byId_eq_of_perm hperm hids, _, _,
      Attribute.labels?_of_ids hsome,
      Attribute.labels?_of_ids fun a ha => hsome a (hperm.mem_iff.2 ha),
      Attribute.sortedLabels_eq_of_perm hperm⟩
    labels := by
      simp only [Inspection.labelsOf, hd, he, Except.mapError, Except.map, Inspection.sortedLabels,
        Attribute.sortedLabels_eq_of_perm hperm]
    context := hcd.trans hce.symm
    hash := fun type => by simp only [hash, hcd, hce]
    conversion := fun supplied => by
      simp only [validateAndConvert, hd, he,
        Conversion.validateAndConvert_eq_of_perm hperm hids supplied] }

def ageDocument : Json :=
  .obj [
    ("$metadata", .obj [("uris", .obj [("jsonLdContext", .str "https://example.org/age")])]),
    ("properties", .obj [("credentialSubject", .obj [("properties", .obj [
      ("id", .obj [("type", .str "string")]),
      ("age", .obj [("title", .str "Age"), ("type", .str "integer")])])])])]

/-- `ageDocument` with its members in another order and with others besides: an inner id, a title
that is null, a description and a list of what is required. -/
def ageDocumentVariant : Json :=
  .obj [
    ("properties", .obj [("credentialSubject", .obj [("required", .arr [.str "age"]),
      ("properties", .obj [
        ("age", .obj [("type", .str "integer"), ("id", .str "years"), ("title", .str "Age")]),
        ("id", .obj [("title", .null), ("type", .str "string"), ("description", .int 7)])])])]),
    ("$metadata", .obj [("version", .int 2),
      ("uris", .obj [("jsonLdContext", .str "https://example.org/age")])])]

/-- The two documents agree, and to convert an age comes to the same. -/
theorem sameTo_of_agree_age :
    Agree ageDocument ageDocumentVariant ∧ SameTo ageDocument ageDocumentVariant ∧
      validateAndConvert ageDocumentVariant [⟨some "age", .str "42"⟩] =
        ⟨[⟨some "age", .int 42⟩], none⟩ := by
  have agree : Agree ageDocument ageDocumentVariant := by
    refine ⟨⟨_, _, rfl, rfl, by decide, by decide, ?_, ?_⟩, ⟨_, rfl, rfl⟩⟩
    · intro key
      simp [Members.keys, or_comm]
    · intro key v w hv hw
      have hm := (lookup_eq_some_iff_mem (by decide)).1 hv
      simp only [List.mem_cons, Prod.mk.injEq, List.not_mem_nil, or_false] at hm
      rcases hm with ⟨rfl, rfl⟩ | ⟨rfl, rfl⟩ <;> cases hw
      · exact ⟨⟨none, some "string", none⟩, rfl, rfl⟩
      · exact ⟨⟨some "Age", some "integer", none⟩, rfl, rfl⟩
  have same := sameTo_of_agree _ _ agree
  exact ⟨agree, same, (same.conversion _).symm.trans (by decide)⟩

end Issuer.Schema
