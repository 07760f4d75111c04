import Issuer.Proofs.Conversion.Run
/-!
# When a conversion succeeds, and how it fails

A conversion matches the credential attributes one to one with all attributes of the schema but one.
`validateAndConvert_ok` says exactly when it succeeds and what it gives then; in which order the
schema's attributes stand does not matter.  `validateAndConvert_failed` says of every failure which
problem it tells and what became of the attributes: a repeated id comes first and leaves all of them
as they were, then the first attribute that is refused counts, and the number of attributes last.
-/
namespace Issuer.Conversion

variable {declared : List Attribute} {as bs : List CredentialAttribute}

theorem validateAndConvert_of_nodup (hids : (declared.map Attribute.id).Nodup)
    (as : List CredentialAttribute) : validateAndConvert declared as = convertEach declared as := by
  have hnone : firstDuplicate? [] declared = none :=
    (firstDuplicate?_eq_none_iff declared []).2 ⟨hids, by simp⟩
  rw [validateAndConvert, hnone]

theorem nodup_ids_of_ok (h : (validateAndConvert declared as).problem = none) :
    (declared.map Attribute.id).Nodup := by
  rw [validateAndConvert] at h
  cases hdup : firstDuplicate? [] declared with
  | some id => simp [hdup] at h
  | none => exact ((firstDuplicate?_eq_none_iff declared []).1 hdup).1

theorem forall₂_matches_unique (hids : (declared.map Attribute.id).Nodup)
    {cs : List CredentialAttribute} (hb : List.Forall₂ (Matches declared) as bs)
    (hc : List.Forall₂ (Matches declared) as cs) : bs = cs :=
  List.right_unique_forall₂' (fun _ _ _ hab hac => hab.unique hids hac) hb hc

theorem convertEach_of_stopped (hids : (declared.map Attribute.id).Nodup)
    {before after : List CredentialAttribute} {a : CredentialAttribute} {p : Problem}
    (hbs : List.Forall₂ (Matches declared) before bs)
    (hn : (before.map CredentialAttribute.name).Nodup)
    (hp : Refused declared (before.map CredentialAttribute.name) a p) :
    convertEach declared (before ++ a :: after) = ⟨bs ++ a :: after, some p⟩ := by
  have hrun := convertEach_append hids (a :: after) before bs [] hbs (by simpa using hn)
  rw [pendingAfter_nil, List.nil_append, convertEach_of_refused hids hp] at hrun
  exact hrun

/-! ## Success -/

theorem matches_of_ok (h : (validateAndConvert declared as).problem = none) :
    List.Forall₂ (Matches declared) as (validateAndConvert declared as).attributes ∧
      (as.map CredentialAttribute.name).Nodup ∧ declared.length = as.length + 1 := by
  have hids := nodup_ids_of_ok h
  rw [validateAndConvert_of_nodup hids] at h ⊢
  rcases matched_or_refused declared as [] List.nodup_nil with
    ⟨bs, hbs, hn⟩ | ⟨before, a, after, bs, p, rfl, hbs, hn, hp⟩
  · have hn : (as.map CredentialAttribute.name).Nodup := by simpa using hn
    obtain ⟨_, hrun⟩ := convertEach_of_forall₂ hids hbs hn
    rw [hrun] at h ⊢
    refine ⟨hbs, hn, ?_⟩
    by_cases hone : declared.length = as.length + 1
    · exact hone
    · simp [hone] at h
  · rw [convertEach_of_stopped hids hbs (by simpa using hn) (by simpa using hp)] at h
    cases h

theorem ok_of_matches (hids : (declared.map Attribute.id).Nodup)
    (hnames : (as.map CredentialAttribute.name).Nodup)
    (hmatch : ∀ a ∈ as, ∃ b, Matches declared a b) (hlen : declared.length = as.length + 1) :
    (validateAndConvert declared as).problem = none := by
  rw [validateAndConvert_of_nodup hids]
  rcases matched_or_refused declared as [] List.nodup_nil with
    ⟨bs, hbs, hn⟩ | ⟨before, a, after, bs, p, rfl, hbs, hn, hp⟩
  · rw [(convertEach_of_forall₂ hids hbs hnames).2, if_pos hlen]
  · obtain ⟨b, hb⟩ := hmatch a (by simp)
    rw [List.map_append, List.map_cons] at hnames
    have hfresh : a.name ∉ [] ++ before.map CredentialAttribute.name := fun ha =>
      (List.nodup_append.1 hnames).2.2 _ (by simpa using ha) _ List.mem_cons_self rfl
    exact absurd hb (hp.not_matches hids hfresh)

theorem existsUnique_left_of_ok (h : (validateAndConvert declared as).problem = none) :
    ∃! d, d ∈ declared ∧ d.id ∉ as.map CredentialAttribute.name := by
  obtain ⟨hbs, hnames, hlen⟩ := matches_of_ok h
  have hsub : ∀ n ∈ as.map CredentialAttribute.name, n ∈ declared.map Attribute.id := by
    intro n hn
    obtain ⟨a, ha, rfl⟩ := List.mem_map.1 hn
    exact mem_ids_of_forall₂ hbs a ha
  have hleft := length_pendingAfter (nodup_ids_of_ok h) hnames hsub
  rw [List.length_map] at hleft
  obtain ⟨d, hd⟩ := List.length_eq_one_iff.1 (by omega :
    (pendingAfter declared (as.map CredentialAttribute.name)).length = 1)
  have hmem : ∀ e, e ∈ declared ∧ e.id ∉ as.map CredentialAttribute.name ↔ e = d := fun e => by
    rw [← mem_pendingAfter, hd, List.mem_singleton]
  exact ⟨d, (hmem d).2 rfl, fun e he => (hmem e).1 he⟩

/-- **A conversion succeeds exactly if** the ids are distinct, the names are distinct ids, every
value can be converted to the type of its attribute and one attribute is left over.  It then gives
every attribute, in order and under its name, with that value, whatever the order of the schema's
attributes. -/
theorem validateAndConvert_ok (declared : List Attribute) (as : List CredentialAttribute) :
    ((validateAndConvert declared as).problem = none ↔
      (declared.map Attribute.id).Nodup ∧ (as.map CredentialAttribute.name).Nodup ∧
      (∀ a ∈ as, a.name ∈ declared.map Attribute.id) ∧
      (∀ a ∈ as, ∀ d ∈ declared, d.id = a.name → ∃ v, convertValue d a.name a.value = .ok v) ∧
      declared.length = as.length + 1) ∧
    ((validateAndConvert declared as).problem = none →
      List.Forall₂ (Matches declared) as (validateAndConvert declared as).attributes ∧
      (∃! d, d ∈ declared ∧ d.id ∉ as.map CredentialAttribute.name) ∧
      ∀ declared' : List Attribute, declared'.Perm declared →
        validateAndConvert declared' as = validateAndConvert declared as) := by
  refine ⟨⟨fun h => ?_, ?_⟩, fun h => ⟨(matches_of_ok h).1, existsUnique_left_of_ok h, ?_⟩⟩
  · have hids := nodup_ids_of_ok h
    obtain ⟨hbs, hnames, hlen⟩ := matches_of_ok h
    refine ⟨hids, hnames, mem_ids_of_forall₂ hbs, fun a ha d hd hid => ?_, hlen⟩
    obtain ⟨b, hb⟩ := exists_matches_of_forall₂ hbs a ha
    obtain ⟨e, he, heid, hv⟩ := hb.value
    obtain rfl := List.inj_on_of_nodup_map hids hd he (hid.trans heid.symm)
    exact ⟨b.value, hv⟩
  · rintro ⟨hids, hnames, hsub, hconv, hlen⟩
    refine ok_of_matches hids hnames (fun a ha => ?_) hlen
    obtain ⟨d, hd, hid⟩ := List.mem_map.1 (hsub a ha)
    obtain ⟨v, hv⟩ := hconv a ha d hd hid
    exact ⟨{ a with value := v }, rfl, d, hd, hid, hv⟩
  · intro declared' hperm
    have hids := nodup_ids_of_ok h
    obtain ⟨hbs, hnames, hlen⟩ := matches_of_ok h
    have hids' : (declared'.map Attribute.id).Nodup := (hperm.map Attribute.id).nodup_iff.2 hids
    have hto : ∀ a b, Matches declared a b → Matches declared' a b := fun a b hab =>
      ⟨hab.name, hab.value.imp fun d hd => ⟨hperm.mem_iff.2 hd.1, hd.2⟩⟩
    have h' : (validateAndConvert declared' as).problem = none :=
      ok_of_matches hids' hnames
        (fun a ha => (exists_matches_of_forall₂ hbs a ha).imp fun b hb => hto a b hb)
        (hperm.length_eq.trans hlen)
    have hsame := forall₂_matches_unique hids' (matches_of_ok h').1 (hbs.imp hto)
    cases ho : validateAndConvert declared' as
    cases ho' : validateAndConvert declared as
    simp only [ho, ho'] at h h' hsame
    rw [h, h', hsame]

/-- Age and name of a person leave one attribute. -/
theorem validateAndConvert_ok_person :
    let declared : List Attribute := [{ id := some "age", type := some "integer" },
      { id := some "id", type := some "string" }, { id := some "name", type := some "string" }]
    let as : List CredentialAttribute :=
      [⟨some "name", .str "alice"⟩, ⟨some "age", .str "+42"⟩]
    (validateAndConvert declared as).problem = none ∧
      (∃! d, d ∈ declared ∧ d.id ∉ as.map CredentialAttribute.name) ∧
      validateAndConvert declared.reverse as = validateAndConvert declared as := by
  intro declared as
  have hok : (validateAndConvert declared as).problem = none := by decide
  obtain ⟨_, hleft, hperm⟩ := (validateAndConvert_ok declared as).2 hok
  exact ⟨hok, hleft, hperm _ declared.reverse_perm⟩

/-! ## Failure -/

def RefusedAt (declared : List Attribute) (as : List CredentialAttribute) (i : Nat) (p : Problem) :
    Prop :=
  ∃ a, as[i]? = some a ∧ Refused declared ((as.take i).map CredentialAttribute.name) a p

theorem refusedAt_length {before after : List CredentialAttribute} {a : CredentialAttribute}
    {p : Problem} (h : Refused declared (before.map CredentialAttribute.name) a p) :
    RefusedAt declared (before ++ a :: after) before.length p :=
  ⟨a, by simp, by simpa using h⟩

theorem not_refusedAt_of_matched (hids : (declared.map Attribute.id).Nodup)
    {before : List CredentialAttribute} (hbs : List.Forall₂ (Matches declared) before bs)
    (hn : (before.map CredentialAttribute.name).Nodup) (rest : List CredentialAttribute) {i : Nat}
    (hi : i < before.length) (p : Problem) : ¬ RefusedAt declared (before ++ rest) i p := by
  rintro ⟨a, ha, hp⟩
  rw [List.getElem?_append_left hi, List.getElem?_eq_getElem hi, Option.some.injEq] at ha
  rw [List.take_append_of_le_length (Nat.le_of_lt hi)] at hp
  have hsplit : before = before.take i ++ a :: before.drop (i + 1) := by
    rw [← ha, List.getElem_cons_drop hi, List.take_append_drop]
  rw [hsplit, List.map_append, List.map_cons] at hn
  have hfresh : a.name ∉ (before.take i).map CredentialAttribute.name := fun hm =>
    (List.nodup_append.1 hn).2.2 _ hm _ List.mem_cons_self rfl
  obtain ⟨b, hb⟩ := exists_matches_of_forall₂ hbs a (ha ▸ List.getElem_mem hi)
  exact hp.not_matches hids hfresh hb

theorem duplicated_of_not_nodup (h : ¬ (declared.map Attribute.id).Nodup)
    (as : List CredentialAttribute) :
    ∃ before d after, declared = before ++ d :: after ∧ (before.map Attribute.id).Nodup ∧
      d.id ∈ before.map Attribute.id ∧
      validateAndConvert declared as = ⟨as, some (.duplicated d.id)⟩ := by
  cases hdup : firstDuplicate? [] declared with
  | none => exact absurd ((firstDuplicate?_eq_none_iff declared []).1 hdup).1 h
  | some id =>
    obtain ⟨before, d, after, hD, rfl, hn, _, hd⟩ := firstDuplicate?_eq_some declared [] id hdup
    refine ⟨before, d, after, hD, hn, hd.resolve_left (by simp), ?_⟩
    rw [validateAndConvert, hdup]

theorem stopped_of_refusedAt (hids : (declared.map Attribute.id).Nodup) {i : Nat} {p : Problem}
    (hp : RefusedAt declared as i p) (hfirst : ∀ j < i, ∀ q, ¬ RefusedAt declared as j q) :
    (validateAndConvert declared as).problem = some p ∧
      List.Forall₂ (Matches declared) (as.take i)
        ((validateAndConvert declared as).attributes.take i) ∧
      (validateAndConvert declared as).attributes.drop i = as.drop i := by
  rw [validateAndConvert_of_nodup hids]
  rcases matched_or_refused declared as [] List.nodup_nil with
    ⟨bs, hbs, hn⟩ | ⟨before, b, after, bs, q, rfl, hbs, hn, hq⟩
  · have hi : i < as.length := by
      obtain ⟨a, ha, _⟩ := hp
      exact (List.getElem?_eq_some_iff.1 ha).1
    have hnot := not_refusedAt_of_matched hids hbs (by simpa using hn) [] hi p
    rw [List.append_nil] at hnot
    exact absurd hp hnot
  have hn : (before.map CredentialAttribute.name).Nodup := by simpa using hn
  have hq : Refused declared (before.map CredentialAttribute.name) b q := by simpa using hq
  have hle : i ≤ before.length := Nat.le_of_not_lt fun hlt =>
    hfirst before.length hlt q (refusedAt_length hq)
  have hge : before.length ≤ i := Nat.le_of_not_lt fun hlt =>
    not_refusedAt_of_matched hids hbs hn (b :: after) hlt p hp
  obtain rfl : i = before.length := Nat.le_antisymm hle hge
  obtain ⟨a, ha, hpa⟩ := hp
  obtain rfl : b = a := by simpa using ha
  obtain rfl : p = q := by
    rw [List.take_left] at hpa
    exact hpa.unique hids hq
  rw [convertEach_of_stopped hids hbs hn hq]
  refine ⟨rfl, ?_, ?_⟩
  · rw [List.take_left, hbs.length_eq, List.take_left]
    exact hbs
  · rw [List.drop_left, hbs.length_eq, List.drop_left]

/-- **How a conversion fails.**  Names and order stay.  An id that repeats is told first, at the
first attribute whose id occurred before, and no credential attribute is changed.  Else the first
credential attribute that is refused tells why, all before it are converted and it and the others
are as they were.  Else all are converted, and the number of attributes left over is not one. -/
theorem validateAndConvert_failed (declared : List Attribute) (as : List CredentialAttribute)
    (h : (validateAndConvert declared as).problem ≠ none) :
    (validateAndConvert declared as).attributes.map CredentialAttribute.name =
      as.map CredentialAttribute.name ∧
    (¬ (declared.map Attribute.id).Nodup →
      ∃ before d after, declared = before ++ d :: after ∧ (before.map Attribute.id).Nodup ∧
        d.id ∈ before.map Attribute.id ∧
        validateAndConvert declared as = ⟨as, some (.duplicated d.id)⟩) ∧
    ((declared.map Attribute.id).Nodup → ∀ i p, RefusedAt declared as i p →
      (∀ j < i, ∀ q, ¬ RefusedAt declared as j q) →
      (validateAndConvert declared as).problem = some p ∧
        List.Forall₂ (Matches declared) (as.take i)
          ((validateAndConvert declared as).attributes.take i) ∧
        (validateAndConvert declared as).attributes.drop i = as.drop i) ∧
    ((declared.map Attribute.id).Nodup → (∀ i p, ¬ RefusedAt declared as i p) →
      (validateAndConvert declared as).problem = some (.count (declared.length - as.length)) ∧
        as.length ≤ declared.length ∧ declared.length - as.length ≠ 1 ∧
        List.Forall₂ (Matches declared) as (validateAndConvert declared as).attributes) ∧
    (∀ name, (Problem.duplicated name).failure.Reports .conversion { name := .ofText? name } [] ∧
      (Problem.notFound name).failure.Reports .attributeNotFound { name := .ofText? name } []) ∧
    ∀ n : Nat, (Problem.count n).failure.Reports .countMismatch { remaining := .int n } [] := by
  refine ⟨?_, fun hids => duplicated_of_not_nodup hids as,
    fun hids i p hp hfirst => stopped_of_refusedAt hids hp hfirst, fun hids hnone => ?_,
    fun name => ⟨⟨_, rfl⟩, ⟨_, rfl⟩⟩, fun n => ⟨_, rfl⟩⟩
  · rw [validateAndConvert]
    split
    · rfl
    · exact map_name_convertEach as declared
  · rcases matched_or_refused declared as [] List.nodup_nil with
      ⟨bs, hbs, hn⟩ | ⟨before, a, after, bs, p, rfl, hbs, hn, hp⟩
    · obtain ⟨hle, hrun⟩ := convertEach_of_forall₂ hids hbs (by simpa using hn)
      rw [validateAndConvert_of_nodup hids, hrun] at h ⊢
      have hone : declared.length ≠ as.length + 1 := fun hone => h (if_pos hone)
      exact ⟨if_neg hone, hle, by omega, hbs⟩
    · exact absurd (refusedAt_length (by simpa using hp)) (hnone before.length p)

/-- The second of three values is no integer; the first is converted by then. -/
theorem validateAndConvert_failed_at_second :
    let declared : List Attribute := [{ id := some "size", type := some "integer" },
      { id := some "id", type := some "string" }, { id := some "age", type := some "integer" }]
    let as : List CredentialAttribute :=
      [⟨some "age", .str "042"⟩, ⟨some "size", .str "tall"⟩, ⟨some "id", .null⟩]
    (validateAndConvert declared as).problem ≠ none ∧
      (validateAndConvert declared as).problem =
        some (.integer (some "size") (.notInteger "tall")) ∧
      (validateAndConvert declared as).attributes.take 1 = [⟨some "age", .int 42⟩] ∧
      (validateAndConvert declared as).attributes.drop 1 = as.drop 1 := by
  intro declared as
  have hfail : (validateAndConvert declared as).problem ≠ none := by decide
  have hids : (declared.map Attribute.id).Nodup := by decide
  have hsecond : RefusedAt declared as 1 (.integer (some "size") (.notInteger "tall")) :=
    ⟨_, rfl, .unconverted List.mem_cons_self rfl (by decide) (by decide)⟩
  have hage : Matches declared ⟨some "age", .str "042"⟩ ⟨some "age", .int 42⟩ :=
    ⟨rfl, { id := some "age", type := some "integer" }, by decide, rfl, by decide⟩
  have hfirst : ∀ j < 1, ∀ q, ¬ RefusedAt declared as j q := fun j hj q =>
    not_refusedAt_of_matched hids (.cons hage .nil) (by decide) as.tail hj q
  obtain ⟨_, _, hstop, _⟩ := validateAndConvert_failed declared as hfail
  obtain ⟨hproblem, _, hrest⟩ := hstop hids 1 _ hsecond hfirst
  exact ⟨hfail, hproblem, by decide, hrest⟩

end Issuer.Conversion
