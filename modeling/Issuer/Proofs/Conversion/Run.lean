import Issuer.Proofs.Conversion.Pending
import Issuer.Proofs.Except
/-!
# Runs of a conversion

What becomes of one credential attribute is up to the schema's attributes and the names supplied
before it: either it is refused (`Refused`), or its name is new and it has a converted form
(`Matches`).  A refusal ends the run (`convertEach_of_refused`), a converted attribute lets it go on
with one more name taken (`convertEach_of_matches`); so every run converts all attributes up to the
first that is refused (`matched_or_refused`, `convertEach_append`).
-/
namespace Issuer.Conversion

/-- A credential attribute and its converted form: of the same name, with the value converted to
the type of the schema's attribute of that id. -/
structure Matches (declared : List Attribute) (a b : CredentialAttribute) : Prop where
  name : b.name = a.name
  value : ∃ d ∈ declared, d.id = a.name ∧ convertValue d a.name a.value = .ok b.value

/-- Why a credential attribute that comes after the names of `done` is refused. -/
inductive Refused (declared : List Attribute) (done : List (Option Text))
    (a : CredentialAttribute) : Problem → Prop where
  | unknown (h : a.name ∉ declared.map Attribute.id) : Refused declared done a (.notFound a.name)
  | taken (h : a.name ∈ done) : Refused declared done a (.notFound a.name)
  | unconverted {d : Attribute} {p : Problem} (hd : d ∈ declared) (hid : d.id = a.name)
      (hn : a.name ∉ done) (h : convertValue d a.name a.value = .error p) :
      Refused declared done a p

variable {declared : List Attribute} {done : List (Option Text)} {a b : CredentialAttribute}
  {p : Problem}

/-! ## One attribute -/

theorem refused_or_matches (declared : List Attribute) (done : List (Option Text))
    (a : CredentialAttribute) :
    (∃ p, Refused declared done a p) ∨ (a.name ∉ done ∧ ∃ b, Matches declared a b) := by
  by_cases hn : a.name ∈ done
  · exact Or.inl ⟨_, .taken hn⟩
  by_cases hk : a.name ∈ declared.map Attribute.id
  · obtain ⟨d, hd, hid⟩ := List.mem_map.1 hk
    cases hv : convertValue d a.name a.value with
    | error p => exact Or.inl ⟨p, .unconverted hd hid hn hv⟩
    | ok v => exact Or.inr ⟨hn, { a with value := v }, rfl, d, hd, hid, hv⟩
  · exact Or.inl ⟨_, .unknown hk⟩

theorem Matches.mem_ids (h : Matches declared a b) : a.name ∈ declared.map Attribute.id := by
  obtain ⟨d, hd, hid, _⟩ := h.value
  exact List.mem_map.2 ⟨d, hd, hid⟩

theorem Matches.unique (hids : (declared.map Attribute.id).Nodup) {c : CredentialAttribute}
    (hb : Matches declared a b) (hc : Matches declared a c) : b = c := by
  obtain ⟨d, hd, hid, hv⟩ := hb.value
  obtain ⟨e, he, heid, hw⟩ := hc.value
  obtain rfl := List.inj_on_of_nodup_map hids hd he (hid.trans heid.symm)
  have hvalue : b.value = c.value := Except.ok.inj (hv.symm.trans hw)
  have hname : b.name = c.name := hb.name.trans hc.name.symm
  cases b
  cases c
  rw [CredentialAttribute.mk.injEq]
  exact ⟨hname, hvalue⟩

theorem Refused.not_matches (hids : (declared.map Attribute.id).Nodup)
    (h : Refused declared done a p) (hn : a.name ∉ done) : ¬ Matches declared a b := by
  intro hm
  cases h with
  | unknown hk => exact hk hm.mem_ids
  | taken ht => exact hn ht
  | unconverted hd hid _ hv =>
    obtain ⟨e, he, heid, hw⟩ := hm.value
    obtain rfl := List.inj_on_of_nodup_map hids hd he (hid.trans heid.symm)
    rw [hv] at hw
    cases hw

theorem Refused.unique (hids : (declared.map Attribute.id).Nodup) {q : Problem}
    (hp : Refused declared done a p) (hq : Refused declared done a q) : p = q := by
  cases hp with
  | unknown hk =>
    cases hq with
    | unknown => rfl
    | taken => rfl
    | unconverted hd hid _ _ => exact absurd (List.mem_map.2 ⟨_, hd, hid⟩) hk
  | taken ht =>
    cases hq with
    | unknown => rfl
    | taken => rfl
    | unconverted _ _ hn _ => exact absurd ht hn
  | unconverted hd hid hn hv =>
    cases hq with
    | unknown hk => exact absurd (List.mem_map.2 ⟨_, hd, hid⟩) hk
    | taken ht => exact absurd ht hn
    | unconverted he heid _ hw =>
      obtain rfl := List.inj_on_of_nodup_map hids hd he (hid.trans heid.symm)
      exact Except.error.inj (hv.symm.trans hw)

/-! ## Steps -/

theorem convertEach_nil (pending : List Attribute) :
    convertEach pending [] =
      ⟨[], if pending.length = 1 then none else some (.count pending.length)⟩ := rfl

theorem convertEach_of_matches (hids : (declared.map Attribute.id).Nodup) (hn : a.name ∉ done)
    (h : Matches declared a b) (rest : List CredentialAttribute) :
    convertEach (pendingAfter declared done) (a :: rest) =
      (convertEach (pendingAfter declared (done ++ [a.name])) rest).after b := by
  obtain ⟨d, hd, hid, hv⟩ := h.value
  have hb : b = { a with value := b.value } := by
    cases b
    exact congrArg (CredentialAttribute.mk · _) h.name
  rw [convertEach, find?_pendingAfter_eq_some hids hd hid hn]
  simp only [hv, eraseP_pendingAfter hids]
  rw [← hb]

theorem convertEach_of_refused (hids : (declared.map Attribute.id).Nodup)
    (h : Refused declared done a p) (rest : List CredentialAttribute) :
    convertEach (pendingAfter declared done) (a :: rest) = ⟨a :: rest, some p⟩ := by
  cases h with
  | unknown hk =>
    have hne : ∀ d ∈ declared, d.id ≠ a.name := fun d hd hid => hk (List.mem_map.2 ⟨d, hd, hid⟩)
    rw [convertEach, find?_pendingAfter_eq_none (Or.inr hne)]
  | taken ht => rw [convertEach, find?_pendingAfter_eq_none (Or.inl ht)]
  | unconverted hd hid hn hv =>
    rw [convertEach, find?_pendingAfter_eq_some hids hd hid hn]
    simp only [hv]

theorem map_name_convertEach : ∀ (as : List CredentialAttribute) (pending : List Attribute),
    (convertEach pending as).attributes.map CredentialAttribute.name =
      as.map CredentialAttribute.name
  | [], pending => rfl
  | a :: rest, pending => by
    rw [convertEach]
    split
    · rfl
    · split
      · rfl
      · simp only [Outcome.after, List.map_cons, map_name_convertEach rest]

/-! ## Runs -/

theorem convertEach_append (hids : (declared.map Attribute.id).Nodup)
    (rest : List CredentialAttribute) :
    ∀ (as bs : List CredentialAttribute) (done : List (Option Text)),
      List.Forall₂ (Matches declared) as bs → (done ++ as.map CredentialAttribute.name).Nodup →
      convertEach (pendingAfter declared done) (as ++ rest) =
        ⟨bs ++ (convertEach (pendingAfter declared
            (done ++ as.map CredentialAttribute.name)) rest).attributes,
          (convertEach (pendingAfter declared
            (done ++ as.map CredentialAttribute.name)) rest).problem⟩
  | [], [], done, .nil, _ => by simp
  | a :: as, b :: bs, done, .cons hab hrest, hn => by
    have hfresh : a.name ∉ done := fun ha =>
      (List.nodup_append.1 hn).2.2 _ ha _ List.mem_cons_self rfl
    rw [List.map_cons, List.append_cons] at hn
    rw [List.cons_append, convertEach_of_matches hids hfresh hab,
      convertEach_append hids rest as bs (done ++ [a.name]) hrest hn]
    simp [Outcome.after]

/-- **Attributes have their converted forms up to the first that is refused.** -/
theorem matched_or_refused (declared : List Attribute) :
    ∀ (as : List CredentialAttribute) (done : List (Option Text)), done.Nodup →
      (∃ bs, List.Forall₂ (Matches declared) as bs ∧
        (done ++ as.map CredentialAttribute.name).Nodup) ∨
      ∃ before a after bs p, as = before ++ a :: after ∧
        List.Forall₂ (Matches declared) before bs ∧
        (done ++ before.map CredentialAttribute.name).Nodup ∧
        Refused declared (done ++ before.map CredentialAttribute.name) a p
  | [], done, hdone => Or.inl ⟨[], .nil, by simpa using hdone⟩
  | a :: as, done, hdone => by
    rcases refused_or_matches declared done a with ⟨p, hp⟩ | ⟨hn, b, hb⟩
    · exact Or.inr ⟨[], a, as, [], p, rfl, .nil, by simpa using hdone, by simpa using hp⟩
    have hdone' : (done ++ [a.name]).Nodup := List.nodup_append.2
      ⟨hdone, List.nodup_singleton _, fun x hx y hy => by
        rintro rfl
        exact hn (List.mem_singleton.1 hy ▸ hx)⟩
    rcases matched_or_refused declared as (done ++ [a.name]) hdone' with
      ⟨bs, hbs, hnodup⟩ | ⟨before, c, after, bs, p, rfl, hbs, hnodup, hp⟩
    · exact Or.inl ⟨b :: bs, .cons hb hbs, by simpa using hnodup⟩
    · exact Or.inr ⟨a :: before, c, after, b :: bs, p, rfl, .cons hb hbs,
        by simpa using hnodup, by simpa using hp⟩

theorem exists_matches_of_forall₂ {as bs : List CredentialAttribute}
    (h : List.Forall₂ (Matches declared) as bs) : ∀ a ∈ as, ∃ b, Matches declared a b := by
  intro a ha
  obtain ⟨b, -, hb⟩ := exists_of_forall₂ h ha
  exact ⟨b, hb⟩

theorem mem_ids_of_forall₂ {as bs : List CredentialAttribute}
    (h : List.Forall₂ (Matches declared) as bs) : ∀ a ∈ as, a.name ∈ declared.map Attribute.id := by
  intro a ha
  obtain ⟨b, hb⟩ := exists_matches_of_forall₂ h a ha
  exact hb.mem_ids

/-- **A run in which all attributes are converted** ends by the count of what is left. -/
theorem convertEach_of_forall₂ (hids : (declared.map Attribute.id).Nodup)
    {as bs : List CredentialAttribute} (h : List.Forall₂ (Matches declared) as bs)
    (hn : (as.map CredentialAttribute.name).Nodup) :
    as.length ≤ declared.length ∧ convertEach declared as =
      ⟨bs, if declared.length = as.length + 1 then none
        else some (.count (declared.length - as.length))⟩ := by
  have hsub : ∀ n ∈ as.map CredentialAttribute.name, n ∈ declared.map Attribute.id := by
    intro n hn
    obtain ⟨a, ha, rfl⟩ := List.mem_map.1 hn
    exact mem_ids_of_forall₂ h a ha
  have hlen := length_pendingAfter hids hn hsub
  rw [List.length_map] at hlen
  have hrun := convertEach_append hids [] as bs [] h (by simpa using hn)
  rw [List.append_nil, pendingAfter_nil, List.nil_append, convertEach_nil] at hrun
  refine ⟨by omega, ?_⟩
  rw [hrun, List.append_nil]
  by_cases hone : declared.length = as.length + 1
  · rw [if_pos hone, if_pos (by omega)]
  · have hleft : (pendingAfter declared (as.map CredentialAttribute.name)).length =
        declared.length - as.length := by omega
    rw [if_neg hone, if_neg (by omega), hleft]

end Issuer.Conversion
