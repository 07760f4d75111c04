import Issuer.Conversion
import Mathlib.Data.List.Nodup
import Mathlib.Data.List.Perm.Basic
/-!
# Pending attributes

Two facts about the attributes of a schema that a conversion keeps pending.  A search for a repeated
id finds the first attribute whose id occurred before (`firstDuplicate?_eq_none_iff`,
`firstDuplicate?_eq_some`).  Where no id repeats, what is pending after some names were supplied is
what none of them names: `pendingAfter`, with what is found there, what is left once a name is
taken, and how many attributes that are.
-/
namespace Issuer.Conversion

/-! ## Repeated ids -/

theorem firstDuplicate?_eq_none_iff : ∀ (declared : List Attribute) (seen : List (Option Text)),
    firstDuplicate? seen declared = none ↔
      (declared.map Attribute.id).Nodup ∧ ∀ d ∈ declared, d.id ∉ seen
  | [], seen => by simp [firstDuplicate?]
  | d :: rest, seen => by
    rw [firstDuplicate?, List.map_cons, List.nodup_cons, List.forall_mem_cons]
    by_cases hd : d.id ∈ seen
    · simp [hd]
    · simp only [List.contains_iff_mem, hd, ↓reduceIte, firstDuplicate?_eq_none_iff rest,
        not_false_eq_true, true_and, List.mem_cons, not_or, List.mem_map, not_exists, not_and]
      constructor
      · rintro ⟨hn, hs⟩
        exact ⟨⟨fun e he => (hs e he).1, hn⟩, fun e he => (hs e he).2⟩
      · rintro ⟨⟨hd, hn⟩, hs⟩
        exact ⟨hn, fun e he => ⟨hd e he, hs e he⟩⟩

/-- **The id that is found is that of the first attribute whose id occurred before.** -/
theorem firstDuplicate?_eq_some : ∀ (declared : List Attribute) (seen : List (Option Text))
    (id : Option Text), firstDuplicate? seen declared = some id →
      ∃ before d after, declared = before ++ d :: after ∧ d.id = id ∧
        (before.map Attribute.id).Nodup ∧ (∀ b ∈ before, b.id ∉ seen) ∧
        (d.id ∈ seen ∨ d.id ∈ before.map Attribute.id)
  | [], seen, id, h => by simp [firstDuplicate?] at h
  | d :: rest, seen, id, h => by
    rw [firstDuplicate?] at h
    by_cases hd : d.id ∈ seen
    · have hid : d.id = id := by simpa [hd] using h
      exact ⟨[], d, rest, rfl, hid, List.nodup_nil, by simp, Or.inl hd⟩
    · simp only [List.contains_iff_mem, hd, ↓reduceIte] at h
      obtain ⟨before, e, after, rfl, hid, hn, hs, he⟩ :=
        firstDuplicate?_eq_some rest (d.id :: seen) id h
      simp only [List.mem_cons, not_or] at hs he
      refine ⟨d :: before, e, after, rfl, hid, ?_, ?_, ?_⟩
      · rw [List.map_cons, List.nodup_cons]
        refine ⟨fun hm => ?_, hn⟩
        obtain ⟨b, hb, hbd⟩ := List.mem_map.1 hm
        exact (hs b hb).1 hbd
      · exact List.forall_mem_cons.2 ⟨hd, fun b hb => (hs b hb).2⟩
      · rw [List.map_cons, List.mem_cons]
        rcases he with (he | he) | he
        · exact Or.inr (Or.inl he)
        · exact Or.inl he
        · exact Or.inr (Or.inr he)

/-! ## What is pending -/

/-- The attributes that no name of `done` names. -/
def pendingAfter (declared : List Attribute) (done : List (Option Text)) : List Attribute :=
  declared.filter fun d => !done.contains d.id

@[simp] theorem mem_pendingAfter {declared : List Attribute} {done : List (Option Text)}
    {d : Attribute} : d ∈ pendingAfter declared done ↔ d ∈ declared ∧ d.id ∉ done := by
  simp [pendingAfter]

@[simp] theorem pendingAfter_nil (declared : List Attribute) :
    pendingAfter declared [] = declared := by
  simp [pendingAfter]

variable {declared : List Attribute} {done : List (Option Text)} {name : Option Text}

theorem find?_pendingAfter_eq_some (hids : (declared.map Attribute.id).Nodup) {d : Attribute}
    (hd : d ∈ declared) (hid : d.id = name) (hn : name ∉ done) :
    (pendingAfter declared done).find? (fun d => d.id = name) = some d := by
  have hmem : d ∈ pendingAfter declared done := mem_pendingAfter.2 ⟨hd, by rwa [hid]⟩
  cases hf : (pendingAfter declared done).find? (fun d => d.id = name) with
  | none => exact absurd (by simpa using hid) (List.find?_eq_none.1 hf d hmem)
  | some e =>
    have he := (mem_pendingAfter.1 (List.mem_of_find?_eq_some hf)).1
    have heid : e.id = name := by simpa using List.find?_some hf
    rw [List.inj_on_of_nodup_map hids he hd (heid.trans hid.symm)]

theorem find?_pendingAfter_eq_none (h : name ∈ done ∨ ∀ d ∈ declared, d.id ≠ name) :
    (pendingAfter declared done).find? (fun d => d.id = name) = none := by
  rw [List.find?_eq_none]
  intro d hd hid
  obtain ⟨hd, hdone⟩ := mem_pendingAfter.1 hd
  have hid : d.id = name := by simpa using hid
  rcases h with h | h
  · exact hdone (hid ▸ h)
  · exact h d hd hid

theorem eraseP_eq_filter_of_nodup : ∀ (ds : List Attribute), (ds.map Attribute.id).Nodup →
    ds.eraseP (fun d => d.id = name) = ds.filter fun d => d.id ≠ name
  | [], _ => rfl
  | d :: ds, h => by
    rw [List.map_cons, List.nodup_cons] at h
    by_cases hd : d.id = name
    · have hrest : ∀ e ∈ ds, e.id ≠ name := fun e he hen =>
        h.1 (List.mem_map.2 ⟨e, he, hen.trans hd.symm⟩)
      rw [List.eraseP_cons_of_pos (by simpa using hd),
        List.filter_cons_of_neg (by simpa using hd), List.filter_eq_self.2 (by simpa using hrest)]
    · rw [List.eraseP_cons_of_neg (by simpa using hd),
        List.filter_cons_of_pos (by simpa using hd), eraseP_eq_filter_of_nodup ds h.2]

theorem nodup_pendingAfter (hids : (declared.map Attribute.id).Nodup) :
    ((pendingAfter declared done).map Attribute.id).Nodup :=
  hids.sublist (List.Sublist.map _ List.filter_sublist)

theorem eraseP_pendingAfter (hids : (declared.map Attribute.id).Nodup) :
    (pendingAfter declared done).eraseP (fun d => d.id = name) =
      pendingAfter declared (done ++ [name]) := by
  rw [eraseP_eq_filter_of_nodup _ (nodup_pendingAfter hids), pendingAfter, pendingAfter,
    List.filter_filter]
  apply List.filter_congr
  intro d _
  by_cases hd : d.id ∈ done <;> by_cases hn : d.id = name <;> simp [hd, hn]

theorem length_pendingAfter (hids : (declared.map Attribute.id).Nodup) (hdone : done.Nodup)
    (hsub : ∀ n ∈ done, n ∈ declared.map Attribute.id) :
    (pendingAfter declared done).length + done.length = declared.length := by
  have htaken : ((declared.filter fun d => done.contains d.id).map Attribute.id).Perm done := by
    rw [List.perm_ext_iff_of_nodup (hids.sublist (List.Sublist.map _ List.filter_sublist))
      hdone]
    intro n
    simp only [List.mem_map, List.mem_filter, List.contains_iff_mem]
    constructor
    · rintro ⟨d, ⟨_, hd⟩, rfl⟩
      exact hd
    · intro hn
      obtain ⟨d, hd, rfl⟩ := List.mem_map.1 (hsub n hn)
      exact ⟨d, ⟨hd, hn⟩, rfl⟩
  have hlen := htaken.length_eq
  rw [List.length_map] at hlen
  rw [← hlen, pendingAfter, Nat.add_comm,
    ← List.length_eq_length_filter_add (l := declared) fun d => done.contains d.id]

end Issuer.Conversion
