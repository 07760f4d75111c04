import Issuer.Record
import Mathlib.Data.List.Nodup
/-!
# Reading records

A field has no problem with a member that may be absent or null, with a string, and with any value
if it takes all (`Field.problem?_eq_none_iff`).  An object is a record exactly if none of its fields
has a problem (`read_eq_ok_iff`).  A record that is read has each of its fields as the object has
it: `get?_of_read`.
-/
namespace Issuer.Record

/-- **What a field has no problem with**, by what it requires of its member. -/
theorem Field.problem?_eq_none_iff {f : Field} {member : Option Json} :
    f.problem? member = none ↔ (member = none ∧ f.required = false) ∨
      (member = some .null ∧ f.nullable = true) ∨ (∃ t, member = some (.str t)) ∨
      ∃ v, member = some v ∧ v ≠ .null ∧ f.kind = .any := by
  obtain ⟨name, kind, required, nullable⟩ := f
  rcases member with _ | v
  · simp [Field.problem?]
  · cases v <;> cases kind <;> simp [Field.problem?, Json.isString]

theorem lookup_filterMap_fields {α : Type} (found : Field → Option α) : ∀ (fields : List Field),
    (fields.map Field.name).Nodup → ∀ f ∈ fields,
      (fields.filterMap fun g => (found g).map (g.name, ·)).lookup f.name = found f
  | [], _, f, hf => absurd hf List.not_mem_nil
  | g :: rest, hn, f, hf => by
    rw [List.map_cons, List.nodup_cons] at hn
    by_cases hfg : f = g
    · subst hfg
      cases hget : found f with
      | some v => simp [hget]
      | none =>
        -- no later rule has this name
        rw [List.filterMap_cons, hget, Option.map_none, List.lookup_eq_none_iff]
        intro m hm
        obtain ⟨e, he, hem⟩ := List.mem_filterMap.1 hm
        obtain ⟨v, _, rfl⟩ := Option.map_eq_some_iff.1 hem
        simpa using fun heq : f.name = e.name => hn.1 (List.mem_map.2 ⟨e, he, heq.symm⟩)
    · have hf : f ∈ rest := (List.mem_cons.1 hf).resolve_left hfg
      have hne : f.name ≠ g.name := fun heq => hn.1 (List.mem_map.2 ⟨f, hf, heq⟩)
      have hbeq : (f.name == g.name) = false := by simpa using hne
      have ih := lookup_filterMap_fields found rest hn.2 f hf
      cases hget : found g with
      | some v => rw [List.filterMap_cons, hget, Option.map_some, List.lookup_cons, hbeq, ih]
      | none => rw [List.filterMap_cons, hget, Option.map_none, ih]

/-- **An object is read as a record exactly if no field has a problem.** -/
theorem read_eq_ok_iff {fields : List Field} {ms record : Members} :
    read fields (.obj ms) = .ok record ↔
      (∀ f ∈ fields, f.problem? (Members.get? ms f.name) = none) ∧
        record = fields.filterMap fun f => (Members.get? ms f.name).map (f.name, ·) := by
  have hproblems : (fields.filterMap fun f =>
      (f.problem? (Members.get? ms f.name)).map (f.name, ·)).isEmpty = true ↔
      ∀ f ∈ fields, f.problem? (Members.get? ms f.name) = none := by
    simp
  unfold read
  dsimp only
  split
  · rename_i hempty
    rw [Except.ok.injEq, eq_comm]
    exact ⟨fun h => ⟨hproblems.1 hempty, h⟩, fun h => h.2⟩
  · rename_i hempty
    exact ⟨nofun, fun h => absurd (hproblems.2 h.1) hempty⟩

theorem get?_of_read {fields : List Field} {ms record : Members}
    (h : read fields (.obj ms) = .ok record) (hn : (fields.map Field.name).Nodup) {f : Field}
    (hf : f ∈ fields) : Members.get? record f.name = Members.get? ms f.name := by
  unfold read at h
  dsimp only at h
  split at h
  · rw [← Except.ok.inj h]
    exact lookup_filterMap_fields (fun g => Members.get? ms g.name) fields hn f hf
  · cases h

/-- What is made of members is told by those of the fields. -/
def IsToldBy {α : Type} (fields : List Field) (make : Members → α) : Prop :=
  ∀ ms ms' : Members, (∀ f ∈ fields, Members.get? ms f.name = Members.get? ms' f.name) →
    make ms = make ms'

/-- **What is made of a record** is made of an object exactly if none of its fields has a problem,
and of the object's own fields. -/
theorem map_read_eq_ok_iff {α : Type} {fields : List Field} {make : Members → α} {ms : Members}
    (hn : (fields.map Field.name).Nodup) (told : IsToldBy fields make) {a : α} :
    (read fields (.obj ms)).map make = .ok a ↔
      (∀ f ∈ fields, f.problem? (Members.get? ms f.name) = none) ∧ a = make ms := by
  cases hread : read fields (.obj ms) with
  | error p =>
    refine ⟨nofun, fun ⟨hfields, _⟩ => ?_⟩
    cases hread.symm.trans (read_eq_ok_iff.2 ⟨hfields, rfl⟩)
  | ok record =>
    have hfields := (read_eq_ok_iff.1 hread).1
    rw [Except.map, Except.ok.injEq, told record ms fun f hf => get?_of_read hread hn hf]
    exact ⟨fun h => ⟨hfields, h.symm⟩, fun h => h.2.symm⟩

end Issuer.Record
