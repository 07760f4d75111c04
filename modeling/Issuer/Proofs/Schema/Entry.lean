import Issuer.Proofs.Members
import Issuer.Proofs.Record
import Issuer.Schema.Document
/-!
# Entries of a document

What the entry of an attribute says: a title, a type and a format, each of which may be absent
(`describe?`).  An attribute is read from an entry exactly if it says so much
(`readAttribute_eq_ok_iff`); whatever else the entry holds, an id included, does not matter.
-/
namespace Issuer.Schema

structure Description where
  title : Option Text
  type : Option Text
  format : Option Text
  deriving DecidableEq

/-- A text that may be absent; null counts as absent, and no other value is one. -/
def optionalText? : Option Json → Option (Option Text)
  | none | some .null => some none
  | some (.str t) => some (some t)
  | some _ => none

/-- What an entry says, if it says no more and no less than it may. -/
def describe? : Json → Option Description
  | .obj ms =>
    match optionalText? (Members.get? ms "title"), optionalText? (Members.get? ms "type"),
      optionalText? (Members.get? ms "format") with
    | some title, some type, some format => some ⟨title, type, format⟩
    | _, _, _ => none
  | _ => none

def Description.attribute (d : Description) (key : Text) : Attribute :=
  ⟨some key, d.title, d.type, d.format⟩

theorem optionalText?_eq_some_some_iff {member : Option Json} {t : Text} :
    optionalText? member = some (some t) ↔ member = some (.str t) := by
  rcases member with _ | v
  · simp [optionalText?]
  · cases v <;> simp [optionalText?]

theorem optionalText?_eq_some_none_iff {member : Option Json} :
    optionalText? member = some none ↔ member = none ∨ member = some .null := by
  rcases member with _ | v
  · simp [optionalText?]
  · cases v <;> simp [optionalText?]

theorem exists_optionalText?_iff {member : Option Json} : (∃ t, optionalText? member = some t) ↔
    member = none ∨ member = some .null ∨ ∃ t, member = some (.str t) := by
  rcases member with _ | v
  · simp [optionalText?]
  · cases v <;> simp [optionalText?]

theorem optionalText?_of_isText {member : Option Json}
    (h : ∀ v, member = some v → ∃ t, v = .str t) : ∃ t, optionalText? member = some t := by
  cases member with
  | none => exact ⟨none, rfl⟩
  | some v =>
    obtain ⟨t, rfl⟩ := h v rfl
    exact ⟨some t, rfl⟩

theorem describe?_obj_eq_some_iff {ms : Members} {d : Description} :
    describe? (.obj ms) = some d ↔ optionalText? (ms.get? "title") = some d.title ∧
      optionalText? (ms.get? "type") = some d.type ∧
      optionalText? (ms.get? "format") = some d.format := by
  obtain ⟨title, type, format⟩ := d
  unfold describe?
  dsimp only
  split
  · rename_i ht hy hf
    simp only [ht, hy, hf, Option.some.injEq, Description.mk.injEq]
  · rename_i hnone
    simp only [false_iff, reduceCtorEq]
    rintro ⟨ht, hy, hf⟩
    exact hnone _ _ _ ht hy hf

/-! ## Fields -/

theorem bind_text?_of_optionalText? {member : Option Json} {t : Option Text}
    (h : optionalText? member = some t) : member.bind Json.text? = t := by
  rcases member with _ | v
  · exact Option.some.inj h
  · cases v with
    | null | str => exact Option.some.inj h
    | bool | int | float | arr | obj => cases h

theorem isToldBy_ofMembers : Record.IsToldBy Attribute.fields Attribute.ofMembers := by
  intro ms ms' same
  simp only [Attribute.fields, List.forall_mem_cons] at same
  obtain ⟨hid, htitle, htype, hformat, -⟩ := same
  simp only [Attribute.ofMembers, hid, htitle, htype, hformat]

section Keyed

variable (key : Text) (ms : Members)

theorem readAttribute_obj {a : Attribute} : readAttribute key (.obj ms) = .ok a ↔
    Attribute.ofJson (.obj (Members.set "id" (.str key) ms)) = .ok a := by
  unfold readAttribute
  dsimp only
  cases Attribute.ofJson (.obj (Members.set "id" (.str key) ms)) <;> simp

theorem get?_set_id {name : Text} (h : ("id" : Text) ≠ name) :
    Members.get? (Members.set "id" (.str key) ms) name = Members.get? ms name :=
  Members.get?_set_of_ne h _ ms

theorem forall_problem?_set_id_iff :
    (∀ f ∈ Attribute.fields,
      f.problem? (Members.get? (Members.set "id" (.str key) ms) f.name) = none) ↔
    (∃ t, optionalText? (Members.get? ms "title") = some t) ∧
      (∃ t, optionalText? (Members.get? ms "type") = some t) ∧
      ∃ t, optionalText? (Members.get? ms "format") = some t := by
  simp [Attribute.fields, Record.Field.problem?_eq_none_iff, exists_optionalText?_iff,
    Members.get?_set, get?_set_id key ms (by decide : ("id" : Text) ≠ "title"),
    get?_set_id key ms (by decide : ("id" : Text) ≠ "type"),
    get?_set_id key ms (by decide : ("id" : Text) ≠ "format")]

theorem ofMembers_set_id : Attribute.ofMembers (Members.set "id" (.str key) ms) =
    ⟨some key, (Members.get? ms "title").bind Json.text?, (Members.get? ms "type").bind Json.text?,
      (Members.get? ms "format").bind Json.text?⟩ := by
  simp only [Attribute.ofMembers, Members.get?_set, Option.bind_some, Json.text?,
    get?_set_id key ms (by decide : ("id" : Text) ≠ "title"),
    get?_set_id key ms (by decide : ("id" : Text) ≠ "type"),
    get?_set_id key ms (by decide : ("id" : Text) ≠ "format")]

end Keyed

/-- **An attribute is read from an entry exactly if it says so**: the id is the key, and of the
members only title, type and format count. -/
theorem readAttribute_eq_ok_iff {key : Text} {v : Json} {a : Attribute} :
    readAttribute key v = .ok a ↔ ∃ d, describe? v = some d ∧ a = d.attribute key := by
  cases v with
  | null | bool | int | float | str | arr => simp [readAttribute, describe?]
  | obj ms =>
    rw [readAttribute_obj, Attribute.ofJson,
      Record.map_read_eq_ok_iff (by decide) isToldBy_ofMembers,
      forall_problem?_set_id_iff, ofMembers_set_id]
    constructor
    · rintro ⟨⟨⟨title, htitle⟩, ⟨type, htype⟩, format, hformat⟩, rfl⟩
      refine ⟨⟨title, type, format⟩, describe?_obj_eq_some_iff.2 ⟨htitle, htype, hformat⟩, ?_⟩
      rw [bind_text?_of_optionalText? htitle, bind_text?_of_optionalText? htype,
        bind_text?_of_optionalText? hformat, Description.attribute]
    · rintro ⟨d, hd, rfl⟩
      obtain ⟨htitle, htype, hformat⟩ := describe?_obj_eq_some_iff.1 hd
      refine ⟨⟨⟨_, htitle⟩, ⟨_, htype⟩, _, hformat⟩, ?_⟩
      rw [bind_text?_of_optionalText? htitle, bind_text?_of_optionalText? htype,
        bind_text?_of_optionalText? hformat, Description.attribute]

end Issuer.Schema
