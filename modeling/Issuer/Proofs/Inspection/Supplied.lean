import Issuer.Inspection
import Issuer.Proofs.Conversion.Value
import Issuer.Proofs.Except
import Issuer.Proofs.Record
/-!
# Credential attributes that are supplied

A value is read as a credential attribute exactly if it is an object with a name that is a string
and a value that is not null (`readSupplied_eq_ok_iff`).  A value that is a text is never refused
for what it is, only for what it spells (`convertEach_ne_typeMismatch`).
-/
namespace Issuer

namespace Conversion

/-! ## Texts -/

def AreTexts (as : List CredentialAttribute) : Prop := ∀ a ∈ as, ∃ t, a.value = .str t

theorem convertValue_str_ne_typeMismatch (d : Attribute) (name : Option Text) (t : Text)
    (other : Option Text) : convertValue d name (.str t) ≠ .error (.typeMismatch other) := by
  unfold convertValue
  repeat' split
  all_goals nofun

/-- **Texts are not of the wrong kind**: no conversion of texts is stopped by a value that is none.
-/
theorem convertEach_ne_typeMismatch (name : Option Text) (as : List CredentialAttribute)
    (texts : AreTexts as) (pending : List Attribute) :
    (convertEach pending as).problem ≠ some (.typeMismatch name) := by
  induction as generalizing pending with
  | nil =>
    rw [convertEach]
    split
    · nofun
    · nofun
  | cons a rest ih =>
    rw [convertEach]
    split
    · nofun
    · split
      · rename_i refused
        rintro ⟨⟩
        obtain ⟨t, text⟩ := texts a List.mem_cons_self
        rw [text] at refused
        exact convertValue_str_ne_typeMismatch _ _ t name refused
      · exact ih (fun b hb => texts b (List.mem_cons_of_mem a hb)) _

end Conversion

namespace Inspection

theorem isToldBy_ofMembers :
    Record.IsToldBy CredentialAttribute.fields CredentialAttribute.ofMembers := by
  intro ms ms' same
  simp only [CredentialAttribute.fields, List.forall_mem_cons] at same
  obtain ⟨hname, hvalue, -⟩ := same
  simp only [CredentialAttribute.ofMembers, hname, hvalue]

theorem forall_problem?_eq_none_iff (ms : Members) :
    (∀ f ∈ CredentialAttribute.fields, f.problem? (Members.get? ms f.name) = none) ↔
      (∃ name, Members.get? ms "name" = some (.str name)) ∧
        ∃ value, Members.get? ms "value" = some value ∧ value ≠ .null := by
  have given : ((∃ t, Members.get? ms "value" = some (.str t)) ∨
      ∃ value, Members.get? ms "value" = some value ∧ value ≠ .null) ↔
      ∃ value, Members.get? ms "value" = some value ∧ value ≠ .null :=
    or_iff_right_of_imp fun ⟨t, ht⟩ => ⟨.str t, ht, nofun⟩
  simp [CredentialAttribute.fields, Record.Field.problem?_eq_none_iff, given]

/-- **A value is read as a credential attribute exactly if it has a name and a value.** -/
theorem readSupplied_eq_ok_iff {v : Json} {a : CredentialAttribute} :
    readSupplied v = .ok a ↔ ∃ name value, v.member? "name" = some (.str name) ∧
      v.member? "value" = some value ∧ value ≠ .null ∧ a = ⟨some name, value⟩ := by
  unfold readSupplied
  rw [mapError_eq_ok_iff]
  cases v with
  | null | bool | int | float | str | arr =>
    simp [CredentialAttribute.ofJson, Record.read, Json.member?, Except.map]
  | obj ms =>
    rw [CredentialAttribute.ofJson, Record.map_read_eq_ok_iff (by decide) isToldBy_ofMembers,
      forall_problem?_eq_none_iff]
    constructor
    · rintro ⟨⟨⟨name, hname⟩, value, hvalue, given⟩, rfl⟩
      refine ⟨name, value, hname, hvalue, given, ?_⟩
      rw [CredentialAttribute.ofMembers, hname, hvalue]
      rfl
    · rintro ⟨name, value, hname, hvalue, given, rfl⟩
      refine ⟨⟨⟨name, hname⟩, value, hvalue, given⟩, ?_⟩
      change Members.get? ms "name" = _ at hname
      change Members.get? ms "value" = _ at hvalue
      rw [CredentialAttribute.ofMembers, hname, hvalue]
      rfl

end Inspection

end Issuer
