import Issuer.Proofs.Json.Keys
import Issuer.Proofs.Schema.Attributes
/-!
# Levels of a document

What a path of keys leads to in a document: `Json.at?`.  A document's attributes are declared where
the path of their level leads (`at?_of_declarations`), and a path that cannot be followed is told up
to the first member that is missing or no level (`stopped_of_declarations`).
-/
namespace Issuer

def Json.at? (v : Json) : List Text → Option Json
  | [] => some v
  | key :: rest => (v.member? key).bind fun w => w.at? rest

theorem Json.at?_append (v : Json) : ∀ path rest : List Text,
    v.at? (path ++ rest) = (v.at? path).bind fun w => w.at? rest
  | [], rest => rfl
  | key :: path, rest => by
    rw [List.cons_append, Json.at?, Json.at?, Option.bind_assoc]
    exact Option.bind_congr fun w _ => w.at?_append path rest

theorem Json.HasDistinctKeys.at? {v : Json} (h : v.HasDistinctKeys) : ∀ {path : List Text}
    {w : Json}, v.at? path = some w → w.HasDistinctKeys := by
  intro path
  induction path generalizing v with
  | nil =>
    rintro w ⟨⟩
    exact h
  | cons key rest ih =>
    intro w hw
    obtain ⟨u, hu, hw⟩ := Option.bind_eq_some_iff.1 hw
    exact ih (h.member? hu) hw

namespace Schema

def declarationPath : List Text := ["properties", "credentialSubject", "properties"]

section Lookup

variable {α : Type} {leaf : Json → Option α} {node : Json} {key : Text} {rest path : List Text}

theorem at?_of_lookupFrom {walked : List Text} {a : α}
    (h : lookupFrom leaf walked node key rest = .ok a) :
    ∃ v, node.at? (key :: rest) = some v ∧ leaf v = some a := by
  induction rest generalizing walked node key with
  | nil =>
    rw [lookupFrom] at h
    split at h
    · rename_i b hb
      cases h
      obtain ⟨v, hv, hleaf⟩ := Option.bind_eq_some_iff.1 hb
      exact ⟨v, by rw [Json.at?, hv, Option.bind_some, Json.at?], hleaf⟩
    · cases h
  | cons next rest ih =>
    rw [lookupFrom] at h
    split at h
    · rename_i ms hms
      obtain ⟨v, hv, hleaf⟩ := ih h
      exact ⟨v, by rw [Json.at?, hms, Option.bind_some, hv], hleaf⟩
    · cases h

/-- **Where a path stops**: at a member of an object that is missing or no level of its kind. -/
theorem stopped_of_lookupFrom {walked : List Text} {ms : Members}
    (h : lookupFrom leaf walked (.obj ms) key rest = .error path) :
    ∃ before k after, ∃ parent : Members, key :: rest = before ++ k :: after ∧
      path = walked ++ before ++ [k] ∧ (Json.obj ms).at? before = some (.obj parent) ∧
      ∀ v, parent.get? k = some v → if after = [] then leaf v = none else v.members? = none := by
  induction rest generalizing walked ms key with
  | nil =>
    rw [lookupFrom] at h
    split at h
    · cases h
    · rename_i hnone
      cases h
      refine ⟨[], key, [], ms, rfl, by simp, rfl, fun v hv => ?_⟩
      rw [if_pos rfl]
      exact Option.bind_eq_none_iff.1 hnone v hv
  | cons next rest ih =>
    rw [lookupFrom] at h
    split at h
    · rename_i inner hinner
      obtain ⟨before, k, after, parent, hkeys, rfl, hat, hstop⟩ := ih h
      refine ⟨key :: before, k, after, parent, by rw [hkeys, List.cons_append], by simp, ?_, hstop⟩
      rw [Json.at?, hinner, Option.bind_some, hat]
    · rename_i hno
      cases h
      refine ⟨[], key, next :: rest, ms, rfl, by simp, rfl, fun v hv => ?_⟩
      rw [if_neg (List.cons_ne_nil _ _)]
      cases v with
      | obj inner => exact absurd hv (hno inner)
      | null | bool | int | float | str | arr => rfl

end Lookup

variable {document : Json} {ms : Members}

theorem at?_of_declarations (h : declarations document = .ok ms) :
    document.at? declarationPath = some (.obj ms) := by
  obtain ⟨v, hv, hms⟩ := at?_of_lookupFrom h
  cases v with
  | obj inner => exact hv.trans (congrArg (some ∘ Json.obj) (Option.some.inj hms))
  | null | bool | int | float | str | arr => cases hms

/-- **Where the path to the declarations stops**: at a member that is missing or no object. -/
theorem stopped_of_declarations {path : List Text} (h : declarations (.obj ms) = .error path) :
    ∃ before key after, ∃ parent : Members, declarationPath = before ++ key :: after ∧
      path = before ++ [key] ∧ (Json.obj ms).at? before = some (.obj parent) ∧
      ∀ v, parent.get? key = some v → v.members? = none := by
  obtain ⟨before, key, after, parent, hpath, rfl, hat, hstop⟩ := stopped_of_lookupFrom h
  refine ⟨before, key, after, parent, hpath, by simp, hat, fun v hv => ?_⟩
  simpa using hstop v hv

theorem nodup_keys_of_declarations (hkeys : document.HasDistinctKeys)
    (h : declarations document = .ok ms) : (Members.keys ms).Nodup :=
  (Json.hasDistinctKeys_obj_iff.1 (hkeys.at? (at?_of_declarations h))).1

theorem nodup_ids_of_hasDistinctKeys (hkeys : document.HasDistinctKeys) {declared : List Attribute}
    (h : attributes document = .ok declared) : (declared.map Attribute.id).Nodup := by
  obtain ⟨ms, hms, -⟩ := ids_of_attributes_eq_ok h
  exact nodup_ids_of_attributes hms h (nodup_keys_of_declarations hkeys hms)

/-! ## Problems -/

def Problem.Told : Problem → Prop
  | level path =>
    (Problem.level path).failure.Reports .schemaStructure { path := .str (Text.join "." path) } []
  | entry key cause =>
    ∃ causes,
      (Problem.entry key cause).failure.Reports .attributeDecoding { key := .str key } causes

theorem Problem.told : ∀ p : Problem, p.Told
  | level _ => ⟨_, rfl⟩
  | entry _ _ => ⟨_, _, rfl⟩

end Schema

end Issuer
