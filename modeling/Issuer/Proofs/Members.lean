import Issuer.Json.Basic
import Mathlib.Data.List.Nodup
/-!
# Members of objects

What is found under a key.  Where no key repeats, as in every object, a member is found exactly if
it is there, and the order of the members does not matter.
-/
namespace Issuer

section Lookup

variable {κ β : Type} [BEq κ] [LawfulBEq κ]

theorem lookup_eq_some_iff_mem : ∀ {l : List (κ × β)}, (l.map Prod.fst).Nodup →
    ∀ {key : κ} {v : β}, l.lookup key = some v ↔ (key, v) ∈ l
  | [], _, _, _ => by simp
  | (k, w) :: l, hn, key, v => by
    rw [List.map_cons, List.nodup_cons] at hn
    rw [List.lookup_cons, List.mem_cons]
    by_cases hk : key = k
    · subst hk
      have hfresh : (key, v) ∉ l := fun hm => hn.1 (List.mem_map.2 ⟨_, hm, rfl⟩)
      simp [hfresh, eq_comm]
    · have hne : (key == k) = false := by simpa using hk
      rw [hne, lookup_eq_some_iff_mem hn.2]
      simp [hk]

theorem lookup_eq_of_perm {l m : List (κ × β)} (h : l.Perm m) (hn : (l.map Prod.fst).Nodup)
    (key : κ) : l.lookup key = m.lookup key := by
  have hm : (m.map Prod.fst).Nodup := (h.map Prod.fst).nodup_iff.1 hn
  refine Option.ext fun v => ?_
  rw [lookup_eq_some_iff_mem hn, lookup_eq_some_iff_mem hm, h.mem_iff]

end Lookup

namespace Members

theorem get?_set_of_ne {key k : Text} (h : key ≠ k) (value : Json) : ∀ ms : Members,
    get? (set key value ms) k = get? ms k
  | [] => by rw [set, get?_cons, if_neg h]
  | (l, v) :: rest => by
    by_cases hl : l = key
    · subst hl
      rw [set, if_pos rfl, get?_cons, get?_cons, if_neg h, if_neg h]
    · rw [set, if_neg hl, get?_cons, get?_cons, get?_set_of_ne h value rest]

theorem mem_of_get? {ms : Members} {key : Text} {v : Json} (h : get? ms key = some v) :
    (key, v) ∈ ms := by
  obtain ⟨before, after, rfl, -⟩ := List.lookup_eq_some_iff.1 h
  exact List.mem_append_right before List.mem_cons_self

theorem exists_get?_of_mem {ms : Members} (hn : (keys ms).Nodup) {key : Text}
    (h : key ∈ keys ms) : ∃ v, get? ms key = some v := by
  obtain ⟨⟨k, v⟩, hm, rfl⟩ := List.mem_map.1 h
  exact ⟨v, (lookup_eq_some_iff_mem hn).2 hm⟩

end Members

end Issuer
