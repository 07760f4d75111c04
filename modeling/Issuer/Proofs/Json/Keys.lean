import Issuer.Json.Read
import Issuer.Proofs.Except
import Issuer.Proofs.Members
import Mathlib.Data.Nat.Init
/-!
# Keys of what is read

In what is read as JSON no object repeats a key: of members with one key the reader keeps one
(`hasDistinctKeys_of_ofBytes`).
-/
namespace Issuer

namespace Members

theorem mem_keys_set {key k : Text} {value : Json} : ∀ {ms : Members},
    k ∈ keys (set key value ms) → k = key ∨ k ∈ keys ms
  | [], h => by simpa [set, keys] using h
  | (l, v) :: rest, h => by
    by_cases hl : l = key
    · rw [set, if_pos hl] at h
      exact .inr h
    · rw [set, if_neg hl, keys, List.map_cons, List.mem_cons] at h
      rcases h with rfl | h
      · exact .inr List.mem_cons_self
      · exact (mem_keys_set h).imp_right (List.mem_cons_of_mem l)

theorem nodup_keys_set {key : Text} {value : Json} : ∀ {ms : Members},
    (keys ms).Nodup → (keys (set key value ms)).Nodup
  | [], _ => List.nodup_singleton key
  | (l, v) :: rest, h => by
    rw [keys, List.map_cons, List.nodup_cons] at h
    by_cases hl : l = key
    · rw [set, if_pos hl]
      exact List.nodup_cons.2 h
    · rw [set, if_neg hl]
      exact List.nodup_cons.2
        ⟨fun hm => (mem_keys_set hm).elim hl h.1, nodup_keys_set h.2⟩

theorem mem_set {key : Text} {value : Json} {m : Text × Json} : ∀ {ms : Members},
    m ∈ set key value ms → m = (key, value) ∨ m ∈ ms
  | [], h => .inl (List.mem_singleton.1 h)
  | (l, v) :: rest, h => by
    by_cases hl : l = key
    · subst hl
      rw [set, if_pos rfl, List.mem_cons] at h
      exact h.imp_right (List.mem_cons_of_mem _)
    · rw [set, if_neg hl, List.mem_cons] at h
      rcases h with rfl | h
      · exact .inr List.mem_cons_self
      · exact (mem_set h).imp_right (List.mem_cons_of_mem _)

end Members

namespace Json

/-- **No object repeats a key**, however deep in a value it lies. -/
inductive HasDistinctKeys : Json → Prop where
  | null : HasDistinctKeys null
  | bool (b : Bool) : HasDistinctKeys (bool b)
  | int (n : Int) : HasDistinctKeys (int n)
  | float (x : Binary64) : HasDistinctKeys (float x)
  | str (t : Text) : HasDistinctKeys (str t)
  | arr {items : List Json} (each : ∀ v ∈ items, HasDistinctKeys v) : HasDistinctKeys (arr items)
  | obj {ms : Members} (distinct : (Members.keys ms).Nodup)
      (each : ∀ m ∈ ms, HasDistinctKeys m.2) : HasDistinctKeys (obj ms)

theorem hasDistinctKeys_obj_iff {ms : Members} : (obj ms).HasDistinctKeys ↔
    (Members.keys ms).Nodup ∧ ∀ m ∈ ms, m.2.HasDistinctKeys := by
  constructor
  · rintro (_ | _)
    exact ⟨‹_›, ‹_›⟩
  · exact fun h => .obj h.1 h.2

theorem HasDistinctKeys.member? {v w : Json} {key : Text} (h : v.HasDistinctKeys)
    (hw : v.member? key = some w) : w.HasDistinctKeys := by
  cases h with
  | obj distinct each => exact each _ ((lookup_eq_some_iff_mem distinct).1 hw)
  | null | bool | int | float | str | arr => cases hw

/-! ## Reading -/

variable {fuel : Nat} {t rest : Text} {v : Json}

theorem hasDistinctKeys_of_readNumber {negative : Bool}
    (h : readNumber negative t = .ok (v, rest)) : v.HasDistinctKeys := by
  unfold readNumber at h
  split at h
  · cases h
  · dsimp only at h
    split at h
    · split at h
      · cases h
      · cases h
        exact .int _
    · cases h
      exact .float _

theorem hasDistinctKeys_of_readScalar (h : readScalar t = .ok (v, rest)) : v.HasDistinctKeys := by
  unfold readScalar at h
  dsimp only at h
  split at h
  · rename_i found hfound
    cases h
    obtain ⟨⟨word, w⟩, hword, hrest⟩ := List.exists_of_findSome?_eq_some hfound
    obtain ⟨_, _, hv⟩ := Option.map_eq_some_iff.1 hrest
    cases hv
    simp only [List.mem_cons, Prod.mk.injEq, List.not_mem_nil, or_false] at hword
    rcases hword with ⟨_, rfl⟩ | ⟨_, rfl⟩ | ⟨_, rfl⟩ | ⟨_, rfl⟩ | ⟨_, rfl⟩ | ⟨_, rfl⟩
    · exact .null
    · exact .bool _
    · exact .bool _
    · exact .float _
    · exact .float _
    · exact .float _
  · split at h
    · exact hasDistinctKeys_of_readNumber h
    · exact hasDistinctKeys_of_readNumber h

structure ReadsDistinctKeys (fuel : Nat) : Prop where
  value : ∀ {t rest v}, readValue fuel t = .ok (v, rest) → v.HasDistinctKeys
  items : ∀ {t rest vs}, readItems fuel t = .ok (vs, rest) → ∀ v ∈ vs, v.HasDistinctKeys
  members : ∀ {before t rest ms}, readMembers fuel before t = .ok (ms, rest) →
    (obj before).HasDistinctKeys → (obj ms).HasDistinctKeys

theorem HasDistinctKeys.set {before : Members} (hv : v.HasDistinctKeys) (key : Text)
    (h : HasDistinctKeys (.obj before)) : HasDistinctKeys (.obj (Members.set key v before)) := by
  obtain ⟨distinct, each⟩ := hasDistinctKeys_obj_iff.1 h
  refine .obj (Members.nodup_keys_set distinct) fun m hm => ?_
  rcases Members.mem_set hm with rfl | hm
  · exact hv
  · exact each m hm

section Step

variable (ih : ReadsDistinctKeys fuel)

include ih

theorem hasDistinctKeys_of_readValue (h : readValue (fuel + 1) t = .ok (v, rest)) :
    v.HasDistinctKeys := by
  unfold readValue at h
  split at h
  · obtain ⟨_, _, ⟨⟩⟩ := bind_eq_ok_iff.1 h
    exact .str _
  · split at h
    · cases h
      exact .arr nofun
    · obtain ⟨_, hitems, ⟨⟩⟩ := bind_eq_ok_iff.1 h
      exact .arr (ih.items hitems)
  · split at h
    · cases h
      exact .obj List.nodup_nil nofun
    · obtain ⟨_, hmembers, ⟨⟩⟩ := bind_eq_ok_iff.1 h
      exact ih.members hmembers (.obj List.nodup_nil nofun)
  · exact hasDistinctKeys_of_readScalar h

theorem hasDistinctKeys_of_readItems {vs : List Json}
    (h : readItems (fuel + 1) t = .ok (vs, rest)) : ∀ v ∈ vs, v.HasDistinctKeys := by
  unfold readItems at h
  obtain ⟨_, hfirst, h⟩ := bind_eq_ok_iff.1 h
  have first := ih.value hfirst
  dsimp only at h
  split at h
  · cases h
    exact List.forall_mem_singleton.2 first
  · obtain ⟨_, hothers, ⟨⟩⟩ := bind_eq_ok_iff.1 h
    exact List.forall_mem_cons.2 ⟨first, ih.items hothers⟩
  · cases h

theorem hasDistinctKeys_of_readMembers {before ms : Members}
    (h : readMembers (fuel + 1) before t = .ok (ms, rest))
    (hbefore : HasDistinctKeys (.obj before)) : HasDistinctKeys (.obj ms) := by
  unfold readMembers at h
  split at h
  · obtain ⟨⟨key, _⟩, _, h⟩ := bind_eq_ok_iff.1 h
    dsimp only at h
    split at h
    · obtain ⟨_, hvalue, h⟩ := bind_eq_ok_iff.1 h
      have added := (ih.value hvalue).set key hbefore
      split at h
      · cases h
        exact added
      · exact ih.members h added
      · cases h
    · cases h
  · cases h

end Step

theorem readsDistinctKeys : ∀ fuel, ReadsDistinctKeys fuel
  | 0 => ⟨nofun, nofun, nofun⟩
  | fuel + 1 =>
    have ih := readsDistinctKeys fuel
    ⟨hasDistinctKeys_of_readValue ih, hasDistinctKeys_of_readItems ih,
      hasDistinctKeys_of_readMembers ih⟩

/-- **In a document that is read no object repeats a key.** -/
theorem hasDistinctKeys_of_ofBytes {bytes : Bytes} (h : ofBytes bytes = .ok v) :
    v.HasDistinctKeys := by
  unfold ofBytes at h
  split at h
  · cases h
  · unfold ofText at h
    obtain ⟨_, hvalue, h⟩ := bind_eq_ok_iff.1 h
    dsimp only at h
    split at h
    · cases h
      exact (readsDistinctKeys _).value hvalue
    · cases h

end Json

end Issuer
