import Issuer.Text.Basic
/-!
# Where a text is cut

A text is cut at a separator exactly if it holds one, and a cut at the first leaves none before it.
One at the last leaves none behind it, so that texts joined by a separator are told apart if the
last of them holds none (`append_cons_inj`).
-/
namespace Issuer.Text

variable {sep : CodePoint}

theorem partition?_eq_none_iff : ∀ {t : Text}, t.partition? sep = none ↔ sep ∉ t
  | [] => by simp [partition?]
  | c :: cs => by
    rw [partition?]
    split
    · rename_i hc
      simp [hc]
    · rename_i hc
      rw [Option.map_eq_none_iff, partition?_eq_none_iff, List.mem_cons, not_or]
      exact (and_iff_right (Ne.symm hc)).symm

/-- **The first separator is where a text is cut.** -/
theorem partition?_eq_some {before after : Text} : ∀ {t : Text},
    t.partition? sep = some (before, after) → sep ∉ before ∧ t = before ++ sep :: after
  | [], h => nomatch h
  | c :: cs, h => by
    rw [partition?] at h
    split at h
    · rename_i hc
      cases h
      exact ⟨List.not_mem_nil, by rw [hc, List.nil_append]⟩
    · rename_i hc
      obtain ⟨⟨a, b⟩, hcut, h⟩ := Option.map_eq_some_iff.1 h
      cases h
      obtain ⟨hsep, rfl⟩ := partition?_eq_some hcut
      exact ⟨fun hmem => (List.mem_cons.1 hmem).elim (Ne.symm hc) hsep, rfl⟩

theorem partition?_of_not_mem {before : Text} (after : Text) (h : sep ∉ before) :
    (before ++ sep :: after).partition? sep = some (before, after) := by
  induction before with
  | nil => rw [List.nil_append, partition?, if_pos rfl]
  | cons c before ih =>
    rw [List.mem_cons, not_or] at h
    rw [List.cons_append, partition?, if_neg (Ne.symm h.1), ih h.2]
    rfl

theorem partition?_append {before after : Text} (more : Text) : ∀ {t : Text},
    t.partition? sep = some (before, after) →
      (t ++ more).partition? sep = some (before, after ++ more)
  | [], h => nomatch h
  | c :: cs, h => by
    rw [partition?] at h
    rw [List.cons_append, partition?]
    split at h
    · rename_i hc
      cases h
      rw [if_pos hc]
    · rename_i hc
      obtain ⟨⟨a, b⟩, hcut, h⟩ := Option.map_eq_some_iff.1 h
      cases h
      rw [if_neg hc, partition?_append more hcut]
      rfl

theorem rpartition?_eq_none_iff : ∀ {t : Text}, t.rpartition? sep = none ↔ sep ∉ t
  | [] => by simp [rpartition?]
  | c :: cs => by
    have ih : rpartition? sep cs = none ↔ sep ∉ cs := rpartition?_eq_none_iff
    rw [rpartition?, List.mem_cons, not_or]
    cases hcut : rpartition? sep cs with
    | some parts =>
      rw [hcut] at ih
      simpa using fun _ : sep ≠ c => ih
    | none =>
      simp only [ite_eq_right_iff, reduceCtorEq, imp_false]
      exact ⟨fun hc => ⟨Ne.symm hc, ih.1 hcut⟩, fun h => Ne.symm h.1⟩

theorem rpartition?_of_not_mem (before : Text) {after : Text} (h : sep ∉ after) :
    (before ++ sep :: after).rpartition? sep = some (before, after) := by
  induction before with
  | nil =>
    have hnone : rpartition? sep after = none := rpartition?_eq_none_iff.2 h
    simp [rpartition?, hnone]
  | cons c before ih =>
    rw [List.cons_append, rpartition?, ih]

/-- **Texts with a separator between them are told apart**, if the last holds none. -/
theorem append_cons_inj {before before' after after' : Text} (h : sep ∉ after)
    (h' : sep ∉ after') : before ++ sep :: after = before' ++ sep :: after' ↔
      before = before' ∧ after = after' := by
  constructor
  · intro heq
    have hcut := rpartition?_of_not_mem before h
    rw [heq, rpartition?_of_not_mem before' h'] at hcut
    simpa [eq_comm] using hcut
  · rintro ⟨rfl, rfl⟩
    rfl

end Issuer.Text
