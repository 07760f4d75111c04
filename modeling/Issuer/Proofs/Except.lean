import Mathlib.Data.List.Forall2
/-!
# Steps that may fail

What is done in steps succeeds exactly if each step does, one after another; so does what is done
with each item of a list.
-/
namespace Issuer

variable {ε ε' α β : Type}

theorem bind_eq_ok_iff {x : Except ε α} {f : α → Except ε β} {b : β} :
    x >>= f = .ok b ↔ ∃ a, x = .ok a ∧ f a = .ok b := by
  cases x with
  | error e => exact ⟨nofun, fun ⟨_, h, _⟩ => nomatch h⟩
  | ok a => exact ⟨fun h => ⟨a, rfl, h⟩, fun ⟨_, h, hf⟩ => Except.ok.inj h ▸ hf⟩

theorem mapError_eq_ok_iff {x : Except ε α} {f : ε → ε'} {a : α} :
    x.mapError f = .ok a ↔ x = .ok a := by
  cases x with
  | error e => exact ⟨nofun, nofun⟩
  | ok b => exact ⟨fun h => congrArg Except.ok (Except.ok.inj h), fun h => h ▸ rfl⟩

/-! ## Lists -/

theorem mapM_eq_ok_iff (read : α → Except ε β) : ∀ (xs : List α) (ys : List β),
    xs.mapM read = .ok ys ↔ List.Forall₂ (fun x y => read x = .ok y) xs ys
  | [], ys => by cases ys <;> simp [pure, Except.pure]
  | x :: xs, ys => by
    rw [List.mapM_cons]
    cases hx : read x with
    | error e => cases ys <;> simp [bind, Except.bind, hx]
    | ok y =>
      cases hxs : xs.mapM read with
      | error e => cases ys <;> simp [bind, Except.bind, hx, ← mapM_eq_ok_iff read xs, hxs]
      | ok zs =>
        cases ys <;> simp [bind, Except.bind, pure, Except.pure, hx, ← mapM_eq_ok_iff read xs, hxs]

theorem exists_first_error_of_mapM {read : α → Except ε β} {e : ε} : ∀ {xs : List α},
    xs.mapM read = .error e → ∃ before x after, xs = before ++ x :: after ∧
      (∀ y ∈ before, ∃ b, read y = .ok b) ∧ read x = .error e
  | x :: xs, h => by
    rw [List.mapM_cons] at h
    cases hx : read x with
    | error _ =>
      rw [hx] at h
      cases h
      exact ⟨[], x, xs, rfl, nofun, hx⟩
    | ok b =>
      cases hxs : xs.mapM read with
      | error _ =>
        rw [hx, hxs] at h
        cases h
        obtain ⟨before, y, after, rfl, hbefore, hy⟩ := exists_first_error_of_mapM hxs
        exact ⟨x :: before, y, after, rfl, List.forall_mem_cons.2 ⟨⟨b, hx⟩, hbefore⟩, hy⟩
      | ok _ =>
        rw [hx, hxs] at h
        cases h

theorem exists_error_of_mapM {read : α → Except ε β} {e : ε} {xs : List α}
    (h : xs.mapM read = .error e) : ∃ x ∈ xs, read x = .error e := by
  obtain ⟨before, x, after, rfl, -, hx⟩ := exists_first_error_of_mapM h
  exact ⟨x, List.mem_append_right before List.mem_cons_self, hx⟩

/-- Lists in a relation item by item: each item of the first is related to one of the second. -/
theorem exists_of_forall₂ {R : α → β → Prop} {xs : List α} {ys : List β}
    (h : List.Forall₂ R xs ys) {x : α} (hx : x ∈ xs) : ∃ y ∈ ys, R x y := by
  obtain ⟨i, hi, rfl⟩ := List.getElem_of_mem hx
  exact ⟨_, List.getElem_mem (h.length_eq ▸ hi), h.get hi (h.length_eq ▸ hi)⟩

end Issuer
