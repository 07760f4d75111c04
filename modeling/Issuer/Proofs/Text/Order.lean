import Issuer.Text.Basic
import Mathlib.Data.List.Perm.Basic
import Mathlib.Data.List.Sort
/-!
# The order of texts

Texts are ordered by code point: `Text.le` is a linear order.  So a list of texts has one sorted
form, whatever order the texts come in (`mergeSort_eq_of_perm`).
-/
namespace Issuer.Text

theorem le_total : ∀ s t : Text, (le s t || le t s) = true
  | [], _ => rfl
  | _ :: _, [] => rfl
  | a :: s, b :: t => by
    rw [le, le]
    by_cases hab : a = b
    · rw [if_pos hab, if_pos hab.symm]
      exact le_total s t
    · rw [if_neg hab, if_neg (Ne.symm hab)]
      have hne : a.val ≠ b.val := fun h => hab (Fin.ext h)
      simp only [Bool.or_eq_true, decide_eq_true_eq]
      omega

theorem le_antisymm : ∀ s t : Text, le s t = true → le t s = true → s = t
  | [], [], _, _ => rfl
  | [], _ :: _, _, h => by simp [le] at h
  | _ :: _, [], h, _ => by simp [le] at h
  | a :: s, b :: t, hst, hts => by
    rw [le] at hst hts
    by_cases hab : a = b
    · rw [if_pos hab] at hst
      rw [if_pos hab.symm] at hts
      rw [hab, le_antisymm s t hst hts]
    · rw [if_neg hab, decide_eq_true_eq] at hst
      rw [if_neg (Ne.symm hab), decide_eq_true_eq] at hts
      exact absurd hts (Nat.lt_asymm hst)

theorem le_trans : ∀ s t u : Text, le s t = true → le t u = true → le s u = true
  | [], _, _, _, _ => by simp [le]
  | _ :: _, [], _, h, _ => by simp [le] at h
  | _ :: _, _ :: _, [], _, h => by simp [le] at h
  | a :: s, b :: t, c :: u, hst, htu => by
    rw [le] at hst htu ⊢
    by_cases hab : a = b
    · subst hab
      rw [if_pos rfl] at hst
      by_cases hac : a = c
      · rw [if_pos hac] at htu ⊢
        exact le_trans s t u hst htu
      · rw [if_neg hac] at htu ⊢
        exact htu
    · rw [if_neg hab, decide_eq_true_eq] at hst
      by_cases hbc : b = c
      · rw [if_neg (hbc ▸ hab), decide_eq_true_eq]
        exact hbc ▸ hst
      · rw [if_neg hbc, decide_eq_true_eq] at htu
        have hac : a ≠ c := fun h => Nat.lt_asymm hst (h ▸ htu)
        rw [if_neg hac, decide_eq_true_eq]
        exact Nat.lt_trans hst htu

theorem pairwise_le_mergeSort (ts : List Text) :
    (ts.mergeSort le).Pairwise fun s t => le s t = true :=
  List.pairwise_mergeSort le_trans le_total ts

theorem mergeSort_eq_of_perm {ts us : List Text} (h : ts.Perm us) :
    ts.mergeSort le = us.mergeSort le :=
  ((List.mergeSort_perm ts le).trans (h.trans (List.mergeSort_perm us le).symm)).eq_of_pairwise
    (fun s t _ _ => le_antisymm s t) (pairwise_le_mergeSort ts) (pairwise_le_mergeSort us)

end Issuer.Text
