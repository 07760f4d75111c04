import Issuer.Proofs.Conversion.Pending
import Issuer.Proofs.Members
import Issuer.Proofs.Text.Order
/-!
# The order of the schema's attributes

A schema's attributes have distinct ids, and in which order they come does not matter: what each id
stands for, the sorted labels and the outcome of every conversion are the same
(`lookup_byId_eq_of_perm`, `sortedLabels_eq_of_perm`, `validateAndConvert_eq_of_perm`).
-/
namespace Issuer

variable {ds es : List Attribute}

namespace Attribute

/-! ## Attributes by id -/

theorem foldl_byId : ∀ (as : List Attribute) (found : List (Option Text × Attribute)),
    (found.map Prod.fst ++ as.map Attribute.id).Nodup →
    as.foldl (fun found a =>
      if found.any (·.1 == a.id) then found.map fun (id, b) => (id, if id = a.id then a else b)
      else found ++ [(a.id, a)]) found = found ++ as.map fun a => (a.id, a)
  | [], found, _ => by simp
  | a :: as, found, hn => by
    have hfresh : found.any (·.1 == a.id) = false := by
      rw [List.any_eq_false]
      intro entry hentry heq
      exact (List.nodup_append.1 hn).2.2 _ (List.mem_map_of_mem hentry) _ List.mem_cons_self
        (by simpa using heq)
    have hn' : ((found ++ [(a.id, a)]).map Prod.fst ++ as.map Attribute.id).Nodup := by
      simpa using hn
    rw [List.foldl_cons, if_neg (by simp [hfresh]), foldl_byId as _ hn']
    simp

theorem byId_of_nodup (hn : (ds.map Attribute.id).Nodup) :
    byId ds = ds.map fun a => (a.id, a) := by
  have h := foldl_byId ds [] (by simpa using hn)
  rwa [List.nil_append] at h

theorem lookup_byId_eq_of_perm (h : ds.Perm es) (hn : (ds.map Attribute.id).Nodup)
    (id : Option Text) : (byId ds).lookup id = (byId es).lookup id := by
  rw [byId_of_nodup hn, byId_of_nodup ((h.map Attribute.id).nodup_iff.1 hn)]
  refine lookup_eq_of_perm (h.map _) ?_ id
  rwa [List.map_map]

/-! ## Labels -/

theorem exists_label?_of_id {a : Attribute} (h : a.id ≠ none) : ∃ l, a.label? = some l := by
  unfold label?
  split
  · exact Option.ne_none_iff_exists'.1 h
  · exact Option.ne_none_iff_exists'.1 h
  · exact ⟨_, rfl⟩

theorem labels?_of_ids : ∀ {ds : List Attribute}, (∀ d ∈ ds, d.id ≠ none) →
    labels? ds = some (ds.filterMap label?)
  | [], _ => rfl
  | d :: ds, h => by
    obtain ⟨l, hl⟩ := exists_label?_of_id (h d List.mem_cons_self)
    have ih := labels?_of_ids fun e he => h e (List.mem_cons_of_mem _ he)
    unfold labels? at ih ⊢
    rw [List.mapM_cons, hl, ih, List.filterMap_cons, hl]
    rfl

theorem sortedLabels_eq_of_perm (h : ds.Perm es) :
    (ds.filterMap label?).mergeSort Text.le = (es.filterMap label?).mergeSort Text.le :=
  Text.mergeSort_eq_of_perm (h.filterMap label?)

end Attribute

namespace Conversion

/-! ## Conversion -/

theorem find?_eq_of_perm (h : ds.Perm es) (hn : (ds.map Attribute.id).Nodup)
    (name : Option Text) :
    ds.find? (fun d => d.id = name) = es.find? (fun d => d.id = name) := by
  have hn' : (es.map Attribute.id).Nodup := (h.map Attribute.id).nodup_iff.1 hn
  by_cases hk : ∃ d ∈ ds, d.id = name
  · obtain ⟨d, hd, hid⟩ := hk
    have found := find?_pendingAfter_eq_some hn hd hid List.not_mem_nil
    have found' := find?_pendingAfter_eq_some hn' (h.mem_iff.1 hd) hid List.not_mem_nil
    rw [pendingAfter_nil] at found found'
    rw [found, found']
  · have unknown : ∀ d ∈ ds, d.id ≠ name := fun d hd hid => hk ⟨d, hd, hid⟩
    have missed : ds.find? (fun d => d.id = name) = none :=
      List.find?_eq_none.2 fun d hd => by simpa using unknown d hd
    have missed' : es.find? (fun d => d.id = name) = none :=
      List.find?_eq_none.2 fun d hd => by simpa using unknown d (h.mem_iff.2 hd)
    rw [missed, missed']

theorem eraseP_perm (h : ds.Perm es) (hn : (ds.map Attribute.id).Nodup) (name : Option Text) :
    (ds.eraseP fun d => d.id = name).Perm (es.eraseP fun d => d.id = name) := by
  have hone : ds.Pairwise fun d e => decide (d.id = name) = true → decide (e.id = name) = true →
      False := by
    refine (List.pairwise_map.1 hn).imp fun hne hd he => hne ?_
    rw [of_decide_eq_true hd, of_decide_eq_true he]
  exact h.eraseP _ hone

/-- **A run goes the same way whatever the order of what is pending.** -/
theorem convertEach_eq_of_perm : ∀ (as : List CredentialAttribute) {ds es : List Attribute},
    ds.Perm es → (ds.map Attribute.id).Nodup → convertEach ds as = convertEach es as
  | [], ds, es, h, _ => by rw [convertEach, convertEach, h.length_eq]
  | a :: as, ds, es, h, hn => by
    rw [convertEach, convertEach, find?_eq_of_perm h hn]
    have hrest : ((ds.eraseP fun d => d.id = a.name).map Attribute.id).Nodup :=
      hn.sublist (List.Sublist.map _ List.eraseP_sublist)
    rw [convertEach_eq_of_perm as (eraseP_perm h hn a.name) hrest]

theorem validateAndConvert_eq_of_perm (h : ds.Perm es) (hn : (ds.map Attribute.id).Nodup)
    (as : List CredentialAttribute) : validateAndConvert ds as = validateAndConvert es as := by
  have hnone : firstDuplicate? [] ds = none :=
    (firstDuplicate?_eq_none_iff ds []).2 ⟨hn, by simp⟩
  have hnone' : firstDuplicate? [] es = none :=
    (firstDuplicate?_eq_none_iff es []).2 ⟨(h.map Attribute.id).nodup_iff.1 hn, by simp⟩
  rw [validateAndConvert, validateAndConvert, hnone, hnone']
  exact convertEach_eq_of_perm as h hn

end Conversion

end Issuer
