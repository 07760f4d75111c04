import Issuer.Text.Blank
import Mathlib.Data.List.TakeWhile
/-!
# Blanks at the ends of a text

What is left of a text without the blanks at its ends neither starts nor ends with one, and nothing
but blanks is around it (`stripped_strip`).  A text that neither starts nor ends with a blank is
left as it is (`strip_eq_self`).
-/
namespace Issuer.Text

variable {t core : Text}

structure IsTrim (t : Text) : Prop where
  starts : ∀ c ∈ t.head?, c.isBlank = false
  ends : ∀ c ∈ t.getLast?, c.isBlank = false

def IsWord (t : Text) : Prop := ∀ c ∈ t, c.isBlank = false

theorem IsWord.isTrim (h : IsWord t) : IsTrim t where
  starts c hc := h c (List.mem_of_mem_head? hc)
  ends c hc := h c (List.mem_of_mem_getLast? hc)

/-- **What is left of a text** without the blanks at its ends. -/
inductive Stripped : Text → Text → Prop where
  | intro {before core after : Text} (blank : ∀ c ∈ before ++ after, c.isBlank = true)
      (trim : IsTrim core) : Stripped (before ++ core ++ after) core

theorem Stripped.trim (h : Stripped t core) : IsTrim core := by
  cases h with
  | intro _ trim => exact trim

theorem Stripped.subset (h : Stripped t core) : core ⊆ t := by
  cases h with
  | intro _ _ => exact fun c hc => List.mem_append_left _ (List.mem_append_right _ hc)

theorem Stripped.filter_eq {counts : CodePoint → Bool}
    (h : ∀ c : CodePoint, c.isBlank = true → counts c = false) (left : Stripped t core) :
    core.filter counts = t.filter counts := by
  cases left with
  | intro blank _ =>
    have lost (s : Text) (hs : ∀ c ∈ s, c.isBlank = true) : s.filter counts = [] :=
      List.filter_eq_nil_iff.2 fun c hc => by simp [h c (hs c hc)]
    obtain ⟨before, after⟩ := List.forall_mem_append.1 blank
    rw [List.filter_append, List.filter_append, lost _ before, lost _ after, List.nil_append,
      List.append_nil]

/-! ## Stripping -/

theorem stripLeft_eq_self (starts : ∀ c ∈ t.head?, c.isBlank = false) : stripLeft t = t := by
  cases t with
  | nil => rfl
  | cons c rest => exact List.dropWhile_cons_of_neg (by simp [starts c rfl])

theorem starts_stripLeft (t : Text) : ∀ c ∈ (stripLeft t).head?, c.isBlank = false := by
  intro c hc
  have h := List.head?_dropWhile_not CodePoint.isBlank t
  rw [stripLeft, Option.mem_def] at hc
  rwa [hc] at h

theorem exists_blanks_before (t : Text) :
    ∃ before, (∀ c ∈ before, c.isBlank = true) ∧ t = before ++ stripLeft t :=
  ⟨_, fun _ => List.mem_takeWhile_imp, List.takeWhile_append_dropWhile.symm⟩

-- at the end of a text blanks are left out as they are at the start of its reverse
theorem stripRight_eq_reverse (t : Text) : stripRight t = (stripLeft t.reverse).reverse := rfl

theorem stripRight_eq_self (ends : ∀ c ∈ t.getLast?, c.isBlank = false) : stripRight t = t := by
  rw [stripRight_eq_reverse, stripLeft_eq_self (by rwa [List.head?_reverse]), List.reverse_reverse]

theorem ends_stripRight (t : Text) : ∀ c ∈ (stripRight t).getLast?, c.isBlank = false := by
  rw [stripRight_eq_reverse, List.getLast?_reverse]
  exact starts_stripLeft _

theorem exists_blanks_after (t : Text) :
    ∃ after, (∀ c ∈ after, c.isBlank = true) ∧ t = stripRight t ++ after := by
  obtain ⟨blanks, blank, whole⟩ := exists_blanks_before t.reverse
  refine ⟨blanks.reverse, fun c hc => blank c (List.mem_reverse.1 hc), ?_⟩
  rw [stripRight_eq_reverse, ← List.reverse_append, ← whole, List.reverse_reverse]

/-- **What is left neither starts nor ends with a blank**, and only blanks are around it. -/
theorem stripped_strip (t : Text) : Stripped t t.strip := by
  obtain ⟨before, blank, whole⟩ := exists_blanks_before t
  obtain ⟨after, blank', rest⟩ := exists_blanks_after (stripLeft t)
  have trim : IsTrim t.strip := by
    refine ⟨fun c hc => starts_stripLeft t c ?_, ends_stripRight _⟩
    obtain ⟨tail, htail⟩ := List.head?_eq_some_iff.1 hc
    rw [rest, ← strip, htail]
    rfl
  have stripped : Stripped (before ++ t.strip ++ after) t.strip :=
    .intro (List.forall_mem_append.2 ⟨blank, blank'⟩) trim
  rwa [List.append_assoc, strip, ← rest, ← whole] at stripped

theorem strip_eq_self (h : IsTrim t) : t.strip = t := by
  rw [strip, stripLeft_eq_self h.starts, stripRight_eq_self h.ends]

/-! ## Blanks before and behind -/

theorem exists_getLast?_of_blanks {blanks : Text} (blank : ∀ c ∈ blanks, c.isBlank = true)
    (given : blanks ≠ []) (ends : ∀ c ∈ (blanks ++ t).getLast?, c.isBlank = false) :
    ∃ d, t.getLast? = some d := by
  cases last : t.getLast? with
  | some d => exact ⟨d, rfl⟩
  | none =>
    obtain ⟨d, hd⟩ := Option.ne_none_iff_exists'.1 (mt List.getLast?_eq_none_iff.1 given)
    have visible := ends d (by rw [List.getLast?_append, last, Option.none_or, hd]; rfl)
    rw [blank d (List.mem_of_getLast? hd)] at visible
    cases visible

/-- The blanks at the end of a text do not reach before what starts with none. -/
theorem stripRight_append_cons (s : Text) {c : CodePoint} (rest : Text) (h : c.isBlank = false) :
    stripRight (s ++ c :: rest) = s ++ stripRight (c :: rest) := by
  have visible : stripLeft (c :: rest).reverse ≠ [] := fun none =>
    absurd (List.dropWhile_eq_nil_iff.1 none c (by simp)) (by simp [h])
  rw [stripRight_eq_reverse, stripRight_eq_reverse, List.reverse_append, stripLeft,
    List.dropWhile_append, if_neg (by simpa [stripLeft] using visible), List.reverse_append,
    List.reverse_reverse]
  rfl

end Issuer.Text
