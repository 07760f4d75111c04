import Issuer.Proofs.Url.Authority
import Mathlib.Data.List.DropRight
/-!
# Extension — what is written after a URL

The scheme and the network location of a URL stand before its first slash that is not one of the
two that announce the location.  So a URL that has both keeps them when its slashes at the end are
taken off and a slash with any text is written in their place (`exists_parse_extended`).
-/
namespace Issuer.Url

/-! ## Parts of a longer text -/

/-- A text without tabs and line ends. -/
def unbroken (t : Text) : Text :=
  t.filter fun c : CodePoint => !(c == '\t' || c == '\n' || c == '\r')

section Longer

variable {t more : Text}

theorem clean_append (t : Text) : (∀ more, clean (t ++ more) = clean more) ∨
    ∀ more, clean (t ++ more) = clean t ++ unbroken more := by
  cases started : (t.dropWhile fun c : CodePoint => c.val ≤ 0x20) with
  | nil => exact .inl fun more => by simp [clean, List.dropWhile_append, started]
  | cons c rest =>
    refine .inr fun more => ?_
    simp only [clean, unbroken, List.dropWhile_append, started, List.isEmpty_cons,
      Bool.false_eq_true, if_false, List.filter_append]

theorem splitScheme_of_not_mem (h : (':' : CodePoint) ∉ t) : (splitScheme t).1 = [] := by
  rw [splitScheme, Text.partition?_eq_none_iff.2 h]

theorem splitScheme_append (h : (splitScheme t).1 ≠ []) :
    splitScheme (t ++ more) = ((splitScheme t).1, (splitScheme t).2 ++ more) := by
  cases hcut : t.partition? ':' with
  | none => exact absurd (splitScheme_of_not_mem (Text.partition?_eq_none_iff.1 hcut)) h
  | some parts =>
    unfold splitScheme
    rw [Text.partition?_append more hcut]
    simp only [hcut]
    split
    · rfl
    · rfl

theorem splitScheme_ne_nil_of_append (single : (':' : CodePoint) ∉ more)
    (h : (splitScheme (t ++ more)).1 ≠ []) : (splitScheme t).1 ≠ [] := by
  cases hcut : t.partition? ':' with
  | none =>
    have none := Text.partition?_eq_none_iff.1 hcut
    exact absurd (splitScheme_of_not_mem
      fun hmem => (List.mem_append.1 hmem).elim none single) h
  | some parts =>
    rw [splitScheme, Text.partition?_append more hcut] at h
    rw [splitScheme, hcut]
    dsimp only at h ⊢
    split at h
    · rename_i right
      rwa [if_pos right]
    · exact absurd rfl h

end Longer

/-! ## Slashes at the end -/

def IsSlashes (t : Text) : Prop := ∀ c ∈ t, c = ('/' : CodePoint)

theorem exists_slashes (t : Text) :
    ∃ slashes, IsSlashes slashes ∧ t = Text.dropWhileEnd (· == '/') t ++ slashes := by
  refine ⟨t.rtakeWhile (· == '/'), fun c hc => ?_, List.rdropWhile_append_rtakeWhile.symm⟩
  have slash := List.mem_rtakeWhile_imp hc
  exact eq_of_beq slash

section Slashes

variable {t slashes : Text} (only : IsSlashes slashes)

include only

theorem dropWhileEnd_append (t : Text) :
    Text.dropWhileEnd (· == '/') (t ++ slashes) = Text.dropWhileEnd (· == '/') t := by
  have off : ∀ c ∈ slashes.reverse, (c == ('/' : CodePoint)) = true := fun c hc =>
    beq_iff_eq.2 (only c (List.mem_reverse.1 hc))
  simp only [Text.dropWhileEnd, List.reverse_append, List.dropWhile_append_of_pos off]

theorem colon_not_mem_slashes : (':' : CodePoint) ∉ slashes :=
  fun h => absurd (only _ h) (by decide)

theorem unbroken_slashes : unbroken slashes = slashes :=
  List.filter_eq_self.2 fun c hc => by rw [only c hc]; rfl

theorem takeWhile_append_slashes (t more : Text) :
    ((t ++ slashes).takeWhile fun c : CodePoint => !endsNetloc c) =
      (t ++ ('/' : CodePoint) :: more).takeWhile fun c : CodePoint => !endsNetloc c := by
  have ends : endsNetloc '/' = true := rfl
  have nothing : (slashes.takeWhile fun c : CodePoint => !endsNetloc c) = [] := by
    cases slashes with
    | nil => rfl
    | cons c rest => rw [only c List.mem_cons_self, List.takeWhile_cons, ends]; rfl
  rw [List.takeWhile_append, List.takeWhile_append, nothing, List.takeWhile_cons, ends]
  rfl

end Slashes

/-! ## Network locations -/

theorem exists_of_splitNetloc {t : Text} (h : (splitNetloc t).1 ≠ []) : ∃ c rest,
    t = ('/' : CodePoint) :: ('/' : CodePoint) :: c :: rest ∧ c ≠ ('/' : CodePoint) := by
  unfold splitNetloc at h
  split at h
  · rename_i rest
    cases rest with
    | nil => exact absurd rfl h
    | cons c rest =>
      refine ⟨c, rest, rfl, ?_⟩
      rintro rfl
      exact h rfl
  · exact absurd rfl h

/-- **A network location is told by what stands before a slash** that does not announce it. -/
theorem splitNetloc_append {t slashes : Text} (only : IsSlashes slashes)
    (h : (splitNetloc (t ++ slashes)).1 ≠ []) (more : Text) :
    (splitNetloc (t ++ ('/' : CodePoint) :: more)).1 = (splitNetloc (t ++ slashes)).1 := by
  obtain ⟨c, rest, split, hc⟩ := exists_of_splitNetloc h
  -- what is announced is no slash, so the text itself reaches as far
  match t, split with
  | [], split =>
    rw [List.nil_append] at split
    exact absurd (only c (by simp [split])) hc
  | [_], split =>
    cases split
    exact absurd (only c (by simp)) hc
  | [_, _], split =>
    cases split
    exact absurd (only c (by simp)) hc
  | _ :: _ :: _ :: t, split =>
    cases split
    exact (takeWhile_append_slashes only (c :: t) more).symm

/-! ## URLs -/

theorem announced_extended {t slashes : Text} (only : IsSlashes slashes)
    (scheme : (announced (t ++ slashes)).1 ≠ []) (netloc : (announced (t ++ slashes)).2 ≠ [])
    (more : Text) : announced (t ++ ('/' : CodePoint) :: more) = announced (t ++ slashes) := by
  obtain blank | clean_append := clean_append t
  · have single : (':' : CodePoint) ∉ clean slashes := fun h => colon_not_mem_slashes only
      (List.dropWhile_subset _ (List.mem_filter.1 h).1)
    rw [announced, blank, splitScheme_of_not_mem single] at scheme
    exact absurd rfl scheme
  · simp only [announced, clean_append, unbroken_slashes only] at scheme netloc ⊢
    have named := splitScheme_ne_nil_of_append (colon_not_mem_slashes only) scheme
    rw [splitScheme_append named] at netloc
    have kept : unbroken (('/' : CodePoint) :: more) = ('/' : CodePoint) :: unbroken more := rfl
    rw [kept, splitScheme_append named, splitScheme_append named,
      splitNetloc_append only netloc (unbroken more)]

/-- **A URL keeps its scheme and its network location** when its slashes at the end are taken off
and a slash with any text is written in their place. -/
theorem exists_parse_extended {base : Text} {u : Url} (parsed : parse base = .ok u)
    (scheme : u.scheme ≠ []) (netloc : u.netloc ≠ []) (more : Text) :
    ∃ v, parse (Text.dropWhileEnd (· == '/') base ++ ('/' : CodePoint) :: more) = .ok v ∧
      v.scheme = u.scheme ∧ v.netloc = u.netloc := by
  obtain ⟨told, checked⟩ := exists_parse_iff.1 ⟨u, parsed, rfl, rfl⟩
  obtain ⟨slashes, only, cut⟩ := exists_slashes base
  rw [cut] at told
  refine exists_parse_iff.2 ⟨?_, checked⟩
  rw [announced_extended only (by rw [told]; exact scheme) (by rw [told]; exact netloc), told]

end Issuer.Url
