import Issuer.CommandLine.Source
import Issuer.Proofs.Text.Cut
import Mathlib.Data.Nat.Init
/-!
# What an argument is taken for

A flag that is spelt in full is taken for it, alone or with its value behind an equals sign, by a
reader that knows it; by any other it is taken for nothing that is known.  A value that stands for
itself stands for itself also where fewer flags are known.
-/
namespace Issuer.CommandLine

def Category.flags (c : Category) : List Flag := flagsOf (Group.ofCategory c)

/-- What reads the flags of a command: it knows them all, or only that of the argument file. -/
inductive IsReader (c : Category) : List Flag → Prop
  | all : IsReader c c.flags
  | file : IsReader c [.argumentFile]

section

variable {c : Category} {known : List Flag} {f : Flag} {t : Text}

theorem lookup_long (reader : IsReader c known) (hf : f ∈ c.flags) :
    (spelled known).lookup f.long = if f ∈ known then some f else none := by
  have all : ∀ f ∈ c.flags, (spelled c.flags).lookup f.long = some f := by cases c <;> decide
  have file : ∀ f ∈ c.flags, (spelled [.argumentFile]).lookup f.long =
      if f ∈ [Flag.argumentFile] then some f else none := by cases c <;> decide
  cases reader with
  | all => rw [if_pos hf, all f hf]
  | file => exact file f hf

theorem startsWith_long (reader : IsReader c known) (hf : f ∈ c.flags) (unknown : f ∉ known) :
    ∀ s ∈ spelled known, s.1.startsWith f.long = false := by
  have file : ∀ f ∈ c.flags, f ∉ [Flag.argumentFile] →
      ∀ s ∈ spelled [.argumentFile], s.1.startsWith f.long = false := by cases c <;> decide
  cases reader with
  | all => exact absurd hf unknown
  | file => exact file f hf unknown

theorem subset_flags (reader : IsReader c known) : known ⊆ c.flags := by
  cases reader with
  | all => exact List.Subset.refl _
  | file => cases c <;> decide

theorem equals_not_mem_long (f : Flag) : ('=' : CodePoint) ∉ f.long := by
  cases f <;> decide

theorem exists_long_eq (f : Flag) :
    ∃ rest, f.long = ('-' : CodePoint) :: ('-' : CodePoint) :: rest := by
  cases f <;> exact ⟨_, rfl⟩

theorem splitEquals_long (f : Flag) : splitEquals f.long = (f.long, none) := by
  rw [splitEquals, Text.partition?_eq_none_iff.2 (equals_not_mem_long f)]

theorem splitEquals_assignment (f : Flag) (t : Text) :
    splitEquals (assignment f.long t) = (f.long, some t) := by
  have hcut : (f.long ++ ('=' : CodePoint) :: t).partition? '=' = some (f.long, t) :=
    Text.partition?_of_not_mem t (equals_not_mem_long f)
  have htext : assignment f.long t = f.long ++ ('=' : CodePoint) :: t := List.append_assoc ..
  rw [splitEquals, htext, hcut]

theorem lookup_of_equals_mem (h : ('=' : CodePoint) ∈ t) : (spelled known).lookup t = none := by
  have hspelling : ∀ g : Flag, ∀ s ∈ g.spellings, ('=' : CodePoint) ∉ s := by
    intro g
    cases g <;> decide
  refine List.lookup_eq_none_iff.2 fun p hp => ?_
  obtain ⟨g, -, hp⟩ := List.mem_flatMap.1 hp
  obtain ⟨s, hs, rfl⟩ := List.mem_map.1 hp
  rw [bne_iff_ne]
  rintro rfl
  exact hspelling g _ hs h

theorem equals_mem_assignment (spelling t : Text) :
    ('=' : CodePoint) ∈ assignment spelling t := by
  simp [assignment, Text.ofString]

theorem lookOf_dash (known : List Flag) (rest : Text) :
    lookOf known (('-' : CodePoint) :: rest) =
      match (spelled known).lookup (('-' : CodePoint) :: rest) with
      | some f => .ok (.flag f (('-' : CodePoint) :: rest) none)
      | none =>
        if rest.isEmpty then .ok .itself
        else
          match (splitEquals (('-' : CodePoint) :: rest)).2,
            (spelled known).lookup (splitEquals (('-' : CodePoint) :: rest)).1 with
          | some a, some f => .ok (.flag f (splitEquals (('-' : CodePoint) :: rest)).1 (some a))
          | _, _ =>
            match shortened known (('-' : CodePoint) :: rest) with
            | [(_, look)] => .ok look
            | [] =>
              .ok (if isNegativeNumber (('-' : CodePoint) :: rest) ||
                List.contains (('-' : CodePoint) :: rest) ' ' then .itself else .unknown)
            | several => .error (.ambiguous (('-' : CodePoint) :: rest) (several.map (·.1))) := by
  rfl

theorem lookOf_long (reader : IsReader c known) (hf : f ∈ c.flags) (knows : f ∈ known) :
    lookOf known f.long = .ok (.flag f f.long none) := by
  have hlookup := lookup_long reader hf
  obtain ⟨rest, hlong⟩ := exists_long_eq f
  rw [if_pos knows, hlong] at hlookup
  rw [hlong, lookOf_dash, hlookup]

theorem exists_assignment_eq (f : Flag) (t : Text) :
    ∃ rest, assignment f.long t = ('-' : CodePoint) :: ('-' : CodePoint) :: rest := by
  obtain ⟨rest, hlong⟩ := exists_long_eq f
  exact ⟨rest ++ "=" ++ t, by rw [assignment, hlong]; rfl⟩

theorem lookOf_assignment (reader : IsReader c known) (hf : f ∈ c.flags) (knows : f ∈ known)
    (t : Text) : lookOf known (assignment f.long t) = .ok (.flag f f.long (some t)) := by
  have hhead := lookup_long reader hf
  rw [if_pos knows] at hhead
  have hlookup : (spelled known).lookup (assignment f.long t) = none :=
    lookup_of_equals_mem (equals_mem_assignment f.long t)
  have hsplit := splitEquals_assignment f t
  obtain ⟨rest, htext⟩ := exists_assignment_eq f t
  rw [htext] at hlookup hsplit ⊢
  rw [lookOf_dash, hlookup, hsplit]
  dsimp only
  rw [hhead]
  rfl

/-- An argument stands for itself, or is none of the flags that are known. -/
def IsForeign (known : List Flag) (t : Text) : Prop :=
  ∃ look, lookOf known t = .ok look ∧ (look = .itself ∨ look = .unknown)

theorem shortened_dashes (known : List Flag) (rest : Text) :
    shortened known (('-' : CodePoint) :: ('-' : CodePoint) :: rest) =
      (spelled known).filterMap fun p =>
        if p.1.startsWith (splitEquals (('-' : CodePoint) :: ('-' : CodePoint) :: rest)).1 then
          some (p.1, .flag p.2 p.1 (splitEquals (('-' : CodePoint) :: ('-' : CodePoint) :: rest)).2)
        else none := by
  rfl

theorem isForeign_of_head (reader : IsReader c known) (hf : f ∈ c.flags) (unknown : f ∉ known)
    {w rest : Text} (hw : w = ('-' : CodePoint) :: ('-' : CodePoint) :: rest)
    (head : (splitEquals w).1 = f.long) (lookup : (spelled known).lookup w = none) :
    IsForeign known w := by
  have hhead := lookup_long reader hf
  rw [if_neg unknown] at hhead
  have hshort : shortened known w = [] := by
    rw [hw, shortened_dashes, ← hw, head, List.filterMap_eq_nil_iff]
    intro s hs
    rw [startsWith_long reader hf unknown s hs]
    rfl
  refine ⟨if isNegativeNumber w || w.contains ' ' then .itself else .unknown, ?_, ?_⟩
  · rw [hw, lookOf_dash, ← hw, lookup, head, hhead, hshort]
    dsimp only
    rw [if_neg (by simp)]
    cases (splitEquals w).2 <;> rfl
  · split
    · exact .inl rfl
    · exact .inr rfl

theorem isForeign_long (reader : IsReader c known) (hf : f ∈ c.flags) (unknown : f ∉ known) :
    IsForeign known f.long := by
  obtain ⟨rest, hlong⟩ := exists_long_eq f
  have hlookup := lookup_long reader hf
  rw [if_neg unknown] at hlookup
  exact isForeign_of_head reader hf unknown hlong (by rw [splitEquals_long]) hlookup

theorem isForeign_assignment (reader : IsReader c known) (hf : f ∈ c.flags) (unknown : f ∉ known)
    (t : Text) : IsForeign known (assignment f.long t) := by
  obtain ⟨rest, htext⟩ := exists_assignment_eq f t
  exact isForeign_of_head reader hf unknown htext (by rw [splitEquals_assignment])
    (lookup_of_equals_mem (equals_mem_assignment f.long t))

theorem ne_alone_of_equals_mem {w rest : Text}
    (hw : w = ('-' : CodePoint) :: ('-' : CodePoint) :: rest) (equals : ('=' : CodePoint) ∈ w)
    {look : Look} (h : lookOf known w = .ok look) (g : Flag) (s : Text) :
    look ≠ .flag g s none := by
  have hsome : (splitEquals w).2 ≠ none := by
    unfold splitEquals
    split
    · nofun
    · rename_i hcut
      exact absurd equals (Text.partition?_eq_none_iff.1 hcut)
  have hdash := lookOf_dash known (('-' : CodePoint) :: rest)
  rw [← hw, lookup_of_equals_mem equals] at hdash
  rw [hdash] at h
  dsimp only at h
  rw [if_neg (by simp)] at h
  split at h
  · rintro rfl
    cases h
  · split at h
    · rename_i spelling look' heq
      obtain rfl := Except.ok.inj h
      have hmem : (spelling, look') ∈ shortened known w := heq ▸ List.mem_singleton_self _
      rw [hw, shortened_dashes, ← hw] at hmem
      obtain ⟨p, -, hp⟩ := List.mem_filterMap.1 hmem
      -- a short form keeps what is behind the equals sign
      rintro rfl
      split at hp
      · exact hsome (Look.flag.inj (Prod.mk.inj (Option.some.inj hp)).2).2.2
      · cases hp
    · rintro rfl
      split at h <;> cases h
    · cases h

/-! ## Values that stand for themselves -/

theorem exists_shortened_eq (t : Text) : ∃ form : Text × Flag → Option (Text × Look),
    (∀ flags, shortened flags t = (spelled flags).filterMap form) ∧
      ∀ p s, form p ≠ some (s, .itself) := by
  unfold shortened
  split
  · refine ⟨_, fun flags => rfl, fun p s => ?_⟩
    dsimp only
    split <;> simp
  · refine ⟨_, fun flags => rfl, fun p s => ?_⟩
    dsimp only
    split
    · simp
    · split <;> simp

theorem ne_itself_of_shortened {flags : List Flag} {s : Text} {look : Look}
    (h : (s, look) ∈ shortened flags t) : look ≠ .itself := by
  obtain ⟨form, hform, hne⟩ := exists_shortened_eq t
  rw [hform] at h
  obtain ⟨p, -, hp⟩ := List.mem_filterMap.1 h
  rintro rfl
  exact hne p s hp

theorem spelled_subset {flags : List Flag} (subset : known ⊆ flags) :
    spelled known ⊆ spelled flags := by
  intro p hp
  obtain ⟨f, hf, hp⟩ := List.mem_flatMap.1 hp
  exact List.mem_flatMap.2 ⟨f, subset hf, hp⟩

theorem shortened_eq_nil_of_subset {flags : List Flag} (subset : known ⊆ flags)
    (h : shortened flags t = []) : shortened known t = [] := by
  obtain ⟨form, hform, -⟩ := exists_shortened_eq t
  rw [hform, List.filterMap_eq_nil_iff] at h ⊢
  exact fun p hp => h p (spelled_subset subset hp)

theorem lookup_eq_none_of_subset {flags : List Flag} (subset : known ⊆ flags)
    (h : (spelled flags).lookup t = none) : (spelled known).lookup t = none := by
  rw [List.lookup_eq_none_iff] at h ⊢
  exact fun p hp => h p (spelled_subset subset hp)

/-- An argument with a dash stands for itself if it is a dash, or if neither it nor what is before
its equals sign is a flag, in full or in short, and it is a negative number or holds a space. -/
theorem lookOf_dash_eq_itself_iff {flags : List Flag} {w rest : Text}
    (hw : w = ('-' : CodePoint) :: rest) :
    lookOf flags w = .ok .itself ↔ (spelled flags).lookup w = none ∧ (rest = [] ∨
      ((splitEquals w).2 = none ∨ (spelled flags).lookup (splitEquals w).1 = none) ∧
        shortened flags w = [] ∧ (isNegativeNumber w || w.contains ' ') = true) := by
  have hdash := lookOf_dash flags rest
  rw [← hw] at hdash
  rw [hdash]
  cases (spelled flags).lookup w with
  | some f => simp
  | none =>
    cases rest with
    | nil => simp
    | cons d rest =>
      simp only [List.isEmpty_cons, Bool.false_eq_true, if_false, true_and, reduceCtorEq,
        false_or]
      split
      · rename_i argument f hargument hf
        simp [hargument, hf]
      · rename_i hnone
        have hhead : (splitEquals w).2 = none ∨
            (spelled flags).lookup (splitEquals w).1 = none := by
          cases hargument : (splitEquals w).2 with
          | none => exact .inl rfl
          | some argument =>
            cases hf : (spelled flags).lookup (splitEquals w).1 with
            | none => exact .inr rfl
            | some f => exact (hnone argument f hargument hf).elim
        split
        · rename_i s look heq
          have hlook : look ≠ .itself :=
            ne_itself_of_shortened (heq ▸ List.mem_singleton_self (s, look))
          simp [heq, hlook]
        · rename_i heq
          rw [and_iff_right hhead, and_iff_right heq]
          cases isNegativeNumber w || List.contains w ' ' <;> simp
        · rename_i hsome
          exact ⟨nofun, fun h => (hsome h.2.1).elim⟩

theorem lookOf_itself_of_subset {flags : List Flag} (subset : known ⊆ flags)
    (h : lookOf flags t = .ok .itself) : lookOf known t = .ok .itself := by
  by_cases hdash : ∃ rest, t = ('-' : CodePoint) :: rest
  · obtain ⟨rest, hw⟩ := hdash
    rw [lookOf_dash_eq_itself_iff hw] at h ⊢
    obtain ⟨hlookup, hrest⟩ := h
    refine ⟨lookup_eq_none_of_subset subset hlookup, hrest.imp_right ?_⟩
    rintro ⟨hhead, hshort, hnumber⟩
    exact ⟨hhead.imp_right (lookup_eq_none_of_subset subset),
      shortened_eq_nil_of_subset subset hshort, hnumber⟩
  · unfold lookOf
    split
    · rename_i rest
      exact absurd ⟨rest, rfl⟩ hdash
    · rfl

end

end Issuer.CommandLine
