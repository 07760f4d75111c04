import Issuer.Proofs.Url.Extension
/-!
# Rewriting — a URL under another scheme

A URL that is taken apart has its delimiters between its parts and nowhere else (`IsDelimited`).  So
a URL that is put together under a scheme without rules of its own is taken apart into the same
parts, with one exception: a path that starts with two slashes, and no network location before it
(`parse_toText_iff`).  Nothing is written for a location that is empty, so the two slashes announce
one.
-/
namespace Issuer.Url

/-! ## Parts -/

def isBreak (c : CodePoint) : Bool := c == '\t' || c == '\n' || c == '\r'

/-- **The delimiters of a URL stand between its parts** and nowhere else. -/
structure IsDelimited (u : Url) : Prop where
  netloc : ∀ c ∈ u.netloc, endsNetloc c = false
  path : ('#' : CodePoint) ∉ u.path ∧ ('?' : CodePoint) ∉ u.path
  query : ('#' : CodePoint) ∉ u.query
  rooted : u.netloc = [] ∨ ∀ c ∈ u.path.head?, c = ('/' : CodePoint)
  unbroken : ∀ c ∈ u.netloc ++ (u.path ++ (u.query ++ u.fragment)), isBreak c = false

theorem cut_spec (sep : CodePoint) (t : Text) :
    sep ∉ (cut sep t).1 ∧ (cut sep t).1 <+: t ∧ (cut sep t).2 <:+ t := by
  unfold cut
  cases h : t.partition? sep with
  | none =>
    exact ⟨Text.partition?_eq_none_iff.1 h, List.prefix_refl t, List.nil_suffix⟩
  | some parts =>
    obtain ⟨first, rfl⟩ := Text.partition?_eq_some h
    exact ⟨first, List.prefix_append _ _,
      (List.suffix_cons sep _).trans (List.suffix_append _ _)⟩

theorem isBreak_of_mem_clean {t : Text} {c : CodePoint} (h : c ∈ clean t) : isBreak c = false := by
  have kept := (List.mem_filter.1 h).2
  simpa only [isBreak, Bool.not_eq_true'] using kept

theorem splitScheme_suffix (t : Text) : (splitScheme t).2 <:+ t := by
  unfold splitScheme
  split
  · rename_i scheme rest hcut
    split
    · obtain ⟨-, rfl⟩ := Text.partition?_eq_some hcut
      exact (List.suffix_cons _ rest).trans (List.suffix_append scheme _)
    · exact List.suffix_refl t
  · exact List.suffix_refl t

/-- **A network location has none of the delimiters after it**, and what follows it starts with
one. -/
theorem splitNetloc_spec (t : Text) : (∀ c ∈ (splitNetloc t).1, endsNetloc c = false) ∧
    (splitNetloc t).1 <:+: t ∧ (splitNetloc t).2 <:+ t ∧
    ((splitNetloc t).1 = [] ∨ ∀ c ∈ (splitNetloc t).2.head?, endsNetloc c = true) := by
  unfold splitNetloc
  split
  · rename_i rest
    have behind : rest <:+ ('/' : CodePoint) :: ('/' : CodePoint) :: rest :=
      (List.suffix_cons _ rest).trans (List.suffix_cons _ _)
    refine ⟨fun c hc => ?_, (List.takeWhile_prefix _).isInfix.trans behind.isInfix,
      (List.dropWhile_suffix _).trans behind, .inr fun c hc => ?_⟩
    · have inside := List.mem_takeWhile_imp hc
      simpa using inside
    · have outside := List.head?_dropWhile_not (fun c : CodePoint => !endsNetloc c) rest
      rw [Option.mem_def.1 hc] at outside
      simpa using outside
  · exact ⟨nofun, List.nil_infix, List.suffix_refl t, .inl rfl⟩

theorem head?_path_of_ends {rest : Text} (h : ∀ c ∈ rest.head?, endsNetloc c = true) :
    ∀ c ∈ (cut '?' (cut '#' rest).1).1.head?, c = ('/' : CodePoint) := by
  intro c hc
  obtain ⟨more, path⟩ : ∃ more, (cut '?' (cut '#' rest).1).1 = c :: more :=
    List.head?_eq_some_iff.1 hc
  obtain ⟨noQuery, shorter, -⟩ := cut_spec '?' (cut '#' rest).1
  obtain ⟨noFragment, short, -⟩ := cut_spec '#' rest
  rw [path] at noQuery shorter
  have inside : c ∈ (cut '#' rest).1 := shorter.subset List.mem_cons_self
  obtain ⟨after, whole⟩ := shorter.trans short
  have ends := h c (by rw [← whole]; rfl)
  simp only [endsNetloc, Bool.or_eq_true, beq_iff_eq] at ends
  obtain (rfl | rfl) | rfl := ends
  · rfl
  · exact absurd List.mem_cons_self noQuery
  · exact absurd inside noFragment

def following (t : Text) : Text := (splitNetloc (splitScheme (clean t)).2).2

/-- The parts that a text has, whether its network location is right or not. -/
def parts (t : Text) : Url where
  scheme := (announced t).1
  netloc := (announced t).2
  path := (cut '?' (cut '#' (following t)).1).1
  params := []
  query := (cut '?' (cut '#' (following t)).1).2
  fragment := (cut '#' (following t)).2

theorem split_eq_ok_iff {t : Text} {u : Url} :
    split t = .ok u ↔ checkNetloc (announced t).2 = .ok () ∧ u = parts t := by
  constructor
  · intro h
    obtain ⟨_, checked, h⟩ := bind_eq_ok_iff.1 h
    exact ⟨checked, (Except.ok.inj h).symm⟩
  · rintro ⟨checked, rfl⟩
    exact bind_eq_ok_iff.2 ⟨(), checked, rfl⟩

theorem netloc_query_infix_of_parse {t : Text} {u : Url} (h : parse t = .ok u) :
    u.netloc <:+: clean t ∧ u.query <:+: clean t := by
  obtain ⟨v, hv, h⟩ := bind_eq_ok_iff.1 h
  obtain ⟨-, rfl⟩ := split_eq_ok_iff.1 hv
  have same : u.netloc = (parts t).netloc ∧ u.query = (parts t).query := by
    split at h
    · cases h
      exact ⟨rfl, rfl⟩
    · cases h
      exact ⟨rfl, rfl⟩
  have behind := (splitScheme_suffix (clean t)).isInfix
  obtain ⟨-, located, after, -⟩ := splitNetloc_spec (splitScheme (clean t)).2
  obtain ⟨-, short, -⟩ := cut_spec '#' (following t)
  obtain ⟨-, -, query⟩ := cut_spec '?' (cut '#' (following t)).1
  rw [same.1, same.2]
  exact ⟨located.trans behind,
    (query.isInfix.trans short.isInfix).trans (after.isInfix.trans behind)⟩

theorem isDelimited_parts (t : Text) : (parts t).IsDelimited := by
  obtain ⟨inside, located, after, follows⟩ := splitNetloc_spec (splitScheme (clean t)).2
  obtain ⟨noFragment, short, fragment⟩ := cut_spec '#' (following t)
  obtain ⟨noQuery, shorter, query⟩ := cut_spec '?' (cut '#' (following t)).1
  have kept {part : Text} (h : part ⊆ (splitScheme (clean t)).2) :
      ∀ c ∈ part, isBreak c = false :=
    fun c hc => isBreak_of_mem_clean ((splitScheme_suffix _).subset (h hc))
  have keptAfter {part : Text} (h : part ⊆ following t) : ∀ c ∈ part, isBreak c = false :=
    kept fun c hc => after.subset (h hc)
  exact {
    netloc := inside
    path := ⟨fun hc => noFragment (shorter.subset hc), noQuery⟩
    query := fun hc => noFragment (query.subset hc)
    rooted := follows.imp_right head?_path_of_ends
    unbroken := by
      simp only [List.forall_mem_append]
      exact ⟨kept located.subset, keptAfter (shorter.trans short).subset,
        keptAfter fun c hc => short.subset (query.subset hc), keptAfter fragment.subset⟩ }

/-! ## Putting together -/

/-- **A scheme without rules of its own**: it is read as it is written, no network location is
announced for it that is not there, and its paths have no parameters. -/
structure IsNeutral (scheme : Text) : Prop where
  letter : scheme.head?.any CodePoint.isAsciiLetter = true
  points : scheme.all isSchemePoint = true
  lower : scheme.map CodePoint.asciiLower = scheme
  unannounced : netlocSchemes.contains scheme = false
  unparametrised : paramSchemes.contains scheme = false

theorem ne_colon_of_isSchemePoint {c : CodePoint} (h : isSchemePoint c = true) :
    c ≠ ':' ∧ isBreak c = false := by
  constructor
  · rintro rfl
    exact absurd h (by decide)
  · by_contra broken
    simp only [isBreak, Bool.not_eq_false, Bool.or_eq_true, beq_iff_eq] at broken
    obtain (rfl | rfl) | rfl := broken <;> exact absurd h (by decide)

theorem not_le_space_of_isAsciiLetter {c : CodePoint} (h : c.isAsciiLetter = true) :
    ¬ c.val ≤ 0x20 := by
  simp only [CodePoint.isAsciiLetter, CodePoint.isAsciiUpper, CodePoint.isAsciiLower,
    Bool.or_eq_true, Bool.and_eq_true, decide_eq_true_eq, Fin.le_def] at h
  have upper : (CodePoint.ofChar 'A').val = 65 := rfl
  have lower : (CodePoint.ofChar 'a').val = 97 := rfl
  omega

section Written

variable {scheme rest : Text}

theorem IsNeutral.splitScheme_written (neutral : IsNeutral scheme) (rest : Text) :
    splitScheme (scheme ++ (':' : CodePoint) :: rest) = (scheme, rest) := by
  have uncut : (':' : CodePoint) ∉ scheme := fun hc =>
    (ne_colon_of_isSchemePoint (List.all_eq_true.1 neutral.points _ hc)).1 rfl
  rw [splitScheme, Text.partition?_of_not_mem rest uncut]
  simp only [neutral.letter, neutral.points, neutral.lower, Bool.and_true, if_true]

theorem IsNeutral.clean_written (neutral : IsNeutral scheme)
    (unbroken : ∀ c ∈ rest, isBreak c = false) :
    clean (scheme ++ (':' : CodePoint) :: rest) = scheme ++ (':' : CodePoint) :: rest := by
  have kept : ∀ c ∈ scheme ++ (':' : CodePoint) :: rest, isBreak c = false := by
    refine List.forall_mem_append.2 ⟨fun c hc => ?_, List.forall_mem_cons.2 ⟨by decide, unbroken⟩⟩
    exact (ne_colon_of_isSchemePoint (List.all_eq_true.1 neutral.points c hc)).2
  obtain ⟨c, first, letter⟩ := Option.any_eq_true _ _ |>.1 neutral.letter
  obtain ⟨more, rfl⟩ := List.head?_eq_some_iff.1 first
  have above := not_le_space_of_isAsciiLetter letter
  rw [clean, List.cons_append, List.dropWhile_cons_of_neg (by simpa using above)]
  exact List.filter_eq_self.2 fun d hd => by simpa only [isBreak, Bool.not_eq_true'] using kept d hd

theorem IsNeutral.parts_written (neutral : IsNeutral scheme)
    (unbroken : ∀ c ∈ rest, isBreak c = false) :
    announced (scheme ++ (':' : CodePoint) :: rest) = (scheme, (splitNetloc rest).1) ∧
      following (scheme ++ (':' : CodePoint) :: rest) = (splitNetloc rest).2 := by
  simp only [announced, following, neutral.clean_written unbroken, neutral.splitScheme_written,
    and_self]

end Written

def tail (u : Url) : Text := suffix '?' u.query ++ suffix '#' u.fragment

theorem cut_suffix {sep : CodePoint} {before : Text} (h : sep ∉ before) (after : Text) :
    cut sep (before ++ suffix sep after) = (before, after) := by
  unfold cut
  cases after with
  | nil =>
    rw [suffix, List.isEmpty_nil, if_pos rfl, List.append_nil, Text.partition?_eq_none_iff.2 h]
    rfl
  | cons c more =>
    rw [suffix, List.isEmpty_cons, if_neg Bool.false_ne_true, Text.partition?_of_not_mem _ h]
    rfl

theorem endsNetloc_of_mem_tail {u : Url} {c : CodePoint} (h : c ∈ u.tail.head?) :
    endsNetloc c = true ∧ c ≠ '/' := by
  rw [tail, suffix, suffix] at h
  split at h
  · split at h
    · cases h
    · cases h
      exact ⟨rfl, by decide⟩
  · cases h
    exact ⟨rfl, by decide⟩

theorem cut_path_tail {u : Url} {path : Text} (query : ('#' : CodePoint) ∉ u.query)
    (h : ('#' : CodePoint) ∉ path ∧ ('?' : CodePoint) ∉ path) :
    cut '#' (path ++ u.tail) = (path ++ suffix '?' u.query, u.fragment) ∧
      cut '?' (path ++ suffix '?' u.query) = (path, u.query) := by
  have fragment : ('#' : CodePoint) ∉ path ++ suffix '?' u.query := by
    rw [suffix, List.mem_append, not_or]
    refine ⟨h.1, ?_⟩
    split
    · exact List.not_mem_nil
    · exact List.not_mem_cons_of_ne_of_not_mem (by decide) query
  rw [tail, ← List.append_assoc]
  exact ⟨cut_suffix fragment _, cut_suffix h.2 _⟩

theorem splitNetloc_located {u : Url} (delimited : u.IsDelimited) (located : u.netloc ≠ []) :
    splitNetloc (('/' : CodePoint) :: ('/' : CodePoint) :: (u.netloc ++ (u.path ++ u.tail))) =
      (u.netloc, u.path ++ u.tail) := by
  have inside : ∀ c ∈ u.netloc, (!endsNetloc c) = true := fun c hc => by
    rw [delimited.netloc c hc]
    rfl
  have ends : ∀ c ∈ (u.path ++ u.tail).head?, endsNetloc c = true := by
    rw [List.head?_append]
    cases path : u.path.head? with
    | none => exact fun c hc => (endsNetloc_of_mem_tail hc).1
    | some c =>
      obtain rfl := (delimited.rooted.resolve_left located) c path
      rintro _ ⟨⟩
      rfl
  have stops : (u.path ++ u.tail).takeWhile (fun c => !endsNetloc c) = [] ∧
      (u.path ++ u.tail).dropWhile (fun c => !endsNetloc c) = u.path ++ u.tail := by
    cases written : u.path ++ u.tail with
    | nil => exact ⟨rfl, rfl⟩
    | cons c more =>
      have stop : ¬ (!endsNetloc c) = true := by simp [ends c (by rw [written]; rfl)]
      exact ⟨List.takeWhile_cons_of_neg stop, List.dropWhile_cons_of_neg stop⟩
  change (List.takeWhile _ _, List.dropWhile _ _) = _
  rw [List.takeWhile_append_of_pos inside, List.dropWhile_append_of_pos inside, stops.1, stops.2,
    List.append_nil]

/-- Without a network location a path is taken for none, unless it starts with two slashes. -/
theorem splitNetloc_path {u : Url} (h : ¬ (("//" : Text) <+: u.path)) :
    splitNetloc (u.path ++ u.tail) = ([], u.path ++ u.tail) := by
  unfold splitNetloc
  split
  · rename_i rest written
    refine absurd ?_ h
    match path : u.path with
    | [] =>
      have first : (u.path ++ u.tail).head? = some (CodePoint.ofChar '/') := by rw [written]; rfl
      rw [path, List.nil_append] at first
      exact absurd rfl (endsNetloc_of_mem_tail first).2
    | [c] =>
      rw [path] at written
      have first : u.tail.head? = some (CodePoint.ofChar '/') :=
        congrArg List.head? (List.cons.inj written).2
      exact absurd rfl (endsNetloc_of_mem_tail first).2
    | c :: d :: more =>
      rw [path] at written
      obtain ⟨rfl, first⟩ := List.cons.inj written
      obtain ⟨rfl, -⟩ := List.cons.inj first
      exact List.prefix_append ("//" : Text) more
  · rfl

def placed (u : Url) : Text :=
  if u.netloc = [] then u.path else ('/' : CodePoint) :: ('/' : CodePoint) :: (u.netloc ++ u.path)

theorem toText_eq {u : Url} (neutral : IsNeutral u.scheme) (delimited : u.IsDelimited)
    (unparametrised : u.params = []) :
    u.toText = u.scheme ++ (':' : CodePoint) :: (u.placed ++ u.tail) := by
  have named : u.scheme.isEmpty = false := by
    cases hs : u.scheme with
    | nil =>
      have letter := neutral.letter
      rw [hs] at letter
      cases letter
    | cons => rfl
  have written : location u.scheme u.netloc u.path = u.placed := by
    unfold location placed
    rw [neutral.unannounced, Bool.false_and, Bool.or_false]
    cases netloc : u.netloc with
    | nil => rfl
    | cons c more =>
      have located : (!(c :: more).isEmpty) = true := rfl
      have unslashed : (!u.path.isEmpty && !Text.startsWith u.path "/") = false := by
        have rooted := delimited.rooted.resolve_left (by rw [netloc]; exact List.cons_ne_nil c more)
        cases path : u.path with
        | nil => rfl
        | cons d rest =>
          obtain rfl := rooted d (by rw [path]; rfl)
          rfl
      rw [if_pos located, if_neg (List.cons_ne_nil c more), unslashed]
      change ("//" : Text) ++ c :: more ++ [] ++ u.path = _
      rw [List.append_nil]
      rfl
  unfold toText
  rw [named, unparametrised, suffix, List.isEmpty_nil, if_pos rfl, List.append_nil, written, tail]
  simp [Text.ofString]

theorem unbroken_placed_tail {u : Url} (delimited : u.IsDelimited) :
    ∀ c ∈ u.placed ++ u.tail, isBreak c = false := by
  have suffix_unbroken {sep : CodePoint} {part : Text} (hsep : isBreak sep = false)
      (h : ∀ c ∈ part, isBreak c = false) : ∀ c ∈ suffix sep part, isBreak c = false := by
    unfold suffix
    split
    · nofun
    · exact List.forall_mem_cons.2 ⟨hsep, h⟩
  obtain ⟨netloc, path, query, fragment⟩ : (∀ c ∈ u.netloc, isBreak c = false) ∧
      (∀ c ∈ u.path, isBreak c = false) ∧ (∀ c ∈ u.query, isBreak c = false) ∧
      ∀ c ∈ u.fragment, isBreak c = false := by
    simpa only [List.forall_mem_append] using delimited.unbroken
  have slash : isBreak '/' = false := by decide
  simp only [placed, tail, List.forall_mem_append]
  refine ⟨?_, suffix_unbroken (by decide) query, suffix_unbroken (by decide) fragment⟩
  split
  · exact path
  · exact List.forall_mem_cons.2 ⟨slash, List.forall_mem_cons.2 ⟨slash,
      List.forall_mem_append.2 ⟨netloc, path⟩⟩⟩

/-- **The parts of what is written** are those of the URL, unless its path is taken for the
announcement of a network location. -/
theorem parts_toText_eq_iff {u : Url} (neutral : IsNeutral u.scheme) (delimited : u.IsDelimited)
    (unparametrised : u.params = []) :
    parts u.toText = u ↔ ¬ (u.netloc = [] ∧ ("//" : Text) <+: u.path) := by
  obtain ⟨told, follows⟩ := neutral.parts_written (unbroken_placed_tail delimited)
  rw [toText_eq neutral delimited unparametrised]
  constructor
  · rintro same ⟨unlocated, more, path⟩
    -- the path behind the two slashes is read as the path, which is shorter
    have slashes : u.placed ++ u.tail =
        ('/' : CodePoint) :: ('/' : CodePoint) :: (more ++ u.tail) := by
      rw [placed, if_pos unlocated, ← path]
      rfl
    have announced : (more ++ u.tail).takeWhile (fun c => !endsNetloc c) = [] := by
      have netloc : (Url.announced _).2 = u.netloc := congrArg Url.netloc same
      rwa [told, slashes, unlocated] at netloc
    have rest : (splitNetloc (u.placed ++ u.tail)).2 = more ++ u.tail := by
      have whole := List.takeWhile_append_dropWhile (p := fun c => !endsNetloc c)
        (l := more ++ u.tail)
      rw [announced, List.nil_append] at whole
      rwa [slashes]
    obtain ⟨cutFragment, cutQuery⟩ := cut_path_tail delimited.query
      ⟨fun hc => delimited.path.1 (path ▸ List.mem_append_right _ hc),
        fun hc => delimited.path.2 (path ▸ List.mem_append_right _ hc)⟩
    have shorter : (cut '?' (cut '#' (following _)).1).1 = u.path := congrArg Url.path same
    rw [follows, rest, cutFragment, cutQuery, ← path] at shorter
    have length : more.length = 2 + more.length :=
      (congrArg List.length shorter).trans List.length_append
    omega
  · intro h
    have found : splitNetloc (u.placed ++ u.tail) = (u.netloc, u.path ++ u.tail) := by
      unfold placed
      split
      · rename_i unlocated
        rw [unlocated]
        exact splitNetloc_path fun slashes => h ⟨unlocated, slashes⟩
      · rename_i located
        rw [List.cons_append, List.cons_append, List.append_assoc]
        exact splitNetloc_located delimited located
    obtain ⟨cutFragment, cutQuery⟩ := cut_path_tail delimited.query delimited.path
    rw [found] at told follows
    rw [parts, told, follows, cutFragment, cutQuery, ← unparametrised]

/-! ## Taking apart again -/

/-- Under a scheme whose paths have no parameters nothing is cut off the path. -/
theorem parse_eq_ok_iff {t : Text} {u : Url}
    (unparametrised : paramSchemes.contains u.scheme = false) :
    parse t = .ok u ↔ checkNetloc (announced t).2 = .ok () ∧ u = parts t := by
  rw [← split_eq_ok_iff]
  constructor
  · intro h
    obtain ⟨v, hv, h⟩ := bind_eq_ok_iff.1 h
    split at h
    · rename_i parametrised
      obtain rfl := Except.ok.inj h
      exact absurd parametrised (by rw [unparametrised]; exact Bool.false_ne_true)
    · exact Except.ok.inj h ▸ hv
  · intro h
    exact bind_eq_ok_iff.2 ⟨u, h, if_neg (by rw [unparametrised]; exact Bool.false_ne_true)⟩

/-- **A URL under a neutral scheme is taken apart as it was put together**, unless its path starts
with two slashes and no network location stands before it. -/
theorem parse_toText_iff {u : Url} (neutral : IsNeutral u.scheme) (delimited : u.IsDelimited)
    (unparametrised : u.params = []) (checked : checkNetloc u.netloc = .ok ()) :
    parse u.toText = .ok u ↔ ¬ (u.netloc = [] ∧ ("//" : Text) <+: u.path) := by
  rw [← parts_toText_eq_iff neutral delimited unparametrised,
    parse_eq_ok_iff neutral.unparametrised]
  constructor
  · rintro ⟨-, same⟩
    exact same.symm
  · intro same
    refine ⟨?_, same.symm⟩
    have netloc : (announced u.toText).2 = u.netloc := congrArg Url.netloc same
    rwa [netloc]

end Issuer.Url
