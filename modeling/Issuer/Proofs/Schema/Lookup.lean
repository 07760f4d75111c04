import Issuer.Proofs.Schema.Extraction
/-!
# Lookups — where a path of keys ends

A path of keys is followed to its leaf, an object for the attributes and a text for the context,
exactly if every shorter part of it leads to a level and the whole to a leaf.  Else the shortest
part that does not lead to what it has to is told.  So the outcome depends on nothing but what lies
along the path (`lookup_follows`).
-/
namespace Issuer.Schema

variable {α : Type} {leaf : Json → Option α} {document node : Json} {key : Text}
  {rest whole part path : List Text}

/-! ## Parts of a path -/

/-- A part of a path leads to what it has to: the whole to a leaf, what is shorter to a level. -/
def Fits (leaf : Json → Option α) (document : Json) (whole part : List Text) : Prop :=
  if part = whole then ∃ a, (document.at? whole).bind leaf = some a else IsLevel document part

/-- **The shortest part of a path that is missing or of the wrong kind.** -/
structure IsShortestUnfit (leaf : Json → Option α) (document : Json) (whole part : List Text) :
    Prop where
  onTheWay : part <+: whole
  nonempty : part ≠ []
  unfit : ¬ Fits leaf document whole part
  shorter : ∀ way, way <+: part → way ≠ part → way ≠ [] → Fits leaf document whole way

theorem IsShortestUnfit.eq {other : List Text} (h : IsShortestUnfit leaf document whole part)
    (h' : IsShortestUnfit leaf document whole other) : part = other := by
  by_contra differ
  -- of two parts of one path the shorter is on the way to the other
  rcases List.prefix_or_prefix_of_prefix h.onTheWay h'.onTheWay with way | way
  · exact h.unfit (h'.shorter part way differ h.nonempty)
  · exact h'.unfit (h.shorter other way (Ne.symm differ) h'.nonempty)

theorem isLevel_of_at? {more : List Text} {v : Json}
    (h : document.at? (part ++ key :: more) = some v) : IsLevel document part := by
  rw [Json.at?_append] at h
  obtain ⟨w, hw, h⟩ := Option.bind_eq_some_iff.1 h
  cases w with
  | obj ms => exact ⟨ms, hw⟩
  | null | bool | int | float | str | arr => cases h

theorem isLevel_of_leaf {a : α} (h : (document.at? whole).bind leaf = some a)
    (way : part <+: whole) (shorter : part ≠ whole) : IsLevel document part := by
  obtain ⟨more, rfl⟩ := way
  obtain ⟨v, hv, -⟩ := Option.bind_eq_some_iff.1 h
  cases more with
  | nil => exact absurd (List.append_nil part).symm shorter
  | cons key more => exact isLevel_of_at? hv

theorem fits_of_leaf {a : α} (h : (document.at? whole).bind leaf = some a)
    (way : part <+: whole) : Fits leaf document whole part := by
  unfold Fits
  split
  · exact ⟨a, h⟩
  · exact isLevel_of_leaf h way ‹_›

/-! ## One step -/

theorem at?_cons {w : Json} (h : node.member? key = some w) (path : List Text) :
    node.at? (key :: path) = w.at? path := by
  rw [Json.at?, h, Option.bind_some]

theorem at?_singleton (node : Json) (key : Text) : node.at? [key] = node.member? key := by
  rw [Json.at?]
  cases node.member? key with
  | none => rfl
  | some w => rfl

theorem fits_cons_iff {w : Json} (h : node.member? key = some w) :
    Fits leaf node (key :: whole) (key :: part) ↔ Fits leaf w whole part := by
  simp only [Fits, IsLevel, at?_cons h, List.cons.injEq, true_and]

theorem IsShortestUnfit.cons {ms : Members} (level : node.member? key = some (.obj ms))
    (below : whole ≠ []) (h : IsShortestUnfit leaf (.obj ms) whole part) :
    IsShortestUnfit leaf node (key :: whole) (key :: part) where
  onTheWay := List.cons_prefix_cons.2 ⟨rfl, h.onTheWay⟩
  nonempty := List.cons_ne_nil _ _
  unfit fits := h.unfit ((fits_cons_iff level).1 fits)
  shorter way prefixed differ given := by
    obtain rfl | ⟨lower, rfl, inner⟩ := List.prefix_cons_iff.1 prefixed
    · exact absurd rfl given
    · refine (fits_cons_iff level).2 ?_
      by_cases top : lower = []
      · -- the level itself
        subst top
        rw [Fits, if_neg (Ne.symm below)]
        exact ⟨ms, rfl⟩
      · exact h.shorter lower inner (fun same => differ (congrArg _ same)) top

/-- A path's first key alone is the shortest part that does not fit if it does not fit at all. -/
theorem isShortestUnfit_singleton (h : ¬ Fits leaf node (key :: rest) [key]) :
    IsShortestUnfit leaf node (key :: rest) [key] where
  onTheWay := List.cons_prefix_cons.2 ⟨rfl, List.nil_prefix⟩
  nonempty := List.cons_ne_nil _ _
  unfit := h
  shorter way prefixed differ given := by
    obtain rfl | ⟨lower, rfl, inner⟩ := List.prefix_cons_iff.1 prefixed
    · exact absurd rfl given
    · exact absurd (congrArg _ (List.prefix_nil.1 inner)) differ

/-! ## The whole path -/

-- the induction is on what remains of the path: below a level the rest of it is walked from there
theorem isShortestUnfit_of_lookupFrom {walked : List Text}
    (h : lookupFrom leaf walked node key rest = .error path) :
    ∃ part, path = walked ++ part ∧ IsShortestUnfit leaf node (key :: rest) part := by
  induction rest generalizing walked node key with
  | nil =>
    rw [lookupFrom] at h
    split at h
    · cases h
    · rename_i unread
      cases h
      refine ⟨[key], rfl, isShortestUnfit_singleton fun fits => ?_⟩
      rw [Fits, if_pos rfl] at fits
      obtain ⟨a, read⟩ := fits
      rw [at?_singleton, unread] at read
      cases read
  | cons next rest ih =>
    rw [lookupFrom] at h
    split at h
    · rename_i ms level
      obtain ⟨part, rfl, unfit⟩ := ih h
      exact ⟨key :: part, List.append_assoc _ _ _, unfit.cons level (List.cons_ne_nil _ _)⟩
    · rename_i stopped
      cases h
      refine ⟨[key], rfl, isShortestUnfit_singleton fun fits => ?_⟩
      rw [Fits, if_neg (by simp)] at fits
      obtain ⟨ms, hms⟩ := fits
      obtain ⟨w, hw, hms⟩ := Option.bind_eq_some_iff.1 hms
      obtain rfl := Option.some.inj hms
      exact stopped ms hw

/-- **A path is followed** exactly if the whole leads to a leaf. -/
theorem lookup_eq_ok_iff {a : α} : lookup leaf document key rest = .ok a ↔
    (document.at? (key :: rest)).bind leaf = some a := by
  have sound {b : α} (h : lookup leaf document key rest = .ok b) :
      (document.at? (key :: rest)).bind leaf = some b := by
    obtain ⟨v, hv, read⟩ := at?_of_lookupFrom h
    rw [hv, Option.bind_some, read]
  refine ⟨sound, fun reached => ?_⟩
  cases h : lookup leaf document key rest with
  | ok b => rw [Option.some.inj ((sound h).symm.trans reached)]
  | error path =>
    obtain ⟨part, -, unfit⟩ := isShortestUnfit_of_lookupFrom h
    exact absurd (fits_of_leaf reached unfit.onTheWay) unfit.unfit

/-- **A path is not followed** exactly from the shortest part on that does not fit. -/
theorem lookup_eq_error_iff : lookup leaf document key rest = .error path ↔
    IsShortestUnfit leaf document (key :: rest) path := by
  have sound {p : List Text} (h : lookup leaf document key rest = .error p) :
      IsShortestUnfit leaf document (key :: rest) p := by
    obtain ⟨part, rfl, unfit⟩ := isShortestUnfit_of_lookupFrom h
    exact unfit
  refine ⟨sound, fun unfit => ?_⟩
  cases h : lookup leaf document key rest with
  | ok a => exact absurd (fits_of_leaf (lookup_eq_ok_iff.1 h) unfit.onTheWay) unfit.unfit
  | error p => rw [(sound h).eq unfit]

/-! ## Two documents -/

/-- **Two documents agree along a path**: they have levels at the same places on it, and what they
have at its end is the same up to `R`. -/
structure AgreeAlong (R : α → α → Prop) (leaf : Json → Option α) (whole : List Text)
    (d e : Json) : Prop where
  levels : ∀ part, part <+: whole → part ≠ [] → part ≠ whole → (IsLevel d part ↔ IsLevel e part)
  leaves : Option.Rel R ((d.at? whole).bind leaf) ((e.at? whole).bind leaf)

/-- Two outcomes are the same up to `R`: the same path is told, or what is found is the same. -/
inductive SameOutcome (R : α → α → Prop) :
    Except (List Text) α → Except (List Text) α → Prop where
  | found {a b : α} (same : R a b) : SameOutcome R (.ok a) (.ok b)
  | stopped (path : List Text) : SameOutcome R (.error path) (.error path)

theorem sameOutcome_eq_iff {x y : Except (List Text) α} : SameOutcome Eq x y ↔ x = y := by
  constructor
  · rintro (rfl | _)
    · rfl
    · rfl
  · rintro rfl
    cases x with
    | ok a => exact .found rfl
    | error path => exact .stopped path

section Agreement

variable {R : α → α → Prop} {d e : Json}

theorem AgreeAlong.fits_iff (h : AgreeAlong R leaf whole d e) (way : part <+: whole)
    (given : part ≠ []) : Fits leaf d whole part ↔ Fits leaf e whole part := by
  unfold Fits
  split
  · have leaves := h.leaves
    generalize (d.at? whole).bind leaf = x at leaves ⊢
    generalize (e.at? whole).bind leaf = y at leaves ⊢
    cases leaves with
    | none => exact Iff.rfl
    | some _ => exact iff_of_true ⟨_, rfl⟩ ⟨_, rfl⟩
  · exact h.levels part way given ‹_›

theorem AgreeAlong.isShortestUnfit (h : AgreeAlong R leaf whole d e)
    (unfit : IsShortestUnfit leaf d whole part) : IsShortestUnfit leaf e whole part where
  onTheWay := unfit.onTheWay
  nonempty := unfit.nonempty
  unfit fits := unfit.unfit ((h.fits_iff unfit.onTheWay unfit.nonempty).2 fits)
  shorter way prefixed differ given :=
    (h.fits_iff (prefixed.trans unfit.onTheWay) given).1 (unfit.shorter way prefixed differ given)

theorem agreeAlong_of_levels {before : List Text} (ends : whole = before ++ [key])
    (level : IsLevel d before) (level' : IsLevel e before)
    (leaves : Option.Rel R ((d.at? whole).bind leaf) ((e.at? whole).bind leaf)) :
    AgreeAlong R leaf whole d e where
  levels part way _ shorter := by
    subst ends
    have way := (List.prefix_concat_iff.1 way).resolve_left shorter
    exact iff_of_true (level.of_prefix way) (level'.of_prefix way)
  leaves := leaves

theorem AgreeAlong.sameOutcome (h : AgreeAlong R leaf (key :: rest) d e) :
    SameOutcome R (lookup leaf d key rest) (lookup leaf e key rest) := by
  cases hd : lookup leaf d key rest with
  | ok a =>
    have leaves := h.leaves
    rw [lookup_eq_ok_iff.1 hd] at leaves
    cases he : (e.at? (key :: rest)).bind leaf with
    | none =>
      rw [he] at leaves
      cases leaves
    | some b =>
      rw [he] at leaves
      cases leaves with
      | some same =>
        rw [lookup_eq_ok_iff.2 he]
        exact .found same
  | error path =>
    rw [lookup_eq_error_iff.2 (h.isShortestUnfit (lookup_eq_error_iff.1 hd))]
    exact .stopped path

end Agreement

/-- **A lookup follows its path**, whatever the leaf has to be.  It finds a leaf exactly if every
shorter part of the path leads to a level and the whole to that leaf.  Else the path of its failure
is the shortest part that is missing or of the wrong kind.  Documents that agree along the path have
the same outcome, up to what their leaves are the same up to. -/
theorem lookup_follows (leaf : Json → Option α) (document : Json) (key : Text)
    (rest : List Text) :
    (∀ a, lookup leaf document key rest = .ok a ↔
      (∀ part, part <+: key :: rest → part ≠ key :: rest → IsLevel document part) ∧
        (document.at? (key :: rest)).bind leaf = some a) ∧
    (∀ path, lookup leaf document key rest = .error path ↔
      IsShortestUnfit leaf document (key :: rest) path) ∧
    (∀ f, (lookup leaf document key rest).mapError levelFailure = .error f →
      ∃ path, IsShortestUnfit leaf document (key :: rest) path ∧
        f.Reports .schemaStructure { path := .str (Text.join "." path) } []) ∧
    ∀ other, (AgreeAlong Eq leaf (key :: rest) document other →
        lookup leaf document key rest = lookup leaf other key rest) ∧
      ∀ R : α → α → Prop, AgreeAlong R leaf (key :: rest) document other →
        SameOutcome R (lookup leaf document key rest) (lookup leaf other key rest) := by
  refine ⟨fun a => ⟨fun found => ?_, fun reached => lookup_eq_ok_iff.2 reached.2⟩,
    fun path => lookup_eq_error_iff, fun f failed => ?_,
    fun other => ⟨fun agree => sameOutcome_eq_iff.1 agree.sameOutcome,
      fun R agree => agree.sameOutcome⟩⟩
  · have reached := lookup_eq_ok_iff.1 found
    exact ⟨fun part way shorter => isLevel_of_leaf reached way shorter, reached⟩
  · cases h : lookup leaf document key rest with
    | ok a =>
      rw [h] at failed
      cases failed
    | error path =>
      rw [h] at failed
      cases failed
      exact ⟨path, lookup_eq_error_iff.1 h, _, rfl⟩

def idEntry : Text × Json := ("id", .obj [])

/-- Declarations are found whatever order they are in, and a context is not found below a list. -/
theorem lookup_follows_declarations :
    AgreeAlong List.Perm Json.members? declarationPath (documentOf [ageEntry, idEntry])
      (documentOf [idEntry, ageEntry]) ∧
    SameOutcome List.Perm (declarations (documentOf [ageEntry, idEntry]))
      (declarations (documentOf [idEntry, ageEntry])) ∧
    ∃ f, (jsonLdContext (.obj [("$metadata", .obj [("uris", .arr [])])])).mapError levelFailure =
      .error f ∧ f.Reports .schemaStructure { path := .str "$metadata.uris" } [] := by
  have above (ms : Members) : IsLevel (documentOf ms) ["properties", "credentialSubject"] :=
    ⟨_, rfl⟩
  have leaf (ms : Members) :
      ((documentOf ms).at? declarationPath).bind Json.members? = some ms := rfl
  have agree : AgreeAlong List.Perm Json.members? declarationPath
      (documentOf [ageEntry, idEntry]) (documentOf [idEntry, ageEntry]) := by
    refine agreeAlong_of_levels rfl (above _) (above _) ?_
    rw [leaf, leaf]
    exact .some (List.Perm.swap idEntry ageEntry [])
  obtain ⟨-, -, -, same⟩ := lookup_follows Json.members? (documentOf [ageEntry, idEntry])
    "properties" ["credentialSubject", "properties"]
  obtain ⟨-, stops, fails, -⟩ := lookup_follows Json.text?
    (.obj [("$metadata", .obj [("uris", .arr [])])]) "$metadata" ["uris", "jsonLdContext"]
  obtain ⟨path, unfit, reported⟩ := fails _ rfl
  obtain rfl := unfit.eq ((stops ["$metadata", "uris"]).1 rfl)
  exact ⟨agree, (same _).2 _ agree, _, rfl, reported⟩

end Issuer.Schema
