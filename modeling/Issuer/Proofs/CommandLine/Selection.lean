import Issuer.CommandLine.Selection
import Issuer.Proofs.Except
import Issuer.Proofs.Text.Cut
import Mathlib.Data.List.Forall2
/-!
# What settings of a command line hold

The settings of a command hold the URL that it needs, which is the last argument of its flag and not
empty (`url_of_migrate`).  Those of the schema command hold the attributes that its flags give, each
an object of two strings, a name that is not empty and a value (`attributes_of_schema`).  Without a
URL, or with an attribute that has no name, there are no settings.
-/
namespace Issuer.CommandLine

variable {g : Given} {name : Text} {f : Flag}

/-! ## Flags with one argument -/

theorem optional_of_given {t : Text} (given : g.last? f = some t) (ne : t ≠ []) :
    optional name f g = [(name, .json (.str t))] := by
  obtain ⟨c, rest, rfl⟩ := List.exists_cons_of_ne_nil ne
  rw [optional, given]

theorem lookup_optional_of_ne {other : Text} (ne : other ≠ name) :
    (optional name f g).lookup other = none := by
  have unequal : (other == name) = false := by simpa using ne
  unfold optional
  split
  · rfl
  · rfl
  · rw [List.lookup_cons, unequal, List.lookup_nil]

/-- **A flag that has to have an argument needs one that is not empty.** -/
theorem required_eq_ok_iff {settings : List (Text × Setting)} :
    required name f g = .ok settings ↔
      ∃ t, g.last? f = some t ∧ t ≠ [] ∧ settings = [(name, .json (.str t))] := by
  unfold required
  constructor
  · intro h
    cases given : g.last? f with
    | none =>
      rw [optional, given] at h
      cases h
    | some t =>
      cases t with
      | nil =>
        rw [optional, given] at h
        cases h
      | cons c rest =>
        rw [optional, given] at h
        exact ⟨_, rfl, List.cons_ne_nil c rest, (Except.ok.inj h).symm⟩
  · rintro ⟨t, given, ne, rfl⟩
    rw [optional_of_given given ne]

/-! ## Attributes -/

/-- A text gives an attribute: a name that is not empty, the first equals sign and a value. -/
structure IsAttribute (t : Text) (pair : Text × Text) : Prop where
  named : pair.1 ≠ []
  first : ('=' : CodePoint) ∉ pair.1
  parts : t = pair.1 ++ ('=' : CodePoint) :: pair.2

theorem isAttribute_of_splitAttribute {t : Text} {pair : Text × Text}
    (h : splitAttribute t = .ok pair) : IsAttribute t pair := by
  unfold splitAttribute at h
  split at h
  · rename_i c name value cut
    obtain ⟨first, parts⟩ := Text.partition?_eq_some cut
    obtain rfl := Except.ok.inj h
    exact ⟨List.cons_ne_nil c name, first, parts⟩
  · cases h

theorem forall₂_of_splitAttributes : ∀ {ts : List Text} {pairs : List (Text × Text)},
    splitAttributes ts = .ok pairs → List.Forall₂ IsAttribute ts pairs
  | [], _, h => by
    obtain rfl := Except.ok.inj h
    exact .nil
  | t :: ts, _, h => by
    obtain ⟨pair, first, h⟩ := bind_eq_ok_iff.1 h
    obtain ⟨pairs, others, h⟩ := bind_eq_ok_iff.1 h
    obtain rfl := Except.ok.inj h
    exact .cons (isAttribute_of_splitAttribute first) (forall₂_of_splitAttributes others)

theorem attributesSetting_eq_ok {settings : List (Text × Setting)}
    (h : attributesSetting g = .ok settings) : ∃ pairs,
      List.Forall₂ IsAttribute (g.all .attributes) pairs ∧
      settings.lookup ("schema.attributes" : Text) =
        if pairs = [] then none else some (.json (.arr (pairs.map attributeSetting))) := by
  unfold attributesSetting at h
  split at h
  · rename_i none
    obtain rfl := Except.ok.inj h
    exact ⟨[], none ▸ .nil, rfl⟩
  · rename_i ts some
    obtain ⟨pairs, split, h⟩ := bind_eq_ok_iff.1 h
    obtain rfl := Except.ok.inj h
    have given := forall₂_of_splitAttributes split
    have ne : pairs ≠ [] := by
      rintro rfl
      exact some (List.forall₂_nil_right_iff.1 given)
    refine ⟨pairs, given, ?_⟩
    rw [if_neg ne]
    rfl

/-! ## Settings of commands -/

theorem exists_of_select_cons {group : Group} {groups : List Group}
    {values : List (Text × Setting)} (h : select g (group :: groups) = .ok values) :
    ∃ first rest, group.settings g = .ok first ∧ select g groups = .ok rest ∧
      values = first ++ rest := by
  obtain ⟨first, settled, h⟩ := bind_eq_ok_iff.1 h
  obtain ⟨rest, selected, h⟩ := bind_eq_ok_iff.1 h
  exact ⟨first, rest, settled, selected, (Except.ok.inj h).symm⟩

theorem select_of_settingsOf {groups : List Group} {settings : Settings}
    (h : settingsOf groups g = .ok settings) : select g groups = .ok settings.values := by
  cases selected : select g groups with
  | error p =>
    rw [settingsOf, selected] at h
    cases h
  | ok values =>
    rw [settingsOf, selected] at h
    obtain rfl := Except.ok.inj h
    rfl

theorem lookup_of_logging {values : List (Text × Setting)}
    (h : Group.logging.settings g = .ok values) :
    values.lookup ("schema.attributes" : Text) = none := by
  obtain rfl := Except.ok.inj h
  rw [List.lookup_append, List.lookup_append, List.lookup_append,
    lookup_optional_of_ne (by decide), lookup_optional_of_ne (by decide),
    lookup_optional_of_ne (by decide)]
  cases g.has .logJson <;> rfl

theorem url_of_migrate {settings : Settings}
    (h : settingsOf (Group.ofCategory .migrate) g = .ok settings) :
    ∃ url, g.last? .databaseUrl = some url ∧ url ≠ [] ∧
      settings.get? "database.url" = some (.json (.str url)) := by
  have selected : select g [.general, .database, .logging] = .ok settings.values :=
    select_of_settingsOf h
  obtain ⟨_, _, ⟨⟩, others, values⟩ := exists_of_select_cons selected
  obtain ⟨database, logging, settled, -, rfl⟩ := exists_of_select_cons others
  obtain ⟨url, given, ne, rfl⟩ := required_eq_ok_iff.1 settled
  refine ⟨url, given, ne, ?_⟩
  rw [Settings.get?, values]
  rfl

theorem attributes_of_schema {settings : Settings}
    (h : settingsOf (Group.ofCategory .schema) g = .ok settings) :
    ∃ url pairs, g.last? .schemaUrl = some url ∧ url ≠ [] ∧
      List.Forall₂ IsAttribute (g.all .attributes) pairs ∧
      settings.get? "schema.attributes" =
        if pairs = [] then none else some (.json (.arr (pairs.map attributeSetting))) := by
  have selected : select g [.general, .schema, .logging] = .ok settings.values :=
    select_of_settingsOf h
  obtain ⟨_, _, ⟨⟩, others, values⟩ := exists_of_select_cons selected
  obtain ⟨schema, _, settled, last, rfl⟩ := exists_of_select_cons others
  obtain ⟨logging, _, logged, ⟨⟩, rfl⟩ := exists_of_select_cons last
  obtain ⟨first, located, settled⟩ := bind_eq_ok_iff.1 settled
  obtain ⟨attributes, attributed, settled⟩ := bind_eq_ok_iff.1 settled
  obtain rfl := Except.ok.inj settled
  obtain ⟨url, given, ne, rfl⟩ := required_eq_ok_iff.1 located
  obtain ⟨pairs, pairwise, found⟩ := attributesSetting_eq_ok attributed
  refine ⟨url, pairs, given, ne, pairwise, ?_⟩
  rw [Settings.get?, values]
  simp only [List.nil_append, List.append_nil, List.lookup_append, lookup_of_logging logged,
    found, Option.or_none]
  rw [lookup_optional_of_ne (by decide), lookup_optional_of_ne (by decide)]
  rfl

def Category.urlFlag : Category → Flag
  | .migrate => .databaseUrl
  | .schema => .schemaUrl

theorem url_of_settings {c : Category} {settings : Settings}
    (h : settingsOf (Group.ofCategory c) g = .ok settings) :
    ∃ url, g.last? c.urlFlag = some url ∧ url ≠ [] := by
  cases c with
  | migrate =>
    obtain ⟨url, given, ne, -⟩ := url_of_migrate h
    exact ⟨url, given, ne⟩
  | schema =>
    obtain ⟨url, -, given, ne, -⟩ := attributes_of_schema h
    exact ⟨url, given, ne⟩

end Issuer.CommandLine
