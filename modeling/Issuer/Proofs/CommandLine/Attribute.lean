import Issuer.Proofs.CommandLine.Choice
/-!
# Attributes by name and value

The values of the attribute flag are the texts of pairs of a name and a value, or one of them is no
such text and then the first is refused (`splitAttributes_cases`).  A text has one pair and a pair
one text, so pairs come back as they were given, also from a command line, whatever dashes and
equals signs they hold (`pairs_of_attributes`).
-/
namespace Issuer.CommandLine

section

variable {t : Text} {ts : List Text} {pair : Text × Text} {pairs : List (Text × Text)}

/-! ## Texts of pairs -/

/-- A pair whose name can stand before an equals sign. -/
structure IsNamed (pair : Text × Text) : Prop where
  named : pair.1 ≠ []
  first : ('=' : CodePoint) ∉ pair.1

instance (pair : Text × Text) : Decidable (IsNamed pair) :=
  decidable_of_iff (pair.1 ≠ [] ∧ ('=' : CodePoint) ∉ pair.1)
    ⟨fun h => ⟨h.1, h.2⟩, fun h => ⟨h.named, h.first⟩⟩

def attributeText (pair : Text × Text) : Text := pair.1 ++ ('=' : CodePoint) :: pair.2

/-- A text that has no equals sign, or nothing before it. -/
def IsMalformed (t : Text) : Prop := ('=' : CodePoint) ∉ t ∨ ∃ value, t = ('=' : CodePoint) :: value

theorem isAttribute_iff : IsAttribute t pair ↔ IsNamed pair ∧ t = attributeText pair :=
  ⟨fun h => ⟨⟨h.named, h.first⟩, h.parts⟩, fun h => ⟨h.1.named, h.1.first, h.2⟩⟩

theorem IsAttribute.unique {other : Text × Text} (h : IsAttribute t pair)
    (hother : IsAttribute t other) : pair = other :=
  Except.ok.inj ((splitAttribute_of_isAttribute h).symm.trans
    (splitAttribute_of_isAttribute hother))

theorem splitAttribute_of_isMalformed (h : IsMalformed t) :
    splitAttribute t = .error (.malformed t) := by
  obtain h | ⟨value, rfl⟩ := h
  · rw [splitAttribute, Text.partition?_eq_none_iff.2 h]
  · have hcut : Text.partition? '=' (('=' : CodePoint) :: value) = some ([], value) :=
      Text.partition?_of_not_mem value List.not_mem_nil
    rw [splitAttribute, hcut]

theorem isAttribute_or_isMalformed (t : Text) : (∃ pair, IsAttribute t pair) ∨ IsMalformed t := by
  cases hcut : t.partition? '=' with
  | none => exact .inr (.inl (Text.partition?_eq_none_iff.1 hcut))
  | some pair =>
    obtain ⟨first, parts⟩ := Text.partition?_eq_some hcut
    by_cases hname : pair.1 = []
    · refine .inr (.inr ⟨pair.2, ?_⟩)
      rw [parts, hname]
      rfl
    · exact .inl ⟨pair, hname, first, parts⟩

theorem IsMalformed.not_isAttribute (h : IsMalformed t) : ¬ IsAttribute t pair := by
  intro hpair
  cases (splitAttribute_of_isAttribute hpair).symm.trans (splitAttribute_of_isMalformed h)

/-! ## Lists of texts -/

inductive FirstMalformed : List Text → Text → Prop
  | here {t : Text} {ts : List Text} (h : IsMalformed t) : FirstMalformed (t :: ts) t
  | later {t u : Text} {ts : List Text} (h : ¬ IsMalformed u) (rest : FirstMalformed ts t) :
    FirstMalformed (u :: ts) t

theorem FirstMalformed.mem (h : FirstMalformed ts t) : t ∈ ts ∧ IsMalformed t := by
  induction h with
  | here h => exact ⟨List.mem_cons_self, h⟩
  | later h rest ih => exact ⟨List.mem_cons_of_mem _ ih.1, ih.2⟩

/-- **Texts are those of pairs, or the first that is not is refused.** -/
theorem splitAttributes_cases : ∀ ts : List Text,
    (∃ pairs, splitAttributes ts = .ok pairs ∧ List.Forall₂ IsAttribute ts pairs) ∨
    ∃ t, FirstMalformed ts t ∧ splitAttributes ts = .error (.malformed t)
  | [] => .inl ⟨[], rfl, .nil⟩
  | t :: ts => by
    obtain ⟨pair, hpair⟩ | hmalformed := isAttribute_or_isMalformed t
    · have hsplit := splitAttribute_of_isAttribute hpair
      obtain ⟨pairs, hpairs, hrest⟩ | ⟨u, hfirst, hrefused⟩ := splitAttributes_cases ts
      · refine .inl ⟨pair :: pairs, ?_, .cons hpair hrest⟩
        rw [splitAttributes, hsplit, hpairs]
        rfl
      · refine .inr ⟨u, .later (fun h => h.not_isAttribute hpair) hfirst, ?_⟩
        rw [splitAttributes, hsplit, hrefused]
        rfl
    · refine .inr ⟨t, .here hmalformed, ?_⟩
      rw [splitAttributes, splitAttribute_of_isMalformed hmalformed]
      rfl

theorem forall₂_attributeText (named : ∀ pair ∈ pairs, IsNamed pair) :
    List.Forall₂ IsAttribute (pairs.map attributeText) pairs := by
  rw [List.forall₂_map_left_iff, List.forall₂_same]
  exact fun pair hpair => isAttribute_iff.2 ⟨named pair hpair, rfl⟩

theorem eq_of_forall₂ (named : ∀ pair ∈ pairs, IsNamed pair) {others : List (Text × Text)}
    (h : List.Forall₂ IsAttribute (pairs.map attributeText) others) : others = pairs := by
  have hunique : Relator.RightUnique IsAttribute := fun _ _ _ h h' => h.unique h'
  exact hunique.forall₂ h (forall₂_attributeText named)

end

/-! ## Settings of pairs -/

def pairsSetting (pairs : List (Text × Text)) : Setting := .json (.arr (pairs.map attributeSetting))

section

variable {g : Given} {s : Sources} {url : Text} {pairs : List (Text × Text)}

theorem attributesSetting_eq_map (given : g.all .attributes ≠ []) :
    attributesSetting g = (splitAttributes (g.all .attributes)).map fun pairs =>
      [(("schema.attributes" : Text), pairsSetting pairs)] := by
  unfold attributesSetting
  split
  · rename_i hnil
    exact absurd hnil given
  · cases splitAttributes (g.all .attributes) <;> rfl

theorem lookup_attributes (g : Given) (pairs : List (Text × Text)) :
    (Group.schema.flags.flatMap (flagValues g [("schema.attributes", pairsSetting pairs)])).lookup
      ("schema.attributes" : Text) = some (pairsSetting pairs) := by
  have named : ∀ v ∈ [(("schema.attributes" : Text), pairsSetting pairs)],
      v.1 = ("schema.attributes" : Text) := fun v hv => by rw [List.mem_singleton.1 hv]
  have hname : Flag.attributes.settingName? = some ("schema.attributes" : Text) := rfl
  rw [lookup_flatMap (settingName?_of_mem_flagValues named) hname (by decide) (by decide)]
  rfl

theorem settings_cases (hurl : g.last? .schemaUrl = some url) (located : url ≠ [])
    (given : g.all .attributes ≠ []) :
    (∃ settings pairs, Group.schema.settings g = .ok settings ∧
      List.Forall₂ IsAttribute (g.all .attributes) pairs ∧
      settings.lookup ("schema.attributes" : Text) = some (pairsSetting pairs)) ∨
    ∃ t, FirstMalformed (g.all .attributes) t ∧
      Group.schema.settings g = .error (.malformed t) := by
  have hsetting : settingOf? (g.last? .schemaUrl) ≠ none := by
    obtain ⟨d, rest, rfl⟩ := List.exists_cons_of_ne_nil located
    rw [hurl]
    intro hnone
    cases hnone
  rw [settings_schema, if_neg hsetting, attributesSetting_eq_map given]
  obtain ⟨pairs, hpairs, hgiven⟩ | ⟨t, hfirst, hrefused⟩ :=
    splitAttributes_cases (g.all .attributes)
  · rw [hpairs]
    exact .inl ⟨_, pairs, rfl, hgiven, lookup_attributes g pairs⟩
  · rw [hrefused]
    exact .inr ⟨t, hfirst, rfl⟩

theorem settings_of_pairs (hurl : g.last? .schemaUrl = some url) (located : url ≠ [])
    (named : ∀ pair ∈ pairs, IsNamed pair) (some : pairs ≠ [])
    (given : g.all .attributes = pairs.map attributeText) :
    ∃ settings, Group.schema.settings g = .ok settings ∧
      settings.lookup ("schema.attributes" : Text) = .some (pairsSetting pairs) := by
  have hsome : g.all .attributes ≠ [] := by
    rw [given]
    exact fun hnil => some (List.map_eq_nil_iff.1 hnil)
  obtain ⟨settings, others, hsettings, hothers, hlookup⟩ | ⟨t, hfirst, -⟩ :=
    settings_cases hurl located hsome
  · rw [given] at hothers
    rw [eq_of_forall₂ named hothers] at hlookup
    exact ⟨settings, hsettings, hlookup⟩
  · obtain ⟨hmem, hmalformed⟩ := hfirst.mem
    rw [given] at hmem
    obtain ⟨pair, -, hpair⟩ := exists_of_forall₂ (forall₂_attributeText named) hmem
    exact absurd hpair hmalformed.not_isAttribute

/-! ## Command lines -/

theorem settingsOf_of_pairs (plain : s.AreOf .schema) (hurl : s.chosen? .schemaUrl = some url)
    (located : url ≠ []) (named : ∀ pair ∈ pairs, IsNamed pair) (some : pairs ≠ [])
    (given : valuesOf s.items .attributes = pairs.map attributeText)
    (parsed : parseAll Category.schema.flags s.env (readEntries s.disk) (wordsOf s.items) = .ok g) :
    ∃ settings, settingsOf (Group.ofCategory .schema) g = .ok settings ∧
      settings.get? "schema.attributes" = .some (pairsSetting pairs) := by
  have hall : ∀ f ∈ Category.schema.flags, f ≠ .help → g.all f = s.values f := fun f hf help =>
    all_of_parse plain (parse_of_parseAll parsed) hf help
  have hlast : g.last? .schemaUrl = s.chosen? .schemaUrl := by
    rw [Given.last?_eq, hall .schemaUrl (by decide) (by decide), values_getLast? rfl]
  have hsources : g.all .attributes = s.attributes := by
    rw [hall .attributes (by decide) (by decide), values_attributes]
  have hpairs : s.attributes = pairs.map attributeText := by
    rw [Sources.attributes, given]
    exact if_neg fun hnil => some (List.map_eq_nil_iff.1 hnil)
  have hsetting : settingOf? (s.chosen? .schemaUrl) ≠ none := by
    obtain ⟨d, rest, rfl⟩ := List.exists_cons_of_ne_nil located
    rw [hurl]
    intro hnone
    cases hnone
  have hparts : ∀ t ∈ s.attributes, ∃ pair, IsAttribute t pair := by
    intro t ht
    rw [hpairs] at ht
    obtain ⟨pair, -, hpair⟩ := exists_of_forall₂ (forall₂_attributeText named) ht
    exact ⟨pair, hpair⟩
  obtain ⟨settings, hsettings⟩ := (settles_iff plain hlast fun _ => hsources).2 ⟨hsetting, hparts⟩
  obtain ⟨others, hothers, hget⟩ := attributes_of_settingsOf (by decide) hsettings
  rw [hsources, hpairs] at hothers
  rw [eq_of_forall₂ named hothers, if_neg some] at hget
  exact ⟨settings, hsettings, hget⟩

end

/-- **Attributes are pairs of a name and a value, told by the first equals sign.**  Where there is a
URL, the settings of the schema hold one pair for each text, in order, or there are none and the
first text that is malformed is quoted.  Pairs come back from their texts, and from a command line
that gives them, whatever else it gives. -/
theorem pairs_of_attributes (url : Text) (located : url ≠ []) :
    (∀ g : Given, g.last? .schemaUrl = some url → g.all .attributes ≠ [] →
      (∃ settings pairs, Group.schema.settings g = .ok settings ∧
        List.Forall₂ IsAttribute (g.all .attributes) pairs ∧
        settings.lookup ("schema.attributes" : Text) = some (pairsSetting pairs)) ∨
      ∃ t problem, FirstMalformed (g.all .attributes) t ∧
        Group.schema.settings g = .error problem ∧ problem.failure = .of (.ofMessage .arguments
          ("Invalid --attribute '" ++ t ++ "', expected <name=value>"))) ∧
    ∀ pairs : List (Text × Text), pairs ≠ [] → (∀ pair ∈ pairs, IsNamed pair) →
      (∀ g : Given, g.last? .schemaUrl = some url →
        g.all .attributes = pairs.map attributeText →
        ∃ settings, Group.schema.settings g = .ok settings ∧
          settings.lookup ("schema.attributes" : Text) = some (pairsSetting pairs)) ∧
      ∀ s : Sources, s.AreOf .schema → s.chosen? .schemaUrl = some url →
        valuesOf s.items .attributes = pairs.map attributeText →
        (s.Stand .schema → ∃ g, parseAll Category.schema.flags s.env (readEntries s.disk)
          (wordsOf s.items) = .ok g) ∧
        ∀ g, parseAll Category.schema.flags s.env (readEntries s.disk) (wordsOf s.items) = .ok g →
          ∃ settings, settingsOf (Group.ofCategory .schema) g = .ok settings ∧
            settings.get? "schema.attributes" = some (pairsSetting pairs) := by
  refine ⟨fun g hurl given => ?_, fun pairs hsome named => ⟨fun g hurl given => ?_,
    fun s plain hurl given => ⟨exists_parseAll, fun g parsed => ?_⟩⟩⟩
  · obtain hsettings | ⟨t, hfirst, hrefused⟩ := settings_cases hurl located given
    · exact .inl hsettings
    · exact .inr ⟨t, _, hfirst, hrefused, rfl⟩
  · exact settings_of_pairs hurl located named hsome given
  · exact settingsOf_of_pairs plain hurl located named hsome given parsed

/-- Pairs whose names look like flags and whose values hold equals signs or nothing. -/
def dashedPairs : List (Text × Text) := [("--schema-url", "x=y="), ("-1", "="), ("age", "")]

def dashedSources : Sources where
  items := .joined .schemaUrl "a" ::
    dashedPairs.map fun pair => .joined .attributes (attributeText pair)
  env := { assigned := [("ISSUER_LOG_JSON", "No")] }
  disk := .ofFiles []

/-- Names that look like flags come back from a command line, and of texts without a name the first
is quoted. -/
theorem pairs_of_attributes_dashed :
    (∃ g settings, parseAll Category.schema.flags dashedSources.env
        (readEntries dashedSources.disk) ["--schema-url=a", "--attribute=--schema-url=x=y=",
          "--attribute=-1==", "--attribute=age="] = .ok g ∧
      settingsOf (Group.ofCategory .schema) g = .ok settings ∧
      settings.get? "schema.attributes" = some (pairsSetting dashedPairs)) ∧
    ∃ problem, Group.schema.settings ⟨[(.attributes, "age=7"), (.schemaUrl, "a"),
        (.attributes, "=7"), (.attributes, "age")], []⟩ = .error problem ∧ problem.failure =
      .of (.ofMessage .arguments "Invalid --attribute '=7', expected <name=value>") := by
  obtain ⟨-, hpairs⟩ := pairs_of_attributes "a" (by decide)
  constructor
  · have stand : dashedSources.Stand .schema := by
      refine ⟨by decide, fun i hi => ?_, by decide, by decide⟩
      obtain rfl | hi := List.mem_cons.1 hi
      · trivial
      · obtain ⟨pair, -, rfl⟩ := List.mem_map.1 hi
        trivial
    have named : ∀ pair ∈ dashedPairs, IsNamed pair := by decide
    have hurl : dashedSources.chosen? .schemaUrl = some "a" := by decide
    obtain ⟨hparse, hsettings⟩ := (hpairs dashedPairs (by decide) named).2 dashedSources
      stand.areOf hurl (by decide)
    obtain ⟨g, parsed⟩ := hparse stand
    obtain ⟨settings, hsettings, hget⟩ := hsettings g parsed
    exact ⟨g, settings, parsed, hsettings, hget⟩
  · exact ⟨.malformed "=7", rfl, rfl⟩

end Issuer.CommandLine
