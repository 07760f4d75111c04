import Issuer.Proofs.CommandLine.Look
import Issuer.Proofs.CommandLine.Selection
/-!
# Settings, flag by flag

The settings of a command are what its flags make one by one, each under a name of its own
(`settingsOf_eq`): a flag with one value makes the setting of that value unless it is empty.  So
what settings hold under a name is what the flag of that name makes (`lookup_flatMap`).
-/
namespace Issuer.CommandLine

section

variable {g : Given} {f : Flag}

/-! ## Flags with one value -/

/-- The setting that a value makes: an empty one makes none. -/
def settingOf? : Option Text → Option Setting
  | none | some [] => none
  | some t => some (.json (.str t))

def Flag.settingName? : Flag → Option Text
  | databaseUrl => some "database.url"
  | schemaUrl => some "schema.url"
  | schemaType => some "schema.type"
  | ipfsGateway => some "schema.ipfs_gateway"
  | attributes => some "schema.attributes"
  | logConfig => some "log.config"
  | logFile => some "log.file"
  | logLevel => some "log.level"
  | logJson => some "log.json"
  | help | version | argumentFile => none

theorem optional_eq (name : Text) (f : Flag) (g : Given) :
    optional name f g = (settingOf? (g.last? f)).toList.map fun v => (name, v) := by
  unfold optional
  match g.last? f with
  | none | some [] => rfl
  | some (d :: t) => rfl

theorem required_eq (name : Text) (f : Flag) (g : Given) : required name f g =
    if settingOf? (g.last? f) = none then .error (.required f) else .ok (optional name f g) := by
  rw [required, optional_eq]
  cases settingOf? (g.last? f) with
  | none => rfl
  | some v => rfl

def flagValues (g : Given) (attributes : List (Text × Setting)) : Flag → List (Text × Setting)
  | .attributes => attributes
  | .logJson => if g.has .logJson then [("log.json", .json (.bool true))] else []
  | f => f.settingName?.toList.flatMap fun name => optional name f g

theorem settings_logging (g : Given) (attributes : List (Text × Setting)) :
    Group.logging.settings g = .ok (Group.logging.flags.flatMap (flagValues g attributes)) := by
  simp [Group.settings, Group.flags, flagValues, Flag.settingName?]

theorem settings_database (g : Given) (attributes : List (Text × Setting)) :
    Group.database.settings g =
      if settingOf? (g.last? .databaseUrl) = none then .error (.required .databaseUrl)
      else .ok (Group.database.flags.flatMap (flagValues g attributes)) := by
  simp [Group.settings, required_eq, Group.flags, flagValues, Flag.settingName?]

theorem settings_schema (g : Given) : Group.schema.settings g =
    if settingOf? (g.last? .schemaUrl) = none then .error (.required .schemaUrl)
    else (attributesSetting g).map fun attributes =>
      Group.schema.flags.flatMap (flagValues g attributes) := by
  simp only [Group.settings, required_eq]
  split
  · rfl
  · cases attributesSetting g with
    | error problem => rfl
    | ok attributes =>
      change Except.ok _ = Except.ok _
      simp [Group.flags, flagValues, Flag.settingName?]

def attributeValues (g : Given) : Category → Except Problem (List (Text × Setting))
  | .migrate => .ok []
  | .schema => attributesSetting g

theorem flatMap_flagValues (attributes : List (Text × Setting)) (flags others : List Flag) :
    ([Flag.help, .argumentFile] ++ (flags ++ others)).flatMap (flagValues g attributes) =
      [] ++ (flags.flatMap (flagValues g attributes) ++
        (others.flatMap (flagValues g attributes) ++ [])) := by
  rw [List.flatMap_append, List.flatMap_append, List.append_nil]
  rfl

/-- **The settings of a command** are those of its flags, unless its URL is missing or an attribute
is malformed. -/
theorem settingsOf_eq (c : Category) (g : Given) : settingsOf (Group.ofCategory c) g =
    if settingOf? (g.last? c.urlFlag) = none then .error (.required c.urlFlag)
    else (attributeValues g c).map fun attributes =>
      ⟨c.flags.flatMap (flagValues g attributes)⟩ := by
  cases c with
  | migrate =>
    change (select g [.general, .database, .logging]).map _ =
      if settingOf? (g.last? .databaseUrl) = none then _ else _
    simp only [select, settings_database g [], settings_logging g []]
    split
    · rfl
    · exact congrArg (fun values => Except.ok (Settings.mk values))
        (flatMap_flagValues [] Group.database.flags Group.logging.flags).symm
  | schema =>
    change (select g [.general, .schema, .logging]).map _ =
      if settingOf? (g.last? .schemaUrl) = none then _ else (attributesSetting g).map _
    simp only [select, settings_schema]
    split
    · rfl
    · cases attributesSetting g with
      | error problem => rfl
      | ok attributes =>
        rw [settings_logging g attributes]
        exact congrArg (fun values => Except.ok (Settings.mk values))
          (flatMap_flagValues attributes Group.schema.flags Group.logging.flags).symm

/-! ## What settings hold -/

theorem settingName?_injective {f g : Flag} {name : Text} (hf : f.settingName? = some name)
    (hg : g.settingName? = some name) : f = g := by
  have hinj : ∀ f g : Flag, f.settingName? ≠ none → f.settingName? = g.settingName? → f = g := by
    intro f g
    cases f <;> cases g <;> decide
  exact hinj f g (by rw [hf]; nofun) (hf.trans hg.symm)

theorem lookup_flatMap {valuesFor : Flag → List (Text × Setting)} {name : Text}
    (own : ∀ f, ∀ v ∈ valuesFor f, f.settingName? = some v.1) (hname : f.settingName? = some name) :
    ∀ {flags : List Flag}, flags.Nodup → f ∈ flags →
      (flags.flatMap valuesFor).lookup name = (valuesFor f).lookup name
  | h :: flags, distinct, hf => by
    have hnone : ∀ {others : List Flag}, f ∉ others →
        (others.flatMap valuesFor).lookup name = none := by
      intro others hothers
      refine List.lookup_eq_none_iff.2 fun v hv => ?_
      obtain ⟨h, hh, hv⟩ := List.mem_flatMap.1 hv
      rw [bne_iff_ne]
      rintro rfl
      exact hothers (settingName?_injective hname (own h v hv) ▸ hh)
    rw [List.nodup_cons] at distinct
    rw [List.flatMap_cons, List.lookup_append]
    by_cases heq : f = h
    · subst heq
      rw [hnone distinct.1, Option.or_none]
    · have hhead : (valuesFor h).lookup name = none := by
        refine List.lookup_eq_none_iff.2 fun v hv => ?_
        rw [bne_iff_ne]
        rintro rfl
        exact heq (settingName?_injective hname (own h v hv))
      rw [hhead, Option.none_or]
      exact lookup_flatMap own hname distinct.2 ((List.mem_cons.1 hf).resolve_left heq)

theorem settingName?_of_mem_flagValues {attributes : List (Text × Setting)}
    (named : ∀ v ∈ attributes, v.1 = ("schema.attributes" : Text)) (f : Flag)
    (v : Text × Setting) (hv : v ∈ flagValues g attributes f) : f.settingName? = some v.1 := by
  unfold flagValues at hv
  split at hv
  · rw [named v hv]
    rfl
  · split at hv
    · rw [List.mem_singleton.1 hv]
      rfl
    · cases hv
  · obtain ⟨name, hname, hv⟩ := List.mem_flatMap.1 hv
    rw [optional_eq] at hv
    obtain ⟨setting, -, rfl⟩ := List.mem_map.1 hv
    exact Option.mem_toList.1 hname

theorem lookup_flagValues {attributes : List (Text × Setting)} {name : Text} (one : f.arity = .one)
    (hname : f.settingName? = some name) :
    (flagValues g attributes f).lookup name = settingOf? (g.last? f) := by
  unfold flagValues
  split
  · cases one
  · cases one
  · rw [hname]
    simp only [Option.toList_some, List.flatMap_cons, List.flatMap_nil, List.append_nil]
    rw [optional_eq]
    cases settingOf? (g.last? f) with
    | none => rfl
    | some v => simp

/-! ## Attributes -/

theorem splitAttribute_of_isAttribute {t : Text} {pair : Text × Text} (h : IsAttribute t pair) :
    splitAttribute t = .ok pair := by
  obtain ⟨name, value⟩ := pair
  obtain ⟨d, name, rfl⟩ := List.exists_cons_of_ne_nil h.named
  rw [h.parts, splitAttribute, Text.partition?_of_not_mem value h.first]

theorem exists_splitAttributes : ∀ {ts : List Text}, (∀ t ∈ ts, ∃ pair, IsAttribute t pair) →
    ∃ pairs, splitAttributes ts = .ok pairs
  | [], _ => ⟨[], rfl⟩
  | t :: ts, h => by
    rw [List.forall_mem_cons] at h
    obtain ⟨⟨pair, hpair⟩, h⟩ := h
    obtain ⟨pairs, hpairs⟩ := exists_splitAttributes h
    refine ⟨pair :: pairs, ?_⟩
    rw [splitAttributes, splitAttribute_of_isAttribute hpair, hpairs]
    rfl

theorem exists_attributesSetting_iff : (∃ values, attributesSetting g = .ok values) ↔
    ∀ t ∈ g.all .attributes, ∃ pair, IsAttribute t pair := by
  constructor
  · rintro ⟨values, h⟩ t ht
    obtain ⟨pairs, given, -⟩ := attributesSetting_eq_ok h
    obtain ⟨pair, -, hpair⟩ := exists_of_forall₂ given ht
    exact ⟨pair, hpair⟩
  · intro h
    obtain ⟨pairs, hpairs⟩ := exists_splitAttributes h
    unfold attributesSetting
    split
    · exact ⟨[], rfl⟩
    · rw [hpairs]
      exact ⟨_, rfl⟩

/-! ## What is found under a name -/

section

variable {c : Category} {settings : Settings}

theorem name_of_attributeValues {values : List (Text × Setting)}
    (h : attributeValues g c = .ok values) : ∀ v ∈ values, v.1 = ("schema.attributes" : Text) := by
  cases c with
  | migrate =>
    obtain rfl := Except.ok.inj h
    nofun
  | schema =>
    change attributesSetting g = .ok values at h
    unfold attributesSetting at h
    split at h
    · obtain rfl := Except.ok.inj h
      nofun
    · obtain ⟨pairs, -, h⟩ := bind_eq_ok_iff.1 h
      obtain rfl := Except.ok.inj h
      intro v hv
      rw [List.mem_singleton.1 hv]

theorem settingsOf_eq_ok_iff : settingsOf (Group.ofCategory c) g = .ok settings ↔
    settingOf? (g.last? c.urlFlag) ≠ none ∧ ∃ attributes, attributeValues g c = .ok attributes ∧
      settings = ⟨c.flags.flatMap (flagValues g attributes)⟩ := by
  rw [settingsOf_eq]
  split
  · rename_i hnone
    exact ⟨nofun, fun h => absurd hnone h.1⟩
  · rename_i hsome
    rw [and_iff_right hsome]
    cases attributeValues g c with
    | error problem => exact ⟨nofun, fun ⟨_, h, _⟩ => nomatch h⟩
    | ok attributes =>
      constructor
      · intro h
        exact ⟨attributes, rfl, (Except.ok.inj h).symm⟩
      · rintro ⟨_, ⟨⟩, rfl⟩
        rfl

theorem get?_flatMap {values : List (Text × Setting)} {name : Text}
    (h : attributeValues g c = .ok values) (hf : f ∈ c.flags) (hname : f.settingName? = some name) :
    Settings.get? ⟨c.flags.flatMap (flagValues g values)⟩ name =
      (flagValues g values f).lookup name := by
  have distinct : c.flags.Nodup := by cases c <;> decide
  have own : ∀ f, ∀ v ∈ flagValues g values f, f.settingName? = some v.1 :=
    settingName?_of_mem_flagValues (name_of_attributeValues h)
  exact lookup_flatMap own hname distinct hf

theorem get?_of_settingsOf {name : Text} (h : settingsOf (Group.ofCategory c) g = .ok settings)
    (hf : f ∈ c.flags) (one : f.arity = .one) (hname : f.settingName? = some name) :
    settings.get? name = settingOf? (g.last? f) := by
  obtain ⟨-, attributes, hattributes, rfl⟩ := settingsOf_eq_ok_iff.1 h
  rw [get?_flatMap hattributes hf hname, lookup_flagValues one hname]

theorem json_of_settingsOf (h : settingsOf (Group.ofCategory c) g = .ok settings) :
    settings.get? "log.json" = if g.has .logJson then some (.json (.bool true)) else none := by
  have hf : Flag.logJson ∈ c.flags := by cases c <;> decide
  obtain ⟨-, attributes, hattributes, rfl⟩ := settingsOf_eq_ok_iff.1 h
  rw [get?_flatMap hattributes hf rfl, flagValues]
  cases g.has .logJson <;> rfl

theorem attributes_of_settingsOf (hf : Flag.attributes ∈ c.flags)
    (h : settingsOf (Group.ofCategory c) g = .ok settings) : ∃ pairs,
      List.Forall₂ IsAttribute (g.all .attributes) pairs ∧
      settings.get? "schema.attributes" =
        if pairs = [] then none else some (.json (.arr (pairs.map attributeSetting))) := by
  cases c with
  | migrate => exact absurd hf (by decide)
  | schema =>
    obtain ⟨-, attributes, hattributes, rfl⟩ := settingsOf_eq_ok_iff.1 h
    rw [get?_flatMap hattributes hf rfl]
    exact attributesSetting_eq_ok hattributes

theorem names_of_settingsOf (h : settingsOf (Group.ofCategory c) g = .ok settings) :
    ∀ name ∈ settings.names, ∃ f ∈ c.flags, f.settingName? = some name := by
  obtain ⟨-, attributes, hattributes, rfl⟩ := settingsOf_eq_ok_iff.1 h
  intro name hname
  obtain ⟨v, hv, rfl⟩ := List.mem_map.1 hname
  obtain ⟨f, hf, hv⟩ := List.mem_flatMap.1 hv
  exact ⟨f, hf, settingName?_of_mem_flagValues (name_of_attributeValues hattributes) f v hv⟩

end

end

end Issuer.CommandLine
