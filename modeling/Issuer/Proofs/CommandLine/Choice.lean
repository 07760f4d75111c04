import Issuer.Proofs.CommandLine.Precedence
import Issuer.Proofs.CommandLine.Setting
/-!
# What a command line chooses

Of a flag with one value the last of the command line counts, else that of its variable, else the
last of the argument file; the attributes are those of the command line, else those of the file.
The settings hold a value exactly if it is not empty, and there are none without the URL that the
command needs (`chooses_of_parseAll`).
-/
namespace Issuer.CommandLine

namespace Sources

variable (s : Sources)

def chosen? (f : Flag) : Option Text :=
  (valuesOf s.items f).getLast?.or
    ((environmentValue? s.env f).or (entryValues s.entries f).getLast?)

/-- The attributes: never some of the command line and some of the file. -/
def attributes : List Text :=
  if valuesOf s.items .attributes = [] then entryValues s.entries .attributes
  else valuesOf s.items .attributes

/-- Whether records of the log are JSON: the command line or, without that, a variable says so. -/
def json : Bool :=
  !(valuesOf s.items .logJson).isEmpty ||
    (environmentValue? s.env .logJson).any fun value =>
      switchWords.lookup (value.map CodePoint.asciiLower) = some true

end Sources

section

variable {c : Category} {s : Sources} {g : Given} {f : Flag}

/-! ## The values that count -/

theorem values_getLast? (one : f.arity = .one) : (s.values f).getLast? = s.chosen? f := by
  have hvariable : ∀ value, valuesOf (Item.ofVariable f value) f = [value] := by
    intro value
    rw [Item.ofVariable, if_neg (by rw [one]; decide)]
    simp [valuesOf, Item.flag, Item.value]
  rw [Sources.values, Sources.chosen?]
  cases hline : valuesOf s.items f with
  | nil =>
    cases environmentValue? s.env f with
    | none => rfl
    | some value =>
      dsimp only
      rw [hvariable]
      rfl
  | cons value values =>
    dsimp only
    rw [List.getLast?_cons]
    rfl

theorem values_attributes : s.values .attributes = s.attributes := by
  have hnone : environmentValue? s.env .attributes = none := rfl
  rw [Sources.values, Sources.attributes, hnone]
  cases valuesOf s.items .attributes <;> rfl

theorem values_logJson (plain : s.AreOf c) : s.values .logJson ≠ [] ↔ s.json = true := by
  have hentries : entryValues s.entries .logJson = [] := by
    refine entryValues_eq_nil plain.entries fun _ e hgives => ?_
    obtain ⟨harity, -⟩ | ⟨harity, -⟩ := exists_of_isGivable hgives.valued <;> cases harity
  rw [Sources.values, Sources.json, hentries]
  cases valuesOf s.items .logJson with
  | cons value values => simp
  | nil =>
    cases environmentValue? s.env .logJson with
    | none => simp
    | some value =>
      have hswitch : Flag.logJson.arity = .switch := rfl
      dsimp only
      rw [Item.ofVariable, if_pos hswitch]
      split
      · rename_i hword
        simp [valuesOf, Item.flag, hword]
      · rename_i hword
        simp [valuesOf, hword]

theorem attributes_eq_nil (plain : s.AreOf c) (unknown : Flag.attributes ∉ c.flags) :
    s.attributes = [] := by
  have hline : valuesOf s.items .attributes = [] :=
    valuesOf_eq_nil_iff.2 fun i hi heq => unknown (heq ▸ (plain.items i hi).known)
  rw [Sources.attributes, if_pos hline]
  exact entryValues_eq_nil plain.entries fun hf => absurd hf unknown

/-! ## The choice -/

/-- **Settings hold what sources choose**: under the name of a flag its value, and nothing where
that is missing or empty; and nothing else. -/
structure Settled (c : Category) (s : Sources) (settings : Settings) : Prop where
  texts : ∀ f ∈ c.flags, f.arity = .one → ∀ name, f.settingName? = some name →
    settings.get? name = settingOf? (s.chosen? f)
  attributes : ∃ pairs, List.Forall₂ IsAttribute s.attributes pairs ∧
    settings.get? "schema.attributes" =
      if pairs = [] then none else some (.json (.arr (pairs.map attributeSetting)))
  json : settings.get? "log.json" = if s.json then some (.json (.bool true)) else none
  only : ∀ name ∈ settings.names, ∃ f ∈ c.flags, f.settingName? = some name

structure Chooses (c : Category) (s : Sources) (g : Given) : Prop where
  single : ∀ f ∈ c.flags, f.arity = .one → g.last? f = s.chosen? f
  attributes : Flag.attributes ∈ c.flags → g.all .attributes = s.attributes
  required : settingOf? (s.chosen? c.urlFlag) = none →
    (settingsOf (Group.ofCategory c) g).mapError Problem.failure =
      .error (.of (.ofMessage .arguments (c.urlFlag.long ++ " is required")))
  settles : (∃ settings, settingsOf (Group.ofCategory c) g = .ok settings) ↔
    settingOf? (s.chosen? c.urlFlag) ≠ none ∧ ∀ t ∈ s.attributes, ∃ pair, IsAttribute t pair
  settled : ∀ settings, settingsOf (Group.ofCategory c) g = .ok settings → Settled c s settings

theorem parse_of_parseAll {flags : List Flag} {env : Environment}
    {entriesOf : Text → Except Stop Entries} {words : List Text}
    (h : parseAll flags env entriesOf words = .ok g) : parse flags env entriesOf words = .ok g := by
  obtain ⟨given, hgiven, h⟩ := bind_eq_ok_iff.1 h
  split at h
  · cases h
  · cases h
    exact hgiven

theorem settled_of_settingsOf {settings : Settings} (plain : s.AreOf c)
    (single : ∀ f ∈ c.flags, f.arity = .one → g.last? f = s.chosen? f)
    (attributes : Flag.attributes ∈ c.flags → g.all .attributes = s.attributes)
    (json : g.has .logJson = s.json)
    (h : settingsOf (Group.ofCategory c) g = .ok settings) : Settled c s settings where
  texts f hf one name hname := by
    rw [get?_of_settingsOf h hf one hname, single f hf one]
  attributes := by
    by_cases hf : Flag.attributes ∈ c.flags
    · rw [← attributes hf]
      exact attributes_of_settingsOf hf h
    · refine ⟨[], by rw [attributes_eq_nil plain hf]; exact .nil, ?_⟩
      rw [if_pos rfl, Settings.get?, List.lookup_eq_none_iff]
      intro v hv
      obtain ⟨f, hknown, hname⟩ := names_of_settingsOf h v.1 (List.mem_map_of_mem hv)
      rw [bne_iff_ne]
      intro heq
      have hsame : f = .attributes := settingName?_injective hname (congrArg some heq)
      exact hf (hsame ▸ hknown)
  json := by rw [json_of_settingsOf h, json]
  only := names_of_settingsOf h

theorem settles_iff (plain : s.AreOf c) (url : g.last? c.urlFlag = s.chosen? c.urlFlag)
    (attributes : Flag.attributes ∈ c.flags → g.all .attributes = s.attributes) :
    (∃ settings, settingsOf (Group.ofCategory c) g = .ok settings) ↔
      settingOf? (s.chosen? c.urlFlag) ≠ none ∧ ∀ t ∈ s.attributes, ∃ pair, IsAttribute t pair := by
  have hattributes : (∃ values, attributeValues g c = .ok values) ↔
      ∀ t ∈ s.attributes, ∃ pair, IsAttribute t pair := by
    cases c with
    | migrate =>
      rw [attributes_eq_nil plain (by decide)]
      exact ⟨fun _ => nofun, fun _ => ⟨[], rfl⟩⟩
    | schema =>
      rw [← attributes (by decide)]
      exact exists_attributesSetting_iff
  rw [← hattributes, ← url]
  constructor
  · rintro ⟨settings, h⟩
    obtain ⟨hurl, values, hvalues, -⟩ := settingsOf_eq_ok_iff.1 h
    exact ⟨hurl, values, hvalues⟩
  · rintro ⟨hurl, values, hvalues⟩
    exact ⟨_, settingsOf_eq_ok_iff.2 ⟨hurl, values, hvalues, rfl⟩⟩

/-- **What a command line chooses**: of each flag the last value of the command line, else that of
its variable, else that of the argument file. -/
theorem chooses_of_parseAll (plain : s.AreOf c)
    (parsed : parseAll c.flags s.env (readEntries s.disk) (wordsOf s.items) = .ok g) :
    Chooses c s g := by
  have hall : ∀ f ∈ c.flags, f ≠ .help → g.all f = s.values f := fun f hf help =>
    all_of_parse plain (parse_of_parseAll parsed) hf help
  have hsingle : ∀ f ∈ c.flags, f.arity = .one → g.last? f = s.chosen? f := by
    intro f hf one
    rw [Given.last?_eq, hall f hf (by rintro rfl; cases one), values_getLast? one]
  have hattributes : Flag.attributes ∈ c.flags → g.all .attributes = s.attributes := fun hf => by
    rw [hall .attributes hf (by decide), values_attributes]
  have hurl : g.last? c.urlFlag = s.chosen? c.urlFlag := by
    cases c with
    | migrate => exact hsingle .databaseUrl (by decide) rfl
    | schema => exact hsingle .schemaUrl (by decide) rfl
  have hjson : g.has .logJson = s.json := by
    have hf : Flag.logJson ∈ c.flags := by cases c <;> decide
    rw [Bool.eq_iff_iff, Given.has_iff, hall .logJson hf (by decide), values_logJson plain]
  exact {
    single := hsingle
    attributes := hattributes
    required := fun hnone => by
      rw [settingsOf_eq, hurl, if_pos hnone]
      rfl
    settles := settles_iff plain hurl hattributes
    settled := fun _ h => settled_of_settingsOf plain hsingle hattributes hjson h }

end

/-- A command line that repeats a flag and gives it a value with a dash; a variable that is set but
empty; an argument file with values for both and for others. -/
def layeredSources : Sources where
  items := [.apart .argumentFile "issuer.yaml", .joined .schemaUrl "a", .apart .schemaUrl "-1"]
  env := { assigned := [("ISSUER_SCHEMA_TYPE", "")] }
  disk := .ofFiles [("issuer.yaml", Utf8.encodeAll
    "log-level: -1 x\nattribute:\n- age=7\nschema-type: Kyc\nschema-url: b\n")]

/-- The command line wins over the file, and so does an empty variable. -/
theorem chooses_of_parseAll_layered :
    (∃ g, parseAll Category.schema.flags layeredSources.env (readEntries layeredSources.disk)
      (wordsOf layeredSources.items) = .ok g ∧ Chooses .schema layeredSources g) ∧
    layeredSources.chosen? .schemaUrl = some "-1" ∧
    layeredSources.chosen? .schemaType = some [] ∧
    layeredSources.chosen? .logLevel = some "-1 x" ∧
    layeredSources.attributes = ["age=7"] := by
  have plain : layeredSources.AreOf .schema := ⟨by decide, by decide +kernel⟩
  have read : (parseAll Category.schema.flags layeredSources.env
      (readEntries layeredSources.disk) (wordsOf layeredSources.items)).toOption.isSome = true := by
    decide +kernel
  refine ⟨?_, by decide +kernel⟩
  cases parsed : parseAll Category.schema.flags layeredSources.env
      (readEntries layeredSources.disk) (wordsOf layeredSources.items) with
  | error stop =>
    rw [parsed] at read
    cases read
  | ok g => exact ⟨g, rfl, chooses_of_parseAll plain parsed⟩

end Issuer.CommandLine
