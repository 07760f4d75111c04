import Issuer.Proofs.Inspection.Report
import Issuer.Proofs.Json.Ascii
import Issuer.Proofs.Program.Course
/-!
# Output — what the schema command prints

A report holds texts, integers of 64 bits and booleans, so it is exact if its strings hold no
surrogates (`isExact_of_course`).  The schema command prints it as one text in ASCII, and what is
read of that text is the report, with its members in order and its values of their kinds
(`output_tells_report`).
-/
namespace Issuer

/-! ## Strings without surrogates -/

namespace Json

mutual

/-- Whether the strings of a value, its keys included, hold no surrogates. -/
def isScalar : Json → Bool
  | null | bool _ | int _ | float _ => true
  | str t => t.all fun c => !c.isSurrogate
  | arr items => areScalar items
  | obj members => haveScalar members

def areScalar : List Json → Bool
  | [] => true
  | v :: items => isScalar v && areScalar items

def haveScalar : List (Text × Json) → Bool
  | [] => true
  | (key, v) :: members => (key.all fun c => !c.isSurrogate) && isScalar v && haveScalar members

end

theorem all_iff_isScalar {t : Text} : (t.all fun c => !c.isSurrogate) = true ↔ t.IsScalar := by
  simp [Text.IsScalar]

theorem isScalar_str_iff {t : Text} : (str t).isScalar = true ↔ t.IsScalar := by
  rw [isScalar, all_iff_isScalar]

theorem isScalar_arr_iff {items : List Json} :
    (arr items).isScalar = true ↔ ∀ v ∈ items, v.isScalar = true := by
  rw [isScalar]
  induction items with
  | nil => simp [areScalar]
  | cons v items ih => rw [areScalar, Bool.and_eq_true, ih, List.forall_mem_cons]

theorem isScalar_obj_iff {members : Members} : (obj members).isScalar = true ↔
    ∀ m ∈ members, Text.IsScalar m.1 ∧ m.2.isScalar = true := by
  rw [isScalar]
  induction members with
  | nil => simp [haveScalar]
  | cons m members ih =>
    rw [haveScalar, Bool.and_eq_true, Bool.and_eq_true, all_iff_isScalar, ih, List.forall_mem_cons]

theorem isExact_texts {ts : List Text} (h : (arr (ts.map str)).isScalar = true) :
    (arr (ts.map str)).IsExact := by
  rw [isScalar_arr_iff, List.forall_mem_map] at h
  refine .arr fun v hv => ?_
  obtain ⟨t, ht, rfl⟩ := List.mem_map.1 hv
  exact .str (isScalar_str_iff.1 (h t ht))

end Json

/-! ## Reports -/

namespace Inspection

open Conversion (IsOfType)

theorem isExact_of_isOfType {type : Text} {v : Json} (h : IsOfType type v)
    (scalar : v.isScalar = true) : v.IsExact := by
  cases h with
  | string t => exact .str (Json.isScalar_str_iff.1 scalar)
  | @integer n fits =>
    obtain ⟨least, greatest⟩ := fits
    have hbits : n.natAbs < 10 ^ 19 := by omega
    exact .int (Nat.lt_of_lt_of_le hbits (Nat.pow_le_pow_right (by decide) (by decide)))
  | boolean b => exact .bool b

/-- A credential attribute as a report holds it: a name, and a value of a kind that texts are
converted to. -/
def IsTyped (item : Json) : Prop :=
  ∃ name type value, item = .obj [("name", .str name), ("value", value)] ∧ IsOfType type value

theorem isTyped_of_converted {declared : Members} {supplied item : Json}
    (h : Converted declared supplied item) : IsTyped item := by
  cases h with
  | intro named valued known typed converts => exact ⟨_, _, _, rfl, converts.isOfType⟩

theorem isExact_of_isTyped {item : Json} (h : IsTyped item) (scalar : item.isScalar = true) :
    item.IsExact := by
  obtain ⟨name, type, value, rfl, hvalue⟩ := h
  have hscalar := Json.isScalar_obj_iff.1 scalar
  have hparts := hscalar
  simp only [List.forall_mem_cons, List.not_mem_nil, false_implies, implies_true, and_true]
    at hparts
  obtain ⟨⟨-, hname⟩, -, htext⟩ := hparts
  refine .obj ?_ (fun m hm => (hscalar m hm).1) ?_
  · change (["name", "value"] : List Text).Nodup
    decide
  · simp only [List.forall_mem_cons, List.not_mem_nil, false_implies, implies_true, and_true]
    exact ⟨.str (Json.isScalar_str_iff.1 hname), isExact_of_isOfType hvalue htext⟩

inductive IsPart : Json → Prop where
  | text (t : Text) : IsPart (.str t)
  | texts (ts : List Text) : IsPart (.arr (ts.map .str))
  | attributes {items : List Json} (typed : ∀ item ∈ items, IsTyped item) : IsPart (.arr items)

theorem IsPart.isExact {v : Json} (h : IsPart v) (scalar : v.isScalar = true) : v.IsExact := by
  cases h with
  | text t => exact .str (Json.isScalar_str_iff.1 scalar)
  | texts ts => exact Json.isExact_texts scalar
  | attributes typed =>
    have hitems := Json.isScalar_arr_iff.1 scalar
    exact .arr fun item hitem => isExact_of_isTyped (typed item hitem) (hitems item hitem)

variable {network : Network} {disk : Disk} {machine : Machine} {inquiry : Inquiry}
  {report : Report}

/-- **The values of a report's credential attributes are of the kinds that texts are converted
to.** -/
theorem isTyped_of_course (course : Course network disk machine inquiry (.ok report)) :
    ∀ attributes, report.credential = some attributes → ∀ a ∈ attributes, IsTyped a.toJson := by
  cases course with
  | reported loaded labelled written typed converted =>
    rintro attributes rfl a ha
    obtain ⟨declared, declares, -⟩ := labels_of_ok labelled
    obtain ⟨-, hnone⟩ | ⟨found, -, hfound, hconverted⟩ := reportCredential_eq_ok declares converted
    · cases hnone
    · obtain rfl := Option.some.inj hfound
      obtain ⟨v, -, hv⟩ := exists_of_forall₂ hconverted.flip (List.mem_map_of_mem ha)
      exact isTyped_of_converted hv

structure AreParts (names : List Text) (members : Members) : Prop where
  named : (Members.keys members).Sublist names
  parts : ∀ m ∈ members, IsPart m.2

theorem AreParts.nil (names : List Text) : AreParts names [] :=
  ⟨List.nil_sublist names, fun _ hm => absurd hm List.not_mem_nil⟩

theorem AreParts.cons {name : Text} {names : List Text} {v : Json} {members : Members}
    (hv : IsPart v) (h : AreParts names members) :
    AreParts (name :: names) ((name, v) :: members) :=
  ⟨h.named.cons_cons name, List.forall_mem_cons.2 ⟨hv, h.parts⟩⟩

theorem AreParts.append {names names' : List Text} {members members' : Members}
    (h : AreParts names members) (h' : AreParts names' members') :
    AreParts (names ++ names') (members ++ members') := by
  refine ⟨?_, List.forall_mem_append.2 ⟨h.parts, h'.parts⟩⟩
  unfold Members.keys
  rw [List.map_append]
  exact h.named.append h'.named

theorem exists_members (report : Report)
    (typed : ∀ attributes, report.credential = some attributes → ∀ a ∈ attributes,
      IsTyped a.toJson) :
    ∃ members, report.toJson = .obj members ∧ AreParts ((["url", "attributes"] : List Text) ++
      (["type", "jsonLdContext", "schemaHash"] : List Text) ++
      (["credentialAttributes"] : List Text)) members := by
  obtain ⟨url, labels, type, credential⟩ := report
  have always : AreParts ["url", "attributes"]
      [("url", .str url), ("attributes", .arr (labels.map .str))] :=
    .cons (.text url) (.cons (.texts labels) (.nil []))
  refine ⟨_, rfl, (always.append ?_).append ?_⟩
  · cases type with
    | none => exact .nil _
    | some t => exact .cons (.text t.type) (.cons (.text t.context) (.cons (.text _) (.nil [])))
  · cases credential with
    | none => exact .nil _
    | some attributes =>
      refine .cons (.attributes fun item hitem => ?_) (.nil [])
      obtain ⟨a, ha, rfl⟩ := List.mem_map.1 hitem
      exact typed attributes rfl a ha

theorem isExact_of_course (course : Course network disk machine inquiry (.ok report))
    (scalar : report.toJson.isScalar = true) : report.toJson.IsExact := by
  obtain ⟨members, hmembers, hparts⟩ := exists_members report (isTyped_of_course course)
  rw [hmembers] at scalar ⊢
  have hscalar := Json.isScalar_obj_iff.1 scalar
  have distinct : (Members.keys members).Nodup := hparts.named.nodup (by decide)
  exact .obj distinct (fun m hm => (hscalar m hm).1)
    fun m hm => (hparts.parts m hm).isExact (hscalar m hm).2

end Inspection

/-! ## Runs -/

namespace Program

open CommandLine (Given)

variable {s : Surroundings} {settings : Settings} {logging : Log.Logging} {disk : Disk}
  {report : Inspection.Report}

theorem runWith_of_reported
    (configured : Log.configure settings s.env s.disk = (.ok (), logging, disk))
    (reported : (Inspection.ofSettings s.network disk settings s.machine).1 = .ok report) :
    (runWith s .schema settings).ending = .done ∧
      (runWith s .schema settings).output = Json.write (.indented 2) report.toJson ++ "\n" := by
  simp [runWith, configured, act, inspect, Outcome.ofDeed, reported, Except.map]

/-- **What the schema command prints tells the report.**  It is one text in ASCII and a line feed,
and what is read of it is the report, member for member and with values of the same kinds; the
values of its credential attributes are texts, integers of 64 bits or booleans.  So it is for every
command line that gives the settings. -/
theorem output_tells_report (s : Surroundings) (settings : Settings) (logging : Log.Logging)
    (disk : Disk) (report : Inspection.Report)
    (configured : Log.configure settings s.env s.disk = (.ok (), logging, disk))
    (reported : (Inspection.ofSettings s.network disk settings s.machine).1 = .ok report)
    (scalar : report.toJson.isScalar = true) :
    (runWith s .schema settings).ending = .done ∧
    (∃ text, (runWith s .schema settings).output = text ++ "\n" ∧ Json.IsPlain text ∧
      Json.ofText text = .ok report.toJson) ∧
    Json.ofText (runWith s .schema settings).output = .ok report.toJson ∧
    (∀ attributes, report.credential = some attributes →
      ∀ a ∈ attributes, Inspection.IsTyped a.toJson) ∧
    ∀ arguments given, Settles s .schema arguments given settings →
      run s ((Command.ofCategory .schema).name :: arguments) = runWith s .schema settings := by
  have course := Inspection.run_eq_ok_iff.1 reported
  have exact := Inspection.isExact_of_course course scalar
  obtain ⟨hending, houtput⟩ := runWith_of_reported configured reported
  have hblank : Json.IsBlank "\n" := by
    intro c hc
    rw [List.mem_singleton.1 hc]
    rfl
  refine ⟨hending, ⟨_, houtput, Json.isPlain_writeAt _ 0 exact, Json.ofText_write _ exact⟩, ?_,
    Inspection.isTyped_of_course course, fun arguments given settles => ?_⟩
  · rw [houtput]
    exact Json.ofText_write_append _ exact hblank
  · rw [run_of_name, runCategory_of_settles settles]

/-- The bytes of a document that declares an age, under a title of a control character, one beyond
the basic plane and a quotation mark. -/
def titledBytes : Bytes :=
  let title : Text := "\"title\": \"\\u0001\\ud83d\\ude00\\\"\""
  let declared : Text := "\"age\": \x7b" ++ title ++ ", \"type\": \"integer\"\x7d, " ++
    "\"id\": \x7b\x7d, \"member\": \x7b\"type\": \"boolean\"\x7d"
  Utf8.encodeAll ("\x7b\"properties\": \x7b\"credentialSubject\": \x7b\"properties\": " ++
    "\x7b" ++ declared ++ "\x7d\x7d\x7d\x7d")

def titledSurroundings : Surroundings := surroundingsOf (Inspection.answering titledBytes)

/-- A command line that supplies the least integer of 64 bits and a boolean. -/
def leastArguments : List Text :=
  ["--schema-url", Inspection.localUrl, "--attribute=age=-9223372036854775808",
    "--attribute=member=true"]

def leastSettings : Settings :=
  ⟨[("schema.url", .json (.str Inspection.localUrl)),
    ("schema.attributes", .json (.arr [
      .obj [("name", .str "age"), ("value", .str "-9223372036854775808")],
      .obj [("name", .str "member"), ("value", .str "true")]])),
    ("log.config", .json (.str "log.yml"))]⟩

def leastReport : Json :=
  .obj [("url", .str Inspection.localUrl),
    ("attributes", .arr [.str (([0x01, 0x1F600, 0x22] : Text) ++ "(age)"), .str "id",
      .str "member"]),
    ("credentialAttributes", .arr [
      .obj [("name", .str "age"), ("value", .int (-9223372036854775808))],
      .obj [("name", .str "member"), ("value", .bool true)]])]

theorem labels_least {report : Inspection.Report}
    (reported : (Inspection.ofSettings titledSurroundings.network titledSurroundings.disk
      leastSettings).1 = .ok report) :
    report.labels = [([0x01, 0x1F600, 0x22] : Text) ++ "(age)", "id", "member"] := by
  cases Inspection.run_eq_ok_iff.1 reported with
  | reported loaded labelled written typed converted =>
    obtain ⟨bytes, ⟨loader, named, read⟩, valid⟩ := loaded
    obtain ⟨declared, told, rfl⟩ := Inspection.attributes_of_labelsOf labelled
    have fetched : (Inspection.loaderOf (.ofSettings leastSettings {})).toOption.map (fun loader =>
          (loader.load titledSurroundings.network titledSurroundings.disk).1.toOption) =
        some (some titledBytes) := by decide +kernel
    rw [named] at fetched
    replace fetched : (loader.load titledSurroundings.network titledSurroundings.disk).1.toOption =
      some titledBytes := Option.some.inj fetched
    rw [read] at fetched
    obtain rfl : bytes = titledBytes := Option.some.inj fetched
    have labels : (Schema.loadWithin {} titledBytes).toOption.map (fun schema =>
        (Schema.attributes schema.content).toOption.map fun declared =>
          declared.filterMap Attribute.label?) =
        some (some [([0x01, 0x1F600, 0x22] : Text) ++ "(age)", "id", "member"]) := by
      decide +kernel
    simp only [valid, told, Except.toOption, Option.map_some, Option.some.injEq] at labels
    change (declared.filterMap Attribute.label?).mergeSort Text.le = _
    rw [labels]
    exact List.mergeSort_of_pairwise (by decide)

theorem exists_report_least : ∃ report, (Inspection.ofSettings titledSurroundings.network
    titledSurroundings.disk leastSettings).1 = .ok report ∧ report.toJson = leastReport := by
  have parts : (Inspection.ofSettings titledSurroundings.network titledSurroundings.disk
      leastSettings).1.toOption.map (fun report =>
        (report.url, report.typed.isNone, report.credential)) =
      some (Inspection.localUrl, true, some [⟨some "age", .int (-9223372036854775808)⟩,
        ⟨some "member", .bool true⟩]) := by decide +kernel
  cases reported : (Inspection.ofSettings titledSurroundings.network titledSurroundings.disk
      leastSettings).1 with
  | error f =>
    rw [reported] at parts
    cases parts
  | ok report =>
    rw [reported] at parts
    have labels := labels_least reported
    obtain ⟨url, found, typed, credential⟩ := report
    simp only [Except.toOption, Option.map_some, Option.some.injEq, Prod.mk.injEq,
      Option.isNone_iff_eq_none] at parts
    obtain ⟨rfl, rfl, rfl⟩ := parts
    obtain rfl : found = _ := labels
    exact ⟨_, rfl, rfl⟩

/-- All sorts of characters, the least integer and a boolean are read back from what is printed. -/
theorem output_tells_report_least :
    (run titledSurroundings ("schema" :: leastArguments)).ending = .done ∧
    Json.ofText (run titledSurroundings ("schema" :: leastArguments)).output = .ok leastReport := by
  have gives : (commandLine titledSurroundings .schema leastArguments).toOption.map Given.flags =
      some [(.logConfig, ("log.yml" : Text)), (.schemaUrl, Inspection.localUrl),
        (.attributes, ("age=-9223372036854775808" : Text)),
        (.attributes, ("member=true" : Text))] := by decide +kernel
  obtain ⟨⟨flags, extras⟩, parsed, rfl⟩ := exists_given gives
  have settles : Settles titledSurroundings .schema leastArguments _ leastSettings := ⟨parsed, rfl⟩
  obtain ⟨logging, configured⟩ : ∃ logging, Log.configure leastSettings titledSurroundings.env
      titledSurroundings.disk = (.ok (), logging, titledSurroundings.disk) :=
    exists_configured (by decide +kernel) (by decide +kernel)
  obtain ⟨report, reported, hreport⟩ := exists_report_least
  have scalar : report.toJson.isScalar = true := by
    rw [hreport]
    decide +kernel
  obtain ⟨ending, -, tells, -, runs⟩ := output_tells_report _ _ _ _ _ configured reported scalar
  have ran : run titledSurroundings ("schema" :: leastArguments) =
      runWith titledSurroundings .schema leastSettings := runs _ _ settles
  rw [ran, ← hreport]
  exact ⟨ending, tells⟩

end Program

end Issuer
