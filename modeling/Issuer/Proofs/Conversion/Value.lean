import Issuer.Conversion
import Issuer.Proofs.Literal
/-!
# Values — what one value is converted to

Only texts are converted, and only to three types: to a text they stay as they are, to an integer or
a boolean they are read (`Converts`).  Any other value or type is refused, an unknown type before
all else (`Refuses`).  Every value is either converted or refused, and what comes out is of the kind
that the type declares (`convertValue_converts`).
-/
namespace Issuer.Conversion

/-! ## Values that are converted -/

/-- **What a text is converted to**, by the type that is declared. -/
inductive Converts : Text → Text → Json → Prop where
  | string (t : Text) : Converts "string" t (.str t)
  | integer {t : Text} {n : Int} (read : Literal.readInteger t = .ok n) :
    Converts "integer" t (.int n)
  | boolean {t : Text} {b : Bool} (read : Literal.readBoolean t = .ok b) :
    Converts "boolean" t (.bool b)

/-- **A value is converted exactly if it is a text that can be read as the declared type.** -/
theorem convertValue_eq_ok_iff {d : Attribute} {name : Option Text} {value v : Json} :
    convertValue d name value = .ok v ↔
      ∃ type t, d.type = some type ∧ value = .str t ∧ Converts type t v := by
  constructor
  · fun_cases convertValue d name value
    all_goals rintro ⟨⟩
    · rename_i declared
      exact ⟨_, _, declared, rfl, .string _⟩
    · rename_i read declared _
      exact ⟨_, _, declared, rfl, .integer read⟩
    · rename_i read declared _ _
      exact ⟨_, _, declared, rfl, .boolean read⟩
  · rintro ⟨type, t, declared, rfl, converts⟩
    cases converts with
    | string => simp only [convertValue, declared, if_pos]
    | integer read =>
      have other : ("integer" : Text) ≠ "string" := by decide
      simp only [convertValue, declared, if_neg other, if_pos, read]
    | boolean read =>
      have other : ("boolean" : Text) ≠ "string" := by decide
      have other' : ("boolean" : Text) ≠ "integer" := by decide
      simp only [convertValue, declared, if_neg other, if_neg other', if_pos, read]

/-- A value is of the kind that a type declares; integers have 64 bits. -/
inductive IsOfType : Text → Json → Prop where
  | string (t : Text) : IsOfType "string" (.str t)
  | integer {n : Int} (h : Literal.Fits n) : IsOfType "integer" (.int n)
  | boolean (b : Bool) : IsOfType "boolean" (.bool b)

theorem Converts.isOfType {type t : Text} {result : Json} (h : Converts type t result) :
    IsOfType type result := by
  cases h with
  | string => exact .string t
  | integer read => exact .integer (Literal.readInteger_eq_ok_iff.1 read).2
  | boolean => exact .boolean _

/-! ## Values that are refused -/

def convertibleTypes : List Text := ["string", "integer", "boolean"]

/-- **How a value is refused**, by the type that is declared: the kind of the fault, and its causes.
A text that cannot be read is refused because of what the reader says. -/
inductive Refuses : Option Text → Json → FaultKind → List Fault → Prop where
  | unsupported {type : Option Text} (h : ∀ t ∈ convertibleTypes, type ≠ some t) (value : Json) :
      Refuses type value .unsupportedType []
  | mismatch {type : Text} (h : type ∈ convertibleTypes) {value : Json} (hv : ∀ t, value ≠ .str t) :
      Refuses (some type) value .typeMismatch []
  | integer {t : Text} {p : Literal.Problem} (h : Literal.readInteger t = .error p) :
      Refuses (some "integer") (.str t) .valueParse [.outside .invalidValue p.message]
  | boolean {t : Text} {p : Literal.Problem} (h : Literal.readBoolean t = .error p) :
      Refuses (some "boolean") (.str t) .valueParse [.outside .invalidValue p.message]

variable {declared : Attribute} {type : Text} {value : Json} {kind : FaultKind}
  {causes : List Fault}

theorem convertValue_of_unsupported (name : Option Text)
    (h : ∀ t ∈ convertibleTypes, declared.type ≠ some t) :
    convertValue declared name value = .error (.unsupported name) := by
  simp only [convertibleTypes, List.forall_mem_cons] at h
  obtain ⟨string, integer, boolean, -⟩ := h
  unfold convertValue
  split
  · rfl
  · rename_i type declares
    rw [declares] at string integer boolean
    rw [if_neg fun h => string (congrArg some h), if_neg fun h => integer (congrArg some h),
      if_neg fun h => boolean (congrArg some h)]

theorem convertValue_of_mismatch (name : Option Text) (declares : declared.type = some type)
    (h : type ∈ convertibleTypes) (hv : ∀ t, value ≠ .str t) :
    convertValue declared name value = .error (.typeMismatch name) := by
  simp only [convertibleTypes, List.mem_cons, List.not_mem_nil, or_false] at h
  unfold convertValue
  rw [declares]
  cases value with
  | str t => exact absurd rfl (hv t)
  | null | bool | int | float | arr | obj => obtain rfl | rfl | rfl := h <;> rfl

theorem exists_problem_of_refuses (name : Option Text)
    (h : Refuses declared.type value kind causes) :
    ∃ p, convertValue declared name value = .error p ∧
      p.failure.Reports kind { name := .ofText? name } causes := by
  generalize declares : declared.type = type at h
  cases h with
  | unsupported h =>
    exact ⟨_, convertValue_of_unsupported name (declares ▸ h), _, rfl⟩
  | mismatch h hv => exact ⟨_, convertValue_of_mismatch name declares h hv, _, rfl⟩
  | @integer t p read =>
    refine ⟨.integer name p, ?_, _, rfl⟩
    unfold convertValue
    rw [declares]
    simp only [read]
    rfl
  | @boolean t p read =>
    refine ⟨.boolean name p, ?_, _, rfl⟩
    unfold convertValue
    rw [declares]
    simp only [read]
    rfl

/-! ## One or the other -/

theorem converts_or_refuses_text (h : type ∈ convertibleTypes) (t : Text) :
    (∃ result, Converts type t result) ∨
      ∃ kind causes, Refuses (some type) (.str t) kind causes := by
  simp only [convertibleTypes, List.mem_cons, List.not_mem_nil, or_false] at h
  obtain rfl | rfl | rfl := h
  · exact .inl ⟨_, .string t⟩
  · cases read : Literal.readInteger t with
    | ok n => exact .inl ⟨_, .integer read⟩
    | error p => exact .inr ⟨_, _, .integer read⟩
  · cases read : Literal.readBoolean t with
    | ok b => exact .inl ⟨_, .boolean read⟩
    | error p => exact .inr ⟨_, _, .boolean read⟩

theorem converts_or_refuses (declared : Option Text) (value : Json) :
    (∃ type t result, declared = some type ∧ value = .str t ∧ Converts type t result) ∨
      ∃ kind causes, Refuses declared value kind causes := by
  by_cases known : ∃ type ∈ convertibleTypes, declared = some type
  · obtain ⟨type, known, rfl⟩ := known
    by_cases written : ∃ t, value = .str t
    · obtain ⟨t, rfl⟩ := written
      obtain ⟨result, h⟩ | refused := converts_or_refuses_text known t
      · exact .inl ⟨type, t, result, rfl, rfl, h⟩
      · exact .inr refused
    · exact .inr ⟨_, _, .mismatch known fun t ht => written ⟨t, ht⟩⟩
  · exact .inr ⟨_, _, .unsupported (fun t ht h => known ⟨t, ht, h⟩) value⟩

theorem exists_problem_iff {name : Option Text} :
    (∃ p, convertValue declared name value = .error p ∧
      p.failure.Reports kind { name := .ofText? name } causes) ↔
        Refuses declared.type value kind causes := by
  refine ⟨?_, exists_problem_of_refuses name⟩
  rintro ⟨p, failed, _, told⟩
  -- It is not converted, so it is refused, and in no other way than it is reported.
  obtain ⟨type, t, result, converted⟩ | ⟨kind', causes', refused⟩ :=
    converts_or_refuses declared.type value
  · rw [convertValue_eq_ok_iff.2 ⟨type, t, converted⟩] at failed
    cases failed
  · obtain ⟨p', failed', _, told'⟩ := exists_problem_of_refuses name refused
    obtain rfl := Except.error.inj (failed.symm.trans failed')
    obtain ⟨fault, rfl⟩ := Failure.mk.inj (told.symm.trans told')
    obtain ⟨rfl, -⟩ := Fault.own.inj fault
    exact refused

/-- **A value is converted exactly if** it is a text, its type is one that texts are converted to,
and the text can be read as one of the type, as a boolean if it is one of six spellings of it; what
comes out is of the kind that the type declares.  Else the fault has the name that is given: the
type is refused before the value, the value before what it spells. -/
theorem convertValue_converts (declared : Attribute) (name : Option Text) (value : Json) :
    (∀ result, convertValue declared name value = .ok result ↔
      ∃ type t, declared.type = some type ∧ value = .str t ∧ Converts type t result) ∧
    (∀ t b, Literal.readBoolean t = .ok b ↔
      t ∈ if b then (["1", "t", "T", "TRUE", "true", "True"] : List Text)
        else ["0", "f", "F", "FALSE", "false", "False"]) ∧
    (∀ result, convertValue declared name value = .ok result →
      ∃ type, declared.type = some type ∧ IsOfType type result) ∧
    ((∀ result, convertValue declared name value ≠ .ok result) →
      ∃ kind causes, Refuses declared.type value kind causes) ∧
    ∀ kind causes, (∃ p, convertValue declared name value = .error p ∧
      p.failure.Reports kind { name := .ofText? name } causes) ↔
        Refuses declared.type value kind causes := by
  refine ⟨fun _ => convertValue_eq_ok_iff, fun _ _ => Literal.readBoolean_eq_ok_iff,
    fun result h => ?_, fun failed => ?_, fun _ _ => exists_problem_iff⟩
  · obtain ⟨type, t, declares, -, converts⟩ := convertValue_eq_ok_iff.1 h
    exact ⟨type, declares, converts.isOfType⟩
  · obtain ⟨type, t, result, converted⟩ | refused := converts_or_refuses declared.type value
    · exact absurd (convertValue_eq_ok_iff.2 ⟨type, t, converted⟩) (failed result)
    · exact refused

/-- An age is read behind a plus sign; an integer in its place is refused as no text, and a number
that is too large because of what the reader says.  A date is refused whatever the value. -/
theorem convertValue_converts_age :
    let age : Attribute := { id := some "age", type := some "integer" }
    let tooLarge : Text := "9223372036854775808"
    (∃ type t, age.type = some type ∧ Json.str "+007" = .str t ∧ Converts type t (.int 7)) ∧
    (∃ type, age.type = some type ∧ IsOfType type (.int 7)) ∧
    (∃ kind causes, Refuses age.type (.int 42) kind causes) ∧
    (∃ p, convertValue age (some "age") (.int 42) = .error p ∧
      p.failure.Reports .typeMismatch { name := .str "age" } []) ∧
    (∃ p, convertValue age (some "age") (.str tooLarge) = .error p ∧
      p.failure.Reports .valueParse { name := .str "age" }
        [.outside .invalidValue ("integer out of range: '9223372036854775808'" : Text)]) ∧
    ∃ p, convertValue { type := some "date" } none (.str "2020-01-01") = .error p ∧
      p.failure.Reports .unsupportedType {} [] := by
  intro age tooLarge
  have read : convertValue age (some "age") (.str "+007") = .ok (.int 7) := by rfl
  have large : Literal.readInteger tooLarge = .error (.outOfRange tooLarge) := by rfl
  have message : (Literal.Problem.outOfRange tooLarge).message =
      "integer out of range: '9223372036854775808'" := by decide +kernel
  obtain ⟨ok, -, kind, -, -⟩ := convertValue_converts age (some "age") (.str "+007")
  obtain ⟨-, -, -, refused, mismatch⟩ := convertValue_converts age (some "age") (.int 42)
  obtain ⟨-, -, -, -, unread⟩ := convertValue_converts age (some "age") (.str tooLarge)
  obtain ⟨-, -, -, -, date⟩ :=
    convertValue_converts { type := some "date" } none (.str "2020-01-01")
  refine ⟨(ok _).1 read, kind _ read, refused nofun,
    (mismatch _ _).2 (.mismatch (by decide) nofun), ?_,
    (date _ _).2 (.unsupported (by decide) _)⟩
  exact (unread _ _).2 (message ▸ .integer large)

end Issuer.Conversion
