import Issuer.Proofs.Except
import Issuer.Schema.Load
/-!
# What keeps bytes from being a schema

Bytes that are no schema are reported as a document that cannot be loaded, with two exceptions that
are told as they are: a name of a dialect that is no URL, and a pattern whose check cannot end.
-/
namespace Issuer.Schema

variable {m : Machine} {bytes : Bytes} {ms : Members} {p : LoadProblem}

def LoadProblem.IsReported (p : LoadProblem) : Prop :=
  ∃ causes, p.failure.Reports .schemaLoad {} causes

def LoadProblem.IsTold : LoadProblem → Prop
  | dialectUrl _ => True
  | invalid violation _ => violation.isFatal = true
  | notJson _ | notObject | dialectNotText => False

theorem LoadProblem.isReported_or_isTold (p : LoadProblem) : p.IsReported ∨ p.IsTold := by
  cases p with
  | notJson | notObject | dialectNotText => exact .inl ⟨_, _, rfl⟩
  | dialectUrl cause => exact .inr trivial
  | invalid violation wording =>
    cases violation with
    | value => exact .inl ⟨_, _, rfl⟩
    | pattern text problem =>
      cases problem with
      | «at» => exact .inl ⟨_, _, rfl⟩
      | repeatTooLarge | tooManyDigits | conflictingFlags => exact .inr rfl

/-- The kind of the fault as which a pattern whose check cannot end is told. -/
def fatalKind : Pattern.Problem → OutsideKind
  | .repeatTooLarge => .overflow
  | _ => .invalidValue

theorem failure_of_isFatal {text : Text} {problem : Pattern.Problem}
    (h : (Violation.pattern text problem).isFatal = true) (wording : Option Text) :
    (LoadProblem.invalid (.pattern text problem) wording).failure =
      .of (.outside (fatalKind problem) (problem.message text)) := by
  cases problem with
  | «at» => cases h
  | repeatTooLarge | tooManyDigits | conflictingFlags => rfl

/-! ## Dialects -/

theorem ofUrl_eq_error_iff {url : Text} {cause : Url.Problem} :
    DialectName.ofUrl url = .error cause ↔ Url.split url = .error cause := by
  unfold DialectName.ofUrl
  cases Url.split url with
  | error other => simp only [bind, Except.bind, Except.error.injEq]
  | ok u => exact ⟨nofun, nofun⟩

theorem dialectOf_eq_dialectUrl_iff {cause : Url.Problem} :
    dialectOf ms = .error (.dialectUrl cause) ↔
      ∃ url, ms.get? "$schema" = some (.str url) ∧ Url.split url = .error cause := by
  constructor
  · intro h
    unfold dialectOf at h
    split at h
    · cases h
    · rename_i url named
      cases given : DialectName.ofUrl url with
      | error other =>
        rw [given] at h
        cases h
        exact ⟨url, named, ofUrl_eq_error_iff.1 given⟩
      | ok _ =>
        rw [given] at h
        cases h
    · cases h
  · rintro ⟨url, named, split⟩
    rw [dialectOf, named]
    dsimp only
    rw [ofUrl_eq_error_iff.2 split]
    rfl

theorem dialectOf_ne_invalid {violation : Violation} {wording : Option Text} :
    dialectOf ms ≠ .error (.invalid violation wording) := by
  unfold dialectOf
  split
  · nofun
  · rename_i url _
    cases DialectName.ofUrl url <;> nofun
  · nofun

/-! ## Documents -/

theorem load_of_object (read : Json.ofBytes bytes = .ok (.obj ms)) :
    load bytes m = ofJson (.obj ms) m := by
  rw [load, read]
  rfl

theorem load_error (h : load bytes m = .error p) :
    (∃ cause, p = .notJson cause) ∨ p = .notObject ∨
      ∃ ms : Members, Json.ofBytes bytes = .ok (.obj ms) ∧ ofJson (.obj ms) m = .error p := by
  cases read : Json.ofBytes bytes with
  | error cause =>
    rw [load, read] at h
    cases h
    exact .inl ⟨cause, rfl⟩
  | ok v =>
    cases v with
    | obj ms => exact .inr (.inr ⟨ms, rfl, load_of_object read ▸ h⟩)
    | _ =>
      rw [load, read] at h
      cases h
      exact .inr (.inl rfl)

theorem ofJson_eq_error_iff : ofJson (.obj ms) m = .error p ↔ dialectOf ms = .error p ∨
    ∃ name violation, dialectOf ms = .ok name ∧
      name.dialect.violation? m.names (.obj ms) = some violation ∧
      p = .invalid violation (m.wording? (.obj ms) violation) := by
  cases named : dialectOf ms with
  | error other => simp [ofJson, bind, Except.bind, named]
  | ok name =>
    cases found : name.dialect.violation? m.names (.obj ms) with
    | none => simp [ofJson, bind, Except.bind, named, found]
    | some violation => simp [ofJson, bind, Except.bind, named, found, eq_comm]

/-- **Bytes are no schema for the name of their dialect**, which is no URL. -/
theorem load_eq_dialectUrl_iff {cause : Url.Problem} :
    load bytes m = .error (.dialectUrl cause) ↔
      ∃ (ms : Members) (url : Text), Json.ofBytes bytes = .ok (.obj ms) ∧
        ms.get? "$schema" = some (.str url) ∧ Url.split url = .error cause := by
  constructor
  · intro h
    obtain ⟨_, h⟩ | h | ⟨ms, read, refused⟩ := load_error h
    · cases h
    · cases h
    · obtain named | ⟨_, _, _, _, h⟩ := ofJson_eq_error_iff.1 refused
      · obtain ⟨url, found, split⟩ := dialectOf_eq_dialectUrl_iff.1 named
        exact ⟨ms, url, read, found, split⟩
      · cases h
  · rintro ⟨ms, url, read, found, split⟩
    rw [load_of_object read]
    exact ofJson_eq_error_iff.2 (.inl (dialectOf_eq_dialectUrl_iff.2 ⟨url, found, split⟩))

/-- **Bytes are no schema for what violates the rules of their dialect.** -/
theorem load_eq_invalid_iff {violation : Violation} {wording : Option Text} :
    load bytes m = .error (.invalid violation wording) ↔
      ∃ (ms : Members) (name : DialectName), Json.ofBytes bytes = .ok (.obj ms) ∧
        dialectOf ms = .ok name ∧ name.dialect.violation? m.names (.obj ms) = some violation ∧
        m.wording? (.obj ms) violation = wording := by
  constructor
  · intro h
    obtain ⟨_, h⟩ | h | ⟨ms, read, refused⟩ := load_error h
    · cases h
    · cases h
    · obtain named | ⟨name, _, named, found, h⟩ := ofJson_eq_error_iff.1 refused
      · exact absurd named dialectOf_ne_invalid
      · cases h
        exact ⟨ms, name, read, named, found, rfl⟩
  · rintro ⟨ms, name, read, named, found, rfl⟩
    rw [load_of_object read]
    exact ofJson_eq_error_iff.2 (.inr ⟨name, violation, named, found, rfl⟩)

/-! ## Machines -/

/-- **A document is loaded on a machine**, if it does not nest too deep for it. -/
theorem loadWithin_eq_ok_iff {s : Loaded} :
    loadWithin m bytes = .ok s ↔ m.limit? (.load bytes) = none ∧ load bytes m = .ok s := by
  unfold loadWithin
  cases m.limit? (.load bytes) with
  | some limit => exact ⟨nofun, nofun⟩
  | none => simp only [mapError_eq_ok_iff, true_and]

theorem loadWithin_eq_error_iff {f : Failure} : loadWithin m bytes = .error f ↔
    (∃ limit, m.limit? (.load bytes) = some limit ∧ f = .of limit.fault) ∨
    (m.limit? (.load bytes) = none ∧ ∃ p, load bytes m = .error p ∧ f = p.failure) := by
  unfold loadWithin
  cases m.limit? (.load bytes) with
  | some limit => simp [eq_comm]
  | none => cases load bytes m <;> simp [Except.mapError, eq_comm]

end Issuer.Schema
