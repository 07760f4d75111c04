import Issuer.Proofs.Database.Course
/-!
# Report — as what a run that fails is reported

A run is meant to fail only with a fault of the database: a dialect that is not supported, a
connection that cannot be opened, or a migration that failed.  If the opening fails only with what a
connection gives and the closing does not fail, it does so over every URL that can be taken apart,
and over no other: a URL that cannot be taken apart is told as the fault of a value
(`migrate_reports_iff_parses`), also where it was meant to be reported as a connection that cannot
be opened (`not_reports_open_bracket`).
-/
namespace Issuer.Database

def reportedKinds : List FaultKind := [.dialect, .databaseConnection, .migration]

def IsReported (f : Failure) : Prop := ∃ kind ∈ reportedKinds, ∃ causes, f.Reports kind {} causes

/-- **A run reports its failure**, if it fails. -/
def Reports (result : Except Problem Unit) : Prop :=
  ∀ problem, result = .error problem → IsReported problem.failure

/-- **The command reports the failure of its run**, if that fails, as one of its own that it
caused. -/
def CommandReports (result : Except Problem Unit) (command : Except Failure Unit) : Prop :=
  ∀ f, command = .error f → ∃ problem, result = .error problem ∧ IsReported problem.failure ∧
    f.Reports .migrateCommand {} (problem.failure.fault :: problem.failure.causes)

/-! ## Problems -/

theorem isA_database_of_mem : ∀ kind ∈ reportedKinds, kind.isA .database = true := by decide

theorem isOwn_of_isReported {f : Failure} (h : IsReported f) : f.fault.isOwn = true := by
  obtain ⟨_, _, _, told⟩ := h
  exact told.isOwn

theorem isReported_url {cause : UrlProblem} (h : ∀ p, cause ≠ .malformed p) :
    IsReported (Problem.url cause).failure := by
  cases cause with
  | malformed p => exact absurd rfl (h p)
  | dialect shown => exact ⟨.dialect, by decide, _, _, rfl⟩
  | port redacted p => exact ⟨.databaseConnection, by decide, _, _, rfl⟩

theorem commandFailure_of_isReported {problem : Problem} (h : IsReported problem.failure) :
    (commandFailure problem).Reports .migrateCommand {}
      (problem.failure.fault :: problem.failure.causes) := by
  obtain ⟨kind, hk, causes, message, hf⟩ := h
  simp only [commandFailure, hf, Fault.ofMessage, isA_database_of_mem kind hk, if_true]
  exact ⟨_, rfl⟩

/-! ## URLs -/

variable {url : Text}

theorem target_eq_malformed_iff {cause : Url.Problem} :
    target url = .error (.malformed cause) ↔ Url.parse url = .error cause := by
  unfold target
  cases Url.parse url with
  | error other => simp
  | ok u =>
    dsimp only
    split
    · simp
    · cases u.port? <;> simp

theorem not_malformed_of_parse {u : Url} (h : Url.parse url = .ok u) {cause : UrlProblem}
    (named : target url = .error cause) (p : Url.Problem) : cause ≠ .malformed p := by
  rintro rfl
  cases h.symm.trans (target_eq_malformed_iff.1 named)

/-! ## Runs -/

section Run

variable {b : Backend} {scripts : Scripts} {applied : List Text}

theorem reports_of_run {u : Url} {outcome : Outcome}
    (opens : ∀ url t, b.openBackend url = .error t → t.isOfConnection = true)
    (closed : b.close = .ok ()) (parsed : Url.parse url = .ok u)
    (run : Run b scripts url applied outcome) : Reports outcome.result := by
  rintro problem failed
  cases run with
  | rejected named =>
    cases failed
    exact isReported_url (not_malformed_of_parse parsed named)
  | refused _ opened =>
    cases failed
    rw [if_pos (opens _ _ opened)]
    exact ⟨.databaseConnection, by decide, _, _, rfl⟩
  | unclosed _ _ _ unclosed => cases closed.symm.trans unclosed
  | failed =>
    cases failed
    exact ⟨.migration, by decide, _, _, rfl⟩
  | complete => cases failed

/-- **A URL that cannot be taken apart stops a run before anything happens**, and is told as it
is. -/
theorem migrate_of_malformed {cause : Url.Problem} (h : Url.parse url = .error cause) :
    b.migrate url scripts applied = ⟨.error (.url (.malformed cause)), { applied }⟩ := by
  simp only [Backend.migrate, target_eq_malformed_iff.2 h]

theorem not_reports_malformed (cause : Url.Problem) :
    ¬ Reports (.error (.url (.malformed cause))) :=
  fun h => Bool.noConfusion (isOwn_of_isReported (h _ rfl))

theorem runMigrations_of_get? {settings : Settings}
    (named : settings.get? "database.url" = some (.json (.str url))) :
    b.runMigrations settings applied =
      ((b.migrate url .packaged applied).result.mapError commandFailure,
        (b.migrate url .packaged applied).progress) := by
  simp only [Backend.runMigrations, Settings.require, named, Setting.display, Json.display]

theorem commandReports_of_reports {result : Except Problem Unit} (h : Reports result) :
    CommandReports result (result.mapError commandFailure) := by
  rintro f failed
  cases result with
  | ok _ => cases failed
  | error problem =>
    cases failed
    exact ⟨problem, rfl, h problem rfl, commandFailure_of_isReported (h problem rfl)⟩

theorem not_commandReports_malformed (cause : Url.Problem) :
    ¬ CommandReports (.error (.url (.malformed cause)))
      (.error (.of (.outside .invalidValue cause.message))) := by
  intro h
  obtain ⟨_, _, _, _, heq⟩ := h _ rfl
  cases heq

end Run

/-- **A run reports its failure over exactly the URLs that can be taken apart**, and so does the
command over a URL of its settings.  Any other URL is told as the fault of a value, without any
effect. -/
theorem migrate_reports_iff_parses (b : Backend)
    (opens : ∀ url t, b.openBackend url = .error t → t.isOfConnection = true)
    (closed : b.close = .ok ()) (url : Text) (scripts : Scripts) (applied : List Text)
    (settings : Settings) (named : settings.get? "database.url" = some (.json (.str url))) :
    (Reports (b.migrate url scripts applied).result ↔ ∃ u, Url.parse url = .ok u) ∧
    (CommandReports (b.migrate url .packaged applied).result (b.runMigrations settings applied).1 ↔
      ∃ u, Url.parse url = .ok u) ∧
    ∀ cause, Url.parse url = .error cause →
      b.migrate url scripts applied = ⟨.error (.url (.malformed cause)), { applied }⟩ ∧
      b.runMigrations settings applied =
        (.error (.of (.outside .invalidValue cause.message)), { applied }) := by
  rw [runMigrations_of_get? named]
  cases parsed : Url.parse url with
  | ok u =>
    have reports (scripts : Scripts) : Reports (b.migrate url scripts applied).result :=
      reports_of_run opens closed parsed run_migrate
    exact ⟨⟨fun _ => ⟨u, rfl⟩, fun _ => reports scripts⟩,
      ⟨fun _ => ⟨u, rfl⟩, fun _ => commandReports_of_reports (reports .packaged)⟩, nofun⟩
  | error cause =>
    simp only [migrate_of_malformed parsed]
    refine ⟨⟨fun h => absurd h (not_reports_malformed cause), nofun⟩,
      ⟨fun h => absurd h (not_commandReports_malformed cause), nofun⟩, ?_⟩
    rintro _ ⟨⟩
    exact ⟨rfl, rfl⟩

def connectionRefused : Plan
  | .openBackend => some ⟨⟨true, .reported "OperationalError" [.str "refused"]⟩, none⟩
  | _ => none

def openBracketUrl : Text := "postgres://issuer@[::1:5432/issuer"

/-- Over a sound URL a connection that is refused is reported; over one with an open bracket the
fault of the value is told. -/
theorem migrate_reports_iff_parses_refused :
    let b := connectionRefused.backend .empty
    let url : Text := "postgres://issuer@localhost:5432/issuer"
    let settings (url : Text) : Settings := ⟨[("database.url", .json (.str url))]⟩
    (∀ url t, b.openBackend url = .error t → t.isOfConnection = true) ∧ b.close = .ok () ∧
    (∃ u, Url.parse url = .ok u) ∧ Reports (b.migrate url .packaged []).result ∧
    CommandReports (b.migrate url .packaged []).result (b.runMigrations (settings url) []).1 ∧
    Url.parse openBracketUrl = .error .brackets ∧
    b.runMigrations (settings openBracketUrl) [] =
      (.error (.of (.outside .invalidValue "Invalid IPv6 URL")), { applied := [] }) := by
  intro b url settings
  have opens : ∀ url t, b.openBackend url = .error t → t.isOfConnection = true := by
    rintro _ _ ⟨⟩
    rfl
  have parsed : ∃ u, Url.parse url = .ok u := ⟨_, rfl⟩
  have malformed : Url.parse openBracketUrl = .error .brackets := by rfl
  obtain ⟨run, command, -⟩ :=
    migrate_reports_iff_parses b opens rfl url .packaged [] (settings url) rfl
  obtain ⟨-, -, told⟩ :=
    migrate_reports_iff_parses b opens rfl openBracketUrl .packaged [] (settings openBracketUrl) rfl
  exact ⟨opens, rfl, parsed, run.2 parsed, command.2 parsed, malformed, (told _ malformed).2⟩

/-- **A URL with an open bracket is not reported**: it is told before a connection is asked for. -/
theorem not_reports_open_bracket :
    ¬ ∀ (b : Backend) (url : Text) (scripts : Scripts) (applied : List Text),
      (∀ url t, b.openBackend url = .error t → t.isOfConnection = true) → b.close = .ok () →
        Reports (b.migrate url scripts applied).result := by
  intro all
  have opens : ∀ url t, (connectionRefused.backend .empty).openBackend url = .error t →
      t.isOfConnection = true := by
    rintro _ _ ⟨⟩
    rfl
  have malformed : Url.parse openBracketUrl = .error .brackets := by rfl
  have reports := all (connectionRefused.backend .empty) openBracketUrl .packaged [] opens rfl
  rw [migrate_of_malformed malformed] at reports
  exact not_reports_malformed _ reports

end Issuer.Database
