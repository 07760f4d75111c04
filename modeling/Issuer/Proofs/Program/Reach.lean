import Issuer.Proofs.CommandLine.Selection
import Issuer.Proofs.Database.Protocol
import Issuer.Proofs.Inspection.Course
import Issuer.Proofs.Loader.Requests
import Issuer.Proofs.Program.Course
/-!
# Reach — what a run reaches outside

Only a run of the migrate command reaches a database, and only one of the schema command requests a
document; each does so once at most, and only when it comes to act.  What keeps a command from
acting (`Held`) keeps the run quiet (`isQuiet_of_held`).
-/
namespace Issuer

/-! ## Databases -/

namespace Database

variable {b : Backend} {settings : Settings} {applied : List Text} {url : Text}

/-- A run that has effects opens a connection first, to the database of its URL, and no other. -/
theorem opens_of_migrate (scripts : Scripts)
    (ne : (b.migrate url scripts applied).progress.effects ≠ []) :
    ∃ backend later, backendUrl url = .ok backend ∧
      (b.migrate url scripts applied).progress.effects = .openBackend backend :: later ∧
      ∀ other, .openBackend other ∉ later := by
  have run : Run b scripts url applied (b.migrate url scripts applied) := run_migrate
  cases named : target url with
  | error cause =>
    rw [Backend.migrate, named] at ne
    exact absurd rfl ne
  | ok u =>
    obtain ⟨later, effects, once⟩ := (follows_of_run named run).opens
    exact ⟨u.backend, later, by rw [backendUrl, named]; rfl, effects, once⟩

theorem opens_of_runMigrations {named : Text}
    (given : settings.get? "database.url" = some (.json (.str named)))
    (ne : (b.runMigrations settings applied).2.effects ≠ []) :
    ∃ backend later, backendUrl named = .ok backend ∧
      (b.runMigrations settings applied).2.effects = .openBackend backend :: later ∧
      ∀ other, .openBackend other ∉ later := by
  simp only [Backend.runMigrations, Settings.require, given] at ne ⊢
  exact opens_of_migrate _ ne

end Database

/-! ## Documents -/

namespace Inspection

theorem length_requests_attempt (network : Network) (disk : Disk) (machine : Machine)
    (inquiry : Inquiry) :
    (attempt network disk machine inquiry).2.requests.length ≤ 1 := by
  obtain idle | ⟨loader, told, -, activity⟩ := activity_attempt network disk machine inquiry
  · rw [idle]
    exact Nat.zero_le 1
  · rw [activity, Activity.append, List.append_nil]
    exact Loader.length_requests_load loader

theorem length_requests_run (network : Network) (disk : Disk) (machine : Machine)
    (inquiry : Inquiry) :
    (run network disk machine inquiry).2.requests.length ≤ 1 := by
  have attempted := length_requests_attempt network disk machine inquiry
  cases result : (attempt network disk machine inquiry).1 with
  | error f => rwa [activity_run_of_error result]
  | ok report => rwa [activity_run_of_ok result, Activity.append, List.append_nil]

end Inspection

/-! ## Runs -/

namespace Program

open CommandLine (Category Given Group IsAttribute Stop)

variable {s : Surroundings} {c : Category} {arguments : List Text}

/-- **What keeps a command from acting.** -/
inductive Held (s : Surroundings) (c : Category) (arguments : List Text) : Prop where
  | exits {stop : Stop} (parsed : commandLine s c arguments = .error stop)
  /-- The URL that the command needs is not given, or empty. -/
  | urlless {given : Given} (parsed : commandLine s c arguments = .ok given)
    (missing : given.last? c.urlFlag = none ∨ given.last? c.urlFlag = some [])
  /-- An attribute for the schema command has no name before an equals sign. -/
  | nameless {given : Given} {t : Text} (schema : c = .schema)
    (parsed : commandLine s c arguments = .ok given) (member : t ∈ given.all .attributes)
    (nameless : ∀ pair, ¬ IsAttribute t pair)
  | unlogged {given : Given} {settings : Settings} {failure : Failure}
    (settles : Settles s c arguments given settings)
    (failed : (Log.configure settings s.env s.disk).1 = .error failure)

theorem isQuiet_or_acts (s : Surroundings) (c : Category) (arguments : List Text) :
    (runCategory s c arguments).IsQuiet ∨ ∃ given settings logging disk,
      Settles s c arguments given settings ∧
      Log.configure settings s.env s.disk = (.ok (), logging, disk) ∧
      runCategory s c arguments = .ofDeed logging disk (act { s with disk } settings c) := by
  generalize ran : runCategory s c arguments = outcome
  cases course_iff.2 ran with
  | stopped parsed => exact .inl (isQuiet_ofStop _ _ _)
  | unsettled parsed settled => exact .inl ⟨rfl, rfl⟩
  | unlogged settles configured => exact .inl ⟨rfl, rfl⟩
  | acted settles configured => exact .inr ⟨_, _, _, _, settles, configured, rfl⟩

theorem isQuiet_of_held (held : Held s c arguments) : (runCategory s c arguments).IsQuiet := by
  obtain quiet | ⟨given, settings, logging, disk, settles, configured, -⟩ :=
    isQuiet_or_acts s c arguments
  · exact quiet
  · exfalso
    have once {other : Given} (parsed : commandLine s c arguments = .ok other) : other = given :=
      Except.ok.inj (parsed.symm.trans settles.parsed)
    cases held with
    | exits parsed => cases parsed.symm.trans settles.parsed
    | urlless parsed missing =>
      obtain rfl := once parsed
      obtain ⟨url, given, ne⟩ := CommandLine.url_of_settings settles.settled
      obtain none | empty := missing
      · cases none.symm.trans given
      · exact ne (Option.some.inj (given.symm.trans empty))
    | nameless schema parsed member nameless =>
      subst schema
      obtain rfl := once parsed
      obtain ⟨-, pairs, -, -, attributes, -⟩ := CommandLine.attributes_of_schema settles.settled
      obtain ⟨pair, -, named⟩ := exists_of_forall₂ attributes member
      exact nameless pair named
    | unlogged settles' failed =>
      obtain rfl := once settles'.parsed
      obtain rfl := Except.ok.inj (settles'.settled.symm.trans settles.settled)
      rw [configured] at failed
      cases failed

/-- **Only the migrate command has effects on a database**: it opens the one that its URL names. -/
theorem effects_of_runCategory (ne : (runCategory s c arguments).effects ≠ []) :
    c = .migrate ∧ ∃ given settings url backend later, Settles s .migrate arguments given settings ∧
      settings.get? "database.url" = some (.json (.str url)) ∧
      Database.backendUrl url = .ok backend ∧
      (runCategory s c arguments).effects = .openBackend backend :: later ∧
      ∀ other, .openBackend other ∉ later := by
  obtain quiet | ⟨given, settings, logging, disk, settles, -, acted⟩ :=
    isQuiet_or_acts s c arguments
  · exact absurd quiet.effects ne
  · rw [acted] at ne ⊢
    cases c with
    | schema => exact absurd rfl ne
    | migrate =>
      obtain ⟨url, -, -, named⟩ := CommandLine.url_of_migrate settles.settled
      obtain ⟨backend, later, opened⟩ := Database.opens_of_runMigrations named ne
      exact ⟨rfl, given, settings, url, backend, later, settles, named, opened⟩

/-- **Only the schema command requests a document**, and one at most. -/
theorem requests_of_runCategory (ne : (runCategory s c arguments).requests ≠ []) :
    c = .schema ∧ ∃ request, (runCategory s c arguments).requests = [request] := by
  obtain quiet | ⟨given, settings, logging, disk, -, -, acted⟩ := isQuiet_or_acts s c arguments
  · exact absurd quiet.requests ne
  · rw [acted] at ne ⊢
    cases c with
    | migrate => exact absurd rfl ne
    | schema =>
      have once := Inspection.length_requests_run s.network disk s.machine
        (.ofSettings settings s.machine)
      have some := List.length_pos_iff.2 ne
      exact ⟨rfl, List.length_eq_one_iff.1 (Nat.le_antisymm once some)⟩

/-- **What a run reaches.**  Only a run of the migrate command has effects on a database: first it
opens a connection to the database that its URL names, and never another.  Only a run of the schema
command requests a document, and one at most.  A command that is held does neither. -/
theorem run_reaches (s : Surroundings) (arguments : List Text) :
    ((run s arguments).effects ≠ [] → ∃ rest given settings url backend later,
      arguments = ("migrate" : Text) :: rest ∧ Settles s .migrate rest given settings ∧
      settings.get? "database.url" = some (.json (.str url)) ∧
      Database.backendUrl url = .ok backend ∧
      (run s arguments).effects = .openBackend backend :: later ∧
      ∀ other, .openBackend other ∉ later) ∧
    ((run s arguments).requests ≠ [] → ∃ rest request,
      arguments = ("schema" : Text) :: rest ∧ (run s arguments).requests = [request]) ∧
    ∀ c rest, arguments = (Command.ofCategory c).name :: rest → Held s c rest →
      (run s arguments).IsQuiet := by
  have quiet_or_command : (run s arguments).IsQuiet ∨ ∃ c rest,
      arguments = (Command.ofCategory c).name :: rest ∧ run s arguments = runCategory s c rest := by
    obtain command | ⟨others, help⟩ := run_cases s arguments
    · exact .inr command
    · exact .inl (help ▸ isQuiet_runHelp)
  refine ⟨fun ne => ?_, fun ne => ?_, ?_⟩
  · obtain quiet | ⟨c, rest, named, ran⟩ := quiet_or_command
    · exact absurd quiet.effects ne
    · rw [ran] at ne ⊢
      obtain ⟨rfl, given, settings, url, backend, later, reached⟩ := effects_of_runCategory ne
      exact ⟨rest, given, settings, url, backend, later, named, reached⟩
  · obtain quiet | ⟨c, rest, named, ran⟩ := quiet_or_command
    · exact absurd quiet.requests ne
    · rw [ran] at ne ⊢
      obtain ⟨rfl, request, one⟩ := requests_of_runCategory ne
      exact ⟨rest, request, named, one⟩
  · rintro c rest rfl held
    rw [run_of_name]
    exact isQuiet_of_held held

/-- A command line that brings a database up to date. -/
def migrateArguments : List Text := ["migrate", "--database-url", "postgres://localhost/issuer"]

def schemaArguments : List Text := ["schema", "--schema-url=http://localhost/schema.json"]

/-- The database of a command line is opened, its document is requested though no answer comes, and
without a URL nothing happens. -/
theorem run_reaches_local :
    (∃ later, (run (surroundingsOf Loader.silent) migrateArguments).effects =
        .openBackend "postgresql+psycopg://localhost/issuer" :: later ∧
      ∀ other, .openBackend other ∉ later) ∧
    (∃ request, (run (surroundingsOf Loader.silent) schemaArguments).requests = [request]) ∧
    (run (surroundingsOf Loader.silent) ["migrate"]).IsQuiet := by
  have opened : (run (surroundingsOf Loader.silent) migrateArguments).effects.head? =
      some (.openBackend "postgresql+psycopg://localhost/issuer") := by decide +kernel
  have requested :
      (run (surroundingsOf Loader.silent) schemaArguments).requests.isEmpty = false := by
    decide +kernel
  have urlless : Held (surroundingsOf Loader.silent) .migrate [] := by
    have gives : (commandLine (surroundingsOf Loader.silent) .migrate []).toOption.map
        Given.flags = some [(.logConfig, ("log.yml" : Text))] := by decide +kernel
    obtain ⟨⟨flags, extras⟩, parsed, rfl⟩ := exists_given gives
    exact .urlless parsed (.inl rfl)
  obtain ⟨effects, -, -⟩ := run_reaches (surroundingsOf Loader.silent) migrateArguments
  obtain ⟨-, requests, -⟩ := run_reaches (surroundingsOf Loader.silent) schemaArguments
  obtain ⟨-, -, quiet⟩ := run_reaches (surroundingsOf Loader.silent) ["migrate"]
  refine ⟨?_, ?_, quiet .migrate [] rfl urlless⟩
  · obtain ⟨-, -, -, -, backend, later, -, -, -, -, reached, once⟩ := effects fun none => by
      rw [none] at opened
      cases opened
    rw [reached] at opened
    obtain rfl := Database.Effect.openBackend.inj (Option.some.inj opened)
    exact ⟨later, reached, once⟩
  · obtain ⟨-, request, -, one⟩ := requests fun none => by
      rw [none] at requested
      cases requested
    exact ⟨request, one⟩

end Program

end Issuer
