import Issuer.Program
/-!
# Course — every way in which a command can go

A command stops at its command line, or has no settings, or fails to configure logging, or acts
(`course_iff`).  A run of the program is one of a command if its first argument is the command's
name, and else one of help (`run_of_name`, `run_cases`).  What does not act is quiet: it requests
nothing and has no effect on a database.
-/
namespace Issuer.Program

open CommandLine (Category Given Group Stop)

variable (s : Surroundings) (c : Category) (arguments : List Text)

def commandLine : Except Stop Given :=
  CommandLine.parseAll (CommandLine.flagsOf (Group.ofCategory c)) s.env
    (CommandLine.readEntries s.disk) arguments

structure Settles (given : Given) (settings : Settings) : Prop where
  parsed : commandLine s c arguments = .ok given
  settled : CommandLine.settingsOf (Group.ofCategory c) given = .ok settings

/-- **The courses of a command.** -/
inductive Course : Outcome → Prop where
  | stopped {stop : Stop} (parsed : commandLine s c arguments = .error stop) :
    Course (.ofStop s.disk (nameWith c) stop)
  | unsettled {given : Given} {problem : CommandLine.Problem}
      (parsed : commandLine s c arguments = .ok given)
      (settled : CommandLine.settingsOf (Group.ofCategory c) given = .error problem) :
    Course { ending := .failed problem.failure, helps := [nameWith c], disk := s.disk }
  | unlogged {given : Given} {settings : Settings} {failure : Failure} {logging : Log.Logging}
      {disk : Disk} (settles : Settles s c arguments given settings)
      (configured : Log.configure settings s.env s.disk = (.error failure, logging, disk)) :
    Course { ending := .failed failure, logging, disk }
  | acted {given : Given} {settings : Settings} {logging : Log.Logging} {disk : Disk}
      (settles : Settles s c arguments given settings)
      (configured : Log.configure settings s.env s.disk = (.ok (), logging, disk)) :
    Course (.ofDeed logging disk (act { s with disk } settings c))

variable {s c arguments}

theorem runCategory_of_settles {given : Given} {settings : Settings}
    (settles : Settles s c arguments given settings) :
    runCategory s c arguments = runWith s c settings := by
  have parsed := settles.parsed
  unfold commandLine at parsed
  simp only [runCategory, parsed, settles.settled]

theorem runCategory_of_course {outcome : Outcome} (course : Course s c arguments outcome) :
    runCategory s c arguments = outcome := by
  cases course with
  | stopped parsed =>
    unfold commandLine at parsed
    simp only [runCategory, parsed]
  | unsettled parsed settled =>
    unfold commandLine at parsed
    simp only [runCategory, parsed, settled]
  | unlogged settles configured =>
    rw [runCategory_of_settles settles]
    simp only [runWith, configured]
  | acted settles configured =>
    rw [runCategory_of_settles settles]
    simp only [runWith, configured]

theorem course_runCategory : Course s c arguments (runCategory s c arguments) := by
  cases parsed : commandLine s c arguments with
  | error stop =>
    have course : Course s c arguments _ := .stopped parsed
    exact runCategory_of_course course ▸ course
  | ok given =>
    cases settled : CommandLine.settingsOf (Group.ofCategory c) given with
    | error problem =>
      have course : Course s c arguments _ := .unsettled parsed settled
      exact runCategory_of_course course ▸ course
    | ok settings =>
      have settles : Settles s c arguments given settings := ⟨parsed, settled⟩
      rcases configured : Log.configure settings s.env s.disk with ⟨failure | _, logging, disk⟩
      · have course : Course s c arguments _ := .unlogged settles configured
        exact runCategory_of_course course ▸ course
      · have course : Course s c arguments _ := .acted settles configured
        exact runCategory_of_course course ▸ course

theorem exists_given {flags : List (CommandLine.Flag × Text)}
    (gives : (commandLine s c arguments).toOption.map Given.flags = some flags) :
    ∃ given, commandLine s c arguments = .ok given ∧ given.flags = flags := by
  cases parsed : commandLine s c arguments with
  | error stop =>
    rw [parsed] at gives
    cases gives
  | ok given =>
    rw [parsed] at gives
    exact ⟨given, rfl, Option.some.inj gives⟩

theorem exists_configured {settings : Settings}
    (result : (Log.configure settings s.env s.disk).1.toOption = some ())
    (files : (Log.configure settings s.env s.disk).2.2 = s.disk) :
    ∃ logging, Log.configure settings s.env s.disk = (.ok (), logging, s.disk) := by
  generalize Log.configure settings s.env s.disk = outcome at result files ⊢
  obtain ⟨failure | _, logging, written⟩ := outcome
  · cases result
  · obtain rfl : written = _ := files
    exact ⟨logging, rfl⟩

theorem course_iff {outcome : Outcome} :
    Course s c arguments outcome ↔ runCategory s c arguments = outcome :=
  ⟨runCategory_of_course, fun h => h ▸ course_runCategory⟩

/-! ## Runs -/

theorem actingCategory?_eq_some_iff {n : Text} :
    Command.actingCategory? n = some c ↔ n = (Command.ofCategory c).name := by
  constructor
  · intro acting
    obtain ⟨command, named, category⟩ := Option.bind_eq_some_iff.1 acting
    have spelt := List.find?_some named
    cases command with
    | help => cases category
    | migrate | schema =>
      cases category
      exact (eq_of_beq spelt).symm
  · rintro rfl
    cases c <;> rfl

theorem run_of_name :
    run s ((Command.ofCategory c).name :: arguments) = runCategory s c arguments := by
  cases c <;> rfl

/-- **A run is one of a command that is named first, or of help.** -/
theorem run_cases (s : Surroundings) (arguments : List Text) :
    (∃ c rest, arguments = (Command.ofCategory c).name :: rest ∧
      run s arguments = runCategory s c rest) ∨
    ∃ others, run s arguments = runHelp s others := by
  unfold run
  split
  · rename_i first rest others
    split
    · exact .inr ⟨_, rfl⟩
    · unfold runCommand
      cases acting : Command.actingCategory? (first :: rest) with
      | none => exact .inr ⟨_, rfl⟩
      | some c => exact .inl ⟨c, others, by rw [actingCategory?_eq_some_iff.1 acting], rfl⟩
  · exact .inr ⟨_, rfl⟩

/-! ## Runs that do not act -/

/-- A run requests nothing and has no effect on a database. -/
structure Outcome.IsQuiet (o : Outcome) : Prop where
  requests : o.requests = []
  effects : o.effects = []

theorem isQuiet_ofStop (disk : Disk) (program : Text) (stop : Stop) :
    (Outcome.ofStop disk program stop).IsQuiet := by
  cases stop with
  | help | refused | fault => exact ⟨rfl, rfl⟩

theorem isQuiet_runHelp : (runHelp s arguments).IsQuiet := by
  unfold runHelp
  split
  · exact isQuiet_ofStop _ _ _
  · split
    · exact ⟨rfl, rfl⟩
    · exact ⟨rfl, rfl⟩

/-! ## Surroundings -/

/-- Surroundings with a network, in which logging is configured by a file that says nothing. -/
def surroundingsOf (network : Network) : Surroundings where
  env := { assigned := [("ISSUER_LOG_CONFIG", "log.yml")] }
  disk := .ofFiles [("log.yml", [])]
  network := network
  plan := fun _ => none
  applied := []

end Issuer.Program
