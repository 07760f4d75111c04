import Issuer.Proofs.CommandLine.Source
/-!
# Which source a flag has its values from

Where a command line of flags that are spelt in full is read to its end, each flag has the values
of the first source that gives it some: the command line, its variable, the argument file
(`all_of_parse`).  No values of two sources are ever mixed.
-/
namespace Issuer.CommandLine

structure Sources where
  items : List Item
  env : Environment
  disk : Disk

namespace Sources

/-- The entries of the argument file that the command line names; without one there are none. -/
def entries (s : Sources) : Entries :=
  match (valuesOf s.items .argumentFile).getLast? with
  | none | some [] => []
  | some path => (readEntries s.disk (s.env.expandHome path)).toOption.getD []

/-- The values of a flag: those of the command line; without any what its variable gives; without
that those of the argument file. -/
def values (s : Sources) (f : Flag) : List Text :=
  match valuesOf s.items f, environmentValue? s.env f with
  | [], some value => valuesOf (Item.ofVariable f value) f
  | [], none => entryValues s.entries f
  | line, _ => line

/-- Flags of a command are spelt in full, and the argument file gives flags strings. -/
structure AreOf (s : Sources) (c : Category) : Prop where
  items : ∀ i ∈ s.items, i.IsOf c
  entries : ∀ e ∈ s.entries, ∃ f ∈ c.flags, Gives e f

def fromVariables (s : Sources) (c : Category) : List Item :=
  c.flags.flatMap (variableItems s.env (wordsOf s.items))

def direct (s : Sources) (c : Category) : List Item := s.fromVariables c ++ s.items

end Sources

section

variable {c : Category} {s : Sources} {f : Flag}

/-! ## Variables and the command line -/

theorem isOf_ofVariable {value : Text} (hf : f ∈ c.flags) (named : f.variableName? ≠ none) :
    ∀ i ∈ Item.ofVariable f value, i.IsOf c := by
  have hone : ∀ f : Flag, f.variableName? ≠ none → f.arity ≠ .switch → f.takesArgument = true := by
    intro f
    cases f <;> decide
  intro i hi
  rw [Item.ofVariable] at hi
  split at hi
  · rename_i hswitch
    split at hi
    · rw [List.mem_singleton.1 hi]
      exact ⟨hf, by rw [Item.flag, Flag.takesArgument, hswitch]; rfl⟩
    · cases hi
  · rename_i hswitch
    rw [List.mem_singleton.1 hi]
    exact ⟨hf, hone f named hswitch⟩

theorem isOf_fromVariables : ∀ i ∈ s.fromVariables c, i.IsOf c := by
  intro i hi
  obtain ⟨f, hf, hi⟩ := List.mem_flatMap.1 hi
  unfold variableItems at hi
  split at hi
  · rename_i value hvalue
    split at hi
    · cases hi
    · refine isOf_ofVariable hf (fun hnone => ?_) i hi
      rw [environmentValue?, hnone] at hvalue
      cases hvalue
  · cases hi

theorem isOf_direct (plain : s.AreOf c) : ∀ i ∈ s.direct c, i.IsOf c :=
  List.forall_mem_append.2 ⟨isOf_fromVariables, plain.items⟩

theorem valuesOf_fromVariables (stands : ∀ i ∈ s.items, i.Stands c.flags) (help : f ≠ .help)
    (hf : f ∈ c.flags) : valuesOf (s.fromVariables c) f =
      match valuesOf s.items f, environmentValue? s.env f with
      | [], some value => valuesOf (Item.ofVariable f value) f
      | _, _ => [] := by
  have distinct : c.flags.Nodup := by cases c <;> decide
  have own : ∀ g, ∀ i ∈ variableItems s.env (wordsOf s.items) g, i.flag = g :=
    fun g i hi => flag_of_mem_variableItems hi
  rw [Sources.fromVariables, valuesOf_flatMap own distinct hf, variableItems]
  have hholds := holds_wordsOf stands help hf
  cases hvalue : environmentValue? s.env f with
  | none => split <;> simp_all [valuesOf]
  | some value =>
    cases hvalues : valuesOf s.items f with
    | nil =>
      rw [hvalues] at hholds
      have hnone : holds (wordsOf s.items) f.spellings = false := by simpa using hholds
      dsimp only
      rw [hnone, if_neg Bool.false_ne_true]
    | cons value values =>
      rw [hvalues] at hholds
      dsimp only
      rw [hholds.2 (List.cons_ne_nil value values), if_pos rfl]
      rfl

theorem valuesOf_direct (stands : ∀ i ∈ s.items, i.Stands c.flags) (help : f ≠ .help)
    (hf : f ∈ c.flags) : valuesOf (s.direct c) f =
      match valuesOf s.items f, environmentValue? s.env f with
      | [], some value => valuesOf (Item.ofVariable f value) f
      | line, _ => line := by
  rw [Sources.direct, valuesOf_append, valuesOf_fromVariables stands help hf]
  cases valuesOf s.items f with
  | nil =>
    rw [List.append_nil]
    split <;> simp_all
  | cons value values => rfl

theorem asksHelp_eq_false {items : List Item} (hof : ∀ i ∈ items, i.IsOf c)
    (stands : ∀ i ∈ items, i.Stands c.flags) :
    allArguments.asksHelp (wordsOf items) = false := by
  have hlong : ∀ f : Flag, f ≠ .help → Flag.help.spellings.contains f.long = false := by
    intro f
    cases f <;> decide
  have htakes : ∀ f : Flag, f.takesArgument = true → f ≠ .help := by
    intro f
    cases f <;> decide
  have hitself : ∀ t ∈ Flag.help.spellings, lookOf c.flags t = .ok (.flag .help t none) := by
    rintro t ht
    obtain rfl | ht := List.mem_cons.1 ht
    · cases c <;> rfl
    · rw [List.mem_singleton.1 ht]
      cases c <;> rfl
  have hequals : ∀ t ∈ Flag.help.spellings, ('=' : CodePoint) ∉ t := by decide
  rw [allArguments.asksHelp, List.any_eq_false]
  intro w hw
  rw [Bool.not_eq_true]
  obtain ⟨i, hi, hw⟩ := List.mem_flatMap.1 hw
  cases i with
  | bare f =>
    rw [List.mem_singleton.1 hw]
    exact hlong f (stands _ hi)
  | apart f t =>
    obtain rfl | hw := List.mem_cons.1 hw
    · exact hlong f (htakes f (hof _ hi).valued)
    · rw [List.mem_singleton.1 hw, ← Bool.not_eq_true, List.contains_iff_mem]
      exact fun hmem => nomatch (hitself t hmem).symm.trans (stands _ hi).2
  | joined f t =>
    rw [List.mem_singleton.1 hw, ← Bool.not_eq_true, List.contains_iff_mem]
    exact fun hmem => hequals _ hmem (equals_mem_assignment f.long t)

/-! ## The argument file -/

theorem stands_file {items : List Item} (stands : ∀ i ∈ items, i.Stands c.flags) :
    ∀ i ∈ items, i.Stands [.argumentFile] := by
  intro i hi
  cases i with
  | bare f => exact stands _ hi
  | apart f t =>
    exact ⟨(stands _ hi).1, lookOf_itself_of_subset (subset_flags .file) (stands _ hi).2⟩
  | joined f t => trivial

theorem argumentFile?_eq {items : List Item} (env : Environment) (hof : ∀ i ∈ items, i.IsOf c)
    (stands : ∀ i ∈ items, i.Stands c.flags) :
    argumentFile? c.flags env (wordsOf items) =
      match (valuesOf items .argumentFile).getLast? with
      | none | some [] => none
      | some path => some (env.expandHome path) := by
  have knows : c.flags.contains .argumentFile = true := by cases c <;> decide
  have hread := read_eq .file hof (stands_file stands)
  have hall : (read [.argumentFile] (wordsOf items)).1.all .argumentFile =
      valuesOf items .argumentFile :=
    all_eq_valuesOf (congrArg (fun r => r.1.flags) hread) (List.mem_singleton_self _)
  rw [argumentFile?, knows, Given.last?_eq, hall]
  rfl

/-! ## All sources -/

/-- All arguments are those of the variables and of the command line; where there is an argument
file, what its entries give besides them is before or behind them. -/
theorem allArguments_eq_ok {flags : List Flag} {env : Environment}
    {entriesOf : Text → Except Stop Entries} {words all : List Text}
    (h : allArguments flags env entriesOf words = .ok all) :
    ∃ held, argumentsOfVariables (variablesFor flags env words) = .ok held ∧
      ((all = held ++ words ∧ (allArguments.asksHelp (held ++ words) = true ∨
          argumentFile? flags env (held ++ words) = none)) ∨
        ∃ path entries others collects,
          argumentFile? flags env (held ++ words) = some path ∧
          entriesOf path = .ok entries ∧
          argumentsOfEntries flags ((variablesFor flags env words).map (·.1)) (held ++ words)
            entries = .ok (others, collects) ∧
          all = if collects then held ++ words ++ others
            else others ++ (held ++ words)) := by
  obtain ⟨before, hbefore, h⟩ := bind_eq_ok_iff.1 h
  obtain ⟨held, hvariables, hbefore⟩ := bind_eq_ok_iff.1 (mapError_eq_ok_iff.1 hbefore)
  obtain rfl := Except.ok.inj hbefore
  refine ⟨held, hvariables, ?_⟩
  split at h
  · rename_i hasks
    exact .inl ⟨(Except.ok.inj h).symm, .inl hasks⟩
  · split at h
    · rename_i hnone
      exact .inl ⟨(Except.ok.inj h).symm, .inr hnone⟩
    · rename_i path hpath
      obtain ⟨entries, hentries, h⟩ := bind_eq_ok_iff.1 h
      obtain ⟨⟨others, collects⟩, hothers, h⟩ := bind_eq_ok_iff.1 h
      exact .inr ⟨path, entries, others, collects, hpath, hentries, hothers,
        (Except.ok.inj h).symm⟩

theorem parse_eq_ok {flags : List Flag} {env : Environment}
    {entriesOf : Text → Except Stop Entries} {words : List Text} {g : Given}
    (h : parse flags env entriesOf words = .ok g) : ∃ all,
      allArguments flags env entriesOf words = .ok all ∧ read flags all = (g, none) := by
  obtain ⟨all, hall, h⟩ := bind_eq_ok_iff.1 h
  refine ⟨all, hall, ?_⟩
  split at h
  · rename_i g' hread
    obtain rfl := Except.ok.inj h
    exact hread
  · cases h

theorem wordsOf_append (items others : List Item) :
    wordsOf (items ++ others) = wordsOf items ++ wordsOf others :=
  List.flatMap_append

variable {g : Given}

theorem stands_of_parse (plain : s.AreOf c)
    (parsed : parse c.flags s.env (readEntries s.disk) (wordsOf s.items) = .ok g) :
    ∀ i ∈ s.direct c, i.Stands c.flags := by
  have hof := isOf_direct plain
  obtain ⟨all, hall, hread⟩ := parse_eq_ok parsed
  obtain ⟨held, hvariables, ⟨rfl, -⟩ | ⟨path, entries, others, collects, -, -, hothers, rfl⟩⟩ :=
    allArguments_eq_ok hall
  · rw [argumentsOfVariables_eq_ok hvariables, ← wordsOf_append] at hread
    exact stands_of_read hof (congrArg Prod.snd hread)
  · rw [argumentsOfVariables_eq_ok hvariables, ← wordsOf_append] at hread hothers
    -- nothing is known yet of which file was read, so its entries may be any
    have single := isSingle_of_argumentsOfEntries hothers
    cases collects with
    | true =>
      have hread' : (read c.flags ([] ++ (wordsOf (s.fromVariables c ++ s.items) ++ others))).2 =
          none := congrArg Prod.snd hread
      exact stands_of_read_append hof (fun _ h => absurd h List.not_mem_nil) hread'
    | false =>
      have hread' : (read c.flags (others ++ (wordsOf (s.fromVariables c ++ s.items) ++ []))).2 =
          none := by
        rw [List.append_nil]
        exact congrArg Prod.snd hread
      exact stands_of_read_append hof single hread'

theorem argumentFile?_direct (plain : s.AreOf c) (stands : ∀ i ∈ s.direct c, i.Stands c.flags) :
    argumentFile? c.flags s.env (wordsOf (s.direct c)) =
      match (valuesOf s.items .argumentFile).getLast? with
      | none | some [] => none
      | some path => some (s.env.expandHome path) := by
  have hf : Flag.argumentFile ∈ c.flags := by cases c <;> decide
  have hnone : environmentValue? s.env .argumentFile = none := rfl
  have hvalues : valuesOf (s.direct c) .argumentFile = valuesOf s.items .argumentFile := by
    rw [valuesOf_direct (List.forall_mem_append.1 stands).2 (by decide) hf, hnone]
    split <;> simp_all
  rw [argumentFile?_eq s.env (isOf_direct plain) stands, hvalues]

theorem valuesOf_direct_of_no_file (stands : ∀ i ∈ s.items, i.Stands c.flags)
    (none : s.entries = []) (help : f ≠ .help) (hf : f ∈ c.flags) :
    valuesOf (s.direct c) f = s.values f := by
  rw [valuesOf_direct stands help hf, Sources.values, none]
  cases valuesOf s.items f <;> cases environmentValue? s.env f <;> rfl

theorem valuesOf_fitted (stands : ∀ i ∈ s.direct c, i.Stands c.flags) (help : f ≠ .help)
    (hf : f ∈ c.flags) :
    (if ((variablesFor c.flags s.env (wordsOf s.items)).map (·.1)).contains f ||
        holds (wordsOf (s.direct c)) f.spellings then [] else entryValues s.entries f) =
      match valuesOf s.items f, environmentValue? s.env f with
      | [], .none => entryValues s.entries f
      | _, _ => [] := by
  have hline := (List.forall_mem_append.1 stands).2
  have hgiven : ((variablesFor c.flags s.env (wordsOf s.items)).map (·.1)).contains f = true ↔
      (environmentValue? s.env f).isSome = true ∧ holds (wordsOf s.items) f.spellings = false :=
    contains_variablesFor hf
  have hheld := holds_wordsOf stands help hf
  rw [valuesOf_direct hline help hf] at hheld
  have hlineHeld := holds_wordsOf hline help hf
  cases hvalues : valuesOf s.items f with
  | cons value values =>
    rw [hvalues] at hheld
    have htrue := hheld.2 (List.cons_ne_nil value values)
    rw [htrue, Bool.or_true, if_pos rfl]
  | nil =>
    rw [hvalues] at hheld hlineHeld
    have hfalse : holds (wordsOf s.items) f.spellings = false := by simpa using hlineHeld
    rw [hfalse, and_iff_left rfl] at hgiven
    cases hvalue : environmentValue? s.env f with
    | some value =>
      rw [hvalue] at hgiven
      rw [hgiven.2 rfl, Bool.true_or, if_pos rfl]
    | none =>
      rw [hvalue] at hgiven hheld
      have hnone :
          ((variablesFor c.flags s.env (wordsOf s.items)).map (·.1)).contains f = false := by
        simpa using hgiven
      have hfree : holds (wordsOf (s.direct c)) f.spellings = false := by simpa using hheld
      rw [hnone, hfree, Bool.or_false, if_neg Bool.false_ne_true]

/-- What is read is what the command line, the variables and the argument file give in full: a flag
has values of one of them only. -/
theorem exists_items_of_parse (plain : s.AreOf c)
    (parsed : parse c.flags s.env (readEntries s.disk) (wordsOf s.items) = .ok g) :
    ∃ items : List Item, (∀ i ∈ items, i.IsOf c) ∧ read c.flags (wordsOf items) = (g, none) ∧
      ∀ f ∈ c.flags, f ≠ .help → valuesOf items f = s.values f := by
  have stands := stands_of_parse plain parsed
  have hof := isOf_direct plain
  have hline := (List.forall_mem_append.1 stands).2
  have hfile := argumentFile?_direct plain stands
  obtain ⟨all, hall, hread⟩ := parse_eq_ok parsed
  obtain ⟨held, hheld, h⟩ := allArguments_eq_ok hall
  rw [argumentsOfVariables_eq_ok hheld, ← Sources.fromVariables, ← wordsOf_append,
    ← Sources.direct, hfile] at h
  obtain ⟨rfl, hhelp | hnone⟩ |
    ⟨path, entries, others, collects, hpath, hentries, hothers, rfl⟩ := h
  · rw [asksHelp_eq_false hof stands] at hhelp
    cases hhelp
  · have hentries : s.entries = [] := by
      rw [Sources.entries]
      split <;> simp_all
    exact ⟨s.direct c, hof, hread, fun f hf help =>
      valuesOf_direct_of_no_file hline hentries help hf⟩
  · have hsame : s.entries = entries := by
      rw [Sources.entries]
      split at hpath
      · cases hpath
      · cases hpath
      · rename_i named hnamed
        obtain rfl := Option.some.inj hpath
        rw [hentries]
        rfl
    subst hsame
    obtain ⟨fitted, collect, hfitted, hfittedOf, hvalues⟩ :
        ∃ items collects, argumentsOfEntries c.flags
            ((variablesFor c.flags s.env (wordsOf s.items)).map (·.1)) (wordsOf (s.direct c))
            s.entries = .ok (wordsOf items, collects) ∧ (∀ i ∈ items, i.IsOf c) ∧
          ∀ f, valuesOf items f = _ := argumentsOfEntries_of_gives plain.entries
    obtain ⟨rfl, rfl⟩ := Prod.mk.inj (Except.ok.inj (hothers.symm.trans hfitted))
    -- of the two lists one at most has values of a flag, so their order does not matter
    have hvaluesOf : ∀ f ∈ c.flags, f ≠ .help →
        valuesOf (s.direct c ++ fitted) f = s.values f ∧
        valuesOf (fitted ++ s.direct c) f = s.values f := by
      intro f hf help
      rw [valuesOf_append, valuesOf_append, hvalues, valuesOf_fitted stands help hf,
        valuesOf_direct hline help hf, Sources.values]
      cases valuesOf s.items f <;> cases environmentValue? s.env f <;> simp
    cases collects with
    | true =>
      exact ⟨s.direct c ++ fitted, List.forall_mem_append.2 ⟨hof, hfittedOf⟩,
        by rw [wordsOf_append]; exact hread, fun f hf help => (hvaluesOf f hf help).1⟩
    | false =>
      exact ⟨fitted ++ s.direct c, List.forall_mem_append.2 ⟨hfittedOf, hof⟩,
        by rw [wordsOf_append]; exact hread, fun f hf help => (hvaluesOf f hf help).2⟩

/-- **Sources that are read to their end**: flags of a command that can be, no argument file, and
variables that say whether their switches are set where the command line does not. -/
structure Sources.Stand (s : Sources) (c : Category) : Prop where
  items : ∀ i ∈ s.items, i.IsOf c
  stands : ∀ i ∈ s.items, i.Stands c.flags
  fileless : valuesOf s.items .argumentFile = []
  said : ∀ f ∈ c.flags, valuesOf s.items f = [] → IsSaid s.env f

theorem Sources.Stand.areOf (h : s.Stand c) : s.AreOf c := by
  refine ⟨h.items, ?_⟩
  rw [Sources.entries, h.fileless]
  nofun

theorem stands_fromVariables : ∀ i ∈ s.fromVariables c, i.Stands c.flags := by
  intro i hi
  obtain ⟨f, -, hi⟩ := List.mem_flatMap.1 hi
  unfold variableItems at hi
  split at hi
  · rename_i value hvalue
    have help : f ≠ .help := by
      rintro rfl
      cases hvalue
    split at hi
    · cases hi
    · rw [Item.ofVariable] at hi
      split at hi
      · split at hi
        · rw [List.mem_singleton.1 hi]
          exact help
        · cases hi
      · rw [List.mem_singleton.1 hi]
        trivial
  · cases hi

theorem allArguments_of_stand (h : s.Stand c) : allArguments c.flags s.env (readEntries s.disk)
    (wordsOf s.items) = .ok (wordsOf (s.direct c)) := by
  have stands : ∀ i ∈ s.direct c, i.Stands c.flags :=
    List.forall_mem_append.2 ⟨stands_fromVariables, h.stands⟩
  have hhelp := asksHelp_eq_false (isOf_direct h.areOf) stands
  have hfile : argumentFile? c.flags s.env (wordsOf (s.direct c)) = none := by
    rw [argumentFile?_direct h.areOf stands, h.fileless]
    rfl
  have hbefore : withVariables c.flags s.env (wordsOf s.items) = .ok (wordsOf (s.direct c)) := by
    have said : ∀ f ∈ c.flags, holds (wordsOf s.items) f.spellings = false → IsSaid s.env f := by
      intro f hf hholds
      by_cases help : f = .help
      · subst help
        nofun
      · refine h.said f hf (by_contra fun hvalues => ?_)
        rw [(holds_wordsOf h.stands help hf).2 hvalues] at hholds
        cases hholds
    obtain ⟨held, hheld⟩ := exists_argumentsOfVariables said
    rw [withVariables, hheld, argumentsOfVariables_eq_ok hheld, ← Sources.fromVariables,
      Sources.direct, wordsOf_append]
    rfl
  refine bind_eq_ok_iff.2 ⟨_, mapError_eq_ok_iff.2 hbefore, ?_⟩
  rw [hhelp, if_neg Bool.false_ne_true, hfile]
  rfl

/-- **Sources of a command give what they hold**, and nothing is left over. -/
theorem exists_parseAll (h : s.Stand c) :
    ∃ g, parseAll c.flags s.env (readEntries s.disk) (wordsOf s.items) = .ok g := by
  have hof := isOf_direct h.areOf
  have stands : ∀ i ∈ s.direct c, i.Stands c.flags :=
    List.forall_mem_append.2 ⟨stands_fromVariables, h.stands⟩
  have hread := read_eq .all hof stands
  have hpassed : (s.direct c).flatMap (Item.passed c.flags) = [] :=
    List.flatMap_eq_nil_iff.2 fun i hi => if_pos (hof i hi).known
  rw [hpassed] at hread
  have hparse : parse c.flags s.env (readEntries s.disk) (wordsOf s.items) =
      .ok ⟨(s.direct c).flatMap (Item.taken c.flags), []⟩ :=
    bind_eq_ok_iff.2 ⟨_, allArguments_of_stand h, by rw [hread]; rfl⟩
  exact ⟨_, bind_eq_ok_iff.2 ⟨_, hparse, rfl⟩⟩

/-- **A flag has the values of one source**: of the command line, else of its variable, else of the
argument file. -/
theorem all_of_parse (plain : s.AreOf c)
    (parsed : parse c.flags s.env (readEntries s.disk) (wordsOf s.items) = .ok g)
    (hf : f ∈ c.flags) (help : f ≠ .help) : g.all f = s.values f := by
  obtain ⟨items, hof, hread, hvalues⟩ := exists_items_of_parse plain parsed
  rw [all_eq_valuesOf (flags_of_read hof hread) hf, hvalues f hf help]

end

end Issuer.CommandLine
