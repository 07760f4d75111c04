import Issuer.Proofs.CommandLine.Arguments
/-!
# Where the values of flags come from

The values of a flag are those of the command line; else that of its variable; else those of the
argument file.  No flag has values of two sources, so that it does not matter in which order the
sources are read.
-/
namespace Issuer.CommandLine

def valuesOf (items : List Item) (f : Flag) : List Text :=
  (items.filter fun i => i.flag = f).map Item.value

section

variable {c : Category} {items : List Item} {f : Flag}

theorem valuesOf_append (items others : List Item) (f : Flag) :
    valuesOf (items ++ others) f = valuesOf items f ++ valuesOf others f := by
  rw [valuesOf, List.filter_append, List.map_append]
  rfl

theorem valuesOf_eq_nil_iff : valuesOf items f = [] ↔ ∀ i ∈ items, i.flag ≠ f := by
  simp [valuesOf]

/-! ## What is read -/

theorem Given.last?_eq (g : Given) (f : Flag) : g.last? f = (g.all f).getLast? :=
  List.getLast?_map.symm

theorem Given.has_iff (g : Given) (f : Flag) : g.has f = true ↔ g.all f ≠ [] := by
  rw [Given.has, Given.all]
  simp

theorem all_eq_valuesOf {known : List Flag} {g : Given}
    (read : g.flags = items.flatMap (Item.taken known)) (knows : f ∈ known) :
    g.all f = valuesOf items f := by
  rw [Given.all, read]
  clear read
  induction items with
  | nil => rfl
  | cons i items ih =>
    rw [List.flatMap_cons, List.filter_append, List.map_append, ih, valuesOf, valuesOf,
      List.filter_cons]
    by_cases heq : i.flag = f
    · have htaken : i.taken known = [(i.flag, i.value)] := if_pos (heq ▸ knows)
      rw [htaken, heq, if_pos (decide_eq_true rfl)]
      simp
    · have hnone : (i.taken known).filter (fun p => p.1 == f) = [] := by
        rw [Item.taken]
        split
        · simp [heq]
        · rfl
      rw [hnone, if_neg (by simp [heq])]
      rfl

/-! ## What arguments hold -/

theorem spellingsIn_append (words others : List Text) :
    spellingsIn (words ++ others) = spellingsIn words ++ spellingsIn others :=
  List.map_append ..

theorem holds_append (words others spellings : List Text) :
    holds (words ++ others) spellings = (holds words spellings || holds others spellings) := by
  rw [holds, spellingsIn_append, List.any_append]
  rfl

theorem spellings_eq (help : f ≠ .help) (hf : f ∈ c.flags) : f.spellings = [f.long] := by
  have all : ∀ f ∈ c.flags, f ≠ .help → f.spellings = [f.long] := by cases c <;> decide
  exact all f hf help

theorem startsWith_dash_iff {t : Text} :
    t.startsWith "-" = true ↔ ∃ rest, t = ('-' : CodePoint) :: rest := by
  cases t with
  | nil => simp [Text.startsWith, Text.afterPrefix?, Text.ofString]
  | cons d rest =>
    have hdash : Text.startsWith (d :: rest) "-" =
        (if ('-' : CodePoint) = d then some rest else none).isSome := rfl
    rw [hdash]
    by_cases hd : ('-' : CodePoint) = d
    · subst hd
      simp
    · rw [if_neg hd]
      constructor
      · intro h
        cases h
      · rintro ⟨tail, heq⟩
        exact absurd (List.cons.inj heq).1.symm hd

theorem holds_singleton (w spelling : Text) :
    holds [w] [spelling] = ((if w.startsWith "-" then (splitEquals w).1 else w) == spelling) := by
  simp only [holds, spellingsIn, List.map_cons, List.map_nil, List.any_cons, List.any_nil,
    List.contains_cons, List.contains_nil, Bool.or_false]

theorem holds_itself {t : Text} (hf : f ∈ c.flags) (h : lookOf c.flags t = .ok .itself) :
    holds [t] [f.long] = false := by
  obtain ⟨tail, hlong⟩ := exists_long_eq f
  have hlookup := lookup_long .all hf
  rw [if_pos hf] at hlookup
  have hne : ∀ {w : Text}, (spelled c.flags).lookup w = none → w ≠ f.long := by
    rintro w hw rfl
    rw [hlookup] at hw
    cases hw
  rw [holds_singleton, beq_eq_false_iff_ne]
  split
  · rename_i hdash
    obtain ⟨rest, rfl⟩ := startsWith_dash_iff.1 hdash
    obtain ⟨hnone, rfl | ⟨hnone' | hhead, -⟩⟩ := (lookOf_dash_eq_itself_iff rfl).1 h
    · rw [hlong]
      nofun
    · have hwhole : (splitEquals (('-' : CodePoint) :: rest)).1 = ('-' : CodePoint) :: rest := by
        unfold splitEquals at hnone' ⊢
        split at hnone'
        · cases hnone'
        · rfl
      rw [hwhole]
      exact hne hnone
    · exact hne hhead
  · rename_i hdash
    rintro rfl
    exact hdash (startsWith_dash_iff.2 ⟨_, hlong⟩)

theorem holds_long (g : Flag) : holds [g.long] [f.long] = decide (g = f) := by
  cases g <;> cases f <;> rfl

theorem holds_assignment (g : Flag) (t : Text) :
    holds [assignment g.long t] [f.long] = decide (g = f) := by
  obtain ⟨rest, htext⟩ := exists_assignment_eq g t
  obtain ⟨tail, hlong⟩ := exists_long_eq g
  rw [← holds_long, holds_singleton, holds_singleton,
    if_pos (startsWith_dash_iff.2 ⟨_, htext⟩), if_pos (startsWith_dash_iff.2 ⟨_, hlong⟩),
    splitEquals_assignment, splitEquals_long]

theorem holds_words {i : Item} (stands : i.Stands c.flags) (hf : f ∈ c.flags) :
    holds i.words [f.long] = decide (i.flag = f) := by
  cases i with
  | bare g => exact holds_long g
  | apart g t =>
    have hwords : (Item.apart g t).words = [g.long] ++ [t] := rfl
    rw [hwords, holds_append, holds_long, holds_itself hf stands.2, Bool.or_false]
    rfl
  | joined g t => exact holds_assignment g t

/-- **Arguments hold a flag exactly if they give it a value.** -/
theorem holds_wordsOf (stands : ∀ i ∈ items, i.Stands c.flags) (help : f ≠ .help)
    (hf : f ∈ c.flags) : holds (wordsOf items) f.spellings = true ↔ valuesOf items f ≠ [] := by
  rw [spellings_eq help hf, ne_eq, valuesOf_eq_nil_iff]
  induction items with
  | nil => simp [wordsOf, holds, spellingsIn]
  | cons i items ih =>
    rw [List.forall_mem_cons] at stands ⊢
    have hwords : wordsOf (i :: items) = i.words ++ wordsOf items := List.flatMap_cons
    rw [hwords, holds_append, holds_words stands.1 hf, Bool.or_eq_true, ih stands.2,
      decide_eq_true_eq, not_and_or, not_not]

/-! ## Variables -/

def environmentValue? (env : Environment) (f : Flag) : Option Text := do
  let name ← f.variableName?
  env.lookup name

def Item.ofVariable (f : Flag) (value : Text) : List Item :=
  if f.arity = .switch then
    if switchWords.lookup (value.map CodePoint.asciiLower) = some true then [.bare f] else []
  else [.joined f value]

theorem argumentsOfText_eq_ok {key value : Text} {arguments : List Text}
    (h : argumentsOfText f key value = .ok arguments) :
    arguments = wordsOf (Item.ofVariable f value) := by
  unfold argumentsOfText at h
  rw [Item.ofVariable]
  split at h
  · rename_i hswitch
    rw [if_pos hswitch]
    split at h
    · rename_i hword
      rw [if_pos hword]
      exact (Except.ok.inj h).symm
    · rename_i hword
      rw [if_neg (by rw [hword]; decide)]
      exact (Except.ok.inj h).symm
    · cases h
  · rename_i hswitch
    rw [if_neg hswitch]
    exact (Except.ok.inj h).symm

theorem flag_of_mem_ofVariable {value : Text} {i : Item} (h : i ∈ Item.ofVariable f value) :
    i.flag = f := by
  rw [Item.ofVariable] at h
  split at h
  · split at h
    · rw [List.mem_singleton.1 h]
      rfl
    · cases h
  · rw [List.mem_singleton.1 h]
    rfl

/-- What a variable gives besides arguments: nothing where they hold its flag. -/
def variableItems (env : Environment) (arguments : List Text) (f : Flag) : List Item :=
  match environmentValue? env f with
  | some value => if holds arguments f.spellings then [] else Item.ofVariable f value
  | none => []

theorem flag_of_mem_variableItems {env : Environment} {arguments : List Text} {i : Item}
    (h : i ∈ variableItems env arguments f) : i.flag = f := by
  unfold variableItems at h
  split at h
  · split at h
    · cases h
    · exact flag_of_mem_ofVariable h
  · cases h

theorem contains_variablesFor {flags : List Flag} {env : Environment} {arguments : List Text}
    (hf : f ∈ flags) : ((variablesFor flags env arguments).map (·.1)).contains f = true ↔
      (environmentValue? env f).isSome = true ∧ holds arguments f.spellings = false := by
  rw [List.contains_iff_mem, List.mem_map, variablesFor]
  constructor
  · rintro ⟨⟨g, name, value⟩, hmem, rfl⟩
    obtain ⟨g', -, hgiven⟩ := List.mem_filterMap.1 hmem
    obtain ⟨name', hname, hgiven⟩ := Option.bind_eq_some_iff.1 hgiven
    obtain ⟨value', hvalue, hgiven⟩ := Option.bind_eq_some_iff.1 hgiven
    split at hgiven
    · cases hgiven
    · rename_i hholds
      cases hgiven
      refine ⟨?_, Bool.eq_false_iff.2 hholds⟩
      rw [environmentValue?, hname]
      exact Option.isSome_iff_exists.2 ⟨_, hvalue⟩
  · rintro ⟨hset, hholds⟩
    obtain ⟨value, hvalue⟩ := Option.isSome_iff_exists.1 hset
    obtain ⟨name, hname, hvalue⟩ := Option.bind_eq_some_iff.1 hvalue
    refine ⟨(f, name, value), List.mem_filterMap.2 ⟨f, hf, ?_⟩, rfl⟩
    simp [hname, hvalue, hholds]

theorem variablesFor_cons (flags : List Flag) (env : Environment) (arguments : List Text) :
    (variablesFor (f :: flags) env arguments = variablesFor flags env arguments ∧
      variableItems env arguments f = []) ∨
    ∃ name value, variablesFor (f :: flags) env arguments =
        (f, name, value) :: variablesFor flags env arguments ∧
      environmentValue? env f = some value ∧ holds arguments f.spellings = false ∧
      variableItems env arguments f = Item.ofVariable f value := by
  cases hname : f.variableName? with
  | none =>
    left
    simp [variablesFor, variableItems, environmentValue?, hname]
  | some name =>
    cases hvalue : env.lookup name with
    | none =>
      left
      simp [variablesFor, variableItems, environmentValue?, hname, hvalue]
    | some value =>
      cases hholds : holds arguments f.spellings with
      | true =>
        left
        simp [variablesFor, variableItems, environmentValue?, hname, hvalue, hholds]
      | false =>
        right
        refine ⟨name, value, ?_⟩
        simp [variablesFor, variableItems, environmentValue?, hname, hvalue, hholds]

theorem argumentsOfVariables_eq_ok {env : Environment} {arguments : List Text} :
    ∀ {flags : List Flag} {words : List Text},
      argumentsOfVariables (variablesFor flags env arguments) = .ok words →
      words = wordsOf (flags.flatMap (variableItems env arguments))
  | [], _, h => (Except.ok.inj h).symm
  | f :: flags, words, h => by
    rw [List.flatMap_cons]
    obtain ⟨hfor, hitems⟩ | ⟨name, value, hfor, -, -, hitems⟩ :=
      variablesFor_cons flags env arguments
    · rw [hfor] at h
      rw [hitems]
      exact argumentsOfVariables_eq_ok h
    · rw [hfor] at h
      obtain ⟨first, hfirst, h⟩ := bind_eq_ok_iff.1 h
      obtain ⟨others, hothers, h⟩ := bind_eq_ok_iff.1 h
      obtain rfl := Except.ok.inj h
      rw [hitems, argumentsOfText_eq_ok hfirst, argumentsOfVariables_eq_ok hothers, wordsOf,
        wordsOf, wordsOf, List.flatMap_append]

/-- A variable that stands for a switch says whether it is set. -/
def IsSaid (env : Environment) (f : Flag) : Prop :=
  f.arity = .switch → ∀ value ∈ environmentValue? env f,
    (switchWords.lookup (value.map CodePoint.asciiLower)).isSome = true

instance (env : Environment) (f : Flag) : Decidable (IsSaid env f) :=
  inferInstanceAs (Decidable (_ → ∀ value ∈ environmentValue? env f, _))

theorem exists_argumentsOfText {env : Environment} {value : Text} (said : IsSaid env f)
    (hvalue : environmentValue? env f = some value) (key : Text) :
    ∃ words, argumentsOfText f key value = .ok words := by
  unfold argumentsOfText
  split
  · rename_i hswitch
    obtain ⟨word, hword⟩ := Option.isSome_iff_exists.1 (said hswitch value hvalue)
    rw [hword]
    cases word with
    | true => exact ⟨_, rfl⟩
    | false => exact ⟨_, rfl⟩
  · exact ⟨_, rfl⟩

theorem exists_argumentsOfVariables {env : Environment} {arguments : List Text} :
    ∀ {flags : List Flag},
      (∀ f ∈ flags, holds arguments f.spellings = false → IsSaid env f) →
      ∃ words, argumentsOfVariables (variablesFor flags env arguments) = .ok words
  | [], _ => ⟨[], rfl⟩
  | f :: flags, said => by
    rw [List.forall_mem_cons] at said
    obtain ⟨others, hothers⟩ := exists_argumentsOfVariables said.2
    obtain ⟨hfor, -⟩ | ⟨name, value, hfor, hvalue, hholds, -⟩ :=
      variablesFor_cons flags env arguments
    · exact ⟨others, by rw [hfor, hothers]⟩
    · obtain ⟨first, hfirst⟩ := exists_argumentsOfText (said.1 hholds) hvalue name
      refine ⟨first ++ others, ?_⟩
      rw [hfor, argumentsOfVariables, hfirst, hothers]
      rfl

theorem valuesOf_flatMap {itemsOf : Flag → List Item}
    (own : ∀ g, ∀ i ∈ itemsOf g, i.flag = g) : ∀ {flags : List Flag}, flags.Nodup → f ∈ flags →
      valuesOf (flags.flatMap itemsOf) f = valuesOf (itemsOf f) f
  | g :: flags, distinct, hf => by
    rw [List.nodup_cons] at distinct
    have hnone : ∀ {others : List Flag}, f ∉ others → valuesOf (others.flatMap itemsOf) f = [] := by
      intro others hothers
      refine valuesOf_eq_nil_iff.2 fun i hi heq => hothers ?_
      obtain ⟨h, hh, hi⟩ := List.mem_flatMap.1 hi
      rwa [← heq, own h i hi]
    rw [List.flatMap_cons, valuesOf_append]
    by_cases hg : f = g
    · subst hg
      rw [hnone distinct.1, List.append_nil]
    · have hflag : valuesOf (itemsOf g) f = [] :=
        valuesOf_eq_nil_iff.2 fun i hi heq => hg (heq.symm.trans (own g i hi))
      rw [hflag, List.nil_append]
      exact valuesOf_flatMap own distinct.2 ((List.mem_cons.1 hf).resolve_left hg)

/-! ## The argument file -/

/-- Whether a key names a flag: by its long spelling, with the dashes or without. -/
def names (key : Yaml) (f : Flag) : Bool :=
  match key with
  | .str key => f.long == key || f.long == "--" ++ key
  | _ => false

def textsOf : Yaml → List Text
  | .str t => [t]
  | .list items => items.filterMap fun v => match v with
    | .str t => some t
    | _ => none
  | _ => []

/-- Whether a value can be given to a flag: a string, or strings if the flag collects. -/
def isGivable : Arity → Yaml → Bool
  | .one, .str _ => true
  | .each, .list items => items.all fun v => (v matches .str _)
  | _, _ => false

/-- An entry of an argument file gives a flag a value. -/
structure Gives (entry : Yaml × Yaml) (f : Flag) : Prop where
  named : names entry.1 f = true
  apart : f ≠ .argumentFile
  valued : isGivable f.arity entry.2 = true

instance (entry : Yaml × Yaml) (f : Flag) : Decidable (Gives entry f) :=
  decidable_of_iff (names entry.1 f = true ∧ f ≠ .argumentFile ∧ isGivable f.arity entry.2 = true)
    ⟨fun h => ⟨h.1, h.2.1, h.2.2⟩, fun h => ⟨h.named, h.apart, h.valued⟩⟩

def entryValues (entries : Entries) (f : Flag) : List Text :=
  entries.flatMap fun entry => if names entry.1 f then textsOf entry.2 else []

theorem eq_of_names {key : Yaml} {g : Flag} (hf : names key f = true) (hg : names key g = true) :
    f = g := by
  have hinj : ∀ f g : Flag, f.long = g.long → f = g := by
    intro f g
    cases f <;> cases g <;> decide
  have hdashes : ∀ f g : Flag, f.long ≠ "--" ++ g.long := by
    intro f g
    cases f <;> cases g <;> decide
  cases key with
  | str key =>
    simp only [names, Bool.or_eq_true, beq_iff_eq] at hf hg
    obtain hf | hf := hf <;> obtain hg | hg := hg
    · exact hinj f g (hf.trans hg.symm)
    · exact absurd (hf ▸ hg) (hdashes g f)
    · exact absurd (hg ▸ hf) (hdashes f g)
    · exact hinj f g (hf.trans hg.symm)
  | _ => cases hf

theorem flagOfKey?_eq {key : Yaml} {flags : List Flag} (hf : f ∈ flags)
    (named : names key f = true) : flagOfKey? flags key = some f := by
  cases key with
  | str key =>
    obtain ⟨g, hg⟩ := Option.isSome_iff_exists.1 (List.find?_isSome.2 ⟨f, hf, named⟩)
    have hname : names (.str key) g = true := List.find?_some hg
    rw [eq_of_names named hname]
    exact hg
  | _ => cases named

section

variable {given : List Flag} {before : List Text} {entry : Yaml × Yaml}

theorem textsOf_list (ts : List Text) : textsOf (.list (ts.map .str)) = ts := by
  rw [textsOf, List.filterMap_map]
  exact List.filterMap_some

theorem exists_of_isGivable {arity : Arity} {value : Yaml} (h : isGivable arity value = true) :
    (arity = .one ∧ ∃ t, value = .str t) ∨
      (arity = .each ∧ ∃ ts : List Text, value = .list (ts.map .str)) := by
  unfold isGivable at h
  split at h
  · exact .inl ⟨rfl, _, rfl⟩
  · rename_i items
    refine .inr ⟨rfl, textsOf (.list items), ?_⟩
    congr 1
    rw [textsOf]
    induction items with
    | nil => rfl
    | cons v items ih =>
      rw [List.all_cons, Bool.and_eq_true] at h
      cases v with
      | str t => exact congrArg (Yaml.str t :: ·) (ih h.2)
      | _ => cases h.1
  · cases h

theorem entryValues_eq_nil {entries : Entries} (given : ∀ e ∈ entries, ∃ g ∈ c.flags, Gives e g)
    (never : f ∈ c.flags → ∀ e, ¬Gives e f) : entryValues entries f = [] := by
  refine List.flatMap_eq_nil_iff.2 fun e he => ?_
  obtain ⟨g, hg, hgives⟩ := given e he
  split
  · rename_i hnames
    obtain rfl := eq_of_names hgives.named hnames
    exact absurd hgives (never hg e)
  · rfl

theorem takesArgument_of_gives (h : Gives entry f) : f.takesArgument = true := by
  rw [Flag.takesArgument]
  obtain ⟨hone, -⟩ | ⟨heach, -⟩ := exists_of_isGivable h.valued
  · rw [hone]
    rfl
  · rw [heach]
    rfl

theorem argumentsOfValue_of_gives (h : Gives entry f) (key : Text) :
    argumentsOfValue (some f) key f.long entry.2 =
      .ok (wordsOf ((textsOf entry.2).map (.joined f))) := by
  obtain ⟨hone, t, ht⟩ | ⟨heach, ts, hts⟩ := exists_of_isGivable h.valued
  · rw [ht]
    change (argumentsOfText f key t).mapError Stop.refused = _
    rw [argumentsOfText, if_neg (by rw [hone]; decide)]
    rfl
  · rw [hts, textsOf_list]
    change argumentsOfList (some f) key f.long (ts.map .str) = _
    unfold argumentsOfList
    simp only [heach, List.map_map]
    rw [wordsOf, List.flatMap_map, List.map_eq_flatMap]
    rfl

theorem valuesOf_joined (g f : Flag) (ts : List Text) :
    valuesOf (ts.map (.joined g)) f = if g = f then ts else [] := by
  split
  · rename_i heq
    subst heq
    rw [valuesOf, List.filter_eq_self.2 (by simp [Item.flag]), List.map_map]
    exact List.map_id ts
  · rename_i hne
    exact valuesOf_eq_nil_iff.2 (by simpa [Item.flag] using fun _ _ => hne)

theorem argumentsOfEntry_of_gives {g : Flag} (hg : g ∈ c.flags) (h : Gives entry g) :
    ∃ items collects,
    argumentsOfEntry c.flags given before entry.1 entry.2 = .ok (wordsOf items, collects) ∧
      (∀ i ∈ items, i.IsOf c) ∧ ∀ f, valuesOf items f =
        if given.contains f || holds before f.spellings then []
        else if names entry.1 f then textsOf entry.2 else [] := by
  have hstep : argumentsOfEntry c.flags given before entry.1 entry.2 =
      if given.contains g || holds before g.spellings then .ok ([], false)
      else (argumentsOfValue (some g) entry.1.display g.long entry.2).map
        fun words => (words, decide (g.arity = .each)) := by
    unfold argumentsOfEntry
    rw [flagOfKey?_eq hg h.named]
    obtain ⟨-, t, ht⟩ | ⟨-, ts, hts⟩ := exists_of_isGivable h.valued
    · rw [ht]
      dsimp only
      rw [Bool.or_false]
      rfl
    · rw [hts]
      dsimp only
      rw [Bool.or_false]
      rfl
  have hnames : ∀ f, names entry.1 f = decide (g = f) := fun f => by
    rw [Bool.eq_iff_iff, decide_eq_true_eq]
    exact ⟨fun hf => eq_of_names h.named hf, fun heq => heq ▸ h.named⟩
  rw [hstep, argumentsOfValue_of_gives h]
  cases hskip : given.contains g || holds before g.spellings with
  | true =>
    refine ⟨[], false, rfl, nofun, fun f => ?_⟩
    by_cases heq : g = f
    · subst heq
      rw [if_pos hskip]
      rfl
    · rw [hnames, decide_eq_false heq, if_neg Bool.false_ne_true, ite_self]
      rfl
  | false =>
    refine ⟨(textsOf entry.2).map (.joined g), _, rfl, fun i hi => ?_, fun f => ?_⟩
    · obtain ⟨t, -, rfl⟩ := List.mem_map.1 hi
      exact ⟨hg, takesArgument_of_gives h⟩
    · rw [valuesOf_joined, hnames]
      by_cases heq : g = f
      · subst heq
        rw [hskip, if_pos rfl, if_neg Bool.false_ne_true, if_pos (decide_eq_true rfl)]
      · rw [if_neg heq, decide_eq_false heq, if_neg Bool.false_ne_true, ite_self]

/-- **What the entries of a file give** besides arguments are flags spelt in full: those that the
arguments do not hold, and no variable gives, with all their strings. -/
theorem argumentsOfEntries_of_gives : ∀ {entries : Entries},
    (∀ e ∈ entries, ∃ f ∈ c.flags, Gives e f) → ∃ items collects,
      argumentsOfEntries c.flags given before entries = .ok (wordsOf items, collects) ∧
      (∀ i ∈ items, i.IsOf c) ∧ ∀ f, valuesOf items f =
        if given.contains f || holds before f.spellings then [] else entryValues entries f
  | [], _ => ⟨[], false, rfl, nofun, fun f => by split <;> rfl⟩
  | entry :: entries, h => by
    rw [List.forall_mem_cons] at h
    obtain ⟨⟨g, hknown, hg⟩, h⟩ := h
    obtain ⟨first, collects, hfirst, hfirstOf, hfirstValues⟩ :
      ∃ items collects,
        argumentsOfEntry c.flags given before entry.1 entry.2 = .ok (wordsOf items, collects) ∧
        (∀ i ∈ items, i.IsOf c) ∧ ∀ f, valuesOf items f =
          if given.contains f || holds before f.spellings then []
          else if names entry.1 f then textsOf entry.2 else [] :=
      argumentsOfEntry_of_gives hknown hg
    obtain ⟨others, collect, hothers, hof, hvalues⟩ := argumentsOfEntries_of_gives h
    refine ⟨first ++ others, collects || collect, ?_, ?_, fun f => ?_⟩
    · rw [argumentsOfEntries, hfirst]
      change (argumentsOfEntries c.flags given before entries >>= _) = _
      rw [hothers, wordsOf, wordsOf, wordsOf, List.flatMap_append]
      rfl
    · exact List.forall_mem_append.2 ⟨hfirstOf, hof⟩
    · rw [valuesOf_append, hfirstValues, hvalues]
      split
      · rfl
      · rfl

/-! ## Any file -/

theorem isSingle_ofVariable (hf : f ∈ c.flags) (value : Text) :
    ∀ w ∈ wordsOf (Item.ofVariable f value), IsSingle c w := by
  intro w hw
  rw [Item.ofVariable] at hw
  split at hw
  · rename_i hswitch
    split at hw
    · rw [List.mem_singleton.1 hw]
      exact .bare hf (by rw [Flag.takesArgument, hswitch]; rfl)
    · cases hw
  · rw [List.mem_singleton.1 hw]
    exact isSingle_assignment f value

theorem isSingle_of_argumentsOfText (hf : f ∈ c.flags) {key value : Text} {words : List Text}
    (h : (argumentsOfText f key value).mapError Stop.refused = .ok words) :
    ∀ w ∈ words, IsSingle c w := by
  rw [argumentsOfText_eq_ok (mapError_eq_ok_iff.1 h)]
  exact isSingle_ofVariable hf value

theorem isSingle_of_argumentsOfValue {flag : Option Flag} (hflag : ∀ f ∈ flag, f ∈ c.flags)
    {key spelling : Text} (hspelling : ∃ name : Text, spelling = "--" ++ name) {value : Yaml}
    {words : List Text} (h : argumentsOfValue flag key spelling value = .ok words) :
    ∀ w ∈ words, IsSingle c w := by
  obtain ⟨name, rfl⟩ := hspelling
  have hone : ∀ t : Text, ∀ w ∈ [assignment ("--" ++ name) t], IsSingle c w := by
    intro t w hw
    rw [List.mem_singleton.1 hw]
    exact .assigned name t
  have heach : ∀ items : List Yaml, ∀ w ∈ items.map fun v => assignment ("--" ++ name) v.display,
      IsSingle c w := by
    intro items w hw
    obtain ⟨v, -, rfl⟩ := List.mem_map.1 hw
    exact .assigned name v.display
  unfold argumentsOfValue at h
  split at h
  · obtain rfl := Except.ok.inj h
    nofun
  · unfold argumentsOfList at h
    split at h
    · obtain rfl := Except.ok.inj h
      exact heach _
    · split at h
      · obtain rfl := Except.ok.inj h
        exact heach _
      · cases h
      · cases h
      · cases h
  · split at h
    · exact isSingle_of_argumentsOfText (hflag _ rfl) h
    · obtain rfl := Except.ok.inj h
      exact hone _

theorem mem_of_flagOfKey? {flags : List Flag} {key : Yaml} (h : flagOfKey? flags key = some f) :
    f ∈ flags := by
  cases key with
  | str key => exact List.mem_of_find?_eq_some h
  | _ => cases h

theorem dashes_of_unknownSpelling {key : Yaml} {spelling : Text}
    (h : unknownSpelling key = .ok spelling) : ∃ name : Text, spelling = "--" ++ name := by
  cases key with
  | str key => exact ⟨_, (Except.ok.inj h).symm⟩
  | _ => cases h

theorem argumentsOfEntry_eq_ok {key value : Yaml} {words : List Text} {collects : Bool}
    (h : argumentsOfEntry c.flags given before key value = .ok (words, collects)) :
    words = [] ∨ ∃ (flag : Option Flag) (spelling : Text), (∀ f ∈ flag, f ∈ c.flags) ∧
      (∃ name : Text, spelling = "--" ++ name) ∧
      argumentsOfValue flag key.display spelling value = .ok words := by
  unfold argumentsOfEntry at h
  cases hflag : flagOfKey? c.flags key with
  | some f =>
    simp only [hflag] at h
    split_ifs at h
    · exact .inl (Prod.mk.inj (Except.ok.inj h)).1.symm
    · obtain ⟨words, hwords, h⟩ := bind_eq_ok_iff.1 h
      obtain rfl := (Prod.mk.inj (Except.ok.inj h)).1
      refine .inr ⟨some f, f.long, ?_, exists_long_eq f, hwords⟩
      rintro g ⟨⟩
      exact mem_of_flagOfKey? hflag
  | none =>
    simp only [hflag] at h
    split_ifs at h
    · exact .inl (Prod.mk.inj (Except.ok.inj h)).1.symm
    · obtain ⟨spelling, hspelling, h⟩ := bind_eq_ok_iff.1 h
      split_ifs at h
      · exact .inl (Prod.mk.inj (Except.ok.inj h)).1.symm
      · obtain ⟨words, hwords, h⟩ := bind_eq_ok_iff.1 h
        obtain rfl := (Prod.mk.inj (Except.ok.inj h)).1
        exact .inr ⟨none, spelling, nofun,
          dashes_of_unknownSpelling (mapError_eq_ok_iff.1 hspelling), hwords⟩

theorem isSingle_of_argumentsOfEntries :
    ∀ {entries : Entries} {words : List Text} {collects : Bool},
    argumentsOfEntries c.flags given before entries = .ok (words, collects) →
      ∀ w ∈ words, IsSingle c w
  | [], words, _, h => by
    obtain rfl := (Prod.mk.inj (Except.ok.inj h)).1
    nofun
  | (key, value) :: entries, words, _, h => by
    obtain ⟨⟨first, collects⟩, hfirst, h⟩ := bind_eq_ok_iff.1 h
    obtain ⟨⟨others, collect⟩, hothers, h⟩ := bind_eq_ok_iff.1 h
    obtain rfl := (Prod.mk.inj (Except.ok.inj h)).1
    refine List.forall_mem_append.2 ⟨?_, isSingle_of_argumentsOfEntries hothers⟩
    obtain rfl | ⟨flag, spelling, hflag, hspelling, hwords⟩ := argumentsOfEntry_eq_ok hfirst
    · nofun
    · exact isSingle_of_argumentsOfValue hflag hspelling hwords

end

end

end Issuer.CommandLine
