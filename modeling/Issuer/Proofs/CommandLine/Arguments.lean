import Issuer.Proofs.CommandLine.Look
import Issuer.Proofs.Except
/-!
# Flags that are spelt in full

A command line may be a list of flags that are spelt in full, each with its value behind it or
behind an equals sign.  Where it is read to its end, every value that stands alone is one that
stands for itself, and the flags are read one by one; also by a reader that knows only some of the
flags, which passes over the others.
-/
namespace Issuer.CommandLine

/-- A flag that is spelt in full. -/
inductive Item where
  | bare (f : Flag)
  | apart (f : Flag) (value : Text)
  | joined (f : Flag) (value : Text)
  deriving DecidableEq

namespace Item

def flag : Item → Flag
  | bare f | apart f _ | joined f _ => f

def value : Item → Text
  | bare _ => []
  | apart _ t | joined _ t => t

/-- Whether a flag is spelt without a value. -/
def isBare : Item → Bool
  | bare _ => true
  | apart .. | joined .. => false

def words : Item → List Text
  | bare f => [f.long]
  | apart f t => [f.long, t]
  | joined f t => [assignment f.long t]

structure IsOf (c : Category) (i : Item) : Prop where
  known : i.flag ∈ c.flags
  valued : i.flag.takesArgument = !i.isBare

instance (c : Category) (i : Item) : Decidable (i.IsOf c) :=
  decidable_of_iff (i.flag ∈ c.flags ∧ i.flag.takesArgument = !i.isBare)
    ⟨fun h => ⟨h.1, h.2⟩, fun h => ⟨h.known, h.valued⟩⟩

end Item

def wordsOf (items : List Item) : List Text := items.flatMap Item.words

/-! ## One flag -/

/-- A flag can be read to its end: it is not that for help, and its value is taken for one. -/
def Item.Stands (known : List Flag) : Item → Prop
  | .bare f => f ≠ .help
  | .apart _ t => t ≠ ("--" : Text) ∧ lookOf known t = .ok .itself
  | .joined _ _ => True

def Item.taken (known : List Flag) (i : Item) : List (Flag × Text) :=
  if i.flag ∈ known then [(i.flag, i.value)] else []

def Item.passed (known : List Flag) (i : Item) : List Text :=
  if i.flag ∈ known then [] else i.words

section

variable {c : Category} {known : List Flag} {i : Item}

theorem looks_cons {w : Text} {look : Look} {rest : List Text} {args : List Argument}
    (hw : w ≠ ("--" : Text)) (hlook : lookOf known w = .ok look)
    (hrest : looks known rest = .ok args) : looks known (w :: rest) = .ok ((w, look) :: args) := by
  rw [looks, if_neg hw, hlook, hrest]
  rfl

theorem long_ne_separator (f : Flag) : f.long ≠ ("--" : Text) := by
  cases f <;> decide

theorem assignment_ne_separator (f : Flag) (t : Text) : assignment f.long t ≠ ("--" : Text) := by
  intro heq
  have hmem : ('=' : CodePoint) ∈ assignment f.long t := by simp [assignment, Text.ofString]
  rw [heq] at hmem
  exact absurd hmem (by decide)

/-! ## Steps of the reader -/

section

variable {f : Flag} {w spelling t : Text} {look : Look} (g : Given) (args : List Argument)

theorem consume_extra (h : look = .itself ∨ look = .unknown) :
    consume known g ((w, look) :: args) = consume known (g.addExtra w) args := by
  obtain rfl | rfl := h <;> rfl

theorem consume_bare (takes : f.takesArgument = false) (help : f ≠ .help) :
    consume known g ((w, .flag f spelling none) :: args) = consume known (g.add f []) args := by
  conv_lhs => unfold consume
  simp only [takes, Bool.false_eq_true, if_false, switches, addSwitches, help]

theorem consume_help : (consume known g ((w, .flag .help spelling none) :: args)).2 ≠ none := by
  unfold consume
  nofun

theorem consume_joined (takes : f.takesArgument = true) :
    consume known g ((w, .flag f spelling (some t)) :: args) = consume known (g.add f t) args := by
  conv_lhs => unfold consume
  rw [if_pos takes]

theorem consume_apart (takes : f.takesArgument = true) :
    consume known g ((w, .flag f spelling none) :: (t, .itself) :: args) =
      consume known (g.add f t) args := by
  conv_lhs => unfold consume
  rw [if_pos takes]

theorem consume_missing (takes : f.takesArgument = true)
    (h : ∀ t rest, args ≠ (t, .itself) :: rest) :
    (consume known g ((w, .flag f spelling none) :: args)).2 ≠ none := by
  unfold consume
  rw [if_pos takes]
  match args with
  | [] => nofun
  | (t, .itself) :: rest => exact absurd rfl (h t rest)
  | (_, .separator) :: _ | (_, .flag ..) :: _ | (_, .unknown) :: _ => nofun

end

structure IsRead (known : List Flag) (i : Item) (args : List Argument) : Prop where
  looks : ∀ {rest restArgs}, CommandLine.looks known rest = .ok restArgs →
    CommandLine.looks known (i.words ++ rest) = .ok (args ++ restArgs)
  consume : ∀ (g : Given) restArgs, CommandLine.consume known g (args ++ restArgs) =
    CommandLine.consume known ⟨g.flags ++ i.taken known, g.extras ++ i.passed known⟩ restArgs

theorem exists_isRead_of_known (reader : IsReader c known) (hof : i.IsOf c)
    (stands : i.Stands known) (knows : i.flag ∈ known) : ∃ args, IsRead known i args := by
  have htaken : i.taken known = [(i.flag, i.value)] := if_pos knows
  have hpassed : i.passed known = [] := if_pos knows
  cases i with
  | bare f =>
    refine ⟨[(f.long, .flag f f.long none)],
      looks_cons (long_ne_separator f) (lookOf_long reader hof.known knows), fun g args => ?_⟩
    rw [htaken, hpassed, List.append_nil]
    exact consume_bare g args hof.valued stands
  | apart f t =>
    refine ⟨[(f.long, .flag f f.long none), (t, .itself)], fun h => ?_, fun g args => ?_⟩
    · exact looks_cons (long_ne_separator f) (lookOf_long reader hof.known knows)
        (looks_cons stands.1 stands.2 h)
    · rw [htaken, hpassed, List.append_nil]
      exact consume_apart g args hof.valued
  | joined f t =>
    refine ⟨[(assignment f.long t, .flag f f.long (some t))], looks_cons
      (assignment_ne_separator f t) (lookOf_assignment reader hof.known knows t),
      fun g args => ?_⟩
    rw [htaken, hpassed, List.append_nil]
    exact consume_joined g args hof.valued

theorem exists_isRead_of_unknown (reader : IsReader c known) (hof : i.IsOf c)
    (stands : i.Stands known) (unknown : i.flag ∉ known) : ∃ args, IsRead known i args := by
  have htaken : i.taken known = [] := if_neg unknown
  have hpassed : i.passed known = i.words := if_neg unknown
  cases i with
  | bare f =>
    obtain ⟨look, hlook, foreign⟩ := isForeign_long reader hof.known unknown
    refine ⟨[(f.long, look)], looks_cons (long_ne_separator f) hlook, fun g args => ?_⟩
    rw [htaken, hpassed, List.append_nil]
    exact consume_extra g args foreign
  | apart f t =>
    obtain ⟨look, hlook, foreign⟩ := isForeign_long reader hof.known unknown
    refine ⟨[(f.long, look), (t, .itself)], fun h => ?_, fun g args => ?_⟩
    · exact looks_cons (long_ne_separator f) hlook (looks_cons stands.1 stands.2 h)
    · rw [htaken, hpassed, List.append_nil]
      refine (consume_extra g _ foreign).trans ((consume_extra _ args (.inl rfl)).trans ?_)
      simp [Given.addExtra, Item.words]
  | joined f t =>
    obtain ⟨look, hlook, foreign⟩ := isForeign_assignment reader hof.known unknown t
    refine ⟨[(assignment f.long t, look)], looks_cons (assignment_ne_separator f t) hlook,
      fun g args => ?_⟩
    rw [htaken, hpassed, List.append_nil]
    exact consume_extra g args foreign

theorem exists_isRead (reader : IsReader c known) (hof : i.IsOf c) (stands : i.Stands known) :
    ∃ args, IsRead known i args := by
  by_cases knows : i.flag ∈ known
  · exact exists_isRead_of_known reader hof stands knows
  · exact exists_isRead_of_unknown reader hof stands knows

/-! ## Runs of the reader -/

theorem exists_consume_eq (reader : IsReader c known) : ∀ {items : List Item},
    (∀ i ∈ items, i.IsOf c) → (∀ i ∈ items, i.Stands known) →
    ∃ args, looks known (wordsOf items) = .ok args ∧
      ∀ g : Given, consume known g args = (⟨g.flags ++ items.flatMap (Item.taken known),
        g.extras ++ items.flatMap (Item.passed known)⟩, none)
  | [], _, _ => ⟨[], rfl, fun g => by simp [consume]⟩
  | i :: items, hof, stands => by
    rw [List.forall_mem_cons] at hof stands
    obtain ⟨first, hfirst⟩ := exists_isRead reader hof.1 stands.1
    obtain ⟨others, hlooks, hothers⟩ := exists_consume_eq reader hof.2 stands.2
    refine ⟨first ++ others, hfirst.looks hlooks, fun g => ?_⟩
    -- what a flag adds is what the others are read on top of
    rw [hfirst.consume g others, hothers, List.flatMap_cons, List.flatMap_cons,
      List.append_assoc, List.append_assoc]

/-- **Flags that can be read to their end are read one by one**, those that are not known passed
over. -/
theorem read_eq (reader : IsReader c known) {items : List Item}
    (hof : ∀ i ∈ items, i.IsOf c) (stands : ∀ i ∈ items, i.Stands known) :
    read known (wordsOf items) =
      (⟨items.flatMap (Item.taken known), items.flatMap (Item.passed known)⟩, none) := by
  obtain ⟨args, hlooks, hrun⟩ := exists_consume_eq reader hof stands
  rw [read, hlooks]
  exact hrun {}

theorem exists_of_looks_cons {w : Text} {rest : List Text} {args : List Argument}
    (hw : w ≠ ("--" : Text)) (h : looks known (w :: rest) = .ok args) :
    ∃ look restArgs, lookOf known w = .ok look ∧ looks known rest = .ok restArgs ∧
      args = (w, look) :: restArgs := by
  rw [looks, if_neg hw] at h
  obtain ⟨look, hlook, h⟩ := bind_eq_ok_iff.1 h
  obtain ⟨restArgs, hrest, h⟩ := bind_eq_ok_iff.1 h
  exact ⟨look, restArgs, hlook, hrest, (Except.ok.inj h).symm⟩

theorem stands_of_consume_apart {f : Flag} {spelling t : Text} (takes : f.takesArgument = true)
    {rest : List Text} {args : List Argument} (hlooks : looks known (t :: rest) = .ok args)
    {g : Given} (hrun : (consume known g ((f.long, .flag f spelling none) :: args)).2 = none) :
    t ≠ ("--" : Text) ∧ lookOf known t = .ok .itself ∧
      ∃ restArgs, looks known rest = .ok restArgs ∧ args = (t, .itself) :: restArgs := by
  by_cases ht : t = ("--" : Text)
  · rw [looks, if_pos ht] at hlooks
    obtain rfl := Except.ok.inj hlooks
    exact absurd hrun (consume_missing _ _ takes nofun)
  · obtain ⟨look, restArgs, hlook, hrest, rfl⟩ := exists_of_looks_cons ht hlooks
    by_cases hitself : look = .itself
    · subst hitself
      exact ⟨ht, hlook, restArgs, hrest, rfl⟩
    · refine absurd hrun (consume_missing _ _ takes fun a more heq => hitself ?_)
      cases heq
      rfl

theorem stands_of_consume {after : List Text} : ∀ {items : List Item}, (∀ i ∈ items, i.IsOf c) →
    ∀ {args : List Argument} {g : Given}, looks c.flags (wordsOf items ++ after) = .ok args →
      (consume c.flags g args).2 = none → ∀ i ∈ items, i.Stands c.flags
  | [], _, _, _, _, _ => nofun
  | i :: items, hof, args, g, hlooks, hrun => by
    rw [List.forall_mem_cons] at hof ⊢
    -- whatever was given before, the rest is read behind it
    have ih : ∀ {args : List Argument} {g : Given},
        looks c.flags (wordsOf items ++ after) = .ok args →
        (consume c.flags g args).2 = none → ∀ i ∈ items, i.Stands c.flags :=
      stands_of_consume hof.2
    cases i with
    | bare f =>
      obtain ⟨look, restArgs, hlook, hrest, rfl⟩ :=
        exists_of_looks_cons (long_ne_separator f) hlooks
      obtain rfl := Except.ok.inj ((lookOf_long .all hof.1.known hof.1.known).symm.trans hlook)
      have help : f ≠ .help := by
        rintro rfl
        exact consume_help _ _ hrun
      rw [consume_bare _ _ hof.1.valued help] at hrun
      exact ⟨help, ih hrest hrun⟩
    | apart f t =>
      obtain ⟨look, restArgs, hlook, hrest, rfl⟩ :=
        exists_of_looks_cons (long_ne_separator f) hlooks
      obtain rfl := Except.ok.inj ((lookOf_long .all hof.1.known hof.1.known).symm.trans hlook)
      obtain ⟨ht, hitself, others, hothers, rfl⟩ :=
        stands_of_consume_apart hof.1.valued hrest hrun
      rw [consume_apart _ _ hof.1.valued] at hrun
      exact ⟨⟨ht, hitself⟩, ih hothers hrun⟩
    | joined f t =>
      obtain ⟨look, restArgs, hlook, hrest, rfl⟩ :=
        exists_of_looks_cons (assignment_ne_separator f t) hlooks
      obtain rfl := Except.ok.inj
        ((lookOf_assignment .all hof.1.known hof.1.known t).symm.trans hlook)
      rw [consume_joined _ _ hof.1.valued] at hrun
      exact ⟨trivial, ih hrest hrun⟩

/-! ## Arguments that wait for nothing -/

/-- An argument that is no flag which waits for a value: it has its value behind an equals sign, or
takes none. -/
inductive IsSingle (c : Category) : Text → Prop
  | assigned (key value : Text) : IsSingle c (assignment ("--" ++ key) value)
  | bare {f : Flag} (known : f ∈ c.flags) (takes : f.takesArgument = false) : IsSingle c f.long

theorem isSingle_assignment (f : Flag) (t : Text) : IsSingle c (assignment f.long t) := by
  obtain ⟨key, hlong⟩ := exists_long_eq f
  have hsingle : IsSingle c (assignment ("--" ++ key) t) := .assigned key t
  rwa [show ("--" ++ key : Text) = f.long from hlong.symm] at hsingle

theorem ne_separator_of_isSingle {w : Text} (h : IsSingle c w) : w ≠ ("--" : Text) := by
  cases h with
  | assigned key value =>
    intro heq
    have hmem := equals_mem_assignment ("--" ++ key) value
    rw [heq] at hmem
    exact absurd hmem (by decide)
  | bare _ _ => exact long_ne_separator _

theorem exists_consume_tail {g : Given} {w : Text} {look : Look} {args : List Argument}
    (hlook : ∀ f s, look = .flag f s none → f.takesArgument = false)
    (hrun : (consume known g ((w, look) :: args)).2 = none) :
    ∃ g', (consume known g' args).2 = none := by
  match look with
  | .itself | .separator | .unknown => exact ⟨_, hrun⟩
  | .flag f spelling argument =>
    cases takes : f.takesArgument with
    | true =>
      cases argument with
      | none => exact absurd (hlook f spelling rfl) (by rw [takes]; decide)
      | some t => exact ⟨_, by rwa [consume_joined _ _ takes] at hrun⟩
    | false =>
      unfold consume at hrun
      rw [takes, if_neg Bool.false_ne_true] at hrun
      split at hrun
      · cases hrun
      · split at hrun
        · exact ⟨_, hrun⟩
        · rename_i stopped hstopped
          exact (hstopped _ (Prod.ext rfl hrun)).elim

theorem exists_run_of_isSingle {rest : List Text} : ∀ {before : List Text},
    (∀ w ∈ before, IsSingle c w) → ∀ {args : List Argument} {g : Given},
      looks c.flags (before ++ rest) = .ok args → (consume c.flags g args).2 = none →
      ∃ args' g', looks c.flags rest = .ok args' ∧ (consume c.flags g' args').2 = none
  | [], _, args, g, hlooks, hrun => ⟨args, g, hlooks, hrun⟩
  | w :: before, single, args, g, hlooks, hrun => by
    rw [List.forall_mem_cons] at single
    obtain ⟨look, restArgs, hlook, hrest, rfl⟩ :=
      exists_of_looks_cons (ne_separator_of_isSingle single.1) hlooks
    have hwaits : ∀ f s, look = .flag f s none → f.takesArgument = false := by
      rintro f s rfl
      obtain ⟨key, value⟩ | ⟨known, takes⟩ := single.1
      · have hdashes : assignment ("--" ++ key) value =
            ('-' : CodePoint) :: ('-' : CodePoint) :: (key ++ "=" ++ value) := rfl
        exact absurd rfl
          (ne_alone_of_equals_mem hdashes (equals_mem_assignment _ value) hlook f s)
      · rw [lookOf_long .all known known] at hlook
        cases hlook
        exact takes
    obtain ⟨g', hrun⟩ := exists_consume_tail hwaits hrun
    exact exists_run_of_isSingle single.2 hrest hrun

/-- **What is read to its end can be read to its end**, whatever is around it: no flag asks for
help, and every value that stands alone stands for itself. -/
theorem stands_of_read_append {items : List Item} (hof : ∀ i ∈ items, i.IsOf c)
    {before after : List Text} (single : ∀ w ∈ before, IsSingle c w)
    (h : (read c.flags (before ++ (wordsOf items ++ after))).2 = none) :
    ∀ i ∈ items, i.Stands c.flags := by
  rw [read] at h
  split at h
  · cases h
  · rename_i args hlooks
    obtain ⟨args, g, hlooks, hrun⟩ := exists_run_of_isSingle single hlooks h
    exact stands_of_consume hof hlooks hrun

theorem stands_of_read {items : List Item} (hof : ∀ i ∈ items, i.IsOf c)
    (h : (read c.flags (wordsOf items)).2 = none) : ∀ i ∈ items, i.Stands c.flags := by
  have hread : (read c.flags ([] ++ (wordsOf items ++ []))).2 = none := by
    rwa [List.nil_append, List.append_nil]
  exact stands_of_read_append hof (fun _ h => absurd h List.not_mem_nil) hread

theorem flags_of_read {items : List Item} (hof : ∀ i ∈ items, i.IsOf c) {g : Given}
    (h : read c.flags (wordsOf items) = (g, none)) :
    g.flags = items.flatMap (Item.taken c.flags) := by
  have hread := read_eq .all hof (stands_of_read hof (by rw [h]))
  obtain rfl := (Prod.mk.inj (h.symm.trans hread)).1
  rfl

end

end Issuer.CommandLine
