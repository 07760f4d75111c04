import Issuer.Fault
import Issuer.Proofs.Text.Blank
import Mathlib.Data.List.Forall2
/-!
# A chain on one line

A chain of faults is told on one line that ends with a full stop.  It is made of one part for each
fault, in order: the first argument with a full stop and a space for each line feed and the blanks
after it, or the name where there is no argument.  So nothing of any fault is lost but blanks and
full stops (`rollUp_tells`).
-/
namespace Issuer

/-! ## Joined lines -/

def Text.bare (t : Text) : Text := t.filter fun c => !(c.isBlank || c == '.')

namespace Text

theorem bare_append (s t : Text) : bare (s ++ t) = bare s ++ bare t := List.filter_append s t

theorem bare_eq_nil {t : Text} (h : ∀ c ∈ t, c.isBlank = true ∨ c = '.') : bare t = [] :=
  List.filter_eq_nil_iff.2 fun c hc => by
    rcases h c hc with blank | rfl
    · simp [blank]
    · simp

theorem Stripped.bare_eq {t core : Text} (h : Stripped t core) : bare core = bare t :=
  h.filter_eq fun c hc => by simp [hc]

end Text

namespace Link

open Text (IsTrim IsWord Stripped bare)

/-- **A text on one line**: a full stop and a space stand for each line feed and all the blanks
after it. -/
inductive Joined : Text → Text → Prop where
  | nothing : Joined [] []
  | kept {c : CodePoint} {t line : Text} (other : c ≠ '\n') (rest : Joined t line) :
    Joined (c :: t) (c :: line)
  | joined {blanks t line : Text} (blank : ∀ c ∈ blanks, c.isBlank = true)
      (all : ∀ c ∈ t.head?, c.isBlank = false) (rest : Joined t line) :
    Joined (('\n' : CodePoint) :: (blanks ++ t)) (". " ++ line)

theorem joinLines'_eq : ∀ t : Text, joinLines.joinLines' t = joinLines t.stripLeft
  | [] => rfl
  | c :: rest => by
    rw [joinLines.joinLines', Text.stripLeft, List.dropWhile_cons]
    cases hc : c.isBlank with
    | true => exact joinLines'_eq rest
    | false =>
      have other : c ≠ '\n' := by
        rintro rfl
        cases hc
      simp only [Bool.false_eq_true, if_false, joinLines, if_neg other]

theorem joined_joinLines : ∀ t : Text, Joined t (joinLines t)
  | [] => .nothing
  | c :: rest => by
    rw [joinLines]
    split
    · rename_i hc
      have shorter : (Text.stripLeft rest).length ≤ rest.length := List.length_dropWhile_le _ _
      obtain ⟨blanks, blank, whole⟩ := Text.exists_blanks_before rest
      have joined := Joined.joined blank (Text.starts_stripLeft rest)
        (joined_joinLines (Text.stripLeft rest))
      rwa [← whole, ← joinLines'_eq, ← hc] at joined
    · exact .kept ‹_› (joined_joinLines rest)
termination_by t => t.length

section Joined

variable {t line : Text}

theorem Joined.not_mem (h : Joined t line) : ('\n' : CodePoint) ∉ line := by
  induction h with
  | nothing => exact List.not_mem_nil
  | kept other _ ih => exact fun hmem => (List.mem_cons.1 hmem).elim (Ne.symm other) ih
  | joined _ _ _ ih =>
    rw [List.mem_append, not_or]
    exact ⟨by decide, ih⟩

theorem Joined.bare_eq (h : Joined t line) : bare line = bare t := by
  induction h with
  | nothing => rfl
  | @kept c t line _ _ ih =>
    rw [← List.singleton_append, Text.bare_append, ih, ← Text.bare_append, List.singleton_append]
  | @joined blanks t line blank _ _ ih =>
    have dropped : bare (('\n' : CodePoint) :: blanks) = [] :=
      Text.bare_eq_nil <| List.forall_mem_cons.2 ⟨.inl rfl, fun c hc => .inl (blank c hc)⟩
    rw [← List.cons_append, Text.bare_append, Text.bare_append, dropped, ih]
    rfl

theorem Joined.getLast?_eq (h : Joined t line) (ends : ∀ c ∈ t.getLast?, c.isBlank = false) :
    line.getLast? = t.getLast? := by
  induction h with
  | nothing => rfl
  | @kept c t line _ _ ih =>
    rw [List.getLast?_cons, List.getLast?_cons, ih fun d hd => ends d ?_]
    rw [List.getLast?_cons, Option.mem_def.1 hd, Option.getD_some]
    rfl
  | @joined blanks t line blank _ _ ih =>
    have hidden : ∀ c ∈ ('\n' : CodePoint) :: blanks, c.isBlank = true :=
      List.forall_mem_cons.2 ⟨rfl, blank⟩
    rw [← List.cons_append] at ends ⊢
    obtain ⟨d, hd⟩ := Text.exists_getLast?_of_blanks hidden (List.cons_ne_nil _ _) ends
    have visible : ∀ c ∈ t.getLast?, c.isBlank = false := fun c hc =>
      ends c (by rw [List.getLast?_append, Option.mem_def.1 hc]; rfl)
    rw [List.getLast?_append, List.getLast?_append, ih visible, hd]
    rfl

/-- **What has no blanks at its ends has none there on one line.** -/
theorem Joined.isTrim (h : Joined t line) (trim : IsTrim t) : IsTrim line where
  starts := by
    cases h with
    | nothing => exact trim.starts
    | kept _ _ => exact trim.starts
    | joined _ _ _ => cases trim.starts '\n' rfl
  ends := by
    rw [h.getLast?_eq trim.ends]
    exact trim.ends

theorem joinLines_eq_self (h : ('\n' : CodePoint) ∉ t) : joinLines t = t := by
  induction t with
  | nil => rfl
  | cons c rest ih =>
    rw [List.mem_cons, not_or] at h
    rw [joinLines, if_neg (Ne.symm h.1), ih h.2]

end Joined

/-! ## Parts -/

/-- What a link says: its first argument, or its name if it has none. -/
def said (l : Link) : Text := l.text.getD l.name

/-- **What a part tells of a link**: the first argument without the blanks around it, on one line,
or the name if there is no argument. -/
inductive Tells (l : Link) : Text → Prop where
  | argument {t core line : Text} (given : l.text = some t) (stripped : Stripped t core)
      (joined : Joined core line) : Tells l line
  | name (unsaid : l.text = none) (word : IsWord l.name) : Tells l l.name
  | phrase {line core : Text} (unsaid : l.text = none) (blank : ¬ IsWord l.name)
      (joined : Joined l.name line) (stripped : Stripped line core) : Tells l core

theorem tells_part (l : Link) : l.Tells l.part := by
  cases given : l.text with
  | some t =>
    have stripped := Text.stripped_strip t
    have joined := joined_joinLines t.strip
    rw [part, given, Option.map_some, Option.getD_some,
      Text.strip_eq_self (joined.isTrim stripped.trim)]
    exact .argument given stripped joined
  | none =>
    rw [part, given, Option.map_none, Option.getD_none]
    by_cases word : IsWord l.name
    · have noFeed : ('\n' : CodePoint) ∉ l.name := fun hmem => nomatch word _ hmem
      rw [joinLines_eq_self noFeed, Text.strip_eq_self word.isTrim]
      exact .name given word
    · exact .phrase given word (joined_joinLines l.name) (Text.stripped_strip _)

theorem isTrim_part (l : Link) : IsTrim l.part := (Text.stripped_strip _).trim

section Tells

variable {l : Link} {p : Text}

theorem Tells.not_mem (h : l.Tells p) : ('\n' : CodePoint) ∉ p := by
  cases h with
  | argument _ _ joined => exact joined.not_mem
  | name _ word => exact fun hmem => nomatch word _ hmem
  | phrase _ _ joined stripped => exact fun hmem => joined.not_mem (stripped.subset hmem)

/-- **Nothing that a link says is lost** but blanks and full stops. -/
theorem Tells.bare_eq (h : l.Tells p) : bare p = bare l.said := by
  cases h with
  | argument given stripped joined =>
    rw [joined.bare_eq, stripped.bare_eq, said, given, Option.getD_some]
  | name unsaid _ => rw [said, unsaid, Option.getD_none]
  | phrase unsaid _ joined stripped =>
    rw [stripped.bare_eq, joined.bare_eq, said, unsaid, Option.getD_none]

end Tells

theorem bare_flatten_of_tells {links : List Link} {parts : List Text}
    (h : List.Forall₂ Tells links parts) :
    bare parts.flatten = bare (links.map said).flatten := by
  induction h with
  | nil => rfl
  | cons told _ ih =>
    rw [List.flatten_cons, List.map_cons, List.flatten_cons, Text.bare_append, Text.bare_append,
      told.bare_eq, ih]

/-! ## The line -/

/-- **Parts on one line**, with a full stop after each and a space after that if more follows.  An
empty part at the end does without the space before it. -/
inductive Rolled : List Text → Text → Prop where
  | last (part : Text) : Rolled [part] (part ++ ".")
  | beforeNothing (part : Text) : Rolled [part, []] (part ++ "..")
  | next {part line : Text} {parts : List Text} (more : parts ≠ [[]]) (rest : Rolled parts line) :
    Rolled (part :: parts) (part ++ (". " ++ line))

section Rolled

variable {parts : List Text} {line : Text}

theorem Rolled.not_mem (h : Rolled parts line) (each : ∀ p ∈ parts, ('\n' : CodePoint) ∉ p) :
    ('\n' : CodePoint) ∉ line := by
  induction h with
  | last part =>
    rw [List.mem_append, not_or]
    exact ⟨each part List.mem_cons_self, by decide⟩
  | beforeNothing part =>
    rw [List.mem_append, not_or]
    exact ⟨each part List.mem_cons_self, by decide⟩
  | next _ _ ih =>
    obtain ⟨first, others⟩ := List.forall_mem_cons.1 each
    rw [List.mem_append, List.mem_append, not_or, not_or]
    exact ⟨first, by decide, ih others⟩

theorem Rolled.getLast?_eq (h : Rolled parts line) : line.getLast? = some '.' := by
  induction h with
  | last part => exact List.getLast?_concat
  | beforeNothing part => rw [List.getLast?_append]; rfl
  | next _ _ ih => rw [List.getLast?_append, List.getLast?_append, ih]; rfl

theorem Rolled.bare_eq (h : Rolled parts line) : bare line = bare parts.flatten := by
  have stop : bare "." = [] := by decide
  have stops : bare ".." = [] := by decide
  have between : bare ". " = [] := by decide
  induction h with
  | last part => simp [Text.bare_append, stop]
  | beforeNothing part => simp [Text.bare_append, stops]
  | next _ _ ih => simp [Text.bare_append, between, ih]

end Rolled

def chained (first : Text) (others : List Text) : Text :=
  first ++ others.flatMap fun p => (". " : Text) ++ p

section Chained

variable {first : Text} {others : List Text}

theorem exists_start (something : first :: others ≠ [[]]) (trim : IsTrim first) :
    ∃ c rest, chained first others = c :: rest ∧ c.isBlank = false := by
  cases first with
  | cons c first => exact ⟨c, _, rfl, trim.starts c rfl⟩
  | nil =>
    cases others with
    | nil => exact absurd rfl something
    | cons next others => exact ⟨'.', _, rfl, rfl⟩

theorem starts_chained (trim : IsTrim first) :
    ∀ c ∈ (chained first others).head?, c.isBlank = false := by
  by_cases nothing : first :: others = [[]]
  · obtain ⟨rfl, rfl⟩ := List.cons.inj nothing
    exact nofun
  · obtain ⟨c, rest, starts, visible⟩ := exists_start nothing trim
    rw [starts]
    rintro d ⟨⟩
    exact visible

end Chained

theorem rolled_stripRight : ∀ (first : Text) (others : List Text),
    (∀ p ∈ first :: others, IsTrim p) →
      Rolled (first :: others) (Text.stripRight (chained first others) ++ ".")
  | first, [], trim => by
    rw [chained, List.flatMap_nil, List.append_nil,
      Text.stripRight_eq_self (trim first List.mem_cons_self).ends]
    exact .last first
  | first, next :: others, trim => by
    have step : chained first (next :: others) = first ++ (". " ++ chained next others) := by
      simp [chained]
    obtain ⟨-, trim⟩ := List.forall_mem_cons.1 trim
    by_cases nothing : next :: others = [[]]
    · -- the line would end with the space after the first part
      obtain ⟨rfl, rfl⟩ := List.cons.inj nothing
      have ending : Text.stripRight (first ++ (". " ++ chained [] [])) = first ++ "." :=
        Text.stripRight_append_cons first _ rfl
      rw [step, ending, List.append_assoc]
      exact .beforeNothing first
    · -- what follows starts with no blank, so its end is the end of the line
      obtain ⟨c, rest, starts, visible⟩ := exists_start nothing (trim next List.mem_cons_self)
      have rolled := rolled_stripRight next others trim
      rw [starts] at rolled
      rw [step, starts, ← List.append_assoc, Text.stripRight_append_cons _ rest visible,
        List.append_assoc, List.append_assoc]
      exact .next nothing rolled

theorem rolled_rollUp (first : Link) (others : List Link) :
    Rolled ((first :: others).map part) (rollUp first others) := by
  have trim : ∀ p ∈ (first :: others).map part, IsTrim p :=
    List.forall_mem_map.2 fun l _ => isTrim_part l
  have parts : first.part ++ others.flatMap (fun l => (". " : Text) ++ l.part) =
      chained first.part (others.map part) := by
    rw [chained, List.flatMap_map]
  rw [rollUp, parts, Text.strip, Text.stripLeft_eq_self (starts_chained (isTrim_part first))]
  exact rolled_stripRight _ _ trim

end Link

def Failure.chain (f : Failure) : List Link := (f.fault :: f.causes).map Fault.link

/-- **A chain is told on one line**, which holds no line feed and ends with a full stop.  It is made
of one part for each fault of the chain, in order.  What is left of the line without blanks and full
stops is what is left of the parts, and of all that the faults say. -/
theorem Failure.rollUp_tells (f : Failure) :
    ('\n' : CodePoint) ∉ f.rollUp ∧ f.rollUp.getLast? = some '.' ∧
    ∃ parts, List.Forall₂ Link.Tells f.chain parts ∧ Link.Rolled parts f.rollUp ∧
      Text.bare f.rollUp = Text.bare parts.flatten ∧
      Text.bare f.rollUp = Text.bare (f.chain.map Link.said).flatten := by
  have tells : List.Forall₂ Link.Tells f.chain (f.chain.map Link.part) :=
    List.forall₂_map_right_iff.2 (List.forall₂_same.2 fun l _ => l.tells_part)
  have rolled : Link.Rolled (f.chain.map Link.part) f.rollUp := Link.rolled_rollUp _ _
  refine ⟨rolled.not_mem ?_, rolled.getLast?_eq, _, tells, rolled, rolled.bare_eq, ?_⟩
  · exact List.forall_mem_map.2 fun l _ => l.tells_part.not_mem
  · rw [rolled.bare_eq, Link.bare_flatten_of_tells tells]

/-- A schema that cannot be processed because of a field that its document lacks. -/
def missingField : Failure :=
  ⟨.ofMessage .schemaProcessing " cannot process schema\n",
    [.reported "ValueError" [.str "missing field\n \n  in document"],
      .outside .missingKey "properties"]⟩

/-- A fault without an argument, caused by one that says nothing. -/
def nothingSaid : Failure := ⟨.own .general none {}, [.reported "ValueError" [.str " \n"]]⟩

/-- The field that is missing is told with what it is caused by; what says nothing leaves its full
stop. -/
theorem Failure.rollUp_tells_missingField :
    missingField.rollUp =
      ("cannot process schema. missing field. in document. properties." : Text) ∧
    (∃ parts, List.Forall₂ Link.Tells missingField.chain parts ∧
      Link.Rolled parts missingField.rollUp ∧ parts.length = 3) ∧
    nothingSaid.rollUp = ("BaseError.." : Text) ∧
    ∃ parts, List.Forall₂ Link.Tells nothingSaid.chain parts ∧
      Link.Rolled parts nothingSaid.rollUp ∧ parts.length = 2 := by
  obtain ⟨-, -, parts, tells, rolled, -⟩ := Failure.rollUp_tells missingField
  obtain ⟨-, -, parts', tells', rolled', -⟩ := Failure.rollUp_tells nothingSaid
  exact ⟨by decide, ⟨parts, tells, rolled, tells.length_eq.symm⟩, by decide,
    parts', tells', rolled', tells'.length_eq.symm⟩

end Issuer
