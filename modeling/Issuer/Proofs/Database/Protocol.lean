import Issuer.Proofs.Database.Course
/-!
# Protocol — which effects a run has, and in which order

The effects of a run form a protocol (`Follows`): the connection is opened first, an open connection
is closed once and last, the lock is held whenever scripts are told apart or applied, and it is not
held any more at the close.  This holds on every course, so wherever a run fails.
-/
namespace Issuer.Database

/-! ## Effects and those before them -/

/-- **Each effect stands in a relation to the effects before it.** -/
def EachAfter (P : List Effect → Effect → Prop) (effects : List Effect) : Prop :=
  ∀ before e after, effects = before ++ e :: after → P before e

section EachAfter

variable {P : List Effect → Effect → Prop}

@[simp] theorem eachAfter_nil : EachAfter P [] := by
  intro before e after h
  cases before <;> cases h

@[simp] theorem eachAfter_cons {e : Effect} {rest : List Effect} :
    EachAfter P (e :: rest) ↔ P [] e ∧ EachAfter (fun before => P (e :: before)) rest := by
  constructor
  · intro h
    exact ⟨h [] e rest rfl, fun before x after hs => h (e :: before) x after (by rw [hs]; rfl)⟩
  · rintro ⟨hd, tl⟩ before x after hs
    cases before with
    | nil =>
      simp only [List.nil_append, List.cons.injEq] at hs
      obtain ⟨rfl, rfl⟩ := hs
      exact hd
    | cons y before =>
      simp only [List.cons_append, List.cons.injEq] at hs
      obtain ⟨rfl, hs⟩ := hs
      exact tl before x after hs

theorem eachAfter_append : ∀ {P : List Effect → Effect → Prop} (l m : List Effect),
    EachAfter P (l ++ m) ↔ EachAfter P l ∧ EachAfter (fun before => P (l ++ before)) m
  | P, [], m => by simp
  | P, e :: l, m => by
    simp only [List.cons_append, eachAfter_cons]
    rw [eachAfter_append l m, and_assoc]

theorem eachAfter_map_apply (ids : List Text)
    (h : ∀ (others : List Text) (id : Text), P (others.map .apply) (.apply id)) :
    EachAfter P (ids.map .apply) := by
  intro before e after hs
  obtain ⟨l, m, rfl, rfl, hm⟩ := List.map_eq_append_iff.1 hs
  obtain ⟨id, rest, rfl, rfl, -⟩ := List.map_eq_cons_iff.1 hm
  exact h l id

end EachAfter

/-! ## The lock -/

variable (b : Backend)

/-- Whether the lock is held after an effect, if it is or is not held before it. -/
@[simp] def Backend.holdAfter (held : Bool) : Effect → Bool
  | .lock => match b.lock with
    | .ok _ => true
    | .error _ => false
  | .unlock => false
  | _ => held

/-- **Whether the lock is held after some effects.** -/
def Backend.held (effects : List Effect) : Bool := effects.foldl b.holdAfter false

/-- Whether an effect tells scripts apart or applies them. -/
@[simp] def Effect.needsLock : Effect → Bool
  | .toApply _ | .applyAll _ | .apply _ => true
  | _ => false

/-- Whether an effect hands scripts over to be applied. -/
@[simp] def Effect.handsOver : Effect → Bool
  | .applyAll _ => true
  | _ => false

/-- Applications of scripts leave the lock as it is. -/
@[simp] theorem foldl_holdAfter_apply (held : Bool) :
    ∀ ids : List Text, (ids.map Effect.apply).foldl b.holdAfter held = held
  | [] => rfl
  | _ :: ids => foldl_holdAfter_apply held ids

/-- Applications of scripts hand nothing over. -/
@[simp] theorem countP_handsOver_apply :
    ∀ ids : List Text, (ids.map Effect.apply).countP Effect.handsOver = 0
  | [] => rfl
  | _ :: ids => countP_handsOver_apply ids

/-! ## The protocol -/

/-- **The protocol of a run** over a URL of the backend, from the scripts recorded as applied. -/
structure Follows (url : Text) (scripts : Scripts) (applied : List Text) (effects : List Effect) :
    Prop where
  /-- The connection is opened first, and once. -/
  opens : ∃ rest, effects = .openBackend url :: rest ∧ ∀ other, .openBackend other ∉ rest
  /-- Nothing follows on a connection that cannot be opened. -/
  refused : ∀ t, b.openBackend url = .error t → effects = [.openBackend url]
  /-- An open connection is closed once and last, with the lock given back before. -/
  closes : b.openBackend url = .ok () →
    ∃ before, effects = before ++ [.close] ∧ .close ∉ before ∧ b.held before = false
  /-- Scripts are told apart and applied only while the lock is held. -/
  guarded : EachAfter (fun before e => e.needsLock = true → b.held before = true) effects
  /-- Scripts are handed over at most once. -/
  once : effects.countP Effect.handsOver ≤ 1
  /-- What is handed over is exactly what was told to be applied of the scripts that were read. -/
  exactly : EachAfter (fun before e => ∀ ids, e = .applyAll ids → ∃ read, .toApply read ∈ before ∧
    b.readScripts scripts = .ok read ∧ b.toApply applied read = .ok ids) effects

variable {b} {scripts : Scripts} {url shown : Text} {applied : List Text}

/-! ## Every course follows the protocol -/

section Course

variable {result : Except Trouble Unit} {p : Progress}
  (course : Course b scripts shown (.opened applied url) result p)

include course

theorem opens_of_course :
    ∃ rest, p.effects = .openBackend url :: rest ∧ ∀ other, .openBackend other ∉ rest := by
  cases course with
  | unread | unlocked | unasked | handed => simp

theorem not_closed_of_course : .close ∉ p.effects := by
  cases course with
  | unread | unlocked | unasked | handed => simp

theorem not_held_of_course : b.held p.effects = false := by
  cases course with
  | unread | unasked | handed => simp [Backend.held]
  | unlocked _ lock => simp [Backend.held, lock]

theorem guarded_of_course :
    EachAfter (fun before e => e.needsLock = true → b.held before = true) p.effects := by
  cases course with
  | unread | unlocked => simp
  | unasked _ lock => simp [Backend.held, lock]
  | handed _ lock =>
    simp [Backend.held, lock, eachAfter_append, eachAfter_map_apply]

theorem once_of_course : p.effects.countP Effect.handsOver ≤ 1 := by
  cases course with
  | unread | unlocked | unasked => simp
  | handed => simp [List.countP_cons]

theorem exactly_of_course :
    EachAfter (fun before e => ∀ ids, e = .applyAll ids → ∃ read, .toApply read ∈ before ∧
      b.readScripts scripts = .ok read ∧ b.toApply applied read = .ok ids) p.effects := by
  cases course with
  | unread | unlocked | unasked => simp
  | handed read _ asked => simpa [eachAfter_append, eachAfter_map_apply] using ⟨read, asked⟩

/-- **A run over an open connection follows the protocol**, whatever its course. -/
theorem follows_of_course (opened : b.openBackend url = .ok ()) :
    Follows b url scripts applied (p.effects ++ [.close]) where
  opens := by
    obtain ⟨rest, hr, ho⟩ := opens_of_course course
    exact ⟨rest ++ [.close], by rw [hr]; rfl, fun other h => by simp [ho other] at h⟩
  refused t h := by rw [opened] at h; cases h
  closes _ := ⟨p.effects, rfl, not_closed_of_course course, not_held_of_course course⟩
  guarded := (eachAfter_append _ _).2 ⟨guarded_of_course course, by simp⟩
  once := by simpa using once_of_course course
  exactly := (eachAfter_append _ _).2 ⟨exactly_of_course course, by simp⟩

end Course

theorem follows_refused {t : Trouble} (opened : b.openBackend url = .error t) :
    Follows b url scripts applied [.openBackend url] where
  opens := ⟨[], rfl, fun _ => List.not_mem_nil⟩
  refused _ _ := rfl
  closes h := by rw [opened] at h; cases h
  guarded := by simp
  once := by simp
  exactly := by simp

theorem follows_of_run {u : Target} {outcome : Outcome} (named : target url = .ok u)
    (run : Run b scripts url applied outcome) :
    Follows b u.backend scripts applied outcome.progress.effects := by
  cases run with
  | rejected other => rw [named] at other; cases other
  | refused other opened =>
    cases named.symm.trans other
    exact follows_refused opened
  | unclosed other opened course | failed other opened course | complete other opened course =>
    cases named.symm.trans other
    exact follows_of_course course opened

end Issuer.Database
