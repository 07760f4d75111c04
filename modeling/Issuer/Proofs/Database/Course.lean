import Issuer.Database.Migration
/-!
# Course — every way in which a run can go

A run over the scripts takes one of four courses, and a whole run one of five.  Each course says
what the steps gave, which effects the run had and how it ended.  What holds of every run is shown
course by course, and the parts of a run are not opened again.
-/
namespace Issuer.Database

variable (b : Backend) (scripts : Scripts) (shown : Text)

/-! ## The courses -/

namespace Progress

def withEffects (p : Progress) (effects : List Effect) : Progress :=
  { p with effects := p.effects ++ effects }

def opened (applied : List Text) (url : Text) : Progress where
  applied := applied
  effects := [.openBackend url]

variable (p : Progress) (effects more : List Effect)

@[simp] theorem applied_withEffects : (p.withEffects effects).applied = p.applied := rfl

@[simp] theorem effects_withEffects : (p.withEffects effects).effects = p.effects ++ effects := rfl

@[simp] theorem events_withEffects : (p.withEffects effects).events = p.events := rfl

@[simp] theorem applied_opened (applied : List Text) (url : Text) :
    (opened applied url).applied = applied := rfl

@[simp] theorem effects_opened (applied : List Text) (url : Text) :
    (opened applied url).effects = [.openBackend url] := rfl

@[simp] theorem events_opened (applied : List Text) (url : Text) :
    (opened applied url).events = [] := rfl

@[simp] theorem withEffects_withEffects :
    (p.withEffects effects).withEffects more = p.withEffects (effects ++ more) := by
  simp only [withEffects, List.append_assoc]

end Progress

namespace Backend

/-- What comes of giving the lock back after a result: a failure to give it back replaces it. -/
def released (result : Except Trouble Unit) : Except Trouble Unit :=
  match b.unlock with
  | .ok () => result
  | .error t => .error t

theorem released_of_ok {b : Backend} (h : b.unlock = .ok ()) (result : Except Trouble Unit) :
    b.released result = result := by
  simp only [released, h]

theorem released_of_error {b : Backend} {t : Trouble} (h : b.unlock = .error t)
    (result : Except Trouble Unit) : b.released result = .error t := by
  simp only [released, h]

theorem released_eq_ok_iff {b : Backend} {result : Except Trouble Unit} :
    b.released result = .ok () ↔ result = .ok () ∧ b.unlock = .ok () := by
  cases h : b.unlock with
  | ok _ => simp [released_of_ok h]
  | error t => simp [released_of_error h]

def handing (before : Progress) (ids pending : List Text) : Progress where
  applied := before.applied ++ (b.applyAll before.applied pending).recorded
  effects := before.effects ++ ([.readScripts scripts, .lock, .toApply ids, .applyAll pending] ++
    (b.applyAll before.applied pending).begun.map .apply ++ [.unlock])
  events := before.events ++ [applyingEvent shown pending.length ids.length]

@[simp] theorem effects_handing (before : Progress) (ids pending : List Text) :
    (b.handing scripts shown before ids pending).effects =
      before.effects ++ ([.readScripts scripts, .lock, .toApply ids, .applyAll pending] ++
        (b.applyAll before.applied pending).begun.map .apply ++ [.unlock]) := rfl

@[simp] theorem events_handing (before : Progress) (ids pending : List Text) :
    (b.handing scripts shown before ids pending).events =
      before.events ++ [applyingEvent shown pending.length ids.length] := rfl

end Backend

/-- **The courses of a run over the scripts**, from how the run went before. -/
inductive Course (before : Progress) : Except Trouble Unit → Progress → Prop where
  | unread {t : Trouble} (read : b.readScripts scripts = .error t) :
    Course before (.error t) (before.withEffects [.readScripts scripts])
  | unlocked {ids : List Text} {t : Trouble} (read : b.readScripts scripts = .ok ids)
      (lock : b.lock = .error t) :
    Course before (.error t) (before.withEffects [.readScripts scripts, .lock])
  | unasked {ids : List Text} {t : Trouble} (read : b.readScripts scripts = .ok ids)
      (lock : b.lock = .ok ()) (asked : b.toApply before.applied ids = .error t) :
    Course before (b.released (.error t))
      (before.withEffects [.readScripts scripts, .lock, .toApply ids, .unlock])
  | handed {ids pending : List Text} (read : b.readScripts scripts = .ok ids)
      (lock : b.lock = .ok ()) (asked : b.toApply before.applied ids = .ok pending) :
    Course before (b.released (b.applyAll before.applied pending).result)
      (b.handing scripts shown before ids pending)

/-- **The courses of a whole run.** -/
inductive Run (url : Text) (applied : List Text) : Outcome → Prop where
  | rejected {cause : UrlProblem} (named : target url = .error cause) :
    Run url applied ⟨.error (.url cause), { applied }⟩
  | refused {u : Target} {t : Trouble} (named : target url = .ok u)
      (opened : b.openBackend u.backend = .error t) :
    Run url applied
      ⟨.error (if t.isOfConnection then .connection u.shown t.fault else .escaped t.fault),
        .opened applied u.backend⟩
  | unclosed {u : Target} {t : Trouble} {result : Except Trouble Unit} {p : Progress}
      (named : target url = .ok u) (opened : b.openBackend u.backend = .ok ())
      (course : Course b scripts u.shown (.opened applied u.backend) result p)
      (closed : b.close = .error t) :
    Run url applied ⟨.error (.escaped t.fault), p.withEffects [.close]⟩
  | failed {u : Target} {t : Trouble} {p : Progress}
      (named : target url = .ok u) (opened : b.openBackend u.backend = .ok ())
      (course : Course b scripts u.shown (.opened applied u.backend) (.error t) p)
      (closed : b.close = .ok ()) :
    Run url applied ⟨.error (.scripts t.fault), p.withEffects [.close]⟩
  | complete {u : Target} {p : Progress}
      (named : target url = .ok u) (opened : b.openBackend u.backend = .ok ())
      (course : Course b scripts u.shown (.opened applied u.backend) (.ok ()) p)
      (closed : b.close = .ok ()) :
    Run url applied
      ⟨.ok (), { p.withEffects [.close] with events := p.events ++ [completeEvent] }⟩

/-! ## Parts in order -/

namespace Part

variable {α β : Type} (e : Effect) (next : α → Part β) (p : Progress)

@[simp] theorem step_ok_bind (a : α) :
    (step e (.ok a) >>= next) p = next a (p.withEffects [e]) := rfl

@[simp] theorem step_error_bind (t : Trouble) :
    (step e (.error t) >>= next) p = (.error t, p.withEffects [e]) := rfl

@[simp] theorem tell_bind (told : Log.Event) (next : Unit → Part β) :
    (tell told >>= next) p = next () { p with events := p.events ++ [told] } := rfl

@[simp] theorem applied_bind (next : List Text → Part β) :
    (Part.applied >>= next) p = next p.applied p := rfl

end Part

variable {b scripts shown} {after : Progress} {ids pending : List Text}

section Locked

variable (before : Progress)

theorem applyPending_of_error {t : Trouble} (asked : b.toApply before.applied ids = .error t) :
    b.applyPending shown ids before = (.error t, before.withEffects [.toApply ids]) := by
  simp only [Backend.applyPending, Part.applied_bind, asked, Part.step_error_bind]

theorem applyPending_of_ok (asked : b.toApply before.applied ids = .ok pending) :
    b.applyPending shown ids before =
      ((b.applyAll before.applied pending).result,
        { applied := before.applied ++ (b.applyAll before.applied pending).recorded
          effects := before.effects ++ ([.toApply ids, .applyAll pending] ++
            (b.applyAll before.applied pending).begun.map .apply)
          events := before.events ++ [applyingEvent shown pending.length ids.length] }) := by
  simp only [Backend.applyPending, Part.applied_bind, asked, Part.step_ok_bind, Part.tell_bind,
    Part.conclude, Progress.withEffects, List.append_assoc, List.cons_append, List.nil_append]

variable {before}

theorem ending_unlock {part : Part Unit} {result : Except Trouble Unit}
    (h : part before = (result, after)) :
    part.ending (Part.step .unlock b.unlock) before =
      (b.released result, after.withEffects [.unlock]) := by
  simp only [Part.ending, h, Part.step, Backend.released]
  cases b.unlock <;> rfl

end Locked

theorem course_runScripts (before : Progress) :
    Course b scripts shown before (b.runScripts scripts shown before).1
      (b.runScripts scripts shown before).2 := by
  unfold Backend.runScripts
  cases read : b.readScripts scripts with
  | error t =>
    rw [Part.step_error_bind]
    exact .unread read
  | ok ids =>
    rw [Part.step_ok_bind]
    cases lock : b.lock with
    | error t =>
      rw [Part.step_error_bind, Progress.withEffects_withEffects]
      exact .unlocked read lock
    | ok _ =>
      rw [Part.step_ok_bind, Progress.withEffects_withEffects]
      cases asked : b.toApply before.applied ids with
      | error t =>
        rw [ending_unlock (applyPending_of_error (before.withEffects _) asked),
          Progress.withEffects_withEffects, Progress.withEffects_withEffects]
        exact .unasked read lock asked
      | ok pending =>
        have course : Course b scripts shown before _ _ := .handed read lock asked
        rw [ending_unlock (applyPending_of_ok (before.withEffects _) asked)]
        simpa only [Backend.handing, Progress.withEffects, List.append_assoc, List.cons_append,
          List.nil_append] using course

variable {url : Text} {applied : List Text} {u : Target}

theorem run_migrateOpen (named : target url = .ok u)
    (opened : b.openBackend u.backend = .ok ()) :
    Run b scripts url applied (b.migrateOpen scripts u.shown (.opened applied u.backend)) := by
  have course : Course b scripts u.shown (.opened applied u.backend) _ _ := course_runScripts _
  unfold Backend.migrateOpen
  generalize b.runScripts scripts u.shown (.opened applied u.backend) = run at course ⊢
  obtain ⟨result, p⟩ := run
  cases closed : b.close with
  | error t => exact .unclosed named opened course closed
  | ok _ =>
    cases result with
    | error t => exact .failed named opened course closed
    | ok _ => exact .complete named opened course closed

theorem run_migrate : Run b scripts url applied (b.migrate url scripts applied) := by
  cases named : target url with
  | error cause =>
    simp only [Backend.migrate, named]
    exact .rejected named
  | ok u =>
    cases opened : b.openBackend u.backend with
    | error t =>
      have course : Run b scripts url applied _ := .refused named opened
      simp only [Backend.migrate, named, opened, Part.step]
      split
      · rename_i hc
        rwa [if_pos hc] at course
      · rename_i hc
        rwa [if_neg hc] at course
    | ok _ =>
      simp only [Backend.migrate, named, opened, Part.step]
      exact run_migrateOpen named opened

end Issuer.Database
