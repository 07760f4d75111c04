import Issuer.Loader
/-!
# What stops a loader

Whatever stops a loader is reported as a document that cannot be loaded, if requests fail only with
troubles of requests.  The one exception is a path that cannot name a file for how it is written:
its fault is told as it is, whatever files there are.
-/
namespace Issuer

/-! ## Paths -/

namespace Disk

variable {d : Disk} {path : Text} {p : Problem}

/-- What is wrong with a path as a text, whatever files there are. -/
def spellingProblem? (path : Text) : Option Problem :=
  if path.any fun c => c.isSurrogate && !(0xDC80 ≤ c.val && c.val ≤ 0xDCFF) then some .surrogate
  else if path.any fun c => c.val = 0 then some .zero
  else none

theorem place_eq : d.place path =
    match spellingProblem? path with
    | some p => .error p
    | none =>
      if path.isEmpty then .error .missing
      else follow d (start d.workingDirectory path) (components path) := by
  unfold place spellingProblem?
  split
  · rfl
  · split
    · rfl
    · rfl

theorem read_of_spellingProblem (h : spellingProblem? path = some p) : d.read path = .error p := by
  rw [read, place_eq, h]
  rfl

theorem not_isOfFiles_of_spellingProblem (h : spellingProblem? path = some p) :
    p.isOfFiles = false := by
  unfold spellingProblem? at h
  split at h
  · cases h
    rfl
  · split at h
    · cases h
      rfl
    · cases h

end Disk

namespace Loader

variable {network : Network} {disk : Disk} {url : Text} {p : Problem}

def Problem.IsReported (p : Problem) : Prop := ∃ causes, p.failure.Reports .schemaLoad {} causes

theorem isReported_of_validateHttpUrl (h : validateHttpUrl url = .error p) : p.IsReported := by
  unfold validateHttpUrl at h
  split at h
  · cases h
    exact ⟨_, _, rfl⟩
  · split at h
    · cases h
    · cases h
      exact ⟨_, _, rfl⟩

theorem isReported_of_ofHttp {url : Option Text} {options : Members}
    (h : ofHttp url options = .error p) : p.IsReported := by
  cases url with
  | none =>
    cases h
    exact ⟨_, _, rfl⟩
  | some url =>
    cases valid : validateHttpUrl url with
    | error q =>
      rw [ofHttp, valid] at h
      cases h
      exact isReported_of_validateHttpUrl valid
    | ok _ =>
      rw [ofHttp, valid] at h
      cases h

theorem isReported_of_ofIpfs {u : Url} {gateway : Option Text} {options : Members}
    (parsed : Url.parse url = .ok u) (h : ofIpfs (some url) gateway options = .error p) :
    p.IsReported := by
  -- the problem that is told as it is needs a URL that cannot be taken apart
  simp only [ofIpfs, parsed] at h
  split at h
  · cases h
    exact ⟨_, _, rfl⟩
  · split at h
    · cases h
      exact ⟨_, _, rfl⟩
    · cases h
      exact ⟨_, _, rfl⟩
    · cases h

theorem isReported_of_ofUrl {url gateway : Option Text} (h : ofUrl url gateway = .error p) :
    p.IsReported := by
  cases url with
  | none =>
    cases h
    exact ⟨_, _, rfl⟩
  | some text =>
    cases parsed : Url.parse text with
    | error cause =>
      simp only [ofUrl, parsed] at h
      cases h
      exact ⟨_, _, rfl⟩
    | ok u =>
      simp only [ofUrl, parsed] at h
      split at h
      · exact isReported_of_ofHttp h
      · split at h
        · exact isReported_of_ofIpfs parsed h
        · split at h
          · cases h
          · cases h
            exact ⟨_, _, rfl⟩

/-! ## Loading -/

theorem reply_of_body {reply : Reply} {fault : Fault}
    (h : reply.body url = .error (.foreign, fault)) : reply = .trouble .foreign fault := by
  cases reply with
  | trouble kind fault' =>
    cases h
    rfl
  | response status reason body =>
    rw [Reply.body] at h
    split at h
    · cases h
    · split at h
      · cases h
      · cases h

section Spelling

variable {path : Text} {cause : Disk.Problem} (h : Disk.spellingProblem? path = some cause)

include h

/-- **A path that is wrong as a text stops its loader**, whatever files there are. -/
theorem load_of_spellingProblem :
    ((file path).load network disk).1 = .error (.file path cause) := by
  rw [load, Disk.read_of_spellingProblem h]

theorem failure_of_spellingProblem : (Problem.file path cause).failure = .of cause.fault := by
  rw [Problem.failure, Disk.not_isOfFiles_of_spellingProblem h]
  rfl

end Spelling

end Loader

end Issuer
