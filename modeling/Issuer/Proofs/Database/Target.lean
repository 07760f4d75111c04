import Issuer.Database.Url
import Issuer.Proofs.Url.Rewriting
/-!
# Target — the URL by which a database is opened

The backend gets the URL of a database under a scheme of its own.  All other parts are meant to stay
as they are, and they do exactly if the URL has a network location or its path does not start with
two slashes (`backendUrl_keeps_iff`).  Else the first part of the path is taken for the host
(`not_keeps_double_slash`).
-/
namespace Issuer.Database

open Url (IsNeutral)

variable {url backend : Text} {u : Url}

def withBackendScheme (u : Url) : Url := { u with scheme := backendScheme }

/-- **The first part of the path would be taken for a network location**, as there is none and the
path starts with two slashes. -/
def IsUnrooted (u : Url) : Prop := u.netloc = [] ∧ ("//" : Text) <+: u.path

theorem isNeutral_backendScheme : IsNeutral backendScheme where
  letter := by decide
  points := by decide
  lower := by decide
  unannounced := by decide
  unparametrised := by decide

theorem unparametrised_of_supported {scheme : Text}
    (h : dialectOf scheme ∈ supportedDialects) : Url.paramSchemes.contains scheme = false := by
  have apart : ∀ s ∈ Url.paramSchemes, dialectOf s ∉ supportedDialects := by decide
  rw [Bool.eq_false_iff]
  exact fun parametrised => apart scheme (List.contains_iff_mem.1 parametrised) h

/-- **What the backend gets**: a URL that can be taken apart, of a dialect that is supported, with
a port that is one, under the scheme of the backend. -/
theorem backendUrl_eq_ok_iff : backendUrl url = .ok backend ↔ ∃ u, Url.parse url = .ok u ∧
    dialectOf u.scheme ∈ supportedDialects ∧ (∃ port, u.port? = .ok port) ∧
    backend = (withBackendScheme u).toText := by
  unfold backendUrl target
  cases Url.parse url with
  | error cause => simp [Except.map]
  | ok u =>
    by_cases supported : dialectOf u.scheme ∈ supportedDialects
    · cases port : u.port? <;> simp [Except.map, supported, port, withBackendScheme, eq_comm]
    · simp [Except.map, supported]

/-- **The URL of the backend is taken apart as that of the database**, unless the first part of the
path is taken for a network location. -/
theorem parse_withBackendScheme_iff (parsed : Url.parse url = .ok u)
    (supported : dialectOf u.scheme ∈ supportedDialects) :
    Url.parse (withBackendScheme u).toText = .ok (withBackendScheme u) ↔ ¬ IsUnrooted u := by
  obtain ⟨checked, rfl⟩ :=
    (Url.parse_eq_ok_iff (unparametrised_of_supported supported)).1 parsed
  obtain ⟨netloc, path, query, rooted, unbroken⟩ := Url.isDelimited_parts url
  exact Url.parse_toText_iff (u := withBackendScheme (Url.parts url)) isNeutral_backendScheme
    ⟨netloc, path, query, rooted, unbroken⟩ rfl checked

/-- **The URL of the backend keeps all parts of that of the database but the scheme** exactly if the
first part of the path is not taken for a network location; and then the backend gets it unchanged
if it is given in its turn. -/
theorem backendUrl_keeps_iff (url backend : Text) (h : backendUrl url = .ok backend) :
    ∃ u, Url.parse url = .ok u ∧
      (Url.parse backend = .ok (withBackendScheme u) ↔ ¬ IsUnrooted u) ∧
      (¬ IsUnrooted u → backendUrl backend = .ok backend) := by
  obtain ⟨u, parsed, supported, port, rfl⟩ := backendUrl_eq_ok_iff.1 h
  have kept := parse_withBackendScheme_iff parsed supported
  refine ⟨u, parsed, kept, fun rooted => ?_⟩
  have supported : dialectOf backendScheme ∈ supportedDialects := by decide
  exact backendUrl_eq_ok_iff.2 ⟨withBackendScheme u, kept.2 rooted, supported, port, rfl⟩

def ownDriverUrl : Text := "Postgres+asyncpg://me:p@ss@db:5432//issuer?ssl=1#a?b"

def doubleSlashUrl : Text := "postgres:////host/issuer"

/-- A URL with a network location keeps its parts, also where its path starts with two slashes; the
path of one without becomes a host. -/
theorem backendUrl_keeps_iff_ownDriver :
    (∃ backend u, backendUrl ownDriverUrl = .ok backend ∧ Url.parse ownDriverUrl = .ok u ∧
      u.netloc = "me:p@ss@db:5432" ∧ u.path = "//issuer" ∧ u.query = "ssl=1" ∧
      Url.parse backend = .ok (withBackendScheme u) ∧ backendUrl backend = .ok backend) ∧
    ∃ backend u, backendUrl doubleSlashUrl = .ok backend ∧ Url.parse doubleSlashUrl = .ok u ∧
      Url.parse backend ≠ .ok (withBackendScheme u) := by
  have rewritten : backendUrl ownDriverUrl =
      .ok "postgresql+psycopg://me:p@ss@db:5432//issuer?ssl=1#a?b" := by rfl
  have unrooted : backendUrl doubleSlashUrl = .ok "postgresql+psycopg://host/issuer" := by rfl
  refine ⟨?_, ?_⟩
  · obtain ⟨u, parsed, kept, again⟩ := backendUrl_keeps_iff _ _ rewritten
    obtain rfl : u = ⟨"postgres+asyncpg", "me:p@ss@db:5432", "//issuer", [],
      "ssl=1", "a?b"⟩ := Except.ok.inj (parsed.symm.trans (by rfl))
    have rooted : ¬ IsUnrooted ⟨"postgres+asyncpg", "me:p@ss@db:5432", "//issuer", [],
      "ssl=1", "a?b"⟩ := fun h => absurd h.1 (by decide)
    exact ⟨_, _, rewritten, parsed, rfl, rfl, rfl, kept.2 rooted, again rooted⟩
  · obtain ⟨u, parsed, kept, -⟩ := backendUrl_keeps_iff _ _ unrooted
    obtain rfl : u = ⟨"postgres", [], "//host/issuer", [], [], []⟩ :=
      Except.ok.inj (parsed.symm.trans (by rfl))
    exact ⟨_, _, unrooted, parsed, fun same => kept.1 same ⟨rfl, _, rfl⟩⟩

/-- **A path that starts with two slashes is not kept**: what follows them becomes the host. -/
theorem not_keeps_double_slash : ¬ ∀ url backend, backendUrl url = .ok backend →
    ∃ u, Url.parse url = .ok u ∧ Url.parse backend = .ok (withBackendScheme u) ∧
      backendUrl backend = .ok backend := by
  intro all
  have unrooted : backendUrl doubleSlashUrl = .ok "postgresql+psycopg://host/issuer" := by rfl
  have parsed : Url.parse doubleSlashUrl = .ok ⟨"postgres", [], "//host/issuer", [], [], []⟩ := by
    rfl
  have read : Url.parse "postgresql+psycopg://host/issuer" =
      .ok ⟨backendScheme, "host", "/issuer", [], [], []⟩ := by rfl
  obtain ⟨u, given, kept, -⟩ := all _ _ unrooted
  obtain rfl := Except.ok.inj (given.symm.trans parsed)
  have same := Except.ok.inj (read.symm.trans kept)
  exact absurd (congrArg Url.netloc same) (by decide)

end Issuer.Database
