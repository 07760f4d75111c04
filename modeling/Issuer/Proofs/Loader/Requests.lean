import Issuer.Proofs.Url.Extension
import Issuer.Proofs.Url.Sanity
/-!
# Requests — what a loader asks the network for

A loader from HTTP has one URL that it would request, and it does request it, once, if the URL can
be requested from; a loader from a file requests nothing.  A document of IPFS is requested from the
gateway: whatever the URL of the document holds, the request goes to the host that the gateway
names, and slashes at the end of the gateway do not count (`requests_of_ofUrl`).
-/
namespace Issuer.Loader

variable {network : Network} {disk : Disk} {url : Text} {options : Members}

/-! ## URLs that can be requested from -/

theorem validateHttpUrl_of_same {other : Text} {u v : Url} (parsed : Url.parse url = .ok u)
    (parsed' : Url.parse other = .ok v) (scheme : v.scheme = u.scheme)
    (netloc : v.netloc = u.netloc) (h : validateHttpUrl url = .ok ()) :
    validateHttpUrl other = .ok () := by
  obtain ⟨w, port, parsed'', hport, right⟩ := validateHttpUrl_eq_ok_iff.1 h
  obtain rfl := Except.ok.inj (parsed.symm.trans parsed'')
  have parts : v.hostAndPort = u.hostAndPort := by simp only [Url.hostAndPort, netloc]
  have host : v.host = u.host := by simp only [Url.host, parts]
  have port? : v.port? = u.port? := by simp only [Url.port?, parts]
  exact validateHttpUrl_eq_ok_iff.2 ⟨v, port, parsed', by rw [port?, hport],
    by rwa [scheme, host, netloc]⟩

/-! ## What is requested -/

def request? : Loader → Option Request
  | http url options => some ⟨url, options⟩
  | ipfs url gateway options => some ⟨gatewayUrl url gateway, options⟩
  | file _ => none

theorem requests_of_passed (h : validateHttpUrl url = .ok ()) :
    (download network url options).2.requests = [⟨url, options⟩] := by
  simp only [download, h]
  split
  · rfl
  · rfl

theorem requests_of_refused {p : Problem} (h : validateHttpUrl url = .error p) :
    (download network url options).2.requests = [] := by
  simp only [download, h]

/-- **A loader requests nothing, or what it would request from a URL that passes.** -/
theorem requests_load (network : Network) (disk : Disk) (loader : Loader) :
    (loader.load network disk).2.requests = [] ∨
    ∃ r, loader.request? = some r ∧ validateHttpUrl r.url = .ok () ∧
      (loader.load network disk).2.requests = [r] := by
  cases loader with
  | http url options =>
    cases h : validateHttpUrl url with
    | error p => exact .inl (requests_of_refused h)
    | ok _ => exact .inr ⟨_, rfl, h, requests_of_passed h⟩
  | ipfs url gateway options =>
    cases h : validateHttpUrl (gatewayUrl url gateway) with
    | error p => exact .inl (requests_of_refused h)
    | ok _ => exact .inr ⟨_, rfl, h, requests_of_passed h⟩
  | file path =>
    refine .inl ?_
    rw [load]
    split
    · rfl
    · rfl

theorem length_requests_load (loader : Loader) :
    (loader.load network disk).2.requests.length ≤ 1 := by
  obtain none | ⟨r, -, -, one⟩ := requests_load network disk loader
  · rw [none]
    exact Nat.zero_le 1
  · rw [one]
    exact Nat.le_refl 1

theorem passed_of_mem_requests {loader : Loader} {r : Request}
    (h : r ∈ (loader.load network disk).2.requests) : validateHttpUrl r.url = .ok () := by
  obtain none | ⟨s, -, passed, one⟩ := requests_load network disk loader
  · rw [none] at h
    cases h
  · rw [one, List.mem_singleton] at h
    rwa [h]

/-! ## Loaders of HTTP -/

theorem requests_of_ofHttp {loader : Loader} (made : ofHttp (some url) options = .ok loader) :
    loader = .http url options ∧ (loader.load network disk).2.requests = [⟨url, options⟩] := by
  cases passed : validateHttpUrl url with
  | error p =>
    rw [ofHttp, passed] at made
    cases made
  | ok _ =>
    rw [ofHttp, passed] at made
    cases made
    exact ⟨rfl, requests_of_passed passed⟩

theorem ofHttp_of_ofUrl {gateway : Option Text} {named : Text}
    (made : ofUrl (some url) gateway = .ok (.http named options)) :
    ofHttp (some url) [] = .ok (.http named options) := by
  cases parsed : Url.parse url with
  | error cause =>
    simp only [ofUrl, parsed] at made
    cases made
  | ok u =>
    simp only [ofUrl, parsed] at made
    split at made
    · exact made
    · split at made
      · simp only [ofIpfs, parsed] at made
        split at made
        · cases made
        · split at made
          · cases made
          · cases made
          · cases made
      · split at made
        · cases made
        · cases made

/-! ## Loaders of IPFS -/

section Ipfs

variable {u : Url} {gateway : Text} (parsed : Url.parse url = .ok u) (scheme : u.scheme = "ipfs")
  (netloc : u.netloc ≠ [])

include parsed scheme netloc

theorem ofUrl_of_ipfs (given : gateway ≠ []) :
    ofUrl (some url) (some gateway) = .ok (.ipfs url gateway []) := by
  obtain ⟨c, rest, rfl⟩ := List.exists_cons_of_ne_nil given
  have other : httpSchemes.contains u.scheme = false := by rw [scheme]; decide
  have named : (decide (u.scheme ≠ "ipfs") || u.netloc.isEmpty) = false := by
    simpa [scheme] using netloc
  simp only [ofUrl, parsed, other, ofIpfs, named, if_pos scheme, Bool.false_eq_true, if_false]

end Ipfs

theorem gatewayUrl_append (url gateway : Text) (n : Nat) :
    gatewayUrl url (gateway ++ List.replicate n ('/' : CodePoint)) = gatewayUrl url gateway := by
  have only : Url.IsSlashes (List.replicate n ('/' : CodePoint)) :=
    fun c hc => List.eq_of_mem_replicate hc
  simp only [gatewayUrl, Url.dropWhileEnd_append only]

theorem exists_gatewayUrl (url gateway : Text) : ∃ more, gatewayUrl url gateway =
    Text.dropWhileEnd (· == '/') gateway ++ ('/' : CodePoint) :: more :=
  ⟨_, List.append_assoc _ _ _⟩

theorem exists_parse_gatewayUrl {gateway : Text} (url : Text)
    (passed : validateHttpUrl gateway = .ok ()) : ∃ v w, Url.parse gateway = .ok v ∧
      Url.parse (gatewayUrl url gateway) = .ok w ∧ w.scheme = v.scheme ∧ w.netloc = v.netloc ∧
      validateHttpUrl (gatewayUrl url gateway) = .ok () := by
  obtain ⟨v, port, parsed, -, scheme, host, -⟩ := validateHttpUrl_eq_ok_iff.1 passed
  have named : v.scheme ≠ [] := by
    intro none
    rw [none] at scheme
    exact absurd scheme (by decide)
  have located : v.netloc ≠ [] := by
    intro none
    apply host
    simp only [Url.host, Url.hostAndPort, none]
    rfl
  obtain ⟨more, extended⟩ := exists_gatewayUrl url gateway
  obtain ⟨w, parsed', sameScheme, sameNetloc⟩ :=
    Url.exists_parse_extended parsed named located more
  rw [← extended] at parsed'
  exact ⟨v, w, parsed, parsed', sameScheme, sameNetloc,
    validateHttpUrl_of_same parsed parsed' sameScheme sameNetloc passed⟩

/-! ## Loaders for URLs -/

/-- **What is requested for a URL.**  The loader for it makes at most one request, from a URL that
passes.  A loader from HTTP requests the URL itself.  A document of IPFS is requested once from a
gateway that passes: with the scheme and the network location of the gateway, whatever the URL of
the document holds, and from the same URL whatever slashes the gateway ends with. -/
theorem requests_of_ofUrl (url : Text) (gateway : Option Text) (network : Network) (disk : Disk) :
    (∀ loader, ofUrl (some url) gateway = .ok loader →
      (loader.load network disk).2.requests.length ≤ 1 ∧
      (∀ r ∈ (loader.load network disk).2.requests, validateHttpUrl r.url = .ok ()) ∧
      ∀ named options, loader = .http named options →
        (loader.load network disk).2.requests = [⟨url, []⟩]) ∧
    (∀ options loader, ofHttp (some url) options = .ok loader →
      (loader.load network disk).2.requests = [⟨url, options⟩]) ∧
    ∀ u g, Url.parse url = .ok u → u.scheme = "ipfs" → u.netloc ≠ [] →
      validateHttpUrl g = .ok () → ∃ v w, Url.parse g = .ok v ∧
        Url.parse (gatewayUrl url g) = .ok w ∧ w.scheme = v.scheme ∧ w.netloc = v.netloc ∧
        ∀ n, ∃ loader,
          ofUrl (some url) (some (g ++ List.replicate n ('/' : CodePoint))) = .ok loader ∧
          (loader.load network disk).2.requests = [⟨gatewayUrl url g, []⟩] := by
  refine ⟨fun loader made => ⟨length_requests_load loader, fun r => passed_of_mem_requests, ?_⟩,
    fun options loader made => (requests_of_ofHttp made).2, ?_⟩
  · rintro named options rfl
    exact (requests_of_ofHttp (ofHttp_of_ofUrl made)).2
  · intro u g parsed scheme netloc passed
    obtain ⟨v, w, parsed', parsed'', sameScheme, sameNetloc, passed'⟩ :=
      exists_parse_gatewayUrl url passed
    refine ⟨v, w, parsed', parsed'', sameScheme, sameNetloc, fun n => ?_⟩
    refine ⟨_, ofUrl_of_ipfs parsed scheme netloc (List.append_ne_nil_of_left_ne_nil ?_ _), ?_⟩
    · rintro rfl
      cases passed
    · rw [load, gatewayUrl_append, requests_of_passed passed']

def silent : Network := fun _ => .trouble .timeout (.outside .invalidValue "timed out")

/-- The URL of a document of IPFS that holds what looks like credentials and another host. -/
def decoyUrl : Text := "ipfs://bafy@evil.example:99/person?redirect=1"

/-- A document with a decoy is requested from its gateway, which may end with slashes; a document of
HTTP is requested itself, though no answer comes. -/
theorem requests_of_ofUrl_decoy :
    Url.parse decoyUrl =
      .ok ⟨"ipfs", "bafy@evil.example:99", "/person", [], "redirect=1", []⟩ ∧
    validateHttpUrl "https://gateway.example/" = .ok () ∧
    (∃ w, Url.parse "https://gateway.example/ipfs/bafy@evil.example:99/person" = .ok w ∧
      w.scheme = "https" ∧ w.netloc = "gateway.example") ∧
    (∃ loader, ofUrl (some decoyUrl) (some "https://gateway.example///") = .ok loader ∧
      (loader.load silent .empty).2.requests =
        [⟨"https://gateway.example/ipfs/bafy@evil.example:99/person", []⟩]) ∧
    ofUrl (some "http://localhost/person") none = .ok (.http "http://localhost/person" []) ∧
    ((Loader.http "http://localhost/person" []).load silent .empty).2.requests =
      [⟨"http://localhost/person", []⟩] := by
  have parsed : Url.parse decoyUrl =
      .ok ⟨"ipfs", "bafy@evil.example:99", "/person", [], "redirect=1", []⟩ := by rfl
  have passed : validateHttpUrl "https://gateway.example/" = .ok () := by rfl
  have made : ofUrl (some "http://localhost/person") none =
      .ok (.http "http://localhost/person" []) := by rfl
  obtain ⟨-, -, ipfs⟩ := requests_of_ofUrl decoyUrl none silent .empty
  obtain ⟨http, -, -⟩ := requests_of_ofUrl "http://localhost/person" none silent .empty
  obtain ⟨v, w, parsed', parsed'', scheme, netloc, loads⟩ :=
    ipfs _ _ parsed rfl (by decide) passed
  obtain rfl : v = ⟨"https", "gateway.example", "/", [], [], []⟩ :=
    Except.ok.inj (parsed'.symm.trans (by rfl))
  exact ⟨parsed, passed, ⟨w, parsed'', scheme, netloc⟩, loads 2, made,
    (http _ made).2.2 _ _ rfl⟩

end Issuer.Loader
