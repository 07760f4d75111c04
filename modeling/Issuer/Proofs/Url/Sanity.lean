import Issuer.Proofs.Loader
import Issuer.Proofs.Url.Authority
import Mathlib.Data.List.Basic
/-!
# Sanity — where a URL that is requested from points to

A URL is refused before anything is requested from it unless it points to a plain host.  What is
checked is the host as it is compared, in lower case and without brackets, so a network location
can pass that is not plain as it is written: one with a Kelvin sign, whose lower case is a letter of
ASCII, or one with an address of a future version between brackets.  Every other one that passes is
sane (`validateHttpUrl_sane_iff`).
-/
namespace Issuer.Loader

/-! ## Network locations -/

/-- Nothing, or a colon and a port of at most 65535, which may be left out. -/
inductive IsPort : Text → Prop where
  | nothing : IsPort []
  | port {digits : Text} (decimal : ∀ c ∈ digits, c.isDigit = true)
      (range : Text.digitsValue digits ≤ 65535) : IsPort ((':' : CodePoint) :: digits)

/-- **A sane network location**: a host that is named, or an IPv6 address between brackets, and
perhaps a port. -/
inductive IsSane : Text → Prop where
  | named {host port : Text} (given : host ≠ []) (single : (':' : CodePoint) ∉ host)
      (plain : ∀ c ∈ host, isHostPoint c = true) (hport : IsPort port) : IsSane (host ++ port)
  | address {host port : Text} (plain : ∀ c ∈ host, isHostPoint c = true)
      (literal : Url.isIPv6 host = true) (hport : IsPort port) :
      IsSane (('[' : CodePoint) :: (host ++ (']' : CodePoint) :: port))

def kelvin : CodePoint := ⟨0x212A, by decide⟩

/-- **A network location that is not what its host looks like**: it holds a Kelvin sign, or an
address of a future version between brackets. -/
inductive IsDisguised (netloc : Text) : Prop where
  | kelvin (held : kelvin ∈ netloc)
  | future {host port : Text}
      (enclosed : netloc = ('[' : CodePoint) :: (host ++ (']' : CodePoint) :: port))
      (literal : Url.isFutureAddress host = true)

/-! ## Code points -/

def IsPlain (c : CodePoint) : Prop :=
  isHostPoint c = true ∨ c = ('[' : CodePoint) ∨ c = (']' : CodePoint)

section Points

variable {c : CodePoint}

theorem isHostPoint_iff : isHostPoint c = true ↔ (65 ≤ c.val ∧ c.val ≤ 90) ∨
    (97 ≤ c.val ∧ c.val ≤ 122) ∨ (48 ≤ c.val ∧ c.val ≤ 57) ∨ c.val = 45 ∨ c.val = 46 ∨
      c.val = 95 ∨ c.val = 58 := by
  simp only [isHostPoint, CodePoint.isAsciiLetter, CodePoint.isAsciiUpper, CodePoint.isAsciiLower,
    CodePoint.isDigit, CodePoint.ofChar, Bool.or_eq_true, Bool.and_eq_true, decide_eq_true_eq,
    beq_iff_eq, Fin.ext_iff, Fin.le_def, or_assoc]
  rfl

theorem isHostPoint_of_isDigit (h : c.isDigit = true) : isHostPoint c = true := by
  simp only [isHostPoint, h, Bool.or_true, Bool.true_or]

/-- **A code point whose lower-case form is plain** is so itself, but for the Kelvin sign. -/
theorem isHostPoint_of_lower (h : isHostPoint (Url.lowerHostPoint c) = true) :
    c = kelvin ∨ isHostPoint c = true := by
  unfold Url.lowerHostPoint CodePoint.asciiLower at h
  split at h
  · exact .inl (Fin.ext ‹_›)
  · split at h
    · rename_i upper
      refine .inr ?_
      simp only [isHostPoint, CodePoint.isAsciiLetter, upper, Bool.true_or]
    · exact .inr h

theorem IsPlain.val (h : IsPlain c) : 45 ≤ c.val ∧ c.val ≤ 122 ∧ c.val ≠ 64 := by
  obtain h | rfl | rfl := h
  · rw [isHostPoint_iff] at h
    omega
  · decide
  · decide

theorem IsPlain.isAscii (h : IsPlain c) : c.isAscii = true := by
  have := h.val
  simp only [CodePoint.isAscii, decide_eq_true_eq]
  omega

theorem IsPlain.ne_at (h : IsPlain c) : c ≠ ('@' : CodePoint) := by
  rintro rfl
  exact h.val.2.2 rfl

theorem IsPlain.not_isBlank (h : IsPlain c) : c.isBlank = false := by
  have := h.val
  simp only [CodePoint.isBlank, Bool.or_eq_false_iff, Bool.and_eq_false_iff,
    decide_eq_false_iff_not, beq_eq_false_iff_ne]
  omega

theorem not_isPlain_kelvin : ¬ IsPlain kelvin := by
  intro h
  exact absurd h.val.2.1 (by decide)

end Points

/-! ## Sane network locations -/

section Sane

variable {netloc port : Text}

theorem IsPort.isHostPoint (h : IsPort port) : ∀ c ∈ port, isHostPoint c = true := by
  cases h with
  | nothing => nofun
  | port decimal =>
    refine List.forall_mem_cons.2 ⟨by decide, fun c hc => isHostPoint_of_isDigit (decimal c hc)⟩

theorem IsSane.isPlain (h : IsSane netloc) : ∀ c ∈ netloc, IsPlain c := by
  cases h with
  | named _ _ plain hport =>
    exact List.forall_mem_append.2
      ⟨fun c hc => .inl (plain c hc), fun c hc => .inl (hport.isHostPoint c hc)⟩
  | address plain _ hport =>
    refine List.forall_mem_cons.2 ⟨.inr (.inl rfl), List.forall_mem_append.2
      ⟨fun c hc => .inl (plain c hc), List.forall_mem_cons.2 ⟨.inr (.inr rfl), ?_⟩⟩⟩
    exact fun c hc => .inl (hport.isHostPoint c hc)

theorem bracket_not_mem {t : Text} (h : ∀ c ∈ t, isHostPoint c = true) :
    (']' : CodePoint) ∉ t ∧ ('[' : CodePoint) ∉ t :=
  ⟨fun hc => absurd (h _ hc) (by decide), fun hc => absurd (h _ hc) (by decide)⟩

theorem IsSane.not_isDisguised (h : IsSane netloc) : ¬ IsDisguised netloc := by
  rintro (held | ⟨enclosed, future⟩)
  · exact not_isPlain_kelvin (h.isPlain _ held)
  · cases h with
    | named _ _ plain hport =>
      have unopened := (bracket_not_mem
        (List.forall_mem_append.2 ⟨plain, hport.isHostPoint⟩)).2
      exact unopened (enclosed ▸ List.mem_cons_self)
    | address plain literal hport =>
      obtain ⟨rfl, -, -⟩ := (List.append_cons_inj_of_notMem (bracket_not_mem plain).1
        (bracket_not_mem hport.isHostPoint).1).1 (List.cons.inj enclosed).2
      exact Url.not_isIPv6_of_isFutureAddress future literal

end Sane

/-! ## URLs that passed -/

section Passed

variable {url : Text} {u : Url}

/-- **A URL can be requested from exactly if its scheme, its host and its port are right.** -/
theorem validateHttpUrl_eq_ok_iff : validateHttpUrl url = .ok () ↔ ∃ u port,
    Url.parse url = .ok u ∧ u.port? = .ok port ∧ u.scheme ∈ httpSchemes ∧ u.host ≠ [] ∧
      ('@' : CodePoint) ∉ u.netloc ∧ ∀ c ∈ u.host, isHostPoint c = true := by
  constructor
  · intro h
    unfold validateHttpUrl at h
    split at h
    · cases h
    · rename_i v taken
      obtain ⟨u, parsed, taken⟩ := bind_eq_ok_iff.1 taken
      obtain ⟨port, hport, taken⟩ := bind_eq_ok_iff.1 taken
      cases taken
      split at h
      · rename_i checked
        simp only [Bool.and_eq_true, Bool.not_eq_true', List.isEmpty_eq_false_iff,
          List.all_eq_true, List.contains_eq_mem, decide_eq_true_eq, decide_eq_false_iff_not]
          at checked
        obtain ⟨⟨⟨scheme, host⟩, anonymous⟩, plain⟩ := checked
        exact ⟨v, port, parsed, hport, scheme, host, anonymous, plain⟩
      · cases h
  · rintro ⟨u, port, parsed, hport, scheme, given, anonymous, plain⟩
    have taken : (do let parsed ← Url.parse url; let _ ← parsed.port?; return parsed) = .ok u :=
      bind_eq_ok_iff.2 ⟨u, parsed, bind_eq_ok_iff.2 ⟨port, hport, rfl⟩⟩
    rw [validateHttpUrl, taken]
    refine if_pos ?_
    simp only [Bool.and_eq_true, Bool.not_eq_true', List.isEmpty_eq_false_iff, List.all_eq_true,
      List.contains_eq_mem, decide_eq_true_eq, decide_eq_false_iff_not]
    exact ⟨⟨⟨scheme, given⟩, anonymous⟩, plain⟩

theorem plain_of_host (h : ∀ c ∈ u.host, isHostPoint c = true) :
    ∀ c ∈ u.hostAndPort.1, c = kelvin ∨ isHostPoint c = true := by
  unfold Url.host at h
  dsimp only at h
  split at h
  · -- a zone follows a percent sign, which is not plain
    exact absurd (h '%' (List.mem_append_left _ (List.mem_append_right _ List.mem_cons_self)))
      (by decide)
  · exact fun c hc => isHostPoint_of_lower (h _ (List.mem_map_of_mem hc))

theorem host_ne_nil (h : u.host ≠ []) : u.hostAndPort.1 ≠ [] := by
  intro empty
  apply h
  unfold Url.host
  rw [empty]
  rfl

theorem isPort_of_port? {port : Option Nat} {after : Text} (h : u.port? = .ok port)
    (follows : Url.IsAfterHost u.hostAndPort.2 after) : IsPort after := by
  unfold Url.port? at h
  generalize u.hostAndPort.2 = text at h follows
  cases follows with
  | nothing => exact .nothing
  | port =>
    dsimp only at h
    split at h
    · rename_i empty
      rw [List.isEmpty_iff.1 empty]
      exact .port nofun (by decide)
    · split at h
      · cases h
      · rename_i decimal
        split at h
        · cases h
        · split at h
          · rename_i range
            exact .port (by simpa using decimal) range
          · cases h

theorem isPlain_or_of_isAuthority {host port netloc : Text}
    (authority : Url.IsAuthority host port netloc)
    (hhost : ∀ c ∈ host, c = kelvin ∨ isHostPoint c = true)
    (hport : ∀ after, Url.IsAfterHost port after → IsPort after) :
    ∀ c ∈ netloc, c = kelvin ∨ IsPlain c := by
  have plain : ∀ c ∈ host, c = kelvin ∨ IsPlain c := fun c hc => (hhost c hc).imp_right .inl
  have after_plain {after : Text} (follows : Url.IsAfterHost port after) :
      ∀ c ∈ after, c = kelvin ∨ IsPlain c :=
    fun c hc => .inr (.inl ((hport after follows).isHostPoint c hc))
  cases authority with
  | bare _ _ follows => exact List.forall_mem_append.2 ⟨plain, after_plain follows⟩
  | bracketed _ _ follows =>
    exact List.forall_mem_cons.2 ⟨.inr (.inr (.inl rfl)), List.forall_mem_append.2 ⟨plain,
      List.forall_mem_cons.2 ⟨.inr (.inr (.inr rfl)), after_plain follows⟩⟩⟩

/-- **A network location that passes and is not disguised is sane.** -/
theorem isSane_of_isAuthority {host port netloc : Text}
    (authority : Url.IsAuthority host port netloc) (given : host ≠ [])
    (hhost : ∀ c ∈ host, c = kelvin ∨ isHostPoint c = true)
    (hport : ∀ after, Url.IsAfterHost port after → IsPort after)
    (undisguised : ¬ IsDisguised netloc) : IsSane netloc := by
  cases authority with
  | bare single _ follows =>
    refine .named given single (fun c hc => (hhost c hc).resolve_left ?_) (hport _ follows)
    rintro rfl
    exact undisguised (.kelvin (List.mem_append_left _ hc))
  | bracketed _ literal follows =>
    obtain future | literal := Url.checkBracketed_eq_ok literal
    · exact absurd (.future rfl future) undisguised
    · refine .address (fun c hc => (hhost c hc).resolve_left ?_) literal (hport _ follows)
      rintro rfl
      exact undisguised (.kelvin (List.mem_cons_of_mem _ (List.mem_append_left _ hc)))

end Passed

/-- **A URL is refused as a document that cannot be loaded, or it points to a plain host.**  If it
passes, it is one of HTTP, and its network location has neither credentials nor a blank, nor a code
point outside ASCII other than the Kelvin sign; and it is sane exactly if it is not disguised. -/
theorem validateHttpUrl_sane_iff (url : Text) :
    (∀ p, validateHttpUrl url = .error p → p.IsReported) ∧
    (validateHttpUrl url = .ok () → ∃ u, Url.parse url = .ok u ∧ u.scheme ∈ httpSchemes ∧
      (∀ c ∈ u.netloc, c ≠ ('@' : CodePoint) ∧ c.isBlank = false ∧
        (c = kelvin ∨ c.isAscii = true)) ∧
      (IsSane u.netloc ↔ ¬ IsDisguised u.netloc) ∧
      (IsSane u.netloc → ∀ c ∈ u.netloc, c.isAscii = true)) := by
  refine ⟨fun p => isReported_of_validateHttpUrl, fun h => ?_⟩
  obtain ⟨u, port, parsed, hport, scheme, given, anonymous, plain⟩ := validateHttpUrl_eq_ok_iff.1 h
  have authority := Url.authority_of_parse anonymous parsed
  have hhost := plain_of_host plain
  have after (t : Text) (follows : Url.IsAfterHost u.hostAndPort.2 t) : IsPort t :=
    isPort_of_port? hport follows
  refine ⟨u, parsed, scheme, fun c hc => ?_, ⟨IsSane.not_isDisguised,
    isSane_of_isAuthority authority (host_ne_nil given) hhost after⟩, fun sane c hc =>
      (sane.isPlain c hc).isAscii⟩
  obtain rfl | hplain := isPlain_or_of_isAuthority authority hhost after c hc
  · exact ⟨by decide, by decide, .inl rfl⟩
  · exact ⟨hplain.ne_at, hplain.not_isBlank, .inr hplain.isAscii⟩

/-- An IPv6 address with a port passes and is sane; an address of a future version passes as well,
though it is not. -/
theorem validateHttpUrl_sane_iff_address :
    validateHttpUrl "http://[::1]:8080/schema.json" = .ok () ∧ IsSane "[::1]:8080" ∧
    ¬ IsDisguised "[::1]:8080" ∧ validateHttpUrl "https://[v1.a]/" = .ok () ∧ ¬ IsSane "[v1.a]" ∧
    ∃ p, validateHttpUrl "https://user@example.com/" = .error p ∧ p.IsReported := by
  have passed : validateHttpUrl "http://[::1]:8080/schema.json" = .ok () := by rfl
  have port : IsPort ":8080" := @IsPort.port "8080" (List.all_eq_true.1 (by rfl)) (by decide)
  have sane : IsSane "[::1]:8080" :=
    @IsSane.address "::1" ":8080" (List.all_eq_true.1 (by rfl)) (by decide) port
  have future : validateHttpUrl "https://[v1.a]/" = .ok () := by rfl
  have disguised : IsDisguised "[v1.a]" := @IsDisguised.future _ "v1.a" [] (by rfl) (by decide)
  have refused : validateHttpUrl "https://user@example.com/" =
      .error (.notDereferenced "https://user@example.com/") := by rfl
  obtain ⟨u, parsed, -, -, saneIff, -⟩ := (validateHttpUrl_sane_iff _).2 passed
  obtain rfl : u = ⟨"http", "[::1]:8080", "/schema.json", [], [], []⟩ :=
    Except.ok.inj (parsed.symm.trans (by rfl))
  obtain ⟨v, parsed, -, -, unsaneIff, -⟩ := (validateHttpUrl_sane_iff _).2 future
  obtain rfl : v = ⟨"https", "[v1.a]", "/", [], [], []⟩ :=
    Except.ok.inj (parsed.symm.trans (by rfl))
  exact ⟨passed, sane, saneIff.1 sane, future, fun h => unsaneIff.1 h disguised, _, refused,
    (validateHttpUrl_sane_iff _).1 _ refused⟩

def kelvinUrl : Text := "http://\u212A/"

/-- **A URL that passes can point to a host that is not plain as it is written.** -/
theorem not_isSane_kelvin : ¬ ∀ url, validateHttpUrl url = .ok () →
    ∃ u, Url.parse url = .ok u ∧ IsSane u.netloc := by
  intro all
  obtain ⟨_, ⟨⟩, sane⟩ := all kelvinUrl (by rfl)
  exact not_isPlain_kelvin (sane.isPlain kelvin (by decide))

end Issuer.Loader
