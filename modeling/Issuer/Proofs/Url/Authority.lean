import Issuer.Proofs.Except
import Issuer.Proofs.Text.Cut
import Issuer.Url.Basic
import Mathlib.Data.Nat.Init
/-!
# Authorities

What the network location of a URL is made of, if it has no credentials: a host, bare or between
brackets, and a port after a colon, which may be left out (`authority_of_parse`).  Between
brackets stands an address, either of IPv6 or of a future version.
-/
namespace Issuer.Url

/-! ## What a text announces -/

/-- The scheme and the network location that a text announces, whether they are right or not. -/
def announced (t : Text) : Text × Text :=
  ((splitScheme (clean t)).1, (splitNetloc (splitScheme (clean t)).2).1)

theorem announced_of_split {t : Text} {u : Url} (h : split t = .ok u) :
    announced t = (u.scheme, u.netloc) ∧ checkNetloc u.netloc = .ok () := by
  obtain ⟨_, checked, h⟩ := bind_eq_ok_iff.1 h
  cases h
  exact ⟨rfl, checked⟩

theorem exists_split {t : Text} (h : checkNetloc (announced t).2 = .ok ()) :
    ∃ u, split t = .ok u ∧ (u.scheme, u.netloc) = announced t := by
  refine ⟨_, bind_eq_ok_iff.2 ⟨(), h, rfl⟩, rfl⟩

/-- **A text is a URL exactly if the network location that it announces passes.** -/
theorem exists_parse_iff {t scheme netloc : Text} :
    (∃ u, parse t = .ok u ∧ u.scheme = scheme ∧ u.netloc = netloc) ↔
      announced t = (scheme, netloc) ∧ checkNetloc netloc = .ok () := by
  constructor
  · rintro ⟨u, parsed, rfl, rfl⟩
    obtain ⟨v, hv, h⟩ := bind_eq_ok_iff.1 parsed
    have same : u.scheme = v.scheme ∧ u.netloc = v.netloc := by
      split at h
      · cases h
        exact ⟨rfl, rfl⟩
      · cases h
        exact ⟨rfl, rfl⟩
    rw [same.1, same.2]
    exact announced_of_split hv
  · rintro ⟨told, checked⟩
    obtain ⟨v, hv, same⟩ := exists_split (t := t) (by rw [told]; exact checked)
    obtain ⟨rfl, rfl⟩ := Prod.mk.inj (same.trans told)
    by_cases params : paramSchemes.contains v.scheme = true
    · exact ⟨_, bind_eq_ok_iff.2 ⟨v, hv, if_pos params⟩, rfl, rfl⟩
    · exact ⟨v, bind_eq_ok_iff.2 ⟨v, hv, if_neg params⟩, rfl, rfl⟩

theorem checkNetloc_of_parse {t : Text} {u : Url} (h : parse t = .ok u) :
    checkNetloc u.netloc = .ok () :=
  (exists_parse_iff.1 ⟨u, h, rfl, rfl⟩).2

variable {netloc : Text}

theorem checkNetloc_eq_ok (h : checkNetloc netloc = .ok ()) :
    (('[' : CodePoint) ∈ netloc ↔ (']' : CodePoint) ∈ netloc) ∧
      (('[' : CodePoint) ∈ netloc → checkBrackets netloc = .ok ()) := by
  unfold checkNetloc at h
  dsimp only at h
  split at h
  · cases h
  · rename_i paired
    rw [Bool.not_eq_true, bne_eq_false_iff_eq] at paired
    refine ⟨by rw [← List.contains_iff_mem, ← List.contains_iff_mem, paired], fun opened => ?_⟩
    rw [if_pos (List.contains_iff_mem.2 opened)] at h
    obtain ⟨_, checked, -⟩ := bind_eq_ok_iff.1 h
    exact checked

/-! ## Host and port -/

/-- What follows a host: nothing, or a colon and the port. -/
inductive IsAfterHost : Text → Text → Prop where
  | nothing : IsAfterHost [] []
  | port (port : Text) : IsAfterHost port (':' :: port)

/-- **What a network location is made of**: a host, bare or between brackets, and a port. -/
inductive IsAuthority (host port : Text) : Text → Prop where
  | bare {after : Text} (single : (':' : CodePoint) ∉ host) (unopened : ('[' : CodePoint) ∉ host)
      (follows : IsAfterHost port after) : IsAuthority host port (host ++ after)
  | bracketed {after : Text} (closed : (']' : CodePoint) ∉ host)
      (literal : checkBracketed host = .ok ()) (follows : IsAfterHost port after) :
      IsAuthority host port (('[' : CodePoint) :: (host ++ (']' : CodePoint) :: after))

theorem hostPart_of_not_mem (h : ('@' : CodePoint) ∉ netloc) : hostPart netloc = netloc := by
  rw [hostPart, Text.rpartition?_eq_none_iff.2 h]
  rfl

theorem isAfterHost_cut (t : Text) : ∃ after, t = (cut ':' t).1 ++ after ∧
    IsAfterHost (cut ':' t).2 after := by
  rw [cut]
  cases h : t.partition? ':' with
  | none => exact ⟨[], (List.append_nil t).symm, .nothing⟩
  | some parts => exact ⟨_, (Text.partition?_eq_some h).2, .port _⟩

theorem not_mem_cut (t : Text) : (':' : CodePoint) ∉ (cut ':' t).1 := by
  rw [cut]
  cases h : t.partition? ':' with
  | none => exact Text.partition?_eq_none_iff.1 h
  | some parts => exact (Text.partition?_eq_some h).1

theorem isAfterHost_of_startsWith {after : Text} (h : after.startsWith ":" = true) :
    IsAfterHost (cut ':' after).2 after := by
  cases after with
  | nil => cases h
  | cons c rest =>
    change (Text.afterPrefix? [CodePoint.ofChar ':'] (c :: rest)).isSome = true at h
    rw [Text.afterPrefix?] at h
    split at h
    · rename_i hc
      rw [cut, Text.partition?, if_pos hc.symm, ← hc]
      exact .port rest
    · cases h

section Anonymous

variable {u : Url} {before bracketed : Text} (anonymous : ('@' : CodePoint) ∉ u.netloc)
include anonymous

theorem hostAndPort_of_bare (h : u.netloc.partition? '[' = none) :
    u.hostAndPort = cut ':' u.netloc := by
  simp only [hostAndPort, hostPart_of_not_mem anonymous, h]

theorem hostAndPort_of_bracketed (h : u.netloc.partition? '[' = some (before, bracketed)) :
    u.hostAndPort = ((cut ']' bracketed).1, (cut ':' (cut ']' bracketed).2).2) := by
  simp only [hostAndPort, hostPart_of_not_mem anonymous, h]

theorem literal_of_checkBrackets (h : u.netloc.partition? '[' = some (before, bracketed))
    (checked : checkBrackets u.netloc = .ok ()) :
    before = [] ∧ IsAfterHost (cut ':' (cut ']' bracketed).2).2 (cut ']' bracketed).2 ∧
      checkBracketed (cut ']' bracketed).1 = .ok () := by
  simp only [checkBrackets, hostPart_of_not_mem anonymous, h] at checked
  change (if !before.isEmpty then .error .brackets
    else if !(cut ']' bracketed).2.isEmpty && !(cut ']' bracketed).2.startsWith ":" then
      .error .brackets
    else checkBracketed (cut ']' bracketed).1) = _ at checked
  split at checked
  · cases checked
  · split at checked
    · cases checked
    · rename_i first last
      refine ⟨by simpa using first, ?_, checked⟩
      cases after : (cut ']' bracketed).2 with
      | nil => exact .nothing
      | cons c rest => exact isAfterHost_of_startsWith (by simpa [after] using last)

/-- **The network location of a URL without credentials** is made of its host and its port. -/
theorem authority_of_parse {t : Text} (h : parse t = .ok u) :
    IsAuthority u.hostAndPort.1 u.hostAndPort.2 u.netloc := by
  obtain ⟨paired, checked⟩ := checkNetloc_eq_ok (checkNetloc_of_parse h)
  cases opened : u.netloc.partition? '[' with
  | none =>
    rw [hostAndPort_of_bare anonymous opened]
    obtain ⟨after, netloc, follows⟩ := isAfterHost_cut u.netloc
    have unopened : ('[' : CodePoint) ∉ (cut ':' u.netloc).1 := fun hmem =>
      Text.partition?_eq_none_iff.1 opened (netloc ▸ List.mem_append_left after hmem)
    have bare := IsAuthority.bare (not_mem_cut u.netloc) unopened follows
    rwa [← netloc] at bare
  | some parts =>
    obtain ⟨before, bracketed⟩ := parts
    rw [hostAndPort_of_bracketed anonymous opened]
    obtain ⟨-, netloc⟩ := Text.partition?_eq_some opened
    have hopened : ('[' : CodePoint) ∈ u.netloc :=
      netloc ▸ List.mem_append_right before List.mem_cons_self
    obtain ⟨rfl, follows, literal⟩ := literal_of_checkBrackets anonymous opened (checked hopened)
    cases closed : bracketed.partition? ']' with
    | none =>
      have hclosed := paired.1 hopened
      rw [netloc, List.nil_append, List.mem_cons] at hclosed
      exact absurd (hclosed.resolve_left (by decide)) (Text.partition?_eq_none_iff.1 closed)
    | some parts =>
      obtain ⟨host, after⟩ := parts
      obtain ⟨unclosed, rfl⟩ := Text.partition?_eq_some closed
      simp only [cut, closed, Option.getD_some] at follows literal ⊢
      rw [netloc, List.nil_append]
      exact .bracketed unclosed literal follows

end Anonymous

/-! ## Hosts in brackets -/

theorem checkBracketed_eq_ok {host : Text} (h : checkBracketed host = .ok ()) :
    isFutureAddress host = true ∨ isIPv6 host = true := by
  unfold checkBracketed at h
  split at h
  · split at h
    · exact .inl ‹_›
    · cases h
  · split at h
    · cases h
    · split at h
      · exact .inr ‹_›
      · cases h

section Addresses

variable {c : CodePoint} {t : Text}

theorem exists_split_cons {sep : CodePoint} (h : c ≠ sep) :
    ∃ part parts, Text.split sep (c :: t) = (c :: part) :: parts := by
  rw [Text.split, if_neg h]
  split
  · exact ⟨_, _, rfl⟩
  · exact ⟨_, _, rfl⟩

theorem hextetParts?_cons (hc : c ≠ ':') {parts : List Text}
    (h : hextetParts? (c :: t) = some parts) : ∃ part rest, parts = (c :: part) :: rest := by
  obtain ⟨part, rest, hsplit⟩ := exists_split_cons (t := t) hc
  simp only [hextetParts?, hsplit] at h
  split at h
  · cases h
  · rename_i long
    split at h
    · split at h
      · cases h
        -- an IPv4 address in place of the last part leaves the first, as there are three
        cases rest with
        | nil => exact absurd (by decide : 1 < 3) long
        | cons next rest => exact ⟨part, _, rfl⟩
      · cases h
    · cases h
      exact ⟨part, rest, rfl⟩

theorem isSome_hexValue?_of_isHextet (h : isHextet (c :: t) = true) :
    c.hexValue?.isSome = true := by
  simp only [isHextet, List.all_cons, Bool.and_eq_true] at h
  exact h.2.1

/-- **An IPv6 address begins with a hexadecimal digit or a colon.** -/
theorem isSome_hexValue?_of_isIPv6Number (hc : c ≠ ':') (h : isIPv6Number (c :: t) = true) :
    c.hexValue?.isSome = true := by
  unfold isIPv6Number at h
  split at h
  · cases h
  · rename_i parts hparts
    obtain ⟨part, rest, rfl⟩ := hextetParts?_cons hc hparts
    dsimp only at h
    split at h
    · cases h
    · split at h
      · simp only [List.all_cons, Bool.and_eq_true] at h
        exact isSome_hexValue?_of_isHextet h.2.1
      · simp only [List.take_succ_cons, List.all_cons, Bool.and_eq_true, Bool.or_eq_true] at h
        obtain ⟨⟨high | high, -⟩, -⟩ := h
        · cases eq_of_beq high
        · exact isSome_hexValue?_of_isHextet high.1

theorem not_isIPv6_of_isFutureAddress (h : isFutureAddress t = true) : isIPv6 t ≠ true := by
  have v : (CodePoint.ofChar 'v').hexValue?.isSome ≠ true := by decide
  unfold isFutureAddress at h
  split at h
  · intro h6
    rw [isIPv6, Bool.and_eq_true] at h6
    obtain ⟨-, h6⟩ := h6
    split at h6
    · exact v (isSome_hexValue?_of_isIPv6Number (by decide) h6)
    · rename_i address zone hcut
      obtain ⟨-, ht⟩ := Text.partition?_eq_some hcut
      rw [Bool.and_eq_true] at h6
      cases address with
      | nil => exact absurd (List.cons.inj ht).1 (by decide)
      | cons c address =>
        cases ht
        exact v (isSome_hexValue?_of_isIPv6Number (by decide) h6.2)
  · cases h

end Addresses

end Issuer.Url
