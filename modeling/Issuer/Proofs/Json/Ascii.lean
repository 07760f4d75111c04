import Issuer.Proofs.Json.Encoding
import Issuer.Proofs.Json.Written
/-!
# A document is read in every form

Whatever a value holds, its text is ASCII without zeros.  So its encoding shows in the first bytes,
and the document is read back from each of the forms.
-/
namespace Issuer.Json

variable (layout : Layout) (level : Nat)

def IsPlain (t : Text) : Prop := t.all (fun c => 0 < c.val && c.val < 0x80) = true

theorem isPlain_iff {t : Text} : IsPlain t ↔ ∀ c ∈ t, 0 < c.val ∧ c.val < 0x80 := by
  simp only [IsPlain, List.all_eq_true, Bool.and_eq_true, decide_eq_true_eq]

theorem isPlain_append {s t : Text} : IsPlain (s ++ t) ↔ IsPlain s ∧ IsPlain t := by
  simp only [isPlain_iff, List.forall_mem_append]

theorem isPlain_flatMap {α : Type} {f : α → Text} {l : List α} (h : ∀ a ∈ l, IsPlain (f a)) :
    IsPlain (l.flatMap f) := by
  refine isPlain_iff.2 fun c hc => ?_
  obtain ⟨a, ha, hc⟩ := List.mem_flatMap.1 hc
  exact isPlain_iff.1 (h a ha) c hc

theorem isPlain_of_isDigit {t : Text} (h : ∀ c ∈ t, c.isDigit = true) : IsPlain t := by
  refine isPlain_iff.2 fun c hc => ?_
  have hdigit : c.isDigit = true := h c hc
  simp only [CodePoint.isDigit, Bool.and_eq_true, decide_eq_true_eq, Fin.le_def] at hdigit
  have hzero : (CodePoint.ofChar '0').val = 48 := rfl
  have hnine : (CodePoint.ofChar '9').val = 57 := rfl
  omega

theorem isPlain_unitEscape (n : Nat) : IsPlain (unitEscape n) := by
  have hdigit : ∀ m, IsPlain [Text.digit (m % 16)] := by
    intro m
    have hm : m % 16 < 16 := Nat.mod_lt m (by decide)
    generalize m % 16 = d at hm ⊢
    interval_cases d <;> rfl
  simp only [unitEscape, Text.hexDigits, List.nil_append, isPlain_append]
  exact ⟨rfl, ⟨⟨hdigit _, hdigit _⟩, hdigit _⟩, hdigit _⟩

theorem isPlain_writeCodePoint (c : CodePoint) : IsPlain (writeCodePoint c) := by
  cases hshort : isShort c with
  | false =>
    rw [writeCodePoint_of_not_isShort hshort]
    exact isPlain_flatMap fun u _ => isPlain_unitEscape u
  | true =>
    rw [writeCodePoint]
    split
    · rfl
    split
    · rfl
    split
    · rfl
    split
    · rfl
    split
    · rfl
    split
    · rfl
    split
    · rfl
    · rename_i hquote hbackslash hn hr ht hf hb
      have hplain : (' ' ≤ c && c ≤ '~') = true := by
        simpa [isShort, hn, hr, ht, hf, hb] using hshort
      rw [if_pos hplain]
      simp only [Bool.and_eq_true, decide_eq_true_eq, Fin.le_def] at hplain
      have hspace : (CodePoint.ofChar ' ').val = 32 := rfl
      have htilde : (CodePoint.ofChar '~').val = 126 := rfl
      refine isPlain_iff.2 fun d hd => ?_
      rw [List.mem_singleton.1 hd]
      omega

theorem isPlain_writeText (t : Text) : IsPlain (writeText t) := by
  have hbody : IsPlain (t.flatMap writeCodePoint ++ "\"") :=
    isPlain_append.2 ⟨isPlain_flatMap fun c _ => isPlain_writeCodePoint c, rfl⟩
  exact (isPlain_append (s := [('"' : CodePoint)])).2 ⟨rfl, hbody⟩

theorem isPlain_of_isBlank {blank : Text} (h : IsBlank blank) : IsPlain blank := by
  refine isPlain_iff.2 fun c hc => ?_
  have hspace : isSpace c = true := h c hc
  simp only [isSpace, Bool.or_eq_true, decide_eq_true_eq] at hspace
  obtain ((rfl | rfl) | rfl) | rfl := hspace <;> exact ⟨by decide, by decide⟩

theorem isPlain_separator : IsPlain (layout.separator level) := by
  obtain ⟨blank, hseparator, hblank⟩ := exists_separator_eq layout level
  rw [hseparator]
  exact isPlain_append.2 ⟨show IsPlain [','] from rfl, isPlain_of_isBlank hblank⟩

theorem isPlain_writeItems : ∀ {items : List Json},
    (∀ v ∈ items, IsPlain (writeAt layout level v)) →
    IsPlain (writeItems layout level items)
  | [], _ => rfl
  | [v], h => h v List.mem_cons_self
  | v :: w :: items, h => by
    rw [writeItems]
    simp only [isPlain_append]
    exact ⟨⟨h v List.mem_cons_self, isPlain_separator layout level⟩,
      isPlain_writeItems fun u hu => h u (List.mem_cons_of_mem v hu)⟩

theorem isPlain_writeMembers : ∀ {members : Members},
    (∀ m ∈ members, IsPlain (writeAt layout level m.2)) →
    IsPlain (writeMembers layout level members)
  | [], _ => rfl
  | [(key, v)], h => by
    rw [writeMembers]
    simp only [isPlain_append]
    exact ⟨⟨isPlain_writeText key, rfl⟩, h (key, v) List.mem_cons_self⟩
  | (key, v) :: m :: members, h => by
    rw [writeMembers]
    simp only [isPlain_append]
    exact ⟨⟨⟨⟨isPlain_writeText key, rfl⟩, h (key, v) List.mem_cons_self⟩,
      isPlain_separator layout level⟩,
      isPlain_writeMembers fun n hn => h n (List.mem_cons_of_mem _ hn)⟩

theorem isPlain_writeAt {v : Json} (h : IsExact v) : IsPlain (writeAt layout level v) := by
  induction h generalizing level with
  | null => rfl
  | bool b => cases b <;> rfl
  | @int n _ =>
    cases n with
    | ofNat n => exact isPlain_of_isDigit (Text.isDigit_of_mem_ofNat n)
    | negSucc n =>
      exact isPlain_append.2 ⟨show IsPlain ['-'] from rfl,
        isPlain_of_isDigit (Text.isDigit_of_mem_ofNat (n + 1))⟩
  | @str t _ => exact isPlain_writeText t
  | @arr items _ ih =>
    cases items with
    | nil => rfl
    | cons v items =>
      rw [writeAt]
      simp only [isPlain_append]
      exact ⟨⟨⟨⟨rfl, isPlain_of_isBlank (isBlank_lineBreak layout _)⟩,
        isPlain_writeItems layout _ fun w hw => ih w hw _⟩,
        isPlain_of_isBlank (isBlank_lineBreak layout _)⟩, rfl⟩
  | @obj members _ _ _ ih =>
    cases members with
    | nil => rfl
    | cons m members =>
      rw [writeAt]
      simp only [isPlain_append]
      exact ⟨⟨⟨⟨rfl, isPlain_of_isBlank (isBlank_lineBreak layout _)⟩,
        isPlain_writeMembers layout _ fun n hn => ih n hn _⟩,
        isPlain_of_isBlank (isBlank_lineBreak layout _)⟩, rfl⟩

theorem ofBytes_transcribe (form : Form) (marked : Bool) {v : Json} (h : IsExact v) :
    ofBytes (form.transcribe marked (write layout v)) = .ok v := by
  have hplain : IsPlain (write layout v) := isPlain_writeAt layout 0 h
  have hread : decodeText? (form.transcribe marked (write layout v)) = some (write layout v) := by
    obtain ⟨c, tail, htext, -⟩ := (reads_writeAt layout 0 h).starts
    change write layout v = c :: tail at htext
    rw [htext, isPlain_iff] at hplain
    obtain ⟨hc0, hc⟩ := hplain c List.mem_cons_self
    rw [htext]
    refine decodeText?_transcribe form marked hc0 hc (fun hzero => ?_) fun d hd => ?_
    · have hmem : (0 : CodePoint) ∈ tail := List.mem_of_mem_head? (by rw [hzero]; rfl)
      exact absurd (hplain 0 (List.mem_cons_of_mem c hmem)).1 (Nat.lt_irrefl 0)
    · have hd : d.val < 0x80 := (hplain d hd).2
      rw [CodePoint.isSurrogate, Bool.and_eq_false_iff, decide_eq_false_iff_not]
      exact .inl (by omega)
  rw [ofBytes, hread]
  exact ofText_write layout h

end Issuer.Json
