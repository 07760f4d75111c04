import Issuer.Proofs.Except
import Issuer.Proofs.Json.Token
import Issuer.Proofs.Members
/-!
# A document is read as it was written

A value without fractions and surrogates, whose objects repeat no key and whose integers are not
too long, is read back from its text in any layout.  The induction is on the value; each reader is
followed to where the text of its value ends, with a text behind it that cannot be taken for more.
-/
namespace Issuer.Json

/-- A value that its text gives back. -/
inductive IsExact : Json → Prop
  | null : IsExact .null
  | bool (b : Bool) : IsExact (.bool b)
  | int {n : Int} (length : n.natAbs < 10 ^ Text.maxDigits) : IsExact (.int n)
  | str {t : Text} (scalar : ∀ c ∈ t, c.isSurrogate = false) : IsExact (.str t)
  | arr {items : List Json} (values : ∀ v ∈ items, IsExact v) : IsExact (.arr items)
  | obj {members : Members} (distinct : (Members.keys members).Nodup)
      (scalar : ∀ m ∈ members, ∀ c ∈ m.1, c.isSurrogate = false)
      (values : ∀ m ∈ members, IsExact m.2) : IsExact (.obj members)

/-! ## Blanks -/

def IsBlank (t : Text) : Prop := ∀ c ∈ t, isSpace c = true

theorem skipSpace_append {blank : Text} (h : IsBlank blank) (t : Text) :
    skipSpace (blank ++ t) = skipSpace t :=
  List.dropWhile_append_of_pos h

theorem skipSpace_cons {c : CodePoint} (h : isSpace c = false) (t : Text) :
    skipSpace (c :: t) = c :: t :=
  List.dropWhile_cons_of_neg (by rw [h]; exact Bool.false_ne_true)

variable (layout : Layout) (level : Nat)

theorem isBlank_lineBreak : IsBlank (layout.lineBreak level) := by
  cases layout with
  | line => exact fun c hc => absurd hc List.not_mem_nil
  | indented width =>
    intro c hc
    obtain rfl | hc := List.mem_cons.1 hc
    · rfl
    · rw [List.eq_of_mem_replicate hc]
      rfl

theorem exists_separator_eq : ∃ blank, layout.separator level = (',' : CodePoint) :: blank ∧
    IsBlank blank := by
  cases layout with
  | line => exact ⟨[' '], rfl, by simp [IsBlank, isSpace]⟩
  | indented width => exact ⟨_, rfl, isBlank_lineBreak (.indented width) level⟩

theorem endsNumber_cons {c : CodePoint} (hdigit : c.isDigit = false)
    (hletter : c ≠ '.' ∧ c ≠ 'e' ∧ c ≠ 'E') (t : Text) : EndsNumber (c :: t) := by
  intro d tail heq
  cases heq
  exact ⟨hdigit, hletter⟩

theorem endsNumber_append {blank t : Text} (h : IsBlank blank) (ht : EndsNumber t) :
    EndsNumber (blank ++ t) := by
  cases blank with
  | nil => exact ht
  | cons c blank =>
    have hc : isSpace c = true := h c List.mem_cons_self
    simp only [isSpace, Bool.or_eq_true, decide_eq_true_eq] at hc
    obtain ((rfl | rfl) | rfl) | rfl := hc <;> exact endsNumber_cons rfl (by decide) _

/-! ## Texts of values -/

def StartsValue (t : Text) : Prop :=
  ∃ c tail, t = c :: tail ∧ isSpace c = false ∧ c ≠ ']' ∧ c ≠ '\x7d'

/-- A text is read as a value, whatever follows that cannot be taken for more of it. -/
structure Reads (t : Text) (v : Json) : Prop where
  starts : StartsValue t
  reads : ∀ fuel rest, 2 * t.length ≤ fuel → EndsNumber rest →
    readValue fuel (t ++ rest) = .ok (v, rest)

theorem StartsValue.append {t : Text} (h : StartsValue t) (rest : Text) :
    StartsValue (t ++ rest) := by
  obtain ⟨c, tail, rfl, hc⟩ := h
  exact ⟨c, tail ++ rest, rfl, hc⟩

theorem StartsValue.skipSpace_append {blank t : Text} (hblank : IsBlank blank)
    (h : StartsValue t) (rest : Text) : skipSpace (blank ++ (t ++ rest)) = t ++ rest := by
  obtain ⟨c, tail, rfl, hc, -⟩ := h
  exact (Json.skipSpace_append hblank _).trans (skipSpace_cons hc (tail ++ rest))

/-! ## Items -/

section

variable {layout level}

theorem startsValue_writeItems {v : Json} (h : StartsValue (writeAt layout level v)) :
    ∀ items, StartsValue (writeItems layout level (v :: items))
  | [] => h
  | w :: items => by
    rw [writeItems, List.append_assoc]
    exact h.append _

theorem readItems_item {v : Json} {t : Text} (h : Reads t v) {fuel : Nat}
    (hfuel : 2 * t.length ≤ fuel) {rest : Text} (hrest : EndsNumber rest) :
    readItems (fuel + 1) (t ++ rest) =
      match skipSpace rest with
      | ']' :: rest => .ok ([v], rest)
      | ',' :: rest => (readItems fuel (skipSpace rest)).map fun r => (v :: r.1, r.2)
      | _ => .error .malformed := by
  rw [readItems, h.reads fuel rest hfuel hrest]
  rfl

theorem readItems_written {blank rest : Text} (hblank : IsBlank blank) :
    ∀ {items : List Json}, items ≠ [] → (∀ v ∈ items, Reads (writeAt layout level v) v) →
      ∀ {fuel : Nat}, 2 * (writeItems layout level items).length + 1 ≤ fuel →
        readItems fuel (writeItems layout level items ++ (blank ++ (']' : CodePoint) :: rest)) =
          .ok (items, rest)
  | [], hne, _, _, _ => absurd rfl hne
  | [v], _, h, fuel + 1, hfuel => by
    have hends : EndsNumber (blank ++ (']' : CodePoint) :: rest) :=
      endsNumber_append hblank (endsNumber_cons rfl (by decide) rest)
    rw [writeItems] at hfuel ⊢
    rw [readItems_item (h v List.mem_cons_self) (by omega) hends, skipSpace_append hblank,
      skipSpace_cons rfl]
    rfl
  | v :: w :: items, _, h, fuel + 1, hfuel => by
    have hw : StartsValue (writeItems layout level (w :: items)) :=
      startsValue_writeItems (h w (by simp)).starts items
    obtain ⟨space, hseparator, hspace⟩ := exists_separator_eq layout level
    rw [writeItems, hseparator, List.append_assoc, List.length_append, List.cons_append,
      List.length_cons, List.length_append] at hfuel
    have ih : readItems fuel (writeItems layout level (w :: items) ++
        (blank ++ (']' : CodePoint) :: rest)) = .ok (w :: items, rest) :=
      readItems_written hblank (List.cons_ne_nil w items)
        (fun u hu => h u (List.mem_cons_of_mem v hu)) (by omega)
    rw [writeItems, hseparator, List.append_assoc, List.append_assoc, List.cons_append,
      readItems_item (h v List.mem_cons_self) (by omega)
        (endsNumber_cons rfl (by decide) _), skipSpace_cons rfl]
    change (readItems fuel (skipSpace (space ++ _))).map _ = _
    rw [hw.skipSpace_append hspace, ih]
    rfl

/-! ## Members -/

theorem set_of_not_mem {key : Text} (value : Json) : ∀ {ms : Members}, key ∉ Members.keys ms →
    Members.set key value ms = ms ++ [(key, value)]
  | [], _ => rfl
  | (k, v) :: ms, h => by
    rw [Members.keys, List.map_cons, List.mem_cons, not_or] at h
    rw [Members.set, if_neg (Ne.symm h.1), set_of_not_mem value h.2, List.cons_append]

theorem not_mem_of_nodup {before after : Members} {key : Text} {v : Json}
    (h : (Members.keys (before ++ (key, v) :: after)).Nodup) : key ∉ Members.keys before := by
  rw [Members.keys, List.map_append, List.nodup_append] at h
  exact fun hmem => h.2.2 key hmem key List.mem_cons_self rfl

def afterMember (fuel : Nat) (members : Members) (rest : Text) :
    Except ReadError (Members × Text) :=
  match skipSpace rest with
  | '\x7d' :: rest => .ok (members, rest)
  | ',' :: rest => readMembers fuel members (skipSpace rest)
  | _ => .error .malformed

def afterKey (fuel : Nat) (before : Members) (key : Text) (rest : Text) :
    Except ReadError (Members × Text) :=
  match skipSpace rest with
  | ':' :: rest =>
    (readValue fuel (skipSpace rest)).bind fun r => afterMember fuel (before.set key r.1) r.2
  | _ => .error .malformed

theorem readMembers_member {key : Text} {v : Json} (hkey : ∀ c ∈ key, c.isSurrogate = false)
    {t : Text} (hv : Reads t v) {fuel : Nat} (hfuel : 2 * t.length ≤ fuel) {rest : Text}
    (hrest : EndsNumber rest) (before : Members) :
    readMembers (fuel + 1) before (writeText key ++ ": " ++ t ++ rest) =
      afterMember fuel (Members.set key v before) rest := by
  have hcolon : skipSpace (": " ++ (t ++ rest)) =
      (':' : CodePoint) :: ([(' ' : CodePoint)] ++ (t ++ rest)) := skipSpace_cons rfl _
  have hspace : skipSpace ([(' ' : CodePoint)] ++ (t ++ rest)) = t ++ rest :=
    hv.starts.skipSpace_append (by simp [IsBlank, isSpace]) rest
  calc readMembers (fuel + 1) before (writeText key ++ ": " ++ t ++ rest)
      = readMembers (fuel + 1) before (writeText key ++ (": " ++ (t ++ rest))) := by
        rw [List.append_assoc, List.append_assoc]
    _ = (readString (key.flatMap writeCodePoint ++ "\"" ++ (": " ++ (t ++ rest)))).bind
          fun r => afterKey fuel before r.1 r.2 := rfl
    _ = afterKey fuel before key (": " ++ (t ++ rest)) := by
        rw [List.append_assoc]
        exact congrArg (Except.bind · _) (readString_written hkey _)
    _ = (readValue fuel (t ++ rest)).bind
          fun r => afterMember fuel (before.set key r.1) r.2 := by
        rw [afterKey, hcolon]
        exact congrArg (fun u => (readValue fuel u).bind _) hspace
    _ = afterMember fuel (before.set key v) rest := by
        rw [hv.reads fuel rest hfuel hrest]
        rfl

theorem startsValue_writeMembers (m : Text × Json) : ∀ members : Members,
    StartsValue (writeMembers layout level (m :: members))
  | [] => ⟨_, _, rfl, rfl, by decide⟩
  | _ :: _ => ⟨_, _, rfl, rfl, by decide⟩

/-- **Members are read as they were written**, up to the brace behind them, and added to those
before. -/
theorem readMembers_written {blank rest : Text} (hblank : IsBlank blank) :
    ∀ {members before : Members}, members ≠ [] → (Members.keys (before ++ members)).Nodup →
      (∀ m ∈ members, ∀ c ∈ m.1, c.isSurrogate = false) →
      (∀ m ∈ members, Reads (writeAt layout level m.2) m.2) →
      ∀ {fuel : Nat}, 2 * (writeMembers layout level members).length + 1 ≤ fuel →
        readMembers fuel before
          (writeMembers layout level members ++ (blank ++ ('\x7d' : CodePoint) :: rest)) =
          .ok (before ++ members, rest)
  | [], _, hne, _, _, _, _, _ => absurd rfl hne
  | [(key, v)], before, _, hdistinct, hkeys, h, fuel + 1, hfuel => by
    have hends : EndsNumber (blank ++ ('\x7d' : CodePoint) :: rest) :=
      endsNumber_append hblank (endsNumber_cons rfl (by decide) rest)
    have hv : Reads (writeAt layout level v) v := h (key, v) List.mem_cons_self
    simp only [writeMembers, List.length_append] at hfuel
    rw [writeMembers, readMembers_member (hkeys (key, v) List.mem_cons_self) hv (by omega) hends,
      set_of_not_mem v (not_mem_of_nodup hdistinct), afterMember, skipSpace_append hblank,
      skipSpace_cons rfl]
    rfl
  | (key, v) :: m :: members, before, _, hdistinct, hkeys, h, fuel + 1, hfuel => by
    have hm : StartsValue (writeMembers layout level (m :: members)) :=
      startsValue_writeMembers m members
    have hv : Reads (writeAt layout level v) v := h (key, v) List.mem_cons_self
    obtain ⟨space, hseparator, hspace⟩ := exists_separator_eq layout level
    simp only [writeMembers, hseparator, List.length_append, List.length_cons] at hfuel
    -- the member joins those read before it, so that no later one replaces it
    have hdistinct' : (Members.keys (before ++ [(key, v)] ++ m :: members)).Nodup := by
      rwa [List.append_assoc]
    have ih : readMembers fuel (before ++ [(key, v)]) (writeMembers layout level (m :: members) ++
        (blank ++ ('\x7d' : CodePoint) :: rest)) =
          .ok (before ++ [(key, v)] ++ m :: members, rest) :=
      readMembers_written hblank (List.cons_ne_nil m members) hdistinct'
        (fun n hn => hkeys n (List.mem_cons_of_mem _ hn))
        (fun n hn => h n (List.mem_cons_of_mem _ hn)) (by omega)
    rw [List.append_assoc before] at ih
    rw [writeMembers, hseparator, List.append_assoc, List.append_assoc, List.cons_append,
      readMembers_member (hkeys (key, v) List.mem_cons_self) hv (by omega)
        (endsNumber_cons rfl (by decide) _),
      set_of_not_mem v (not_mem_of_nodup hdistinct), afterMember, skipSpace_cons rfl]
    change readMembers fuel _ (skipSpace (space ++ _)) = _
    rw [hm.skipSpace_append hspace, ih]
    rfl

end

/-! ## Values -/

section

variable {fuel : Nat} {blank t rest : Text}

theorem readValue_bracket (hblank : IsBlank blank) (h : StartsValue t) :
    readValue (fuel + 1) (('[' : CodePoint) :: (blank ++ (t ++ rest))) =
      (readItems fuel (t ++ rest)).map fun r => (.arr r.1, r.2) := by
  unfold readValue
  split
  · rename_i heq
    exact absurd (List.cons.inj heq).1 (by decide)
  · rename_i heq
    obtain ⟨-, rfl⟩ := List.cons.inj heq
    rw [h.skipSpace_append hblank]
    obtain ⟨c, tail, rfl, -, hc, -⟩ := h
    split
    · rename_i heq
      exact absurd (List.cons.inj heq).1 hc
    · rfl
  · rename_i heq
    exact absurd (List.cons.inj heq).1 (by decide)
  · rename_i hnone _
    exact absurd rfl (hnone _)

theorem readValue_brace (hblank : IsBlank blank) (h : StartsValue t) :
    readValue (fuel + 1) (('\x7b' : CodePoint) :: (blank ++ (t ++ rest))) =
      (readMembers fuel [] (t ++ rest)).map fun r => (.obj r.1, r.2) := by
  unfold readValue
  split
  · rename_i heq
    exact absurd (List.cons.inj heq).1 (by decide)
  · rename_i heq
    exact absurd (List.cons.inj heq).1 (by decide)
  · rename_i heq
    obtain ⟨-, rfl⟩ := List.cons.inj heq
    rw [h.skipSpace_append hblank]
    obtain ⟨c, tail, rfl, -, -, hc⟩ := h
    split
    · rename_i heq
      exact absurd (List.cons.inj heq).1 hc
    · rfl
  · rename_i hnone
    exact absurd rfl (hnone _)

theorem exists_ofInt_eq_cons (n : Int) :
    ∃ c ds, Text.ofInt n = c :: ds ∧ (c = '-' ∨ c.isDigit = true) := by
  cases n with
  | ofNat n =>
    obtain ⟨c, ds, hdigits, hc⟩ := exists_ofNat_eq_cons_digit n
    exact ⟨c, ds, hdigits, .inr hc⟩
  | negSucc n => exact ⟨'-', _, rfl, .inl rfl⟩

theorem readValue_ofInt {n : Int} (hn : n.natAbs < 10 ^ Text.maxDigits) (hrest : EndsNumber rest) :
    readValue (fuel + 1) (Text.ofInt n ++ rest) = .ok (.int n, rest) := by
  have hread := readScalar_ofInt hn hrest
  obtain ⟨c, ds, hdigits, hc⟩ := exists_ofInt_eq_cons n
  rw [hdigits] at hread ⊢
  rw [← hread]
  unfold readValue
  split
  · rename_i heq
    cases heq
    exact absurd hc (by decide)
  · rename_i heq
    cases heq
    exact absurd hc (by decide)
  · rename_i heq
    cases heq
    exact absurd hc (by decide)
  · rfl

theorem startsValue_ofInt (n : Int) : StartsValue (Text.ofInt n) := by
  obtain ⟨c, ds, hdigits, hc⟩ := exists_ofInt_eq_cons n
  refine ⟨c, ds, hdigits, ?_⟩
  obtain rfl | hc := hc
  · exact ⟨rfl, by decide, by decide⟩
  · refine ⟨?_, Ne.symm (ne_of_isDigit hc rfl), Ne.symm (ne_of_isDigit hc rfl)⟩
    simp only [isSpace, Bool.or_eq_false_iff, decide_eq_false_iff_not]
    exact ⟨⟨⟨Ne.symm (ne_of_isDigit hc rfl), Ne.symm (ne_of_isDigit hc rfl)⟩,
      Ne.symm (ne_of_isDigit hc rfl)⟩, Ne.symm (ne_of_isDigit hc rfl)⟩

theorem Reads.of_succ {v : Json} (starts : StartsValue t)
    (reads : ∀ fuel rest, 2 * t.length ≤ fuel + 1 → EndsNumber rest →
      readValue (fuel + 1) (t ++ rest) = .ok (v, rest)) : Reads t v where
  starts := starts
  reads fuel rest hfuel hrest := by
    obtain ⟨c, tail, rfl, -⟩ := starts
    obtain ⟨fuel, rfl⟩ : ∃ k, fuel = k + 1 := Nat.exists_eq_succ_of_ne_zero (by
      rw [List.length_cons] at hfuel
      omega)
    exact reads fuel rest hfuel hrest

end

theorem reads_writeAt {v : Json} (h : IsExact v) : Reads (writeAt layout level v) v := by
  induction h generalizing level with
  | null => exact .of_succ ⟨_, _, rfl, rfl, by decide⟩ fun _ _ _ _ => rfl
  | bool b => cases b <;> exact .of_succ ⟨_, _, rfl, rfl, by decide⟩ fun _ _ _ _ => rfl
  | int hn =>
    rw [writeAt]
    exact .of_succ (startsValue_ofInt _) fun _ _ _ hrest => readValue_ofInt hn hrest
  | @str t ht =>
    refine .of_succ ⟨_, _, rfl, rfl, by decide⟩ fun fuel rest _ _ => ?_
    have htext : t.flatMap writeCodePoint ++ "\"" ++ rest =
        t.flatMap writeCodePoint ++ ('"' : CodePoint) :: rest := List.append_assoc ..
    change (readString (t.flatMap writeCodePoint ++ "\"" ++ rest)).map
      (fun r : Text × Text => (str r.1, r.2)) = _
    rw [htext, readString_written ht]
    rfl
  | @arr items hvalues ih =>
    cases items with
    | nil => exact .of_succ ⟨_, _, rfl, rfl, by decide⟩ fun _ _ _ _ => rfl
    | cons v items =>
      have hstarts := startsValue_writeItems (ih v List.mem_cons_self (level + 1)).starts items
      refine .of_succ ⟨_, _, rfl, rfl, by decide⟩ fun fuel rest hfuel _ => ?_
      have htext : writeAt layout level (arr (v :: items)) ++ rest =
          ('[' : CodePoint) :: (layout.lineBreak (level + 1) ++
            (writeItems layout (level + 1) (v :: items) ++
              (layout.lineBreak level ++ (']' : CodePoint) :: rest))) := by
        simp only [writeAt, List.append_assoc]
        rfl
      have hitems : 2 * (writeItems layout (level + 1) (v :: items)).length + 1 ≤ fuel := by
        have hends : List.length ("[" : Text) = 1 ∧ List.length ("]" : Text) = 1 := ⟨rfl, rfl⟩
        simp only [writeAt, List.length_append] at hfuel
        omega
      rw [htext, readValue_bracket (isBlank_lineBreak layout _) hstarts,
        readItems_written (isBlank_lineBreak layout _) (List.cons_ne_nil v items)
          (fun w hw => ih w hw _) hitems]
      rfl
  | @obj members distinct scalar values ih =>
    cases members with
    | nil => exact .of_succ ⟨_, _, rfl, rfl, by decide⟩ fun _ _ _ _ => rfl
    | cons m members =>
      refine .of_succ ⟨_, _, rfl, rfl, by decide⟩ fun fuel rest hfuel _ => ?_
      have htext : writeAt layout level (obj (m :: members)) ++ rest =
          ('\x7b' : CodePoint) :: (layout.lineBreak (level + 1) ++
            (writeMembers layout (level + 1) (m :: members) ++
              (layout.lineBreak level ++ ('\x7d' : CodePoint) :: rest))) := by
        simp only [writeAt, List.append_assoc]
        rfl
      have hmembers : 2 * (writeMembers layout (level + 1) (m :: members)).length + 1 ≤ fuel := by
        have hends : List.length ("\x7b" : Text) = 1 ∧ List.length ("\x7d" : Text) = 1 := ⟨rfl, rfl⟩
        simp only [writeAt, List.length_append] at hfuel
        omega
      rw [htext, readValue_brace (isBlank_lineBreak layout _) (startsValue_writeMembers m members),
        readMembers_written (isBlank_lineBreak layout _) (List.cons_ne_nil m members)
          (by exact distinct) scalar (fun n hn => ih n hn _) hmembers]
      rfl

theorem ofText_write_append {v : Json} (h : IsExact v) {blank : Text} (hblank : IsBlank blank) :
    ofText (write layout v ++ blank) = .ok v := by
  have hreads : Reads (write layout v) v := reads_writeAt layout 0 h
  have hskip : skipSpace (write layout v ++ blank) = write layout v ++ blank := by
    have hnone : IsBlank [] := fun _ hc => absurd hc List.not_mem_nil
    exact hreads.starts.skipSpace_append hnone blank
  have hends : EndsNumber blank := by
    have hnil : EndsNumber [] := nofun
    simpa using endsNumber_append hblank hnil
  have hrest : skipSpace blank = [] := by
    rw [← List.append_nil blank, skipSpace_append hblank]
    rfl
  have hvalue : readValue (2 * (write layout v ++ blank).length + 2) (write layout v ++ blank) =
      .ok (v, blank) := by
    rw [List.length_append]
    exact hreads.reads _ blank (by omega) hends
  refine bind_eq_ok_iff.2 ⟨(v, blank), by rw [hskip, hvalue], ?_⟩
  dsimp only
  rw [hrest]
  rfl

theorem ofText_write {v : Json} (h : IsExact v) : ofText (write layout v) = .ok v := by
  have hblank : IsBlank [] := fun _ hc => absurd hc List.not_mem_nil
  have hread := ofText_write_append layout h hblank
  rwa [List.append_nil] at hread

end Issuer.Json
