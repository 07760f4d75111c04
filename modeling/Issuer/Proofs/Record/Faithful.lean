import Issuer.Proofs.Members
import Issuer.Proofs.Record
/-!
# Records that are read and written

What is written of a record is what its members say of its fields, without those that are null
(`isRestriction_write`); of an object that is refused the offending fields are listed
(`exists_lists_of_refused`).  A kind of record is `Faithful` if reading and writing undo each other
and nothing else is read; it is so if its fields tell the record (`faithful_of_fields`).
-/
namespace Issuer

def Json.given? (member : Option Json) : Option Json := member.filter fun v => v ≠ .null

theorem Json.given?_eq_some_iff {member : Option Json} {v : Json} :
    Json.given? member = some v ↔ member = some v ∧ v ≠ .null := by
  rw [Json.given?, Option.filter_eq_some_iff, decide_eq_true_eq]

theorem Json.given?_of_ne_null {v : Json} (h : v ≠ .null) : Json.given? (some v) = some v :=
  Json.given?_eq_some_iff.2 ⟨rfl, h⟩

theorem Json.given?_ofText? (t : Option Text) :
    Json.given? (some (.ofText? t)) = t.map .str := by
  cases t <;> rfl

namespace Record

variable {fields : List Field} {ms kept : Members}

theorem sublist_names_filterMap {α : Type} (found : Field → Option α) : ∀ fields : List Field,
    ((fields.filterMap fun f => (found f).map (f.name, ·)).map Prod.fst).Sublist
      (fields.map Field.name)
  | [] => .slnil
  | f :: rest => by
    have ih := sublist_names_filterMap found rest
    cases hf : found f with
    | none =>
      rw [List.filterMap_cons, hf, Option.map_none, List.map_cons]
      exact ih.cons f.name
    | some v =>
      rw [List.filterMap_cons, hf, Option.map_some, List.map_cons, List.map_cons]
      exact ih.cons_cons f.name

/-! ## Fields that offend -/

/-- **What is wrong with a field**, by its member. -/
inductive Offends (f : Field) : Option Json → FieldProblem → Prop where
  | missing (required : f.required = true) : Offends f none .missing
  | null (strict : f.nullable = false) : Offends f (some .null) .null
  | notText {v : Json} (kind : f.kind = .text) (given : v ≠ .null) (other : ∀ t, v ≠ .str t) :
    Offends f (some v) .notText

theorem problem?_eq_some_iff {f : Field} {member : Option Json} {p : FieldProblem} :
    f.problem? member = some p ↔ Offends f member p := by
  constructor
  · intro h
    rcases member with _ | v
    · change (if f.required then some .missing else none) = some p at h
      split_ifs at h with required
      cases h
      exact .missing required
    · by_cases hnull : v = .null
      · subst hnull
        change (if f.nullable then none else some .null) = some p at h
        split_ifs at h with nullable
        cases h
        exact .null (Bool.eq_false_iff.2 nullable)
      · have hsome : f.problem? (some v) =
            if f.kind = .text && !v.isString then some .notText else none := by
          cases v with
          | null => exact absurd rfl hnull
          | bool | int | float | str | arr | obj => rfl
        rw [hsome] at h
        split_ifs at h with offending
        cases h
        simp only [Bool.and_eq_true, decide_eq_true_eq, Bool.not_eq_true'] at offending
        refine .notText offending.1 hnull ?_
        rintro t rfl
        cases offending.2
  · intro h
    cases h with
    | missing required => simp [Field.problem?, required]
    | null strict => simp [Field.problem?, strict]
    | @notText v kind given other =>
      cases v with
      | null => exact absurd rfl given
      | str t => exact absurd rfl (other t)
      | bool | int | float | arr | obj => simp [Field.problem?, kind, Json.isString]

/-- **The problems of an object** are those of its offending fields, in the order of the rules. -/
structure Lists (fields : List Field) (ms : Members) (problems : List (Text × FieldProblem)) :
    Prop where
  nonempty : problems ≠ []
  ordered : (problems.map Prod.fst).Sublist (fields.map Field.name)
  exactly : ∀ f ∈ fields, ∀ p, (f.name, p) ∈ problems ↔ Offends f (ms.get? f.name) p

theorem exists_lists_of_refused (hn : (fields.map Field.name).Nodup)
    (h : ¬ ∀ f ∈ fields, f.problem? (ms.get? f.name) = none) :
    ∃ problems, read fields (.obj ms) = .error (.fields problems) ∧ Lists fields ms problems := by
  let found := fun f : Field => f.problem? (ms.get? f.name)
  have ordered := sublist_names_filterMap found fields
  have hempty : fields.filterMap (fun f => (found f).map (f.name, ·)) ≠ [] := by
    intro hnil
    refine h fun f hf => ?_
    have hnone := List.filterMap_eq_nil_iff.1 hnil f hf
    simpa using hnone
  refine ⟨_, ?_, hempty, ordered, fun f hf p => ?_⟩
  · unfold read
    dsimp only
    rw [if_neg (by simpa using hempty)]
  · rw [← lookup_eq_some_iff_mem (ordered.nodup hn), lookup_filterMap_fields found fields hn f hf,
      problem?_eq_some_iff]

/-- **What a refusal lists**: the input as a whole if it is no object, else its offending fields,
each with what is wrong with it. -/
inductive Explains (fields : List Field) : Json → Members → Prop where
  | whole {v : Json} (h : ∀ ms, v ≠ .obj ms) :
    Explains fields v [("_schema", .arr [.str "Invalid input type."])]
  | fields {ms : Members} {problems : List (Text × FieldProblem)} (h : Lists fields ms problems) :
    Explains fields (.obj ms) (problems.map fun p => (p.1, .arr [.str p.2.message]))

/-! ## What is written -/

/-- **What a record keeps of an object**: the members of its fields that are not null. -/
structure IsRestriction (fields : List Field) (ms kept : Members) : Prop where
  ordered : (Members.keys kept).Sublist (fields.map Field.name)
  same : ∀ f ∈ fields, kept.get? f.name = Json.given? (ms.get? f.name)

def ArePlain (fields : List Field) (ms : Members) : Prop :=
  ∀ f ∈ fields, f.kind = .text → ∀ v, ms.get? f.name = some v → v = .null ∨ ∃ t, v = .str t

theorem write_eq (plain : ArePlain fields ms) :
    write fields ms = fields.filterMap fun f => (Json.given? (ms.get? f.name)).map (f.name, ·) := by
  refine List.filterMap_congr fun f hf => ?_
  cases hget : ms.get? f.name with
  | none => rfl
  | some v =>
    by_cases hkind : f.kind = .text
    · obtain rfl | ⟨t, rfl⟩ := plain f hf hkind v hget
      · rfl
      · simp [Field.write, hkind, Json.display, Json.given?_of_ne_null]
    · cases v with
      | null => rfl
      | bool | int | float | str | arr | obj => simp [Field.write, hkind, Json.given?_of_ne_null]

/-- **What is written are the members that are not null.** -/
theorem isRestriction_write (hn : (fields.map Field.name).Nodup) (plain : ArePlain fields ms) :
    IsRestriction fields ms (write fields ms) := by
  rw [write_eq plain]
  let found := fun f : Field => Json.given? (ms.get? f.name)
  exact ⟨sublist_names_filterMap found fields, lookup_filterMap_fields found fields hn⟩

theorem IsRestriction.congr {values : Members} (h : IsRestriction fields values kept)
    (same : ∀ f ∈ fields, Json.given? (values.get? f.name) = Json.given? (ms.get? f.name)) :
    IsRestriction fields ms kept :=
  ⟨h.ordered, fun f hf => (h.same f hf).trans (same f hf)⟩

/-! ## Kinds of records -/

section

variable {α : Type} {owner : Text} {ofJson : Json → Except Problem α} {toJson : α → Json}
  {make : Members → α} {membersOf : α → Members} {IsValid : α → Prop} {Accepted : Members → Prop}

/-- **Reading and writing records of a kind undo each other**, on the records that are valid and the
objects that are accepted.  All else is refused and told in full. -/
structure Faithful (owner : Text) (fields : List Field) (ofJson : Json → Except Problem α)
    (toJson : α → Json) (IsValid : α → Prop) (Accepted : Members → Prop) : Prop where
  back : ∀ a, IsValid a → ofJson (toJson a) = .ok a
  restricts : ∀ (ms : Members) a, ofJson (.obj ms) = .ok a →
    ∃ kept, toJson a = .obj kept ∧ IsRestriction fields ms kept
  accepts : ∀ v, (∃ a, ofJson v = .ok a) ↔ ∃ ms : Members, v = .obj ms ∧ Accepted ms
  refuses : ∀ v, (∀ a, ofJson v ≠ .ok a) → ∃ p listed, ofJson v = .error p ∧
    Explains fields v listed ∧
    (p.failure owner).Reports .model {} [.outside .invalidRecord (Json.obj listed).inspect]

theorem accepts_of_fields (owner : Text) (hn : (fields.map Field.name).Nodup)
    (told : IsToldBy fields make) (v : Json) :
    (∃ ms : Members, v = .obj ms ∧ (∀ f ∈ fields, f.problem? (ms.get? f.name) = none) ∧
      (read fields v).map make = .ok (make ms)) ∨
    ∃ p listed, (read fields v).map make = .error p ∧ Explains fields v listed ∧
      (p.failure owner).Reports .model {} [.outside .invalidRecord (Json.obj listed).inspect] := by
  by_cases hobject : ∃ ms : Members, v = .obj ms
  · obtain ⟨ms, rfl⟩ := hobject
    by_cases hfields : ∀ f ∈ fields, f.problem? (ms.get? f.name) = none
    · exact .inl ⟨ms, rfl, hfields, (map_read_eq_ok_iff hn told).2 ⟨hfields, rfl⟩⟩
    · obtain ⟨problems, hread, hlists⟩ := exists_lists_of_refused hn hfields
      refine .inr ⟨.fields problems, _, ?_, .fields hlists, _, rfl⟩
      rw [hread]
      rfl
  · have hother : ∀ ms : Members, v ≠ .obj ms := fun ms hv => hobject ⟨ms, hv⟩
    refine .inr ⟨.notObject, _, ?_, .whole hother, _, rfl⟩
    cases v with
    | obj ms => exact absurd rfl (hother ms)
    | null | bool | int | float | str | arr => rfl

theorem faithful_of_fields (hn : (fields.map Field.name).Nodup) (told : IsToldBy fields make)
    (plain : ∀ a, ArePlain fields (membersOf a))
    (same : ∀ ms : Members, (∀ f ∈ fields, f.problem? (ms.get? f.name) = none) → ∀ f ∈ fields,
      Json.given? ((membersOf (make ms)).get? f.name) = Json.given? (ms.get? f.name))
    (valid : ∀ a, IsValid a → ∀ kept : Members, IsRestriction fields (membersOf a) kept →
      (∀ f ∈ fields, f.problem? (kept.get? f.name) = none) ∧ make kept = a)
    (accepted : ∀ ms : Members, (∀ f ∈ fields, f.problem? (ms.get? f.name) = none) ↔ Accepted ms) :
    Faithful owner fields (fun v => (read fields v).map make)
      (fun a => .obj (write fields (membersOf a))) IsValid Accepted := by
  have hwritten : ∀ a, IsRestriction fields (membersOf a) (write fields (membersOf a)) :=
    fun a => isRestriction_write hn (plain a)
  refine ⟨fun a ha => ?_, fun ms a hread => ?_, fun v => ?_, fun v hrefused => ?_⟩
  · obtain ⟨hfields, hmake⟩ := valid a ha _ (hwritten a)
    exact (map_read_eq_ok_iff hn told).2 ⟨hfields, hmake.symm⟩
  · obtain ⟨hfields, rfl⟩ := (map_read_eq_ok_iff hn told).1 hread
    exact ⟨_, rfl, (hwritten _).congr (same ms hfields)⟩
  · obtain ⟨ms, rfl, hfields, hread⟩ | ⟨p, listed, hread, -⟩ := accepts_of_fields owner hn told v
    · exact ⟨fun _ => ⟨ms, rfl, (accepted ms).1 hfields⟩, fun _ => ⟨_, hread⟩⟩
    · constructor
      · rintro ⟨a, ha⟩
        cases hread.symm.trans ha
      · rintro ⟨ms, rfl, haccepted⟩
        exact ⟨_, (map_read_eq_ok_iff hn told).2 ⟨(accepted ms).2 haccepted, rfl⟩⟩
  · obtain ⟨ms, -, -, hread⟩ | hrefusal := accepts_of_fields owner hn told v
    · exact absurd hread (hrefused _)
    · exact hrefusal

end

end Record

end Issuer
