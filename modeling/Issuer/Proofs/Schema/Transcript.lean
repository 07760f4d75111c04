import Issuer.Proofs.Json.Ascii
import Issuer.Proofs.Schema.Load
/-!
# The form of a document does not matter

A document that its text gives back is the same schema, or is refused for the same reason, in every
form of bytes that its text may have.
-/
namespace Issuer.Schema

open Json (Form IsExact)

theorem content_of_ofJson {v : Json} {m : Machine} {s : Loaded} (h : ofJson v m = .ok s) :
    s.content = v := by
  cases v with
  | obj ms =>
    cases named : dialectOf ms with
    | error p => simp [ofJson, bind, Except.bind, named] at h
    | ok name =>
      cases found : name.dialect.violation? m.names (.obj ms) with
      | none =>
        simp only [ofJson, bind, Except.bind, named, found, Except.ok.injEq] at h
        rw [← h]
      | some violation => simp [ofJson, bind, Except.bind, named, found] at h
  | _ => cases h

/-- **Loading is the same in every form.**  What is loaded is the document, its members in their
order.  So it is on every machine. -/
theorem load_transcribe (form : Form) (marked : Bool) (m : Machine) {ms : Members}
    (h : IsExact (.obj ms)) :
    load (form.transcribe marked (Json.write .line (.obj ms))) m = ofJson (.obj ms) m ∧
      ∀ s, load (form.transcribe marked (Json.write .line (.obj ms))) m = .ok s →
        s.content = .obj ms := by
  have hload : load (form.transcribe marked (Json.write .line (.obj ms))) m = ofJson (.obj ms) m :=
    load_of_object (Json.ofBytes_transcribe .line form marked h)
  refine ⟨hload, fun s hs => ?_⟩
  rw [hload] at hs
  exact content_of_ofJson hs

/-- A document with escapes, a pair of surrogates, a negative integer and values inside values. -/
def nested : Members :=
  [("$id", .str "𝄞\né\"\\"), ("b", .arr [.null, .int (-12), .obj []]), ("a", .bool true)]

theorem load_transcribe_nested : IsExact (.obj nested) ∧ ∀ form marked, ∃ s,
    load (Form.transcribe form marked (Json.write .line (.obj nested))) = .ok s ∧
      s.content = .obj nested := by
  have hnone : IsExact (.obj []) := .obj .nil nofun nofun
  have hlong : Int.natAbs (-12) < 10 ^ Text.maxDigits :=
    Nat.lt_of_lt_of_le (by decide : 12 < 10 ^ 2) (Nat.pow_le_pow_right (by decide) (by decide))
  have hitems : IsExact (.arr [.null, .int (-12), .obj []]) := .arr fun v hv => by
    simp only [List.mem_cons, List.not_mem_nil, or_false] at hv
    obtain rfl | rfl | rfl := hv
    · exact .null
    · exact .int hlong
    · exact hnone
  have hscalar : ∀ t : Text, t.any CodePoint.isSurrogate = false →
      ∀ c ∈ t, c.isSurrogate = false :=
    fun t ht c hc => Bool.eq_false_iff.2 (List.any_eq_false.1 ht c hc)
  have h : IsExact (.obj nested) := by
    refine .obj (by decide) (fun m hm => hscalar m.1 ?_) (fun m hm => ?_) <;>
      simp only [nested, List.mem_cons, List.not_mem_nil, or_false] at hm
    · obtain rfl | rfl | rfl := hm <;> rfl
    · obtain rfl | rfl | rfl := hm
      · exact .str (hscalar _ rfl)
      · exact hitems
      · exact .bool true
  obtain ⟨s, hs⟩ : ∃ s, ofJson (.obj nested) = .ok s := ⟨_, rfl⟩
  refine ⟨h, fun form marked => ⟨s, (load_transcribe form marked {} h).1.trans hs, ?_⟩⟩
  exact (load_transcribe form marked {} h).2 s ((load_transcribe form marked {} h).1.trans hs)

end Issuer.Schema
