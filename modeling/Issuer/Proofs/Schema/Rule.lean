import Issuer.Schema.Rule
import Mathlib.Data.List.Basic
/-!
# Values that obey a rule

A value obeys a rule if nothing violates it (`Obeys`).  Rule by rule it is said what that means for
the value, so that nobody else has to look at the check.
-/
namespace Issuer.Schema

variable {names : CharacterNames} {d : Dialect} {v : Json} {ms : Members}

/-- **A value obeys a rule** of a dialect. -/
def Obeys (names : CharacterNames) (d : Dialect) (v : Json) (rule : Rule) : Prop :=
  check names d v rule = []

def ObeysAll (names : CharacterNames) (d : Dialect) (v : Json) (rules : List Rule) : Prop :=
  ∀ rule ∈ rules, Obeys names d v rule

theorem violation?_eq_none_iff : d.violation? names v = none ↔ Obeys names d v .schema :=
  List.head?_eq_none_iff

/-! ## The check as one function -/

def itemChecks (names : CharacterNames) (d : Dialect) : Json → List Checker
  | .arr vs => checkItems names d vs
  | _ => []

def memberChecks (names : CharacterNames) (d : Dialect) : Json → List (Text × Checker)
  | .obj ms => checkMembers names d ms
  | _ => []

theorem check_eq (names : CharacterNames) (d : Dialect) (v : Json) :
    check names d v = applyRule names d v (itemChecks names d v) (memberChecks names d v) := by
  cases v with
  | arr vs => rw [check, itemChecks, memberChecks]; nofun
  | obj ms => rw [check, itemChecks, memberChecks]; nofun
  | null | bool | int | float | str => rw [check, itemChecks, memberChecks] <;> nofun

theorem checkMembers_eq_map (names : CharacterNames) (d : Dialect) : ∀ ms : Members,
    checkMembers names d ms = ms.map fun m => (m.1, check names d m.2)
  | [] => by rw [checkMembers, List.map_nil]
  | (key, v) :: ms => by rw [checkMembers, checkMembers_eq_map names d ms, List.map_cons]

theorem lookup_checkMembers (names : CharacterNames) (d : Dialect) (key : Text) : ∀ ms : Members,
    (checkMembers names d ms).lookup key = (ms.get? key).map (check names d)
  | [] => by rw [checkMembers]; rfl
  | (k, v) :: ms => by
    rw [checkMembers, Members.get?_cons, List.lookup_cons]
    by_cases hk : k = key
    · rw [if_pos hk, hk, beq_self_eq_true]
      rfl
    · rw [if_neg hk, beq_false_of_ne (Ne.symm hk)]
      exact lookup_checkMembers names d key ms

/-! ## Rules -/

theorem require_eq_nil_iff {condition : Bool} : require condition = [] ↔ condition = true := by
  cases condition
  · exact ⟨nofun, nofun⟩
  · exact ⟨fun _ => rfl, fun _ => rfl⟩

theorem applyRules_eq_nil_iff {items : List Checker} {members : List (Text × Checker)} :
    ∀ {rules : List Rule}, applyRules names d v items members rules = [] ↔
      ∀ rule ∈ rules, applyRule names d v items members rule = []
  | [] => by simp [applyRules]
  | rule :: rules => by
    rw [applyRules, List.append_eq_nil_iff, applyRules_eq_nil_iff, List.forall_mem_cons]

theorem eq_nil_of_eitherViolation {first second : List Violation}
    (h : eitherViolation first second = []) : first = [] ∨ second = [] := by
  unfold eitherViolation at h
  split at h
  · cases h
  · split at h
    · rename_i hfirst
      exact .inl (List.isEmpty_iff.1 hfirst)
    · split at h
      · cases h
      · exact .inr (List.isEmpty_iff.1 (require_eq_nil_iff.1 h))

theorem obeys_type_iff {allowed : List JsonType} :
    Obeys names d v (.type allowed) ↔ ∃ t ∈ allowed, t.holds d v = true := by
  rw [Obeys, check_eq, applyRule, require_eq_nil_iff, List.any_eq_true]

theorem obeys_among_iff {values : List Text} :
    Obeys names d v (.among values) ↔ ∃ t ∈ values, v = .str t := by
  rw [Obeys, check_eq, applyRule, require_eq_nil_iff, List.any_eq_true]
  simp only [beq_iff_eq]

theorem ObeysAll.of_either {first second : List Rule} (h : Obeys names d v (.either first second)) :
    ObeysAll names d v first ∨ ObeysAll names d v second := by
  rw [Obeys, check_eq, applyRule] at h
  refine (eq_nil_of_eitherViolation h).imp (fun hfirst rule hrule => ?_)
    fun hsecond rule hrule => ?_
  · rw [Obeys, check_eq]
    exact applyRules_eq_nil_iff.1 hfirst rule hrule
  · rw [Obeys, check_eq]
    exact applyRules_eq_nil_iff.1 hsecond rule hrule

theorem obeys_members_iff {rules : List Rule} :
    Obeys names d (.obj ms) (.members rules) ↔ ∀ m ∈ ms, ObeysAll names d m.2 rules := by
  rw [Obeys, check_eq, applyRule, memberChecks, checkMembers_eq_map]
  simp only [List.flatMap_eq_nil_iff, List.mem_map, ObeysAll, Obeys]
  constructor
  · rintro h m hm rule hrule
    exact h _ ⟨m, hm, rfl⟩ rule hrule
  · rintro h _ ⟨m, hm, rfl⟩ rule hrule
    exact h m hm rule hrule

theorem holds_of_obeys_schema (h : Obeys names d v .schema) :
    ∃ t ∈ d.types, t.holds d v = true := by
  rw [Obeys, check_eq, applyRule, List.append_eq_nil_iff, List.append_eq_nil_iff,
    require_eq_nil_iff, List.any_eq_true] at h
  exact h.1.1

theorem obeysAll_of_keyword (h : Obeys names d (.obj ms) .schema) {keyword : Keyword}
    (hk : keyword ∈ d.keywords) {w : Json} (hw : ms.get? keyword.name = some w) :
    ObeysAll names d w keyword.rules := by
  rw [Obeys, check_eq, applyRule, List.append_eq_nil_iff, List.append_eq_nil_iff,
    List.flatMap_eq_nil_iff] at h
  have hrules := h.1.2 keyword hk
  rw [memberChecks, lookup_checkMembers, hw] at hrules
  exact List.flatMap_eq_nil_iff.1 hrules

end Issuer.Schema
