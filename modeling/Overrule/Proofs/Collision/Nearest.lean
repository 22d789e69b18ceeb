import Mathlib.Data.List.Basic
import Mathlib.Data.List.Find
import Overrule.Collision
import Overrule.Proofs.Ascending

namespace Overrule

theorem ascending_eligible {rules : List Rule} (hrules : Ascending Rule.index rules) :
    Ascending Rule.index (eligible rules) :=
  hrules.filter _

theorem mem_collisions_iff {rules : List Rule} {collision : Collision} :
    collision ∈ collisions rules ↔
      collision.overridden ∈ eligible rules ∧
        overrider? (eligible rules) collision.overridden = some collision.overrider := by
  rw [collisions, List.mem_filterMap]
  constructor
  · rintro ⟨rule, hrule, hof⟩
    obtain ⟨later, hlater, rfl⟩ := Option.map_eq_some_iff.1 hof
    exact ⟨hrule, hlater⟩
  · rintro ⟨hrule, hlater⟩
    exact ⟨collision.overridden, hrule, Option.map_eq_some_iff.2 ⟨_, hlater, rfl⟩⟩

theorem mem_collisions_iff_of_ascending {rules : List Rule} (hrules : Ascending Rule.index rules)
    {collision : Collision} :
    collision ∈ collisions rules ↔
      collision.overridden ∈ eligible rules ∧ collision.overrider ∈ eligible rules ∧
        collision.overrider.overrides collision.overridden = true ∧
          ∀ other ∈ eligible rules, other.overrides collision.overridden = true →
            collision.overrider.index ≤ other.index := by
  rw [mem_collisions_iff, overrider?, (ascending_eligible hrules).find?_eq_some_iff]

/-- The collisions among rules in ascending order come in the order of the overridden rules, none of which
has two. -/
theorem ascending_collisions {rules : List Rule} (hrules : Ascending Rule.index rules) :
    Ascending (·.overridden.index) (collisions rules) := by
  refine (ascending_eligible hrules).filterMap fun rule collision hcollision => ?_
  obtain ⟨_, _, rfl⟩ := Option.map_eq_some_iff.1 hcollision
  rfl

theorem collisions_eligible (rules : List Rule) : collisions (eligible rules) = collisions rules := by
  have hidem : eligible (eligible rules) = eligible rules := by
    simp [eligible, List.filter_filter]
  rw [collisions, hidem, collisions]

def reported : Except Conflict Unit → List Collision
  | .ok () => []
  | .error conflict => conflict.collisions

theorem reported_check (rules : List Rule) : reported (check rules) = collisions rules := by
  rw [check]
  by_cases hnone : collisions rules = []
  · rw [if_pos hnone, hnone]
    rfl
  · rw [if_neg hnone]
    rfl

theorem check_eq_ok_iff {rules : List Rule} : check rules = .ok () ↔ collisions rules = [] := by
  rw [check]
  by_cases hnone : collisions rules = []
  · simp [hnone]
  · simp [hnone]

/-- A collision of which both rules are changed. -/
def Collision.map (change : Rule → Rule) (collision : Collision) : Collision :=
  ⟨change collision.overridden, change collision.overrider⟩

section Change

variable {rules : List Rule} {change : Rule → Rule}
  (hanchored : ∀ rule ∈ rules, (change rule).isAnchored = rule.isAnchored)
  (hoverrides : ∀ later ∈ rules, ∀ earlier ∈ rules,
    (change later).overrides (change earlier) = later.overrides earlier)

include hanchored in
theorem eligible_map : eligible (rules.map change) = (eligible rules).map change := by
  rw [eligible, List.filter_map, eligible]
  refine congrArg _ (List.filter_congr fun rule hrule => ?_)
  simp only [Function.comp_apply, hanchored rule hrule]

include hoverrides in
private theorem overrider?_map {rule : Rule} (hrule : rule ∈ rules) :
    overrider? (rules.map change) (change rule) = (overrider? rules rule).map change := by
  rw [overrider?, List.find?_map, overrider?]
  refine congrArg _ (List.find?_congr fun later hlater => ?_)
  exact hoverrides later hlater rule hrule

include hanchored hoverrides in
theorem collisions_map :
    collisions (rules.map change) = (collisions rules).map (Collision.map change) := by
  have hsub (rule : Rule) (hrule : rule ∈ eligible rules) : rule ∈ rules := (mem_eligible.1 hrule).1
  rw [collisions, eligible_map hanchored, List.filterMap_map, collisions, List.map_filterMap]
  refine List.filterMap_congr fun rule hrule => ?_
  have hfound : overrider? ((eligible rules).map change) (change rule) =
      (overrider? (eligible rules) rule).map change := by
    refine overrider?_map (fun later hlater earlier hearlier => ?_) hrule
    exact hoverrides later (hsub later hlater) earlier (hsub earlier hearlier)
  simp only [Function.comp_apply, Collision.of?, hfound, Option.map_map]
  rfl

end Change

/-- A conflict by numbers alone: how many rules there are, and the lines of each collision. -/
def Conflict.numbers (conflict : Conflict) : Nat × List (Nat × Nat) :=
  (conflict.ruleCount,
    conflict.collisions.map fun collision => (collision.overridden.index, collision.overrider.index))

theorem check_map {rules : List Rule} {change : Rule → Rule}
    (hindex : ∀ rule ∈ rules, (change rule).index = rule.index)
    (hanchored : ∀ rule ∈ rules, (change rule).isAnchored = rule.isAnchored)
    (hoverrides : ∀ later ∈ rules, ∀ earlier ∈ rules,
      (change later).overrides (change earlier) = later.overrides earlier) :
    (check (rules.map change)).mapError Conflict.numbers =
      (check rules).mapError Conflict.numbers := by
  rw [check, collisions_map hanchored hoverrides, check]
  by_cases hnone : collisions rules = []
  · rw [if_pos hnone, if_pos (by rw [hnone, List.map_nil])]
  · rw [if_neg hnone, if_neg (by simpa using hnone)]
    simp only [Except.mapError, Conflict.numbers, List.length_map, List.map_map]
    refine congrArg (fun pairs => Except.error (rules.length, pairs)) (List.map_congr_left ?_)
    intro collision hcollision
    obtain ⟨hoverridden, hoverrider, _⟩ := overrides_of_mem_collisions hcollision
    simp only [Function.comp_apply, Collision.map, hindex _ (mem_eligible.1 hoverridden).1,
      hindex _ (mem_eligible.1 hoverrider).1]

end Overrule
