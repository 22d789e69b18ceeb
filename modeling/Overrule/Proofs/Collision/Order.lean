import Mathlib.Data.List.Basic
import Mathlib.Data.List.Perm.Basic
import Overrule.Proofs.Collision.Nearest

namespace Overrule

theorem map_overridden_collisions (rules : List Rule) :
    (collisions rules).map Collision.overridden =
      (eligible rules).filter fun rule => (eligible rules).any (·.overrides rule) := by
  rw [collisions, List.map_filterMap, ← List.filterMap_eq_filter]
  refine List.filterMap_congr fun rule _ => ?_
  rw [Collision.of?, Option.map_map, overrider?]
  cases hfound : (eligible rules).find? (·.overrides rule) with
  | none =>
    have hnone : (eligible rules).any (·.overrides rule) = false := by
      simpa [List.find?_eq_none] using hfound
    simp [Option.guard, hnone]
  | some later =>
    have hover := List.find?_some hfound
    have hsome : (eligible rules).any (·.overrides rule) = true :=
      List.any_eq_true.2 ⟨later, List.mem_of_find?_eq_some hfound, hover⟩
    simp [Option.guard, hsome]

theorem Collision.later_of_mem {rules : List Rule} {collision : Collision} (h : collision ∈ collisions rules) :
    collision.overridden.index < collision.overrider.index ∧
      collision.overridden.source <+: collision.overrider.source ∧
      collision.overrider.destination.getLast? ≠ some '$' := by
  obtain ⟨_, hoverrider, hover⟩ := overrides_of_mem_collisions h
  obtain ⟨hindex, _, hsource⟩ := Rule.overrides_iff.1 hover
  have hanchored := (mem_eligible.1 hoverrider).2
  exact ⟨hindex, hsource, by simpa [Rule.isAnchored] using hanchored⟩

section Order

variable {rules reordered : List Rule} (horder : rules.Perm reordered)

include horder

private theorem eligible_perm : (eligible rules).Perm (eligible reordered) := horder.filter _

private theorem overridden_perm :
    ((collisions rules).map Collision.overridden).Perm ((collisions reordered).map Collision.overridden) := by
  have heligible := eligible_perm horder
  have hany (rule : Rule) :
      (eligible rules).any (·.overrides rule) = (eligible reordered).any (·.overrides rule) :=
    heligible.any_eq
  rw [map_overridden_collisions, map_overridden_collisions]
  simp only [hany]
  exact heligible.filter _

private theorem length_collisions_eq : (collisions rules).length = (collisions reordered).length := by
  simpa using (overridden_perm horder).length_eq

end Order

/-- A conflict by counts alone: how many rules there are, and how many of them are overridden. -/
def Conflict.counts (conflict : Conflict) : Nat × Nat := (conflict.ruleCount, conflict.collisions.length)

/-- Rules put into another order have the same overridden rules, and a check accepts both lists or refuses both with
the same counts. In either order an overrider stands on a later line, and on rules in the order of their lines it is
the nearest of those that override. -/
theorem overridden_whatever_the_order {rules reordered : List Rule} (horder : rules.Perm reordered) :
    ((collisions rules).map Collision.overridden).Perm ((collisions reordered).map Collision.overridden) ∧
      (check rules).mapError Conflict.counts = (check reordered).mapError Conflict.counts ∧
      (∀ collision, collision ∈ collisions rules ∨ collision ∈ collisions reordered →
        collision.overridden.index < collision.overrider.index ∧
          collision.overridden.source <+: collision.overrider.source ∧
          collision.overrider.destination.getLast? ≠ some '$') ∧
      (Ascending Rule.index rules → ∀ collision ∈ collisions rules,
        collision.overrider ∈ eligible rules ∧ collision.overrider.overrides collision.overridden = true ∧
          ∀ other ∈ eligible rules, other.overrides collision.overridden = true →
            collision.overrider.index ≤ other.index) := by
  have hlength := length_collisions_eq horder
  refine ⟨overridden_perm horder, ?_, ?_, ?_⟩
  · rw [check, check]
    by_cases hnone : collisions rules = []
    · have hnone' : collisions reordered = [] := by simpa [hnone] using hlength.symm
      rw [if_pos hnone, if_pos hnone']
    · have hsome : collisions reordered ≠ [] := by
        intro hnil
        rw [hnil] at hlength
        exact hnone (List.eq_nil_of_length_eq_zero hlength)
      rw [if_neg hnone, if_neg hsome]
      simp [Except.mapError, Conflict.counts, hlength, horder.length_eq]
  · rintro collision (hcollision | hcollision)
    · exact Collision.later_of_mem hcollision
    · exact Collision.later_of_mem hcollision
  · intro hrules collision hcollision
    exact ((mem_collisions_iff_of_ascending hrules).1 hcollision).2

/-- Both other rules override the first. In the order of their lines the nearest is named; turned around, the last. -/
theorem overridden_turned_around :
    let rule (index : Nat) (source : Text) : Rule := ⟨index, source, ['/'], ⟨[['L']]⟩, []⟩
    let first := rule 1 ['/', 'a']
    let second := rule 2 ['/', 'a', 'b']
    let third := rule 3 ['/', 'a', 'c']
    let rules := [first, second, third]
    rules.Perm rules.reverse ∧ Ascending Rule.index rules ∧
      collisions rules = [⟨first, second⟩] ∧ collisions rules.reverse = [⟨first, third⟩] ∧
      (check rules).mapError Conflict.counts = (check rules.reverse).mapError Conflict.counts ∧
      (∀ other ∈ eligible rules, other.overrides first = true → second.index ≤ other.index) := by
  intro rule first second third rules
  have horder : rules.Perm rules.reverse := rules.reverse_perm.symm
  have hascending : Ascending Rule.index rules := by unfold Ascending; decide
  have hcollisions : collisions rules = [⟨first, second⟩] := by decide
  obtain ⟨_, hcheck, _, hnearest⟩ := overridden_whatever_the_order horder
  refine ⟨horder, hascending, hcollisions, by decide, hcheck, ?_⟩
  exact (hnearest hascending ⟨first, second⟩ (by rw [hcollisions]; exact List.mem_singleton_self _)).2.2

end Overrule
