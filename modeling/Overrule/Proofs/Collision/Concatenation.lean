import Overrule.Proofs.Collision.Nearest
import Overrule.Proofs.Document.Rules

namespace Overrule

private theorem eligible_append (first second : List Rule) :
    eligible (first ++ second) = eligible first ++ eligible second :=
  List.filter_append ..

private theorem Collision.of?_append (first second : List Rule) (rule : Rule) :
    Collision.of? (first ++ second) rule =
      (Collision.of? first rule).or (Collision.of? second rule) := by
  rw [Collision.of?, overrider?, List.find?_append, Option.map_or]
  rfl

private theorem Collision.of?_eq_none_of_below {rules : List Rule} {rule : Rule}
    (hbelow : ∀ other ∈ rules, other.index ≤ rule.index) : Collision.of? rules rule = none := by
  rw [Collision.of?, Option.map_eq_none_iff, overrider?, List.find?_eq_none]
  intro other hother hover
  have hlt := (Rule.overrides_iff.1 hover).1
  have hle := hbelow other hother
  omega

/-- Rules that stand below all others neither change the collisions that these have nor take part in them
otherwise than by overriding. -/
theorem collisions_append {upper lower : List Rule}
    (hbelow : ∀ earlier ∈ upper, ∀ later ∈ lower, earlier.index ≤ later.index) :
    collisions (upper ++ lower) =
      ((eligible upper).filterMap fun rule =>
        (Collision.of? (eligible upper) rule).or (Collision.of? (eligible lower) rule)) ++
          collisions lower := by
  rw [collisions, eligible_append, List.filterMap_append]
  congr 1
  · exact List.filterMap_congr fun rule _ => Collision.of?_append _ _ rule
  · -- A rule of the lower list finds nothing in the upper one, which is all above it.
    refine List.filterMap_congr fun rule hrule => ?_
    have hnone : Collision.of? (eligible upper) rule = none := by
      refine Collision.of?_eq_none_of_below fun other hother => ?_
      exact hbelow other (mem_eligible.1 hother).1 rule (mem_eligible.1 hrule).1
    rw [Collision.of?_append, hnone, Option.none_or]

private theorem find?_overridden_collisions {rules : List Rule} {rule : Rule} (hrule : rule ∈ eligible rules) :
    (collisions rules).find? (·.overridden = rule) = Collision.of? (eligible rules) rule := by
  cases hlisted : (collisions rules).find? (·.overridden = rule) with
  | some collision =>
    have hoverridden : collision.overridden = rule := by simpa using List.find?_some hlisted
    obtain ⟨_, hsearch⟩ := mem_collisions_iff.1 (List.mem_of_find?_eq_some hlisted)
    rw [hoverridden] at hsearch
    rw [Collision.of?, hsearch, ← hoverridden]
    rfl
  | none =>
    cases hsearch : overrider? (eligible rules) rule with
    | none => rw [Collision.of?, hsearch, Option.map_none]
    | some later =>
      have hmem : ⟨rule, later⟩ ∈ collisions rules := mem_collisions_iff.2 ⟨hrule, hsearch⟩
      exact absurd (decide_eq_true rfl) (List.find?_eq_none.1 hlisted _ hmem)

namespace Document

/-- The collision that a rule has once a document is put under its own: the one it has there already, or
else, if it has the flag `L`, one with the first rule of the lower document that takes part and whose
source begins with its source. -/
def seamCollision? (upper lower : Text) (rule : Rule) : Option Collision :=
  match (collisions (rules upper)).find? (·.overridden = rule) with
  | some collision => some collision
  | none =>
    if rule.flags.isLast then
      ((eligible (rules lower)).find? fun later => rule.source.isPrefixOf later.source).map
        fun later => ⟨rule, later.shift upper.lines.length⟩
    else none

private theorem of?_map_shift {upper lower : Text} {rule : Rule} (hrule : rule ∈ rules upper) :
    Collision.of? ((eligible (rules lower)).map (Rule.shift upper.lines.length)) rule =
      if rule.flags.isLast then
        ((eligible (rules lower)).find? fun later => rule.source.isPrefixOf later.source).map
          fun later => ⟨rule, later.shift upper.lines.length⟩
      else none := by
  obtain ⟨_, hle⟩ := (mem_rules_iff.1 hrule).isLine.number_bounds
  have hsearch : (eligible (rules lower)).find?
        ((·.overrides rule) ∘ Rule.shift upper.lines.length) =
      (eligible (rules lower)).find? fun later =>
        rule.flags.isLast && rule.source.isPrefixOf later.source := by
    -- Moved below the seam, every rule is further down than those above it.
    refine List.find?_congr fun later hlater => ?_
    obtain ⟨hge, _⟩ := (mem_rules_iff.1 (mem_eligible.1 hlater).1).isLine.number_bounds
    have hlt : rule.index < later.index + upper.lines.length := by omega
    simp [Rule.overrides, Rule.shift, hlt]
  rw [Collision.of?, overrider?, List.find?_map, hsearch, Option.map_map]
  cases rule.flags.isLast with
  | true => rfl
  | false => simp

/-- What a rule of the upper document collides with is found above the seam or, failing that, below. -/
theorem seamCollision?_eq {upper lower : Text} {rule : Rule} (hrule : rule ∈ eligible (rules upper)) :
    seamCollision? upper lower rule =
      (Collision.of? (eligible (rules upper)) rule).or
        (Collision.of? ((eligible (rules lower)).map (Rule.shift upper.lines.length)) rule) := by
  rw [seamCollision?, find?_overridden_collisions hrule, of?_map_shift (mem_eligible.1 hrule).1]
  cases Collision.of? (eligible (rules upper)) rule with
  | some collision => rfl
  | none => rfl

/-- Validation goes document by document. With one document under another, the rules are those of the upper
one and then those of the lower one, moved down; and the collisions are those that the rules of the upper
one have across the seam and then those of the lower one, moved down with its rules. -/
theorem validation_append_lineFeed (upper lower : Text) :
    rules (upper ++ '\n' :: lower) =
        rules upper ++ (rules lower).map (Rule.shift upper.lines.length) ∧
      collisions (rules (upper ++ '\n' :: lower)) =
        (eligible (rules upper)).filterMap (seamCollision? upper lower) ++
          (collisions (rules lower)).map (Collision.map (Rule.shift upper.lines.length)) := by
  refine ⟨rules_append_lineFeed upper lower, ?_⟩
  have hbelow : ∀ earlier ∈ rules upper,
      ∀ later ∈ (rules lower).map (Rule.shift upper.lines.length), earlier.index ≤ later.index := by
    intro earlier hearlier later hlater
    obtain ⟨_, hle⟩ := (mem_rules_iff.1 hearlier).isLine.number_bounds
    obtain ⟨rule, _, rfl⟩ := List.mem_map.1 hlater
    exact Nat.le_trans hle (Nat.le_add_left _ _)
  have hlower : eligible ((rules lower).map (Rule.shift upper.lines.length)) =
      (eligible (rules lower)).map (Rule.shift upper.lines.length) :=
    eligible_map fun _ _ => rfl
  have hkept : collisions ((rules lower).map (Rule.shift upper.lines.length)) =
      (collisions (rules lower)).map (Collision.map (Rule.shift upper.lines.length)) :=
    collisions_map (fun _ _ => rfl) fun later _ earlier _ =>
      Rule.shift_overrides_shift _ later earlier
  rw [rules_append_lineFeed, collisions_append hbelow, hlower, hkept]
  congr 1
  exact List.filterMap_congr fun rule hrule => (seamCollision?_eq hrule).symm

end Document
end Overrule
