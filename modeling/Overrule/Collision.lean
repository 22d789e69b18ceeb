import Overrule.Rule

namespace Overrule

structure Collision where
  overridden : Rule
  overrider : Rule
  deriving DecidableEq, Repr

/-- The rules that take part in collisions, in the order of the list. -/
def eligible (rules : List Rule) : List Rule := rules.filter (!·.isAnchored)

def overrider? (rules : List Rule) (rule : Rule) : Option Rule := rules.find? (·.overrides rule)

/-- The collision of a rule with the first of some rules that overrides it. -/
def Collision.of? (rules : List Rule) (rule : Rule) : Option Collision :=
  (overrider? rules rule).map (Collision.mk rule)

/-- The collisions among some rules: at most one for each rule, in the order of the overridden ones. -/
def collisions (rules : List Rule) : List Collision :=
  (eligible rules).filterMap (Collision.of? (eligible rules))

structure Conflict where
  /-- How many rules there are, those that take no part in collisions included. -/
  ruleCount : Nat
  collisions : List Collision
  deriving DecidableEq, Repr

def Conflict.message (conflict : Conflict) : Text :=
  Text.decimal conflict.collisions.length ++ " colliding rule(s)".toList

/-- Accepts rules without collisions, and refuses all others. -/
def check (rules : List Rule) : Except Conflict Unit :=
  if collisions rules = [] then .ok () else .error ⟨rules.length, collisions rules⟩

theorem mem_eligible {rules : List Rule} {rule : Rule} :
    rule ∈ eligible rules ↔ rule ∈ rules ∧ rule.isAnchored = false := by
  simp [eligible]

/-- A collision pairs two eligible rules of which one overrides the other. -/
theorem overrides_of_mem_collisions {rules : List Rule} {collision : Collision}
    (h : collision ∈ collisions rules) :
    collision.overridden ∈ eligible rules ∧ collision.overrider ∈ eligible rules ∧
      collision.overrider.overrides collision.overridden = true := by
  obtain ⟨rule, hrule, hof⟩ := List.mem_filterMap.1 h
  obtain ⟨later, hfind, rfl⟩ := Option.map_eq_some_iff.1 hof
  unfold overrider? at hfind
  have hover := List.find?_some hfind
  exact ⟨hrule, List.mem_of_find?_eq_some hfind, hover⟩

end Overrule
