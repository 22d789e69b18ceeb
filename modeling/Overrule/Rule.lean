import Overrule.Flags

namespace Overrule

/-- One rule. -/
structure Rule where
  index : Nat
  source : Text
  destination : Text
  flags : Flags
  line : Text
  deriving DecidableEq, Repr

namespace Rule

/-- Whether the destination ends in `$`. Such a rule is meant to be terminal and takes no part in the
search for collisions. -/
def isAnchored (rule : Rule) : Bool := rule.destination.getLast? == some '$'

/-- Whether a rule overrides another one: it stands on a later line, the other one has the flag `L`,
and its source begins with the other one's, character by character. -/
def overrides (later earlier : Rule) : Bool :=
  earlier.index < later.index && earlier.flags.isLast && earlier.source.isPrefixOf later.source

def shift (n : Nat) (rule : Rule) : Rule := { rule with index := rule.index + n }

theorem overrides_iff {later earlier : Rule} :
    later.overrides earlier = true ↔
      earlier.index < later.index ∧ earlier.flags.isLast = true ∧
        earlier.source <+: later.source := by
  simp [overrides, and_assoc]

@[simp] theorem shift_overrides_shift (n : Nat) (later earlier : Rule) :
    (later.shift n).overrides (earlier.shift n) = later.overrides earlier := by
  simp [overrides, shift]

end Rule
end Overrule
