import Overrule.Text.Basic

namespace Overrule

inductive Level where
  | error
  | warn
  | info
  | debug
  | trace
  deriving DecidableEq, Repr

namespace Level

def all : List Level := [.error, .warn, .info, .debug, .trace]

def rank : Level → Nat
  | .error => 1
  | .warn => 2
  | .info => 3
  | .debug => 4
  | .trace => 5

def name : Level → Text
  | .error => "error".toList
  | .warn => "warn".toList
  | .info => "info".toList
  | .debug => "debug".toList
  | .trace => "trace".toList

end Level

inductive Threshold where
  | off
  | upTo (level : Level)
  deriving DecidableEq, Repr

namespace Threshold

def rank : Threshold → Nat
  | .off => 0
  | .upTo level => level.rank

/-- The threshold with a position; beyond the last one everything is let through. -/
def ofRank : Nat → Threshold
  | 0 => .off
  | 1 => .upTo .error
  | 2 => .upTo .warn
  | 3 => .upTo .info
  | 4 => .upTo .debug
  | _ => .upTo .trace

def admits (threshold : Threshold) (level : Level) : Bool := level.rank ≤ threshold.rank

def quieter (a b : Threshold) : Threshold := if a.rank ≤ b.rank then a else b

def louder (a b : Threshold) : Threshold := if a.rank < b.rank then b else a

def name : Threshold → Text
  | .off => "off".toList
  | .upTo level => level.name

theorem admits_of_rank_le {quiet loud : Threshold} {level : Level} (hle : quiet.rank ≤ loud.rank)
    (h : quiet.admits level = true) : loud.admits level = true := by
  simp only [admits, decide_eq_true_eq] at h ⊢
  omega

end Threshold
end Overrule
