import Overrule.Collision
import Overrule.Files.Error

namespace Overrule

/-- How the validation of a file ended. -/
inductive Status where
  | passed (ruleCount : Nat)
  | collisions (ruleCount : Nat) (reports : List Collision)
  | unreadable (message : Text)
  deriving DecidableEq, Repr

/-- A file and how its validation ended. -/
structure Outcome where
  path : Path
  status : Status
  deriving DecidableEq, Repr

inductive Rejection where
  | unreadable (error : ReadError)
  | conflicting (conflict : Conflict)
  deriving DecidableEq, Repr

def Rejection.message : Rejection → Text
  | .unreadable error => error.message
  | .conflicting conflict => conflict.message

/-- The status that a verdict amounts to: the number of rules of a file without collisions, or why it was
rejected. -/
def Status.ofVerdict : Except Rejection Nat → Status
  | .ok ruleCount => .passed ruleCount
  | .error (.conflicting conflict) => .collisions conflict.ruleCount conflict.collisions
  | .error (.unreadable error) => .unreadable error.message

namespace Outcome

def isSuccess (outcome : Outcome) : Bool :=
  match outcome.status with
  | .passed _ => true
  | _ => false

/-- How many collisions a file has; a file that could not be read counts as having none. -/
def collisionCount (outcome : Outcome) : Nat :=
  match outcome.status with
  | .collisions _ reports => reports.length
  | _ => 0

def ruleCount? (outcome : Outcome) : Option Nat :=
  match outcome.status with
  | .passed ruleCount => some ruleCount
  | .collisions ruleCount _ => some ruleCount
  | .unreadable _ => none

def allPassed (outcomes : List Outcome) : Bool := outcomes.all isSuccess

def failedCount (outcomes : List Outcome) : Nat := outcomes.countP (!·.isSuccess)

theorem failedCount_eq_zero_iff (outcomes : List Outcome) :
    failedCount outcomes = 0 ↔ allPassed outcomes = true := by
  simp [failedCount, allPassed]

end Outcome
end Overrule
