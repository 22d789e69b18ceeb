import Overrule.Outcome
import Overrule.Report.Paint
import Overrule.Report.Sink

namespace Overrule

def Collision.line (collision : Collision) (colour : Bool) : Text :=
  "Redirect ".toList ++ Text.decimal collision.overridden.index ++ [':'] ++
    Paint.bold.apply colour collision.overridden.source ++
    " overrides ".toList ++ Text.decimal collision.overrider.index ++ [':'] ++
    Paint.bold.apply colour collision.overrider.source

namespace Outcome

def passedLine (path : Path) (colour : Bool) : Text :=
  path.display ++ ": ".toList ++ Paint.green.apply colour "OK".toList

/-- The headline of a file with some number of collisions, without its end. -/
def failedLine (path : Path) (count : Nat) (colour : Bool) : Text :=
  Paint.red.apply colour "Failed rules:".toList ++ [' '] ++ Text.decimal count ++
    " in ".toList ++ path.display

/-- The lines of the report on one file, in the order in which they are written. -/
def lines (outcome : Outcome) (colour : Bool) : List Put :=
  match outcome.status with
  | .passed _ => [⟨.out, passedLine outcome.path colour ++ ['\n']⟩]
  | .collisions _ reports =>
    ⟨.err, failedLine outcome.path reports.length colour ++ ['\n']⟩ ::
      reports.map fun report => ⟨.out, report.line colour ++ ['\n']⟩
  | .unreadable message => [⟨.err, message ++ ['\n']⟩]

/-- Writes the report on one file, until a line cannot be written. -/
def write {m : Type → Type} [Monad m] (outcome : Outcome) (colour : Bool)
    (write : Put → m (Option SystemError)) : m (Option SystemError) :=
  writeEach write (outcome.lines colour)

end Outcome
end Overrule
