import Overrule.CommandLine.Help
import Overrule.Run

namespace Overrule

variable {m : Type → Type} [Monad m]

def usageStatus : Nat := 2

/-- Does what the arguments of a command line ask for, and gives the status to end with. Whether the
help or the version could be written makes no difference. -/
def program (host : Host m) (arguments : List Bytes) (environment : Option Text) : m Nat := do
  match CommandLine.request arguments with
  | .error error =>
    let _ ← host.write ⟨.err, "error: ".toList ++ error.message ++ ['\n']⟩
    pure usageStatus
  | .ok (.help detailed) =>
    let _ ← host.write ⟨.out, CommandLine.help detailed⟩
    pure 0
  | .ok .version =>
    let _ ← host.write ⟨.out, CommandLine.version⟩
    pure 0
  | .ok (.run options) => run host options environment

end Overrule
