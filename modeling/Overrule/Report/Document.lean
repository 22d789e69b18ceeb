import Overrule.Json
import Overrule.Outcome
import Overrule.Report.Sink

namespace Overrule

def Rule.toJson (rule : Rule) : Json :=
  .object [("index".toList, .number rule.index), ("source".toList, .string rule.source),
    ("destination".toList, .string rule.destination),
    ("flags".toList, .array (rule.flags.tokens.map .string)), ("line".toList, .string rule.line)]

def Collision.toJson (collision : Collision) : Json :=
  .object [("type".toList, .string "collision".toList),
    ("overridden".toList, collision.overridden.toJson),
    ("overrider".toList, collision.overrider.toJson)]

def Status.members : Status → List (Text × Json)
  | .passed ruleCount =>
    [("status".toList, .string "passed".toList), ("rule_count".toList, .number ruleCount)]
  | .collisions ruleCount reports =>
    [("status".toList, .string "collisions".toList), ("rule_count".toList, .number ruleCount),
      ("reports".toList, .array (reports.map Collision.toJson))]
  | .unreadable message =>
    [("status".toList, .string "unreadable".toList), ("message".toList, .string message)]

def Outcome.toJson (outcome : Outcome) : Json :=
  .object (("path".toList, .utf8 outcome.path) :: outcome.status.members)

inductive ReportCause where
  | stream (fault : SystemError)
  | pathNotText
  deriving DecidableEq, Repr

def ReportCause.message : ReportCause → Text
  | .stream fault => fault.message
  | .pathNotText => "path contains invalid UTF-8 characters".toList

inductive DocumentError where
  | serialize (cause : ReportCause)
  | finish (fault : SystemError)
  deriving DecidableEq, Repr

def DocumentError.message : DocumentError → Text
  | .serialize cause => "serialize report: ".toList ++ cause.message
  | .finish fault => "write report: ".toList ++ fault.message

namespace Outcome

def document (outcomes : List Outcome) : Draft :=
  (Json.array (outcomes.map toJson)).draft .indented 0

/-- Writes the document on some files, and a line feed. The result is the failure, if there was one. -/
def writeDocument {m : Type → Type} [Monad m] (outcomes : List Outcome)
    (write : Text → m (Option SystemError)) : m (Option DocumentError) := do
  let draft := document outcomes
  match ← writeEach write draft.pieces with
  | some fault => pure (some (.serialize (.stream fault)))
  | none =>
    if draft.complete then return (← write ['\n']).map .finish
    else pure (some (.serialize .pathNotText))

end Outcome
end Overrule
