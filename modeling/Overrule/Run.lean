import Overrule.Host
import Overrule.Log.Line
import Overrule.Options
import Overrule.Report.Document
import Overrule.Report.Lines
import Overrule.Report.Summary
import Overrule.Validation

namespace Overrule

variable {m : Type → Type} [Monad m]

inductive LogError where
  | file (cause : SystemError)
  /-- A part of the filter in the environment cannot be cut out. -/
  | filter (cause : SliceError)
  | opened
  deriving DecidableEq, Repr

def LogError.message : LogError → Text
  | .file cause => cause.message
  | .filter cause => cause.message
  | .opened => Panic.subscriber.message

namespace Host

/-- Opens the log that a configuration asks for. There is only one at a time; its file is opened and the
filter is read before that is found out. -/
def openLogger (host : Host m) (config : LogConfig) (environment : Option Text)
    (current : Option Logger) : m (Except LogError Logger) := do
  let fault ← match config.file with
    | some path => host.openLog path
    | none => pure none
  match fault, config.logger environment, current with
  | some cause, _, _ => pure (.error (.file cause))
  | none, .error cause, _ => pure (.error (.filter cause))
  | none, .ok _, some _ => pure (.error .opened)
  | none, .ok logger, none => pure (.ok logger)

def note (host : Host m) (logger : Logger) (entry : LogEntry) : m Unit := do
  let stamp ← host.now
  match logger.line? stamp entry with
  | some line => host.log (line ++ ['\n'])
  | none => pure ()

def noteAll (host : Host m) (logger : Logger) : List LogEntry → m Unit
  | [] => pure ()
  | entry :: entries => do
    host.note logger entry
    host.noteAll logger entries

def validate (host : Host m) (logger : Logger) (path : Path) : m Outcome := do
  let content ← host.read path
  host.noteAll logger (Validation.entries path content)
  pure (Validation.outcome path content)

def validateAll (host : Host m) (logger : Logger) : List Path → m (List Outcome)
  | [] => pure []
  | path :: paths => do
    let outcome ← host.validate logger path
    let outcomes ← host.validateAll logger paths
    pure (outcome :: outcomes)

end Host

/-- On a workbench a file has the outcome that its content in the tree gives it. -/
theorem Workbench.outcome_validate (bench : Workbench) (logger : Logger) (path : Path) :
    ((host.validate logger path).run bench).1 = bench.files.validate path := rfl

namespace Run

inductive Failure where
  | log (error : LogError)
  | lines (path : Path) (fault : SystemError)
  | document (error : DocumentError)
  | summary (fault : SystemError)
  | table (cause : SliceError)
  deriving DecidableEq, Repr

def Failure.announcement : Failure → Except Panic Text
  | .log (.file cause) => .ok ("failed to initialize logging: ".toList ++ cause.message)
  | .log (.filter cause) => .error (.filter cause)
  | .log .opened => .error .subscriber
  | .lines path fault => .ok ("write report for ".toList ++ path.display ++ ": ".toList ++ fault.message)
  | .document error => .ok error.message
  | .summary fault => .error (.print .out fault)
  | .table cause => .error (.table cause)

def status (outcomes : List Outcome) : Nat := if Outcome.allPassed outcomes then 0 else 1

theorem status_eq_zero_iff (outcomes : List Outcome) :
    status outcomes = 0 ↔ ∀ outcome ∈ outcomes, outcome.isSuccess = true := by
  simp [status, Outcome.allPassed]

def reportLines (host : Host m) (logger : Logger) (colour : Bool) :
    List Path → m (Except Failure (List Outcome))
  | [] => pure (.ok [])
  | path :: paths => do
    let outcome ← host.validate logger path
    match ← outcome.write colour host.write with
    | some fault => pure (.error (.lines path fault))
    | none => return (← reportLines host logger colour paths).map (outcome :: ·)

/-- Writes the summary below the lines of a report, after an empty line, and gives the failure if there was
one. -/
def writeSummary (host : Host m) (outcomes : List Outcome) : m (Option Failure) := do
  match ← host.write ⟨.out, ['\n']⟩, Summary.lines outcomes false with
  | some fault, _ => pure (some (.summary fault))
  | none, .error cause => pure (some (.table cause))
  | none, .ok lines =>
    return (← writeEach host.write (lines.map fun line => ⟨.out, line ++ ['\n']⟩)).map .summary

def report (host : Host m) (logger : Logger) (options : Options) :
    m (Except Failure (List Outcome)) :=
  match options.format with
  | .text => do
    match ← reportLines host logger options.coloured options.files with
    | .error failure => pure (.error failure)
    | .ok outcomes =>
      if options.summary then
        match ← writeSummary host outcomes with
        | some failure => pure (.error failure)
        | none => pure (.ok outcomes)
      else pure (.ok outcomes)
  | .json => do
    let outcomes ← host.validateAll logger options.files
    match ← Outcome.writeDocument outcomes fun text => host.write ⟨.out, text⟩ with
    | some error => pure (.error (.document error))
    | none => pure (.ok outcomes)

/-- Does all that is asked, and gives the outcomes. -/
def attempt (host : Host m) (options : Options) (environment : Option Text) :
    m (Except Failure (List Outcome)) := do
  match ← host.openLogger options.logConfig environment none with
  | .error error => pure (.error (.log error))
  | .ok logger =>
    match ← report host logger options with
    | .error failure => pure (.error failure)
    | .ok outcomes => do
      let elapsed ← host.elapsed
      host.note logger
        ⟨.runComplete options.files.length (Outcome.failedCount outcomes) elapsed, none⟩
      pure (.ok outcomes)

def panic (host : Host m) (panic : Panic) : m Nat := do
  let site ← host.panicSite panic
  let _ ← host.write ⟨.err, (panic.lines site).flatMap (· ++ ['\n'])⟩
  pure 101

/-- Announces a failure. An error that cannot be told of is a panic as well. -/
def fail (host : Host m) (failure : Failure) : m Nat := do
  match failure.announcement with
  | .error panic => Run.panic host panic
  | .ok message =>
    match ← host.write ⟨.err, "error: ".toList ++ message ++ ['\n']⟩ with
    | some fault => Run.panic host (.print .err fault)
    | none => pure 1

end Run

/-- A run, and the status it ends with. -/
def run (host : Host m) (options : Options) (environment : Option Text) : m Nat := do
  match ← Run.attempt host options environment with
  | .ok outcomes => pure (Run.status outcomes)
  | .error failure => Run.fail host failure

end Overrule
