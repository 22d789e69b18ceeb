import Overrule.CommandLine.Arguments

namespace Overrule.CommandLine

def joined (between : Text) (texts : List Text) : Text := between.intercalate texts

def programName : Text := "validate-rewrites".toList

def version : Text := programName ++ " 0.1.0\n".toList

def purpose : Text := "Detect RewriteRule directives overridden by later, broader rules".toList

def detailedPurpose : List Text :=
  [purpose ++ ['.'],
    [],
    "A rule flagged [L] collides with a later rule whose pattern starts with".toList,
    "the same literal prefix. Rules whose substitution ends in '$' are ignored.".toList,
    [],
    "Exit status is 0 when every file passes, 1 otherwise.".toList]

def usageLine : Text := "Usage: ".toList ++ programName ++ " [OPTIONS] ".toList ++ filesTitle

structure Entry where
  names : Text
  about : Text
  /-- Which value holds by default, and which values there are. -/
  notes : List Text
  deriving DecidableEq, Repr

namespace Switch

def names (switch : Switch) : Text :=
  (match switch.short? with
    | some letter => ['-', letter, ',', ' ']
    | none => List.replicate 4 ' ') ++ switch.title

def about (switch : Switch) (detailed : Bool) : Text :=
  match switch with
  | .format => "Report format".toList
  | .summary => "Print a per-file summary table after the text report".toList
  | .verbose => "Increase logging verbosity".toList
  | .quiet => "Decrease logging verbosity".toList
  | .colour => "Controls when to use color".toList
  | .logLevel => "Explicit log level (overrides -v/-q flags)".toList
  | .logFormat => "Log output format (pretty for human, json for machine parsing)".toList
  | .logFile => "Write logs to a file instead of stderr".toList
  | .help =>
    if detailed then "Print help (see a summary with '-h')".toList
    else "Print help (see more with '--help')".toList
  | .version => "Print version".toList

def notes (switch : Switch) : List Text :=
  (match switch.default? with
    | some value => ["[default: ".toList ++ value ++ [']']]
    | none => []) ++
  match switch.choices with
  | [] => []
  | choices => ["[possible values: ".toList ++ joined [',', ' '] choices ++ [']']]

def entry (switch : Switch) (detailed : Bool) : Entry :=
  ⟨switch.names, switch.about detailed, switch.notes⟩

end Switch

def filesEntry : Entry :=
  ⟨filesTitle, "Apache config files to check, validated in order".toList, []⟩

def indented (width : Nat) (text : Text) : Text := List.replicate width ' ' ++ text

def briefLines (entries : List Entry) : List Text :=
  let width := (entries.map fun entry => entry.names.length).foldl max 0
  entries.map fun entry =>
    indented 2 entry.names ++ List.replicate (width - entry.names.length) ' ' ++ [' ', ' '] ++
      joined [' '] (entry.about :: entry.notes)

/-- The lines of an entry that has room: the notes stand below a line of blanks. -/
def Entry.detailedLines (entry : Entry) : List Text :=
  indented 2 entry.names ::
    (entry.about :: if entry.notes = [] then [] else [] :: entry.notes).map (indented 10)

def detailedLines (entries : List Entry) : List Text :=
  [[]].intercalate (entries.map Entry.detailedLines)

def helpLines (detailed : Bool) : List Text :=
  let lines := if detailed then detailedLines else briefLines
  (if detailed then detailedPurpose else [purpose]) ++
    [[], usageLine, [], "Arguments:".toList] ++ lines [filesEntry] ++
    [[], "Options:".toList] ++ lines (Switch.all.map (·.entry detailed))

def help (detailed : Bool) : Text := (helpLines detailed).flatMap (· ++ ['\n'])

end Overrule.CommandLine
