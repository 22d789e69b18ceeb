import Overrule.Log.Config

namespace Overrule

inductive ReportFormat where
  | text
  | json
  deriving DecidableEq, Repr

def ReportFormat.name : ReportFormat → Text
  | .text => "text".toList
  | .json => "json".toList

def ReportFormat.all : List ReportFormat := [.text, .json]

inductive ColourChoice where
  | auto
  | always
  | never
  deriving DecidableEq, Repr

def ColourChoice.name : ColourChoice → Text
  | .auto => "auto".toList
  | .always => "always".toList
  | .never => "never".toList

def ColourChoice.all : List ColourChoice := [.auto, .always, .never]

structure Options where
  files : List Path := []
  format : ReportFormat := .text
  /-- Whether a table follows the lines of the report. A document has none. -/
  summary : Bool := false
  verbose : Nat := 0
  quiet : Nat := 0
  colour : ColourChoice := .auto
  logLevel : Option Level := none
  logFormat : LogFormat := .pretty
  logFile : Option Path := none
  deriving DecidableEq, Repr

namespace Options

def coloured (options : Options) : Bool := options.colour == .always

/-- Up to which level the program's own events are logged: warnings, and one level more or less for each
time it is asked, unless a level is named. -/
def threshold (options : Options) : Threshold :=
  match options.logLevel with
  | some level => .upTo level
  | none => .ofRank (Level.warn.rank + options.verbose - options.quiet)

/-- How the log is set up. Whoever asks for more, for less or for a level does not want the environment
to decide. -/
def logConfig (options : Options) : LogConfig where
  threshold := options.threshold
  usesEnvironment := options.verbose == 0 && options.quiet == 0 && options.logLevel.isNone
  colour := options.coloured
  format := options.logFormat
  file := options.logFile

end Options
end Overrule
