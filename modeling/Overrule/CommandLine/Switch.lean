import Overrule.Options

namespace Overrule.CommandLine

inductive Setting where
  | format (value : ReportFormat)
  | summary
  | verbose
  | quiet
  | colour (value : ColourChoice)
  | logLevel (value : Level)
  | logFormat (value : LogFormat)
  | logFile (value : Path)
  deriving DecidableEq, Repr

def Setting.apply (options : Options) : Setting → Options
  | .format value => { options with format := value }
  | .summary => { options with summary := true }
  | .verbose => { options with verbose := options.verbose + 1 }
  | .quiet => { options with quiet := options.quiet + 1 }
  | .colour value => { options with colour := value }
  | .logLevel value => { options with logLevel := some value }
  | .logFormat value => { options with logFormat := value }
  | .logFile value => { options with logFile := some value }

inductive Switch where
  | format
  | summary
  | verbose
  | quiet
  | colour
  | logLevel
  | logFormat
  | logFile
  | help
  | version
  deriving DecidableEq, Repr

inductive Effect where
  | choice (placeholder : Text) (choices : List (Text × Setting))
  | path (placeholder : Text) (setting : Path → Setting)
  | once (setting : Setting)
  | each (setting : Setting)
  | help
  | version

def choicesOf {α : Type} (all : List α) (name : α → Text) (setting : α → Setting) :
    List (Text × Setting) :=
  all.map fun value => (name value, setting value)

namespace Switch

def all : List Switch :=
  [.format, .summary, .verbose, .quiet, .colour, .logLevel, .logFormat, .logFile, .help, .version]

def effect : Switch → Effect
  | .format => .choice "FORMAT".toList (choicesOf ReportFormat.all ReportFormat.name .format)
  | .summary => .once .summary
  | .verbose => .each .verbose
  | .quiet => .each .quiet
  | .colour => .choice "WHEN".toList (choicesOf ColourChoice.all ColourChoice.name .colour)
  | .logLevel => .choice "LOG_LEVEL".toList (choicesOf Level.all Level.name .logLevel)
  | .logFormat => .choice "LOG_FORMAT".toList (choicesOf LogFormat.all LogFormat.name .logFormat)
  | .logFile => .path "PATH".toList .logFile
  | .help => .help
  | .version => .version

def long : Switch → Text
  | .format => "format".toList
  | .summary => "summary".toList
  | .verbose => "verbose".toList
  | .quiet => "quiet".toList
  | .colour => "color".toList
  | .logLevel => "log-level".toList
  | .logFormat => "log-format".toList
  | .logFile => "log-file".toList
  | .help => "help".toList
  | .version => "version".toList

/-- The letter of a switch, which one dash introduces. Only switches without a value have one. -/
def short? : Switch → Option Char
  | .verbose => some 'v'
  | .quiet => some 'q'
  | .help => some 'h'
  | .version => some 'V'
  | _ => none

def ofLong? (name : Bytes) : Option Switch := all.find? fun switch => Utf8.encode switch.long == name

def ofShort? (letter : Char) : Option Switch := all.find? fun switch => switch.short? == some letter

/-- A switch as it is spoken of: with its value, and with dots if it may be repeated. -/
def title (switch : Switch) : Text :=
  "--".toList ++ switch.long ++
    match switch.effect with
    | .choice placeholder _ | .path placeholder _ => " <".toList ++ placeholder ++ ['>']
    | .each _ => "...".toList
    | _ => []

/-- The name of the value that holds if a switch is not given, if there is one. -/
def default? : Switch → Option Text
  | .format => some ({} : Options).format.name
  | .colour => some ({} : Options).colour.name
  | .logFormat => some ({} : Options).logFormat.name
  | _ => none

/-- The names of the values that a switch takes, if it takes one of some. -/
def choices (switch : Switch) : List Text :=
  match switch.effect with
  | .choice _ choices => choices.map (·.1)
  | _ => []

end Switch
end Overrule.CommandLine
