import Overrule.Json
import Overrule.Log.Config
import Overrule.Log.Event
import Overrule.Text.Escape

namespace Overrule

def Level.label (level : Level) : Text := level.name.map Char.toUpper

def Level.colour : Level → Text
  | .error => ['3', '1']
  | .warn => ['3', '3']
  | .info => ['3', '2']
  | .debug => ['3', '4']
  | .trace => ['3', '5']

namespace LogLine

def levelWidth : Nat := 5

def bold : Text := ['1']
def dim : Text := ['2']
def italic : Text := ['3']

def style (colour : Bool) (code text : Text) : Text :=
  if colour then colourCode code ++ text ++ resetCode else text

def field (colour : Bool) (field : Field) : Text :=
  style colour italic field.name ++ style colour dim ['='] ++ field.value.render

def contextFields (path : Path) : List Field := [⟨LogEntry.contextField, .text path.display⟩]

def context (config : LogConfig) (path : Path) : Text :=
  let name := style config.colour bold LogEntry.contextName
  match config.format with
  | .compact => name ++ [':', ' ']
  | _ =>
    name ++ style config.colour bold ['\x7b'] ++
      [' '].intercalate ((contextFields path).map (field config.colour)) ++
      style config.colour bold ['\x7d'] ++ style config.colour dim [':'] ++ [' ']

def contextEnd (config : LogConfig) (path : Path) : Text :=
  match config.format with
  | .compact => (contextFields path).flatMap fun told =>
      ' ' :: style config.colour dim (field config.colour told)
  | _ => []

def plain (config : LogConfig) (stamp : Text) (entry : LogEntry) : Text :=
  let event := entry.event
  (if config.showsTime then style config.colour dim stamp ++ [' '] else []) ++
    style config.colour event.level.colour (event.level.label.padLeft levelWidth) ++ [' '] ++
    (match entry.validating with
      | some path => context config path
      | none => []) ++
    (if config.showsTarget then
      style config.colour dim event.target ++ style config.colour dim [':'] ++ [' ']
    else []) ++
    event.message ++
    (event.fields.flatMap fun told => ' ' :: field config.colour told) ++
    (match entry.validating with
      | some path => contextEnd config path
      | none => [])

/-- The value of a field in a JSON object. A duration may be larger than a number there, and is a
string. -/
def value : FieldValue → Json
  | .text value => .string value
  | .number value => .number value
  | .truth value => .truth value
  | .duration value => .string (Text.decimal value)

def members (fields : List Field) : List (Text × Json) :=
  fields.map fun field => (field.name, value field.value)

def contextObject (path : Path) : Json :=
  .object (members (contextFields path) ++ [("name".toList, .string LogEntry.contextName)])

def object (config : LogConfig) (stamp : Text) (entry : LogEntry) : Json :=
  let event := entry.event
  .object ([("timestamp".toList, .string stamp), ("level".toList, .string event.level.label),
      ("fields".toList,
        .object (("message".toList, .string event.message) :: members event.fields))] ++
    (if config.showsTarget then [("target".toList, .string event.target)] else []) ++
    (match entry.validating with
      | some path => [("span".toList, contextObject path),
          ("spans".toList, .array [contextObject path])]
      | none => []))

end LogLine

namespace LogEntry

def shown? (entry : LogEntry) (filter : Filter) : Option LogEntry :=
  if filter.admits entry then
    some { entry with validating := if filter.showsContext then entry.validating else none }
  else none

def line (entry : LogEntry) (config : LogConfig) (stamp : Text) : Text :=
  match config.format with
  | .json => ((LogLine.object config stamp entry).draft .compact 0).text
  | _ => LogLine.plain config stamp entry

end LogEntry

/-- A log that is being written: how it is set up, and what it shows. -/
structure Logger where
  config : LogConfig
  filter : Filter
  deriving DecidableEq, Repr

def LogConfig.logger (config : LogConfig) (environment : Option Text) : Except SliceError Logger :=
  (config.filter environment).map (⟨config, ·⟩)

def Logger.line? (logger : Logger) (stamp : Text) (entry : LogEntry) : Option Text :=
  (entry.shown? logger.filter).map fun shown => shown.line logger.config stamp

/-- The lines that some entries leave in a log if all are told at the same time. -/
def Logger.lines (logger : Logger) (stamp : Text) (entries : List LogEntry) : List Text :=
  entries.filterMap (logger.line? stamp)

end Overrule
