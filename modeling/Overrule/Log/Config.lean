import Overrule.Files.Error
import Overrule.Log.Filter.Reader

namespace Overrule

inductive LogFormat where
  | pretty
  | compact
  | json
  deriving DecidableEq, Repr

def LogFormat.name : LogFormat → Text
  | .pretty => "pretty".toList
  | .compact => "compact".toList
  | .json => "json".toList

def LogFormat.all : List LogFormat := [.pretty, .compact, .json]

structure LogConfig where
  threshold : Threshold := .upTo .warn
  /-- Whether a filter found in the environment is used instead of the threshold. -/
  usesEnvironment : Bool := true
  showsTime : Bool := false
  showsTarget : Bool := false
  colour : Bool := true
  format : LogFormat := .pretty
  /-- The file at whose end the log is written, if not on the stream for errors. -/
  file : Option Path := none
  deriving DecidableEq, Repr

namespace LogConfig

def ofVerbosity (steps : Nat) : LogConfig := { threshold := .ofRank (Level.warn.rank + steps) }

/-- The filter of a log, given the one that the environment holds as text. One that does not have the form
of a filter is none. -/
def filter (config : LogConfig) (environment : Option Text) : Except SliceError Filter :=
  match if config.usesEnvironment then environment else none with
  | none => .ok (.upTo config.threshold)
  | some text =>
    match Filter.ofText text with
    | .ok filter => .ok filter
    | .error .malformed => .ok (.upTo config.threshold)
    | .error (.slice error) => .error error

end LogConfig
end Overrule
