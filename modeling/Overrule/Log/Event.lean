import Overrule.Files.Error
import Overrule.Log.Level

namespace Overrule

inductive FieldValue where
  | text (value : Text)
  | number (value : Nat)
  | truth (value : Bool)
  | duration (value : Nat)
  deriving DecidableEq, Repr

structure Field where
  name : Text
  value : FieldValue
  deriving DecidableEq, Repr

def FieldValue.render : FieldValue → Text
  | .text value => value
  | .number value => Text.decimal value
  | .truth value => if value then "true".toList else "false".toList
  | .duration value => Text.decimal value

inductive Event where
  | fileRead (path : Path) (size : Nat)
  | incompleteDirective (line : Nat)
  | rulesExtracted (lineCount ruleCount : Nat)
  | collisionCheck (ruleCount eligibleCount : Nat)
  | collision (overridden overrider : Nat)
  | noCollisions (ruleCount : Nat)
  | validationComplete (path : Path) (passed : Bool)
  | runComplete (fileCount failed duration : Nat)
  | notice (target : Text) (level : Level) (message : Text) (fields : List Field := [])
  deriving DecidableEq, Repr

namespace Event

def level : Event → Level
  | .fileRead .. => .debug
  | .incompleteDirective .. => .trace
  | .rulesExtracted .. => .debug
  | .collisionCheck .. => .debug
  | .collision .. => .trace
  | .noCollisions .. => .debug
  | .validationComplete .. => .info
  | .runComplete .. => .info
  | .notice _ level .. => level

def target : Event → Text
  | .fileRead .. => "rewrite_ingest::reader".toList
  | .incompleteDirective .. => "rewrite_ingest::extract".toList
  | .rulesExtracted .. => "rewrite_ingest::extract".toList
  | .collisionCheck .. => "rewrite_validate::collision".toList
  | .collision .. => "rewrite_validate::collision".toList
  | .noCollisions .. => "rewrite_validate::validator".toList
  | .validationComplete .. => "rewrite_validate::validator".toList
  | .runComplete .. => "validate_rewrites::commands".toList
  | .notice target .. => target

def message : Event → Text
  | .fileRead .. => "read config file".toList
  | .incompleteDirective .. => "directive without source or destination".toList
  | .rulesExtracted .. => "extracted rewrite rules".toList
  | .collisionCheck .. => "checking rule collisions".toList
  | .collision .. => "collision".toList
  | .noCollisions .. => "no collisions".toList
  | .validationComplete .. => "validation complete".toList
  | .runComplete .. => "run complete".toList
  | .notice _ _ message _ => message

def fields : Event → List Field
  | .fileRead path size => [⟨"path".toList, .text path.display⟩, ⟨"bytes".toList, .number size⟩]
  | .incompleteDirective line => [⟨"line".toList, .number line⟩]
  | .rulesExtracted lineCount ruleCount =>
    [⟨"line_count".toList, .number lineCount⟩, ⟨"rule_count".toList, .number ruleCount⟩]
  | .collisionCheck ruleCount eligibleCount =>
    [⟨"rule_count".toList, .number ruleCount⟩, ⟨"eligible_count".toList, .number eligibleCount⟩]
  | .collision overridden overrider =>
    [⟨"overridden".toList, .number overridden⟩, ⟨"overrider".toList, .number overrider⟩]
  | .noCollisions ruleCount => [⟨"rule_count".toList, .number ruleCount⟩]
  | .validationComplete path passed =>
    [⟨"path".toList, .text path.display⟩, ⟨"passed".toList, .truth passed⟩]
  | .runComplete fileCount failed duration =>
    [⟨"file_count".toList, .number fileCount⟩, ⟨"failed".toList, .number failed⟩,
      ⟨"duration_ms".toList, .duration duration⟩]
  | .notice _ _ _ fields => fields

/-- The names of the fields of an event. The message counts as one of them. -/
def fieldNames (event : Event) : List Text :=
  "message".toList :: event.fields.map Field.name

end Event

/-- An event, told from within the validation of a file or outside of any. -/
structure LogEntry where
  event : Event
  validating : Option Path
  deriving DecidableEq, Repr

namespace LogEntry

def contextName : Text := "validate".toList

def contextField : Text := "path".toList

/-- Where the validation of a file comes from, for the log to decide whether to show it. -/
def contextTarget : Text := "rewrite_validate::validator".toList

def contextLevel : Level := .info

end LogEntry
end Overrule
