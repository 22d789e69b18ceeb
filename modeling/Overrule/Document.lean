import Overrule.Directive

namespace Overrule.Document

def numberedLines (text : Text) : List (Text × Nat) := text.lines.zipIdx 1

/-- What the lines of a document turn out to be, each with its number. -/
def readings (text : Text) : List (Nat × LineReading) :=
  (numberedLines text).map fun (line, index) => (index, LineReading.ofLine index line)

/-- The rules of a document, in the order of their lines. -/
def rules (text : Text) : List Rule := (readings text).filterMap (·.2.rule?)

def incompleteLines (text : Text) : List Nat :=
  (readings text).filterMap fun (index, reading) =>
    if reading = .incomplete then some index else none

theorem rules_eq_filterMap_numberedLines (text : Text) :
    rules text = (numberedLines text).filterMap fun (line, index) => Rule.ofLine? index line := by
  rw [rules, readings, List.filterMap_map]
  rfl

end Overrule.Document
