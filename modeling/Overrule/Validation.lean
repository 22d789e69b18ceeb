import Overrule.Document
import Overrule.Outcome
import Overrule.Files.Tree
import Overrule.Log.Event

namespace Overrule

/-- The rules in the content of a file. Bytes that are no text are replaced, not refused. -/
def rulesOfBytes (content : Bytes) : List Rule := Document.rules (Utf8.decode content)

def FileTree.readRules (tree : FileTree) (path : Path) : Except ReadError (List Rule) :=
  match tree.read path with
  | .ok content => .ok (rulesOfBytes content)
  | .error cause => .error ⟨path, cause⟩

namespace Validation

def extractionEvents (text : Text) : List Event :=
  (Document.incompleteLines text).map .incompleteDirective ++
    [.rulesExtracted text.lines.length (Document.rules text).length]

def checkEvents (rules : List Rule) : List Event :=
  .collisionCheck rules.length (eligible rules).length ::
    (collisions rules).map fun report => .collision report.overridden.index report.overrider.index

/-- The verdict on a file, given what reading it gave: the number of its rules, or why it is rejected. -/
def verdict (path : Path) (content : Except SystemError Bytes) : Except Rejection Nat :=
  match content with
  | .error cause => .error (.unreadable ⟨path, cause⟩)
  | .ok bytes =>
    let rules := rulesOfBytes bytes
    match check rules with
    | .ok () => .ok rules.length
    | .error conflict => .error (.conflicting conflict)

def events (path : Path) (content : Except SystemError Bytes) : List Event :=
  match content with
  | .error _ => []
  | .ok bytes =>
    let text := Utf8.decode bytes
    let rules := Document.rules text
    .fileRead path bytes.length :: extractionEvents text ++ checkEvents rules ++
      match check rules with
      | .ok () => [.noCollisions rules.length]
      | .error _ => []

/-- The outcome of validating a file. -/
def outcome (path : Path) (content : Except SystemError Bytes) : Outcome :=
  ⟨path, Status.ofVerdict (verdict path content)⟩

/-- Everything that is logged about a file: the events from within its validation, and then, from
outside, how it ended. -/
def entries (path : Path) (content : Except SystemError Bytes) : List LogEntry :=
  (events path content).map (⟨·, some path⟩) ++
    [⟨.validationComplete path (outcome path content).isSuccess, none⟩]

end Validation

def FileTree.validateFile (tree : FileTree) (path : Path) : Except Rejection Nat :=
  Validation.verdict path (tree.read path)

def FileTree.validate (tree : FileTree) (path : Path) : Outcome :=
  Validation.outcome path (tree.read path)

/-- The outcomes for files of a tree, each on its own, in the given order. -/
def FileTree.validateAll (tree : FileTree) (paths : List Path) : List Outcome :=
  paths.map tree.validate

end Overrule
