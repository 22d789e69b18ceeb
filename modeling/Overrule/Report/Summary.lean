import Overrule.Outcome
import Overrule.Table.Basic

namespace Overrule.Summary

def darkGrey : Nat := 8
def red : Nat := 9
def green : Nat := 10
def yellow : Nat := 11
def cyan : Nat := 14

structure Row where
  file : Cell
  rules : Cell
  collisions : Cell
  status : Cell
  deriving DecidableEq, Repr

def Row.cells (row : Row) : List Cell := [row.file, row.rules, row.collisions, row.status]

def headingCell (text : Text) : Cell := ⟨text, some cyan, true⟩

def dimCell (text : Text) : Cell := ⟨text, some darkGrey, false⟩

def totalCell (text : Text) : Cell := ⟨text, none, true⟩

def noCount : Text := ['-']

def rulesCell (outcome : Outcome) : Cell :=
  match outcome.ruleCount? with
  | some count => .plain (Text.decimal count)
  | none => dimCell noCount

def collisionsCell (outcome : Outcome) : Cell :=
  match outcome.status with
  | .unreadable _ => dimCell noCount
  | _ =>
    if 0 < outcome.collisionCount then ⟨Text.decimal outcome.collisionCount, some red, true⟩
    else dimCell (Text.decimal outcome.collisionCount)

def statusCell : Status → Cell
  | .passed _ => ⟨"OK".toList, some green, true⟩
  | .collisions .. => ⟨"FAILED".toList, some red, false⟩
  | .unreadable _ => ⟨"UNREADABLE".toList, some yellow, false⟩

def headings : Row :=
  ⟨headingCell "File".toList, headingCell "Rules".toList, headingCell "Collisions".toList,
    headingCell "Status".toList⟩

def fileRow (outcome : Outcome) : Row :=
  ⟨.plain outcome.path.display, rulesCell outcome, collisionsCell outcome, statusCell outcome.status⟩

/-- How many rules some files have together; those that could not be read count as having none. -/
def totalRules (outcomes : List Outcome) : Nat :=
  (outcomes.map fun outcome => outcome.ruleCount?.getD 0).foldr (· + ·) 0

def totalCollisions (outcomes : List Outcome) : Nat :=
  (outcomes.map Outcome.collisionCount).foldr (· + ·) 0

def totalRow (outcomes : List Outcome) : Row :=
  ⟨headingCell "TOTAL".toList, totalCell (Text.decimal (totalRules outcomes)),
    totalCell (Text.decimal (totalCollisions outcomes)),
    totalCell (Text.decimal (Outcome.failedCount outcomes) ++ " failed".toList)⟩

def rows (outcomes : List Outcome) : List Row := outcomes.map fileRow ++ [totalRow outcomes]

/-- The summary as a table: counts stand to the right, verdicts in the middle. -/
def table (outcomes : List Outcome) : Table :=
  ⟨headings.cells, (rows outcomes).map Row.cells, [.left, .right, .right, .centre]⟩

def lines (outcomes : List Outcome) (styled : Bool) : Except SliceError (List Text) :=
  (table outcomes).render styled

end Overrule.Summary
