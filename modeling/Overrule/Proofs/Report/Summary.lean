import Mathlib.Algebra.Order.Ring.Nat
import Mathlib.Data.List.Forall2
import Overrule.Proofs.Report.Sinks
import Overrule.Proofs.Text.Decimal
import Overrule.Run

namespace Overrule

def Put.keep (put : Put) : StateM (List Put) (Option SystemError) := fun kept => (none, kept ++ [put])

private theorem Put.writeEach_keep (puts kept : List Put) : (writeEach keep puts).run kept = (none, kept ++ puts) := by
  induction puts generalizing kept with
  | nil =>
    rw [List.append_nil]
    rfl
  | cons put puts ih =>
    have hrest := ih (kept ++ [put])
    rw [List.append_assoc] at hrest
    exact hrest

namespace Outcome

def written (outcome : Outcome) (colour : Bool) : List Put := ((outcome.write colour Put.keep).run []).2

def reports (outcome : Outcome) : List Collision :=
  match outcome.status with
  | .collisions _ reports => reports
  | _ => []

/-- How many lines are written about collisions of a file. -/
def collisionLines (outcome : Outcome) (colour : Bool) : Nat :=
  (outcome.written colour).countP fun put =>
    outcome.reports.any fun report => put = ⟨.out, report.line colour ++ ['\n']⟩

/-- Whether anything is written of a file to the stream for failures. -/
def writesToErr (outcome : Outcome) (colour : Bool) : Bool := (outcome.written colour).any (·.channel = .err)

private theorem written_eq_lines (outcome : Outcome) (colour : Bool) :
    outcome.written colour = outcome.lines colour := by
  rw [written, write, Put.writeEach_keep, List.nil_append]

private theorem exists_message_of_ruleCount? {outcome : Outcome} (hnone : outcome.ruleCount? = none) :
    ∃ message, outcome = ⟨outcome.path, .unreadable message⟩ := by
  obtain ⟨path, status⟩ := outcome
  cases status with
  | passed ruleCount => cases hnone
  | collisions ruleCount reports => cases hnone
  | unreadable message => exact ⟨message, rfl⟩

private theorem collisionLines_eq (outcome : Outcome) (colour : Bool) :
    outcome.collisionLines colour = outcome.collisionCount := by
  rw [collisionLines, written_eq_lines]
  obtain ⟨path, status⟩ := outcome
  cases status with
  | passed ruleCount => rfl
  | unreadable message => rfl
  | collisions ruleCount reports =>
    -- The headline is for the other stream, and every line below it is about one of the collisions.
    have hlines : (reports.map fun report => (⟨.out, report.line colour ++ ['\n']⟩ : Put)).countP
        (fun put => reports.any fun report => put = ⟨.out, report.line colour ++ ['\n']⟩) = reports.length := by
      rw [List.countP_map, List.countP_eq_length]
      intro report hreport
      exact List.any_eq_true.2 ⟨report, hreport, decide_eq_true rfl⟩
    rw [lines]
    dsimp only
    rw [List.countP_cons_of_neg, Outcome.reports, hlines]
    · rfl
    · simp

private theorem writesToErr_eq (outcome : Outcome) (colour : Bool) :
    outcome.writesToErr colour = !outcome.isSuccess := by
  rw [writesToErr, written_eq_lines]
  obtain ⟨path, status⟩ := outcome
  cases status with
  | passed ruleCount => rfl
  | unreadable message => rfl
  | collisions ruleCount reports => rfl

end Outcome

namespace Summary

/-- A row says of a file what was written of it. -/
structure Row.Tells (row : Row) (outcome : Outcome) (colour : Bool) : Prop where
  file : row.file.text = outcome.path.display
  rules : row.rules.text.natural? = outcome.ruleCount?
  collisions : row.collisions.text.natural? =
    if row.status.text = "UNREADABLE".toList then none else some (outcome.collisionLines colour)
  status : row.status.text = "OK".toList ↔ outcome.writesToErr colour = false
  rules_dash : row.rules.text = ['-'] ↔ row.status.text = "UNREADABLE".toList
  collisions_dash : row.collisions.text = ['-'] ↔ row.status.text = "UNREADABLE".toList

private theorem decimal_ne_noCount (n : Nat) : Text.decimal n ≠ noCount := by
  intro hdash
  have hmem : '-' ∈ Text.decimal n := by
    rw [hdash]
    exact List.mem_singleton_self _
  exact Text.not_mem_decimal (by decide) hmem

section Read

variable {outcome : Outcome} {ruleCount : Nat} (hread : outcome.ruleCount? = some ruleCount)
include hread

private theorem text_rulesCell_of_read : (rulesCell outcome).text = Text.decimal ruleCount := by
  rw [rulesCell, hread]
  rfl

private theorem text_collisionsCell_of_read : (collisionsCell outcome).text = Text.decimal outcome.collisionCount := by
  obtain ⟨path, status⟩ := outcome
  cases status with
  | unreadable message => cases hread
  | passed ruleCount => rfl
  | collisions ruleCount reports =>
    simp only [collisionsCell]
    split
    · rfl
    · rfl

private theorem text_statusCell_of_read : (statusCell outcome.status).text ≠ "UNREADABLE".toList ∧
    ((statusCell outcome.status).text = "OK".toList ↔ outcome.isSuccess = true) := by
  obtain ⟨path, status⟩ := outcome
  cases status with
  | unreadable message => cases hread
  | passed ruleCount =>
    have hword : "OK".toList ≠ "UNREADABLE".toList := by decide
    exact ⟨hword, iff_of_true rfl rfl⟩
  | collisions ruleCount reports =>
    have hword : "FAILED".toList ≠ "UNREADABLE".toList := by decide
    have hfailed : "FAILED".toList ≠ "OK".toList := by decide
    exact ⟨hword, iff_of_false hfailed Bool.false_ne_true⟩

private theorem tells_fileRow_of_read (colour : Bool) : (fileRow outcome).Tells outcome colour := by
  have hrules : (fileRow outcome).rules.text = Text.decimal ruleCount := text_rulesCell_of_read hread
  have hcollisions : (fileRow outcome).collisions.text = Text.decimal (outcome.collisionLines colour) := by
    rw [outcome.collisionLines_eq]
    exact text_collisionsCell_of_read hread
  obtain ⟨hword, hok⟩ := text_statusCell_of_read hread
  refine ⟨rfl, ?_, ?_, ?_, ?_, ?_⟩
  · rw [hrules, hread, Text.natural?_decimal]
  · rw [hcollisions, Text.natural?_decimal]
    exact (if_neg hword).symm
  · rw [outcome.writesToErr_eq, Bool.not_eq_false']
    exact hok
  · rw [hrules]
    exact iff_of_false (decimal_ne_noCount _) hword
  · rw [hcollisions]
    exact iff_of_false (decimal_ne_noCount _) hword

end Read

private theorem tells_fileRow (outcome : Outcome) (colour : Bool) : (fileRow outcome).Tells outcome colour := by
  cases hread : outcome.ruleCount? with
  | some ruleCount => exact tells_fileRow_of_read hread colour
  | none =>
    obtain ⟨message, houtcome⟩ := Outcome.exists_message_of_ruleCount? hread
    have hword : "UNREADABLE".toList ≠ "OK".toList := by decide
    have hwrites : Outcome.writesToErr ⟨outcome.path, .unreadable message⟩ colour ≠ false := by
      rw [Outcome.writesToErr_eq]
      exact nofun
    rw [houtcome]
    exact ⟨rfl, rfl, rfl, iff_of_false hword hwrites, iff_of_true rfl rfl, iff_of_true rfl rfl⟩

private theorem sum_filterMap {α : Type} (number? : α → Option Nat) (things : List α) :
    (things.filterMap number?).sum = (things.map fun thing => (number? thing).getD 0).sum := by
  induction things with
  | nil => rfl
  | cons thing things ih =>
    cases hnumber : number? thing with
    | none => rw [List.filterMap_cons_none hnumber, ih, List.map_cons, List.sum_cons, hnumber, Option.getD_none,
        Nat.zero_add]
    | some number => rw [List.filterMap_cons_some hnumber, List.sum_cons, ih, List.map_cons, List.sum_cons, hnumber,
        Option.getD_some]

variable (outcomes : List Outcome) (colour : Bool)

private theorem sum_rules_rows :
    ((outcomes.map fileRow).filterMap fun row => row.rules.text.natural?).sum = totalRules outcomes := by
  have hcell (outcome : Outcome) : (fileRow outcome).rules.text.natural? = outcome.ruleCount? :=
    (tells_fileRow outcome false).rules
  rw [sum_filterMap, List.map_map, totalRules, ← List.sum_eq_foldr]
  simp only [Function.comp_def, hcell]

private theorem sum_collisions_rows :
    ((outcomes.map fileRow).filterMap fun row => row.collisions.text.natural?).sum = totalCollisions outcomes := by
  have hcell (outcome : Outcome) : (fileRow outcome).collisions.text.natural?.getD 0 = outcome.collisionCount := by
    cases hread : outcome.ruleCount? with
    | some ruleCount =>
      have htext : (fileRow outcome).collisions.text = _ := text_collisionsCell_of_read hread
      rw [htext, Text.natural?_decimal, Option.getD_some]
    | none =>
      obtain ⟨message, houtcome⟩ := Outcome.exists_message_of_ruleCount? hread
      rw [houtcome]
      rfl
  rw [sum_filterMap, List.map_map, totalCollisions, ← List.sum_eq_foldr]
  simp only [Function.comp_def, hcell]

private theorem countP_status_rows :
    (outcomes.map fileRow).countP (fun row => row.status.text ≠ "OK".toList) =
      outcomes.countP (·.writesToErr colour) := by
  rw [List.countP_map]
  refine List.countP_congr fun outcome _ => ?_
  have hstatus := (tells_fileRow outcome colour).status
  rw [Function.comp_apply, decide_eq_true_iff, ne_eq, hstatus, Bool.not_eq_false]

end Summary

/-- The summary has a row for each file, in order, and one for all of them. The totals are those of the rows above, and
of what is written of the files: the collisions are as many as the lines about them, and the files that failed are those
of which something is written to the stream for failures. There are none if and only if all files passed, and so if and
only if the status of the run is 0. -/
theorem summary_agrees_with_report (outcomes : List Outcome) (colour : Bool) :
    ∃ rows total, (Summary.table outcomes).rows = (rows ++ [total]).map Summary.Row.cells ∧
      List.Forall₂ (fun row outcome => row.Tells outcome colour) rows outcomes ∧
      total.rules.text = Text.decimal (rows.filterMap fun row => row.rules.text.natural?).sum ∧
      total.collisions.text = Text.decimal (rows.filterMap fun row => row.collisions.text.natural?).sum ∧
      (rows.filterMap fun row => row.collisions.text.natural?).sum =
        (outcomes.map fun outcome => outcome.collisionLines colour).sum ∧
      ∃ failed, total.status.text = Text.decimal failed ++ " failed".toList ∧
        failed = rows.countP (fun row => row.status.text ≠ "OK".toList) ∧
        failed = outcomes.countP (·.writesToErr colour) ∧
        (failed = 0 ↔ Outcome.allPassed outcomes = true) ∧ (failed = 0 ↔ Run.status outcomes = 0) := by
  have hrows : List.Forall₂ (fun row outcome => row.Tells outcome colour) (outcomes.map Summary.fileRow) outcomes := by
    rw [List.forall₂_map_left_iff]
    exact List.forall₂_same.2 fun outcome _ => Summary.tells_fileRow outcome colour
  have hlines : Summary.totalCollisions outcomes =
      (outcomes.map fun outcome => outcome.collisionLines colour).sum := by
    rw [Summary.totalCollisions, ← List.sum_eq_foldr]
    simp only [Outcome.collisionLines_eq]
  have hfailed : Outcome.failedCount outcomes = outcomes.countP (·.writesToErr colour) := by
    simp only [Outcome.failedCount, Outcome.writesToErr_eq]
  have hnone : Outcome.failedCount outcomes = 0 ↔ Run.status outcomes = 0 := by
    rw [Outcome.failedCount_eq_zero_iff, Outcome.allPassed, List.all_eq_true, Run.status_eq_zero_iff]
  refine ⟨outcomes.map Summary.fileRow, Summary.totalRow outcomes, rfl, hrows, ?_, ?_, ?_, Outcome.failedCount outcomes,
    rfl, ?_, hfailed, Outcome.failedCount_eq_zero_iff outcomes, hnone⟩
  · rw [Summary.sum_rules_rows]
    rfl
  · rw [Summary.sum_collisions_rows]
    rfl
  · rw [Summary.sum_collisions_rows, hlines]
  · rw [hfailed, Summary.countP_status_rows]

end Overrule
