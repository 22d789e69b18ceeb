import Overrule.Proofs.Report.Summary
import Overrule.Proofs.Validation.Prescription

namespace Overrule

def BeginsDirective (line : Text) : Prop := ∃ c rest, line = keyword ++ c :: rest ∧ isBlank c = true

private theorem LineReading.beginsDirective_iff (number : Nat) (line : Text) :
    BeginsDirective line ↔ ofLine number line = .incomplete ∨ ∃ rule, Rule.ofLine? number line = some rule := by
  have hbegins : BeginsDirective line ↔ ∃ rest, arguments? line = some rest := by
    constructor
    · rintro ⟨c, rest, rfl, hblank⟩
      exact ⟨c :: rest, arguments?_eq_some_iff.2 ⟨rfl, c, rfl, hblank⟩⟩
    · rintro ⟨rest, harguments⟩
      obtain ⟨rfl, c, hhead, hblank⟩ := arguments?_eq_some_iff.1 harguments
      obtain ⟨behind, rfl⟩ := List.head?_eq_some_iff.1 hhead
      exact ⟨c, behind, rfl, hblank⟩
  rw [hbegins, Rule.ofLine?, ofLine]
  cases arguments? line with
  | none => simp [rule?]
  | some rest =>
    dsimp only
    split <;> simp [rule?]

namespace Document

private theorem mem_incompleteLines_iff {text : Text} {number : Nat} :
    number ∈ incompleteLines text ↔
      ∃ line, IsLine text number line ∧ LineReading.ofLine number line = .incomplete := by
  rw [incompleteLines, readings, List.filterMap_map, List.mem_filterMap]
  constructor
  · rintro ⟨⟨line, index⟩, hline, hfound⟩
    obtain ⟨hincomplete, hindex⟩ := Option.ite_none_right_eq_some.1 hfound
    obtain rfl := Option.some.inj hindex
    exact ⟨line, mem_numberedLines_iff.1 hline, hincomplete⟩
  · rintro ⟨line, hline, hincomplete⟩
    exact ⟨(line, number), mem_numberedLines_iff.2 hline, if_pos hincomplete⟩

private theorem ascending_incompleteLines (text : Text) : (incompleteLines text).Pairwise (· < ·) := by
  have hascending : Ascending id (incompleteLines text) := by
    rw [incompleteLines, readings, List.filterMap_map]
    refine (ascending_numberedLines text).filterMap fun entry number hfound => ?_
    exact (Option.some.inj (Option.ite_none_right_eq_some.1 hfound).2).symm
  exact hascending

private theorem mem_incompleteLines_or_mem_rules_iff (text : Text) (number : Nat) :
    number ∈ incompleteLines text ∨ number ∈ (rules text).map Rule.index ↔
      ∃ line, IsLine text number line ∧ BeginsDirective line := by
  simp only [mem_incompleteLines_iff, mem_map_index_rules_iff, HasRule, LineReading.beginsDirective_iff number]
  constructor
  · rintro (⟨line, hline, hincomplete⟩ | ⟨rule, line, hline, hrule⟩)
    · exact ⟨line, hline, .inl hincomplete⟩
    · exact ⟨line, hline, .inr ⟨rule, hrule⟩⟩
  · rintro ⟨line, hline, hincomplete | ⟨rule, hrule⟩⟩
    · exact .inl ⟨line, hline, hincomplete⟩
    · exact .inr ⟨rule, line, hline, hrule⟩

private theorem not_mem_rules_of_mem_incompleteLines {text : Text} {number : Nat}
    (hnumber : number ∈ incompleteLines text) : number ∉ (rules text).map Rule.index := by
  intro hmem
  obtain ⟨line, hline, hincomplete⟩ := mem_incompleteLines_iff.1 hnumber
  obtain ⟨rule, other, hother, hrule⟩ := mem_map_index_rules_iff.1 hmem
  obtain rfl := hline.unique hother
  rw [Rule.ofLine?, hincomplete] at hrule
  cases hrule

end Document

namespace Event

/-- The number of the line that an event calls a directive without source or destination. -/
def incompleteLine? : Event → Option Nat
  | .incompleteDirective line => some line
  | _ => none

/-- The numbers of lines and of rules, from an event about a document that was searched for rules. -/
def extraction? : Event → Option (Nat × Nat)
  | .rulesExtracted lineCount ruleCount => some (lineCount, ruleCount)
  | _ => none

/-- The numbers of rules and of those that take part, from an event about the beginning of the search for collisions. -/
def checkStart? : Event → Option (Nat × Nat)
  | .collisionCheck ruleCount eligibleCount => some (ruleCount, eligibleCount)
  | _ => none

def collisionPair? : Event → Option (Nat × Nat)
  | .collision overridden overrider => some (overridden, overrider)
  | _ => none

end Event

/-- Events account for a file of some content and the outcome of its validation. -/
structure Accounted (content : Bytes) (outcome : Outcome) (told : List Event) : Prop where
  incomplete_ascending : (told.filterMap Event.incompleteLine?).Pairwise (· < ·)
  rules_ascending : ((rulesOfBytes content).map Rule.index).Pairwise (· < ·)
  incomplete_no_rule : ∀ number ∈ told.filterMap Event.incompleteLine?,
    number ∉ (rulesOfBytes content).map Rule.index
  every_directive : ∀ number, number ∈ told.filterMap Event.incompleteLine? ∨
    number ∈ (rulesOfBytes content).map Rule.index ↔
      ∃ line, Document.IsLine (Utf8.decode content) number line ∧ BeginsDirective line
  rule_count : outcome.ruleCount? = some (rulesOfBytes content).length
  extraction : told.filterMap Event.extraction? =
    [((Utf8.decode content).count '\n' + 1, (rulesOfBytes content).length)]
  check_start : ∃ eligibleCount ≤ (rulesOfBytes content).length,
    told.filterMap Event.checkStart? = [((rulesOfBytes content).length, eligibleCount)]
  every_collision : told.filterMap Event.collisionPair? =
    outcome.reports.map fun report => (report.overridden.index, report.overrider.index)
  passed_iff : ∀ ruleCount, .noCollisions ruleCount ∈ told ↔ outcome.status = .passed ruleCount

namespace Validation

/-- What is told of a file that was read, in order: the file, its incomplete directives, what was found, the beginning
of the search, the collisions, and whether there were none and the file passed. -/
theorem map_event_entries (path : Path) (content : Bytes) :
    (entries path (.ok content)).map LogEntry.event =
      [.fileRead path content.length] ++ (Document.incompleteLines (Utf8.decode content)).map .incompleteDirective ++
        [.rulesExtracted (Utf8.decode content).lines.length (rulesOfBytes content).length,
          .collisionCheck (rulesOfBytes content).length (eligible (rulesOfBytes content)).length] ++
        (collisions (rulesOfBytes content)).map
          (fun report => .collision report.overridden.index report.overrider.index) ++
        (if collisions (rulesOfBytes content) = [] then [.noCollisions (rulesOfBytes content).length] else []) ++
        [.validationComplete path (outcome path (.ok content)).isSuccess] := by
  rw [entries, List.map_append, List.map_map, Function.comp_def, List.map_id', rulesOfBytes]
  simp only [events, extractionEvents, checkEvents, check]
  by_cases hnone : collisions (Document.rules (Utf8.decode content)) = []
  · simp [hnone]
  · simp [hnone]

private theorem reports_outcome_ok (path : Path) (content : Bytes) :
    (outcome path (.ok content)).reports = collisions (rulesOfBytes content) := by
  rw [outcome_ok, Outcome.reports]
  split_ifs with hnone
  · exact hnone.symm
  · rfl

private theorem ruleCount?_outcome_ok (path : Path) (content : Bytes) :
    (outcome path (.ok content)).ruleCount? = some (rulesOfBytes content).length := by
  rw [outcome_ok, Outcome.ruleCount?]
  split_ifs <;> rfl

section Projections

variable (path : Path) (content : Bytes)

private theorem filterMap_incompleteLine?_entries :
    ((entries path (.ok content)).map LogEntry.event).filterMap Event.incompleteLine? =
      Document.incompleteLines (Utf8.decode content) := by
  rw [map_event_entries]
  split_ifs <;> simp [List.filterMap_cons, Event.incompleteLine?, Function.comp_def]

private theorem filterMap_extraction?_entries :
    ((entries path (.ok content)).map LogEntry.event).filterMap Event.extraction? =
      [((Utf8.decode content).lines.length, (rulesOfBytes content).length)] := by
  rw [map_event_entries]
  split_ifs <;> simp [List.filterMap_cons, Event.extraction?, Function.comp_def]

private theorem filterMap_checkStart?_entries :
    ((entries path (.ok content)).map LogEntry.event).filterMap Event.checkStart? =
      [((rulesOfBytes content).length, (eligible (rulesOfBytes content)).length)] := by
  rw [map_event_entries]
  split_ifs <;> simp [List.filterMap_cons, Event.checkStart?, Function.comp_def]

private theorem filterMap_collisionPair?_entries :
    ((entries path (.ok content)).map LogEntry.event).filterMap Event.collisionPair? =
      (collisions (rulesOfBytes content)).map fun report => (report.overridden.index, report.overrider.index) := by
  rw [map_event_entries]
  split_ifs <;> simp [List.filterMap_cons, Event.collisionPair?, Function.comp_def]

private theorem noCollisions_mem_entries_iff (ruleCount : Nat) :
    .noCollisions ruleCount ∈ (entries path (.ok content)).map LogEntry.event ↔
      (outcome path (.ok content)).status = .passed ruleCount := by
  rw [map_event_entries, outcome_ok]
  split_ifs <;> simp [eq_comm]

end Projections

/-- The events from the validation of a file that was read account for every directive and every collision in it. -/
theorem trace_accounts_for_file (path : Path) (content : Bytes) :
    Accounted content (outcome path (.ok content)) ((entries path (.ok content)).map LogEntry.event) where
  incomplete_ascending := by
    rw [filterMap_incompleteLine?_entries]
    exact Document.ascending_incompleteLines _
  rules_ascending := List.pairwise_map.2 (Document.ascending_rules _)
  incomplete_no_rule := by
    rw [filterMap_incompleteLine?_entries]
    exact fun _ hnumber => Document.not_mem_rules_of_mem_incompleteLines hnumber
  every_directive := by
    rw [filterMap_incompleteLine?_entries]
    exact Document.mem_incompleteLines_or_mem_rules_iff _
  rule_count := ruleCount?_outcome_ok path content
  extraction := by
    rw [filterMap_extraction?_entries, Text.lines, Text.length_splitOn]
  check_start := by
    have hle : (eligible (rulesOfBytes content)).length ≤ (rulesOfBytes content).length := List.length_filter_le _ _
    exact ⟨_, hle, filterMap_checkStart?_entries path content⟩
  every_collision := by
    rw [filterMap_collisionPair?_entries, reports_outcome_ok]
  passed_iff := noCollisions_mem_entries_iff path content

end Validation
end Overrule
