import Mathlib.Data.List.Basic
import Overrule.Proofs.Collision.Nearest
import Overrule.Proofs.Document.Rules

namespace Overrule

/-- A collision among some of the rules is one among all of them, where a nearer rule may be named. -/
theorem exists_collision_of_filter {rules : List Rule} (hrules : Ascending Rule.index rules)
    (keep : Rule → Bool) {collision : Collision} (hcollision : collision ∈ collisions (rules.filter keep)) :
    ∃ whole ∈ collisions rules, whole.overridden = collision.overridden ∧
      whole.overrider.index ≤ collision.overrider.index := by
  obtain ⟨hoverridden, hoverrider, hover⟩ := overrides_of_mem_collisions hcollision
  have heligible (rule : Rule) (hrule : rule ∈ eligible (rules.filter keep)) : rule ∈ eligible rules := by
    obtain ⟨hkept, hanchored⟩ := mem_eligible.1 hrule
    exact mem_eligible.2 ⟨List.mem_of_mem_filter hkept, hanchored⟩
  have hlater := heligible _ hoverrider
  cases hsearch : overrider? (eligible rules) collision.overridden with
  | none => exact absurd hover (List.find?_eq_none.1 hsearch _ hlater)
  | some first =>
    refine ⟨⟨collision.overridden, first⟩, mem_collisions_iff.2 ⟨heligible _ hoverridden, hsearch⟩, rfl, ?_⟩
    obtain ⟨_, _, hleast⟩ := (ascending_eligible hrules).find?_eq_some_iff.1 hsearch
    exact hleast _ hlater hover

namespace Document

def keptLines (keep : Nat → Bool) (text : Text) : List (Text × Nat) :=
  (numberedLines text).filter fun entry => keep entry.2

/-- What is left of a document: the lines that are kept, one below the other. -/
def keepLines (keep : Nat → Bool) (text : Text) : Text :=
  ['\n'].intercalate ((keptLines keep text).map Prod.fst)

/-- The line with a number in what is left of a document had some number in the whole of it. -/
def CameFrom (keep : Nat → Bool) (text : Text) (number original : Nat) : Prop :=
  ∃ place line, number = place + 1 ∧ (keptLines keep text)[place]? = some (line, original)

/-- How many lines are kept up to one with a number, which is the new number of that line if it is kept. -/
def newNumber (keep : Nat → Bool) : Nat → Nat
  | 0 => 0
  | number + 1 => newNumber keep number + if keep (number + 1) then 1 else 0

private theorem newNumber_le_newNumber (keep : Nat → Bool) {first second : Nat} (hle : first ≤ second) :
    newNumber keep first ≤ newNumber keep second := by
  induction hle with
  | refl => exact Nat.le_refl _
  | step _ ih =>
    rw [newNumber]
    omega

private theorem newNumber_lt_newNumber {keep : Nat → Bool} {first second : Nat} (hkept : keep second = true)
    (hlt : first < second) : newNumber keep first < newNumber keep second := by
  cases second with
  | zero => omega
  | succ second =>
    have hle := newNumber_le_newNumber keep (Nat.le_of_lt_succ hlt)
    rw [newNumber, if_pos hkept]
    omega

private theorem newNumber_lt_newNumber_iff {keep : Nat → Bool} {first second : Nat}
    (hkept : keep second = true) : newNumber keep first < newNumber keep second ↔ first < second := by
  constructor
  · intro hnew
    by_contra hnot
    have hback := newNumber_le_newNumber keep (Nat.le_of_not_lt hnot)
    omega
  · exact newNumber_lt_newNumber hkept

private theorem zipIdx_filter_zipIdx (keep : Nat → Bool) (lines : List Text) (start : Nat) :
    ((lines.zipIdx (start + 1)).filter fun entry => keep entry.2).zipIdx (newNumber keep start + 1) =
      ((lines.zipIdx (start + 1)).filter fun entry => keep entry.2).map
        fun entry => (entry, newNumber keep entry.2) := by
  induction lines generalizing start with
  | nil => rfl
  | cons line lines ih =>
    rw [List.zipIdx_cons]
    have hnext := ih (start + 1)
    cases hkept : keep (start + 1) with
    | true =>
      have hnew : newNumber keep (start + 1) = newNumber keep start + 1 := by simp [newNumber, hkept]
      rw [hnew] at hnext
      simp [hkept, hnew, hnext]
    | false =>
      have hnew : newNumber keep (start + 1) = newNumber keep start := by simp [newNumber, hkept]
      rw [hnew] at hnext
      simpa [hkept] using hnext

private theorem zipIdx_keptLines (keep : Nat → Bool) (text : Text) :
    (keptLines keep text).zipIdx 1 = (keptLines keep text).map fun entry => (entry, newNumber keep entry.2) :=
  zipIdx_filter_zipIdx keep text.lines 0

private theorem cameFrom_newNumber {keep : Nat → Bool} {text line : Text} {number : Nat}
    (hline : IsLine text number line) (hkept : keep number = true) :
    CameFrom keep text (newNumber keep number) number := by
  have hmem : (line, number) ∈ keptLines keep text :=
    List.mem_filter.2 ⟨mem_numberedLines_iff.2 hline, hkept⟩
  have hnumbered : ((line, number), newNumber keep number) ∈ (keptLines keep text).zipIdx 1 := by
    rw [zipIdx_keptLines]
    exact List.mem_map.2 ⟨_, hmem, rfl⟩
  obtain ⟨hle, hget⟩ := List.mk_mem_zipIdx_iff_le_and_getElem?_sub.1 hnumbered
  exact ⟨newNumber keep number - 1, line, by omega, hget⟩

private def renumber (keep : Nat → Bool) (rule : Rule) : Rule :=
  { rule with index := newNumber keep rule.index }

private theorem numberedLines_keepLines {keep : Nat → Bool} {text : Text} (hne : keptLines keep text ≠ []) :
    numberedLines (keepLines keep text) =
      (keptLines keep text).map fun entry => (entry.1, newNumber keep entry.2) := by
  have hlines : (keepLines keep text).lines = (keptLines keep text).map Prod.fst := by
    refine List.splitOn_intercalate '\n' ?_ (by simpa using hne)
    intro line hline
    obtain ⟨entry, hentry, rfl⟩ := List.mem_map.1 hline
    obtain ⟨place, _, hget⟩ := mem_numberedLines_iff.1 (List.mem_of_mem_filter hentry)
    exact Text.not_mem_of_mem_splitOn (List.mem_of_getElem? hget)
  rw [numberedLines, hlines, List.zipIdx_map, zipIdx_keptLines, List.map_map]
  rfl

private theorem filter_rules_eq_filterMap_keptLines (keep : Nat → Bool) (text : Text) :
    (rules text).filter (fun rule => keep rule.index) =
      (keptLines keep text).filterMap fun entry => Rule.ofLine? entry.2 entry.1 := by
  rw [rules_eq_filterMap_numberedLines, List.filter_filterMap, keptLines, List.filterMap_filter]
  refine List.filterMap_congr fun entry _ => ?_
  cases hrule : Rule.ofLine? entry.2 entry.1 with
  | none => simp [hrule]
  | some rule =>
    obtain ⟨hindex, _⟩ := Rule.index_line_of_ofLine? hrule
    simp [hrule, Option.filter, hindex]

private theorem rules_keepLines (keep : Nat → Bool) (text : Text) :
    rules (keepLines keep text) =
      ((rules text).filter fun rule => keep rule.index).map (renumber keep) := by
  rw [filter_rules_eq_filterMap_keptLines]
  by_cases hne : keptLines keep text = []
  · -- Nothing at all is left as an empty line, which gives no rule.
    rw [keepLines, hne]
    rfl
  · rw [rules_eq_filterMap_numberedLines, numberedLines_keepLines hne, List.filterMap_map,
      List.map_filterMap]
    refine List.filterMap_congr fun entry _ => ?_
    simp only [Function.comp_apply]
    rw [Rule.ofLine?_renumber entry.2]
    cases hrule : Rule.ofLine? entry.2 entry.1 with
    | none => rfl
    | some rule =>
      obtain ⟨hindex, _⟩ := Rule.index_line_of_ofLine? hrule
      simp [renumber, hindex]

private theorem collisions_keepLines (keep : Nat → Bool) (text : Text) :
    collisions (rules (keepLines keep text)) =
      (collisions ((rules text).filter fun rule => keep rule.index)).map
        (Collision.map (renumber keep)) := by
  rw [rules_keepLines]
  refine collisions_map (fun _ _ => rfl) fun later hlater earlier _ => ?_
  have hkept : keep later.index = true := (List.mem_filter.1 hlater).2
  simp only [Rule.overrides, renumber, newNumber_lt_newNumber_iff hkept]

/-- To take lines out of a document creates no collision. If the rule of a line that is left is reported as
overridden, the rule of that line was so before, and the line reported with it then was not below the one that
is reported now. What is left of a document without collisions has none. -/
theorem deletion_creates_no_collision (text : Text) (keep : Nat → Bool) :
    (∀ report ∈ reported (check (rules (keepLines keep text))),
      ∃ whole ∈ reported (check (rules text)), ∃ number,
        CameFrom keep text report.overridden.index whole.overridden.index ∧
          CameFrom keep text report.overrider.index number ∧ whole.overrider.index ≤ number) ∧
      (check (rules text) = .ok () → check (rules (keepLines keep text)) = .ok ()) := by
  have hreport (report : Collision) (hreport : report ∈ collisions (rules (keepLines keep text))) :
      ∃ whole ∈ collisions (rules text), ∃ number,
        CameFrom keep text report.overridden.index whole.overridden.index ∧
          CameFrom keep text report.overrider.index number ∧ whole.overrider.index ≤ number := by
    rw [collisions_keepLines] at hreport
    obtain ⟨collision, hcollision, rfl⟩ := List.mem_map.1 hreport
    obtain ⟨hoverridden, hoverrider, _⟩ := overrides_of_mem_collisions hcollision
    have hcame (rule : Rule)
        (hrule : rule ∈ eligible ((rules text).filter fun rule => keep rule.index)) :
        CameFrom keep text (newNumber keep rule.index) rule.index := by
      obtain ⟨hmem, hkept⟩ := List.mem_filter.1 (mem_eligible.1 hrule).1
      exact cameFrom_newNumber (mem_rules_iff.1 hmem).isLine hkept
    obtain ⟨whole, hwhole, hsame, hle⟩ := exists_collision_of_filter (ascending_rules text) _ hcollision
    exact ⟨whole, hwhole, _, hsame ▸ hcame _ hoverridden, hcame _ hoverrider, hle⟩
  rw [reported_check, reported_check, check_eq_ok_iff, check_eq_ok_iff]
  refine ⟨hreport, fun hnone => ?_⟩
  rw [List.eq_nil_iff_forall_not_mem]
  intro report hmem
  obtain ⟨whole, hwhole, _⟩ := hreport report hmem
  rw [hnone] at hwhole
  cases hwhole

/-- Where the second of three lines goes, the first one is overridden by the third. Where it has no collision
with the second, it gets none. -/
theorem deletion_of_second_line :
    let colliding : Text := "RewriteRule /a /x [L]\nRewriteRule /ab /y\nRewriteRule /ac /z".toList
    let passing : Text := "RewriteRule /a /x [L]\nRewriteRule /b /y\nRewriteRule /c /z".toList
    let keep : Nat → Bool := (· != 2)
    (∃ report ∈ reported (check (rules (keepLines keep colliding))), report.overrider.index = 2 ∧
      ∃ whole ∈ reported (check (rules colliding)), ∃ number,
        CameFrom keep colliding report.overridden.index whole.overridden.index ∧
          CameFrom keep colliding report.overrider.index number ∧ whole.overrider.index ≤ number) ∧
      check (rules passing) = .ok () ∧ check (rules (keepLines keep passing)) = .ok () := by
  intro colliding passing keep
  have hlast : 2 ∈ (reported (check (rules (keepLines keep colliding)))).map (·.overrider.index) := by
    decide
  obtain ⟨report, hreport, hindex⟩ := List.mem_map.1 hlast
  have hpassing : check (rules passing) = .ok () := rfl
  exact ⟨⟨report, hreport, hindex, (deletion_creates_no_collision colliding keep).1 report hreport⟩,
    hpassing, (deletion_creates_no_collision passing keep).2 hpassing⟩

end Document
end Overrule
