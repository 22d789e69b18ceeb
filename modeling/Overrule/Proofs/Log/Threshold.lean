import Mathlib.Data.List.Basic
import Overrule.Log.Line
import Overrule.Validation

namespace Overrule

theorem Threshold.rank_quieter (a b : Threshold) : (quieter a b).rank = min a.rank b.rank := by
  rw [quieter]
  split
  · rename_i hle
    exact (Nat.min_eq_left hle).symm
  · rename_i hgt
    exact (Nat.min_eq_right (Nat.le_of_not_le hgt)).symm

namespace Filter

def ownsTarget (target : Text) : Bool := ownTargets.any (·.isPrefixOf target)

/-- The threshold that a filter made for the program's own events sets for events from a target. -/
def thresholdFor (threshold : Threshold) (target : Text) : Threshold :=
  if ownsTarget target then threshold else .quieter (.upTo .warn) threshold

theorem rank_thresholdFor_le {quiet loud : Threshold} (hle : quiet.rank ≤ loud.rank) (target : Text) :
    (thresholdFor quiet target).rank ≤ (thresholdFor loud target).rank := by
  rw [thresholdFor, thresholdFor]
  split
  · exact hle
  · rw [Threshold.rank_quieter, Threshold.rank_quieter]
    omega

private def ownClause (threshold : Threshold) (target : Text) : Clause := ⟨{ target := some target }, threshold⟩

private theorem exists_foldl_narrower {threshold : Threshold} {clauses : List Clause}
    (hclauses : ∀ clause ∈ clauses, clause.threshold = threshold) {found : Clause}
    (hfound : found.threshold = threshold) :
    ∃ clause, clauses.foldl narrower (some found) = some clause ∧ clause.threshold = threshold := by
  induction clauses generalizing found with
  | nil => exact ⟨found, rfl, hfound⟩
  | cons next clauses ih =>
    obtain ⟨hnext, hclauses⟩ := List.forall_mem_cons.1 hclauses
    rw [List.foldl_cons, narrower]
    split
    · exact ih hclauses hnext
    · exact ih hclauses hfound

private theorem threshold_upTo (threshold : Threshold) {covers : Subject → Bool} (hall : covers {} = true) :
    (upTo threshold).threshold covers =
      if ownTargets.any fun target => covers { target := some target } then threshold
      else .quieter (.upTo .warn) threshold := by
  have hconcerned : (upTo threshold).clauses.filter (fun clause => clause.subject.isGeneral && covers clause.subject) =
      ⟨{}, .quieter (.upTo .warn) threshold⟩ ::
        (ownTargets.filter fun target => covers { target := some target }).map (ownClause threshold) := by
    rw [upTo, List.filter_cons_of_pos (by simpa [Subject.isGeneral] using hall), List.filter_map]
    rfl
  rw [Filter.threshold, hconcerned]
  cases hown : ownTargets.filter fun target => covers { target := some target } with
  | nil =>
    have hnone : (ownTargets.any fun target => covers { target := some target }) = false := by
      simpa [List.filter_eq_nil_iff] using hown
    simp [hnone, narrower]
  | cons target targets =>
    have hsome : (ownTargets.any fun target => covers { target := some target }) = true := by
      have hmem : target ∈ ownTargets.filter fun target => covers { target := some target } := by simp [hown]
      exact List.any_eq_true.2 ⟨target, List.mem_filter.1 hmem⟩
    have hrest : ∀ clause ∈ targets.map (ownClause threshold), clause.threshold = threshold := by
      intro clause hclause
      obtain ⟨_, _, rfl⟩ := List.mem_map.1 hclause
      rfl
    have htarget : (ownClause threshold target).threshold = threshold := rfl
    obtain ⟨clause, hclause, hthreshold⟩ := exists_foldl_narrower hrest htarget
    have hnarrows : (ownClause threshold target).subject.narrows {} = true := rfl
    simp [hsome, narrower, hnarrows, hclause, hthreshold]

private theorem eventThreshold_upTo (threshold : Threshold) (target : Text) (fields : List Text) :
    (upTo threshold).eventThreshold target fields = thresholdFor threshold target := by
  rw [eventThreshold, threshold_upTo threshold rfl]
  simp [thresholdFor, ownsTarget, Subject.coversTarget, Subject.coversFields]

private theorem inScope_upTo (threshold : Threshold) : inScope (upTo threshold).clauses = [] := rfl

private theorem admits_upTo (threshold : Threshold) (entry : LogEntry) :
    (upTo threshold).admits entry = (thresholdFor threshold entry.event.target).admits entry.event.level := by
  have hscope (path : Text) (level : Level) : ((upTo threshold).scopeThreshold path).admits level = false := by
    rw [scopeThreshold, inScope_upTo]
    cases level <;> rfl
  simp only [admits, eventThreshold_upTo, hscope]
  cases entry.validating <;> simp

private theorem showsContext_upTo (threshold : Threshold) :
    (upTo threshold).showsContext = threshold.admits LogEntry.contextLevel := by
  have hscoped : ((upTo threshold).clauses.any fun clause =>
      clause.subject.isScoped && clause.subject.coversContext) = false := rfl
  have hown : (ownTargets.any fun target =>
      Subject.coversTarget { target := some target } LogEntry.contextTarget) = true := by decide
  rw [showsContext, hscoped, threshold_upTo threshold rfl, hown]
  simp

end Filter

def Event.Within : Event → Prop
  | .validationComplete .. | .runComplete .. | .notice .. => False
  | _ => True

theorem Validation.within_of_mem_events {path : Path} {content : Except SystemError Bytes} {event : Event}
    (hevent : event ∈ events path content) : event.Within := by
  cases content with
  | error cause => cases hevent
  | ok content =>
    simp only [events, extractionEvents, checkEvents, List.mem_cons, List.mem_append, List.mem_map] at hevent
    rcases hevent with ((rfl | ⟨_, _, rfl⟩ | rfl | hnone) | rfl | ⟨_, _, rfl⟩) | hlast
    · trivial
    · trivial
    · trivial
    · cases hnone
    · trivial
    · trivial
    · split at hlast
      · obtain rfl := List.mem_singleton.1 hlast
        trivial
      · cases hlast

/-- An entry from one of the parts of the program that is no graver than information. -/
structure LogEntry.Own (entry : LogEntry) : Prop where
  target : Filter.ownsTarget entry.event.target = true
  level : Level.info.rank ≤ entry.event.level.rank

private theorem LogEntry.own_of_within {event : Event} (hevent : event.Within) (validating : Option Path) :
    Own ⟨event, validating⟩ := by
  cases event with
  | validationComplete | runComplete | notice => cases hevent
  | fileRead | incompleteDirective | rulesExtracted | collisionCheck | collision | noCollisions =>
    exact ⟨rfl, Nat.le_of_ble_eq_true rfl⟩

theorem Validation.own_of_mem_entries {path : Path} {content : Except SystemError Bytes} {entry : LogEntry}
    (hentry : entry ∈ entries path content) : entry.Own := by
  rw [entries, List.mem_append, List.mem_map, List.mem_singleton] at hentry
  rcases hentry with ⟨event, hevent, rfl⟩ | rfl
  · exact LogEntry.own_of_within (within_of_mem_events hevent) _
  · exact ⟨rfl, Nat.le_refl _⟩

/-- An entry that has no context, or comes from one of the parts of the program and is no graver than information, is
shown as a whole if it is shown: its context is let through as soon as its level is. -/
theorem LogEntry.shown?_upTo {entry : LogEntry} (hentry : entry.validating = none ∨ entry.Own)
    (threshold : Threshold) : entry.shown? (.upTo threshold) =
      if (Filter.thresholdFor threshold entry.event.target).admits entry.event.level then some entry else none := by
  rw [shown?, Filter.admits_upTo]
  split
  · rename_i hadmits
    obtain hnone | hown := hentry
    · simp [← hnone]
    · have hcontext : (Filter.upTo threshold).showsContext = true := by
        rw [Filter.thresholdFor, if_pos hown.target] at hadmits
        rw [Filter.showsContext_upTo]
        simp only [Threshold.admits, decide_eq_true_eq] at hadmits ⊢
        exact Nat.le_trans hown.level hadmits
      simp [hcontext]
  · rfl

def LogConfig.upTo (config : LogConfig) : Logger := ⟨config, .upTo config.threshold⟩

theorem LogConfig.logger_eq_ok {config : LogConfig} {environment : Option Text}
    (hchosen : config.usesEnvironment = false ∨ environment = none) :
    config.logger environment = .ok config.upTo := by
  have hnone : (if config.usesEnvironment then environment else none) = none := by
    rcases hchosen with hunused | hunset
    · simp [hunused]
    · simp [hunset]
  rw [LogConfig.logger, LogConfig.filter, hnone]
  rfl

theorem LogConfig.logger_eq_upTo {config : LogConfig} {environment : Option Text} {logger : Logger}
    (hchosen : config.usesEnvironment = false ∨ environment = none)
    (hlogger : config.logger environment = .ok logger) : logger = config.upTo := by
  rw [logger_eq_ok hchosen] at hlogger
  exact (Except.ok.inj hlogger).symm

namespace Logger

theorem line?_upTo_of_own (config : LogConfig) (stamp : Text) {entry : LogEntry} (hown : entry.Own) :
    config.upTo.line? stamp entry =
      if config.threshold.admits entry.event.level then some (entry.line config stamp) else none := by
  rw [line?, LogConfig.upTo, LogEntry.shown?_upTo (.inr hown), Filter.thresholdFor, if_pos hown.target]
  split <;> rfl

theorem lines_upTo_entries (config : LogConfig) (stamp : Text) (path : Path) (content : Except SystemError Bytes) :
    config.upTo.lines stamp (Validation.entries path content) =
      ((Validation.entries path content).filter fun entry => config.threshold.admits entry.event.level).map
        (·.line config stamp) := by
  rw [lines, ← List.filterMap_eq_map, List.filterMap_filter]
  refine List.filterMap_congr fun entry hentry => ?_
  exact line?_upTo_of_own config stamp (Validation.own_of_mem_entries hentry)

/-- How a run ended is not told at any threshold: its target is none of those that are named, and for others
information is too much. -/
theorem line?_upTo_runComplete (config : LogConfig) (stamp : Text) (fileCount failed duration : Nat) :
    config.upTo.line? stamp ⟨.runComplete fileCount failed duration, none⟩ = none := by
  have hquiet : (Threshold.quieter (.upTo .warn) config.threshold).admits .info = false := by
    cases config.threshold with
    | off => decide
    | upTo level => cases level <;> decide
  have hthreshold : Filter.thresholdFor config.threshold (Event.runComplete fileCount failed duration).target =
      .quieter (.upTo .warn) config.threshold := rfl
  have hadmits : config.upTo.filter.admits ⟨.runComplete fileCount failed duration, none⟩ = false := by
    rw [LogConfig.upTo, Filter.admits_upTo, hthreshold]
    exact hquiet
  rw [line?, LogEntry.shown?, hadmits]
  rfl

end Logger
end Overrule
