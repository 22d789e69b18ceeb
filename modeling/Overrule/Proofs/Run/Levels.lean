import Overrule.Proofs.Log.Threshold
import Overrule.Proofs.Run.Record

namespace Overrule

open Recorded Workbench

/-- Whether an entry is too detailed for a log with a threshold: beyond the threshold, or beyond warnings too if it
comes from none of the parts of the program. -/
def LogEntry.exceeds (entry : LogEntry) (threshold : Threshold) : Bool :=
  if Filter.ownTargets.any (·.isPrefixOf entry.event.target) then threshold.rank < entry.event.level.rank
  else min Level.warn.rank threshold.rank < entry.event.level.rank

private theorem LogEntry.admits_thresholdFor (entry : LogEntry) (threshold : Threshold) :
    (Filter.thresholdFor threshold entry.event.target).admits entry.event.level = !entry.exceeds threshold := by
  rw [exceeds, Filter.thresholdFor, Filter.ownsTarget]
  split
  · rw [Threshold.admits, ← decide_not]
    exact decide_eq_decide.2 Nat.not_lt.symm
  · rw [Threshold.admits, Threshold.rank_quieter, ← decide_not]
    exact decide_eq_decide.2 Nat.not_lt.symm

private theorem LogEntry.exceeds_of_rank_le {entry : LogEntry} {quiet loud : Threshold} (hle : quiet.rank ≤ loud.rank)
    (hloud : entry.exceeds loud = true) : entry.exceeds quiet = true := by
  cases hquiet : entry.exceeds quiet with
  | true => rfl
  | false =>
    have hadmits : (Filter.thresholdFor quiet entry.event.target).admits entry.event.level = true := by
      rw [entry.admits_thresholdFor, hquiet]
      rfl
    have hlouder := Threshold.admits_of_rank_le (Filter.rank_thresholdFor_le hle entry.event.target) hadmits
    rw [entry.admits_thresholdFor, hloud] at hlouder
    cases hlouder

/-- What a logger shows of some entries. -/
def Logger.shown (logger : Logger) (entries : List LogEntry) : List LogEntry :=
  entries.filterMap (·.shown? logger.filter)

private theorem Logger.lines_eq_map_shown (logger : Logger) (stamp : Text) (entries : List LogEntry) :
    logger.lines stamp entries = (logger.shown entries).map (·.line logger.config stamp) :=
  List.map_filterMap.symm

/-- The logger of a configuration with another threshold. -/
def LogConfig.loggerFor (config : LogConfig) (threshold : Threshold) : Logger := upTo { config with threshold }

section Shown

variable (config : LogConfig) {entries : List LogEntry}
  (hentries : ∀ entry ∈ entries, entry.validating = none ∨ entry.Own)

include hentries

private theorem shown_loggerFor (threshold : Threshold) :
    (config.loggerFor threshold).shown entries = entries.filter fun entry => !entry.exceeds threshold := by
  rw [Logger.shown, ← List.filterMap_eq_filter]
  refine List.filterMap_congr fun entry hentry => ?_
  rw [LogConfig.loggerFor, LogConfig.upTo, LogEntry.shown?_upTo (hentries entry hentry), entry.admits_thresholdFor]
  rfl

private theorem shown_quiet_eq_filter {quiet loud : Threshold} (hle : quiet.rank ≤ loud.rank) :
    (config.loggerFor quiet).shown entries =
      ((config.loggerFor loud).shown entries).filter fun entry => !entry.exceeds quiet := by
  rw [shown_loggerFor config hentries, shown_loggerFor config hentries, List.filter_filter]
  refine List.filter_congr fun entry _ => ?_
  cases hloud : entry.exceeds loud with
  | true => simp [LogEntry.exceeds_of_rank_le hle hloud]
  | false => simp

end Shown

/-- All there is to tell: some events first, and then files of a tree. -/
def FileTree.told (tree : FileTree) (before : List Event) (paths : List Path) : List LogEntry :=
  before.map (⟨·, none⟩) ++ paths.flatMap fun path => Validation.entries path (tree.read path)

private theorem FileTree.none_or_own_of_mem_told {tree : FileTree} {before : List Event} {paths : List Path}
    {entry : LogEntry} (hentry : entry ∈ tree.told before paths) : entry.validating = none ∨ entry.Own := by
  rcases List.mem_append.1 hentry with hbefore | hfile
  · obtain ⟨event, _, rfl⟩ := List.mem_map.1 hbefore
    exact .inl rfl
  · obtain ⟨path, _, hentry⟩ := List.mem_flatMap.1 hfile
    exact .inr (Validation.own_of_mem_entries hentry)

namespace Recorded

private theorem Follows.keeps {α : Type} {step : StateM Recorded α} {plain : StateM Workbench α}
    (hfollows : Follows step plain) {kept : Workbench → Prop} (hkeeps : Keeps kept plain) {record : Recorded}
    (hkept : kept record.bench) :
    kept (step.run record).2.bench :=
  hkeeps.of_run_eq (hfollows record).symm hkept

private theorem reads_validateAll {tree : FileTree} {target : LogTarget} (logger : Logger) {paths : List Path}
    (hpaths : ∀ path ∈ paths, ∀ place, target = .file place → tree.locate path ≠ .ok place)
    {record : Recorded} (h : OnlyLogged tree target record.bench) :
    ((host.validateAll logger paths).run record).2.reads =
      record.reads ++ paths.map fun path => ⟨path, tree.read path⟩ := by
  induction paths generalizing record with
  | nil => exact (List.append_nil _).symm
  | cons path paths ih =>
    obtain ⟨hpath, hpaths⟩ := List.forall_mem_cons.1 hpaths
    have hafter : OnlyLogged tree target ((host.validate logger path).run record).2.bench :=
      (related_follows.validate logger path).keeps (keeps_validate (keeps_onlyLogged_log tree target) logger path) h
    have hfirst : ((host.validate logger path).run record).2.reads = record.reads ++ [⟨path, tree.read path⟩] := by
      rw [← h.read_eq hpath]
      exact (noteAll_run logger _ { record with reads := record.reads ++ [⟨path, record.bench.files.read path⟩] }).1
    have hothers := ih hpaths hafter
    rw [hfirst, List.append_assoc] at hothers
    exact hothers

/-- What is logged on a workbench when some events are told and then files are validated. -/
def logOf (bench : Workbench) (logger : Logger) (before : List Event) (paths : List Path) : List Text :=
  let step : StateM Recorded (List Outcome) := do
    host.noteAll logger (before.map (⟨·, none⟩))
    host.validateAll logger paths
  (step.run (start bench)).2.logged

/-- Unless the log is among the files itself, all that there is to tell is logged as far as the logger shows it. -/
theorem logOf_eq_map_shown (logger : Logger) (before : List Event) {paths : List Path} {bench : Workbench}
    (hpaths : ∀ path ∈ paths, ∀ place, bench.logTarget = .file place → bench.files.locate path ≠ .ok place) :
    logOf bench logger before paths =
      (logger.shown (bench.files.told before paths)).map fun entry =>
        entry.line logger.config bench.stamp ++ ['\n'] := by
  let earlier : List LogEntry := before.map (⟨·, none⟩)
  let noted := ((host.noteAll logger earlier).run (start bench)).2
  obtain ⟨_, hlogged, hstamp⟩ := noteAll_run logger earlier (start bench)
  have honly : OnlyLogged bench.files bench.logTarget noted.bench :=
    (related_follows.noteAll logger earlier).keeps
      (keeps_noteAll (keeps_onlyLogged_log bench.files bench.logTarget) logger earlier) (.refl bench)
  obtain ⟨reads, htold, _⟩ := tells_validateAll logger paths noted
  have hread : reads = paths.map fun path => ⟨path, bench.files.read path⟩ :=
    List.append_cancel_left (htold.reads_eq.symm.trans (reads_validateAll logger hpaths honly))
  have hlines : logOf bench logger before paths =
      (logger.lines bench.stamp (bench.files.told before paths)).map (· ++ ['\n']) := by
    refine htold.logged_eq.trans ?_
    rw [hlogged, hstamp, hread]
    simp [Logger.lines, start, earlier, FileTree.told, FileReading.entries, List.flatMap_map, List.filterMap_flatMap]
  rw [hlines, Logger.lines_eq_map_shown, List.map_map]
  rfl

end Recorded

/-- Raising the threshold of a log, where the environment does not decide, never hides or changes an entry. Of all that
there is to tell, a quieter log shows what a louder one does, context included, without what is too detailed for it. And
what a log shows is what a run writes to it, unless it is among the files itself and so changes while they are read. -/
theorem louder_log_shows_more {config : LogConfig} (hchosen : config.usesEnvironment = false)
    {quiet loud : Threshold} (hle : quiet.rank ≤ loud.rank) (environment : Option Text) (before : List Event)
    (paths : List Path) (bench : Workbench) :
    let told := bench.files.told before paths
    (∀ threshold, LogConfig.logger { config with threshold } environment = .ok (config.loggerFor threshold)) ∧
      ((config.loggerFor quiet).shown told).Sublist ((config.loggerFor loud).shown told) ∧
      (config.loggerFor quiet).shown told =
        ((config.loggerFor loud).shown told).filter (fun entry => !entry.exceeds quiet) ∧
      ∀ threshold,
        (∀ path ∈ paths, ∀ place, bench.logTarget = .file place → bench.files.locate path ≠ .ok place) →
        logOf bench (config.loggerFor threshold) before paths =
          ((config.loggerFor threshold).shown told).map fun entry => entry.line config bench.stamp ++ ['\n'] := by
  intro told
  have hquiet : (config.loggerFor quiet).shown told =
      ((config.loggerFor loud).shown told).filter fun entry => !entry.exceeds quiet :=
    shown_quiet_eq_filter config (fun _ => FileTree.none_or_own_of_mem_told) hle
  refine ⟨fun threshold => ?_, ?_, hquiet, fun threshold hpaths => ?_⟩
  · exact LogConfig.logger_eq_ok (.inl hchosen)
  · rw [hquiet]
    exact List.filter_sublist
  · exact logOf_eq_map_shown (config.loggerFor threshold) before hpaths

/-- A file with a directive that gives no rule, behind three events of other parts and other programs. -/
theorem information_beside_trace :
    let config : LogConfig := { usesEnvironment := false, colour := false }
    let before : List Event := [.notice "other".toList .warn "outside warn".toList,
      .notice "other".toList .info "outside info".toList,
      .notice "rewrite_cli::probe".toList .trace "inside trace".toList [⟨"step".toList, .number 7⟩]]
    let bench : Workbench := .ofFiles ⟨[([[0x61]], .file (Utf8.encode "RewriteRule \n".toList))], []⟩ []
    config.usesEnvironment = false ∧ Threshold.rank (.upTo .info) ≤ Threshold.rank (.upTo .trace) ∧
      logOf bench (config.loggerFor (.upTo .info)) before [[0x61]] =
        [" WARN outside warn\n".toList, " INFO validation complete path=a passed=true\n".toList] ∧
      logOf bench (config.loggerFor (.upTo .trace)) before [[0x61]] =
        [" WARN outside warn\n".toList, "TRACE inside trace step=7\n".toList,
          "DEBUG validate\x7bpath=a\x7d: read config file path=a bytes=13\n".toList,
          "TRACE validate\x7bpath=a\x7d: directive without source or destination line=1\n".toList,
          "DEBUG validate\x7bpath=a\x7d: extracted rewrite rules line_count=2 rule_count=0\n".toList,
          "DEBUG validate\x7bpath=a\x7d: checking rule collisions rule_count=0 eligible_count=0\n".toList,
          "DEBUG validate\x7bpath=a\x7d: no collisions rule_count=0\n".toList,
          " INFO validation complete path=a passed=true\n".toList] := by
  intro config before bench
  have hchosen : config.usesEnvironment = false := rfl
  have hle : Threshold.rank (.upTo .info) ≤ Threshold.rank (.upTo .trace) := by decide
  have hpaths : ∀ path ∈ ([[0x61]] : List Path), ∀ place, bench.logTarget = .file place →
      bench.files.locate path ≠ .ok place := fun _ _ _ htarget => nomatch htarget
  obtain ⟨_, _, _, hlogged⟩ := louder_log_shows_more hchosen hle none before [[0x61]] bench
  refine ⟨hchosen, hle, ?_, ?_⟩
  · rw [hlogged _ hpaths]
    decide +kernel
  · rw [hlogged _ hpaths]
    decide +kernel

/-- A file to which the log is written is validated twice. What was logged about it the first time is in it when it is
read again, and that is more at the higher level: what the quieter log says of the second time is nowhere in the louder
one. -/
theorem validated_log_changes_entries :
    let path : Path := [0x61]
    let config : LogConfig := { usesEnvironment := false, colour := false, file := some path }
    let bench : Workbench := .ofFiles ⟨[([path], .file (Utf8.encode "RewriteRule \n".toList))], []⟩ []
    let opened := ((openLog path).run bench).2
    let logged (level : Level) := logOf opened (config.loggerFor (.upTo level)) [] [path, path]
    (∀ level, (Workbench.host.openLogger { config with threshold := .upTo level } none none).run bench =
        (.ok (config.loggerFor (.upTo level)), opened)) ∧
      Level.debug.rank ≤ Level.trace.rank ∧ ¬ (logged .debug).Sublist (logged .trace) := by
  intro path config bench opened logged
  let second : Text := "DEBUG validate\x7bpath=a\x7d: read config file path=a bytes=319\n".toList
  have hquiet : second ∈ logged .debug := by decide +kernel
  have hloud : second ∉ logged .trace := by decide +kernel
  refine ⟨fun level => ?_, by decide, fun hall => hloud (hall.subset hquiet)⟩
  rfl

end Overrule
