import Overrule.Proofs.Log.Threshold
import Overrule.Proofs.Run.Record
import Overrule.Proofs.Run.Streams

namespace Overrule

open Recorded

def Event.isVerdict : Event → Bool
  | .validationComplete .. => true
  | _ => false

def Outcome.verdictEntry (outcome : Outcome) : LogEntry := ⟨.validationComplete outcome.path outcome.isSuccess, none⟩

private theorem Event.isVerdict_of_within {event : Event} (hevent : event.Within) : event.isVerdict = false := by
  cases event with
  | validationComplete => cases hevent
  | _ => rfl

private theorem FileReading.filter_isVerdict_entries (reading : FileReading) :
    reading.entries.filter (·.event.isVerdict) = [reading.outcome.verdictEntry] := by
  have hwithin : ((Validation.events reading.path reading.content).map
      fun event => (⟨event, some reading.path⟩ : LogEntry)).filter (·.event.isVerdict) = [] := by
    rw [List.filter_eq_nil_iff, List.forall_mem_map]
    intro event hevent
    rw [Event.isVerdict_of_within (Validation.within_of_mem_events hevent)]
    exact Bool.false_ne_true
  rw [entries, Validation.entries, List.filter_append, hwithin]
  rfl

namespace Run

/-- What there is to be told about how a run ended: nothing, unless it came to its end. -/
def completion (options : Options) (elapsed : Nat) : Except Failure (List Outcome) → List LogEntry
  | .ok outcomes => [⟨.runComplete options.files.length (Outcome.failedCount outcomes) elapsed, none⟩]
  | .error _ => []

/-- Whether an entry comes from one of the parts of the program and is let through by a threshold. -/
def isDue (threshold : Threshold) (entry : LogEntry) : Bool :=
  threshold.admits entry.event.level && Filter.ownsTarget entry.event.target

private theorem isDue_runComplete (threshold : Threshold) (fileCount failed duration : Nat) (context : Option Path) :
    isDue threshold ⟨.runComplete fileCount failed duration, context⟩ = false :=
  Bool.and_eq_false_iff.2 (.inr rfl)

private theorem filter_isDue_completion (threshold : Threshold) (options : Options) (elapsed : Nat)
    (result : Except Failure (List Outcome)) : (completion options elapsed result).filter (isDue threshold) = [] := by
  cases result with
  | error failure => rfl
  | ok outcomes => simp [completion, isDue_runComplete]

private theorem isDue_of_mem_entries {threshold : Threshold} {reading : FileReading} {entry : LogEntry}
    (hentry : entry ∈ reading.entries) : isDue threshold entry = threshold.admits entry.event.level := by
  rw [isDue, (Validation.own_of_mem_entries hentry).target, Bool.and_true]

private theorem lines_upTo_eq (config : LogConfig) (stamp : Text) (reads : List FileReading) :
    (reads.flatMap fun reading => config.upTo.lines stamp reading.entries) =
      ((reads.flatMap FileReading.entries).filter (isDue config.threshold)).map (·.line config stamp) := by
  rw [List.filter_flatMap, List.map_flatMap]
  refine List.flatMap_congr fun reading _ => ?_
  rw [List.filter_congr fun entry hentry => isDue_of_mem_entries hentry]
  exact Logger.lines_upTo_entries config stamp reading.path reading.content

private theorem filter_isVerdict_isDue {threshold : Threshold} (hinfo : Level.info.rank ≤ threshold.rank)
    (reads : List FileReading) :
    ((reads.flatMap FileReading.entries).filter (isDue threshold)).filter (·.event.isVerdict) =
      reads.map fun reading => reading.outcome.verdictEntry := by
  have hverdict (entry : LogEntry) (hentry : entry ∈ reads.flatMap FileReading.entries) :
      (entry.event.isVerdict && isDue threshold entry) = entry.event.isVerdict := by
    obtain ⟨reading, _, hentry⟩ := List.mem_flatMap.1 hentry
    rw [isDue_of_mem_entries hentry]
    cases hevent : entry.event with
    | validationComplete path passed =>
      have hadmits : threshold.admits (Event.validationComplete path passed).level = true := decide_eq_true hinfo
      rw [hadmits]
      rfl
    | _ => rfl
  rw [List.filter_filter, List.filter_congr hverdict, List.filter_flatMap]
  simp only [FileReading.filter_isVerdict_entries]
  exact List.flatMap_pure_eq_map _ _

end Run

namespace Recorded

private theorem openLogger_run_start {config : LogConfig} {environment : Option Text} {bench opened : Workbench}
    {logger : Logger}
    (hopened : (Workbench.host.openLogger config environment none).run bench = (.ok logger, opened)) :
    (host.openLogger config environment none).run (start bench) = (.ok logger, start opened) := by
  have hfollows := related_follows.openLogger (fun _ _ => rfl) config environment none (start bench)
  have hbench : (start bench).bench = bench := rfl
  obtain ⟨reads, htold, hreads, _⟩ := tells_openLogger logger config environment none (start bench)
  subst hreads
  rcases hrun : (host.openLogger config environment none).run (start bench) with ⟨opening, record⟩
  rw [hbench, hrun, hopened, Prod.mk.injEq] at hfollows
  rw [hrun] at htold
  obtain ⟨rfl, rfl⟩ := hfollows
  obtain ⟨bench', reads, logged⟩ := record
  obtain ⟨hreads, hlogged, _⟩ := htold
  simp only [start, List.append_nil, List.flatMap_nil, List.map_nil] at hreads hlogged
  subst hreads hlogged
  rfl

/-- A run whose threshold is chosen has told its log, in the end, what is due about the files that it read. -/
private theorem tells_run {options : Options} (hchosen : options.logConfig.usesEnvironment = false)
    (environment : Option Text) :
    Tells options.logConfig.upTo (Run.attempt host options environment) (ReadIfDone options.files) := by
  have hlogger : options.logConfig.logger environment = .ok options.logConfig.upTo :=
    LogConfig.logger_eq_ok (.inl hchosen)
  exact tells_attempt hlogger fun stamp => Logger.line?_upTo_runComplete options.logConfig stamp

private theorem on_record_fail (failure : Run.Failure) (record : Recorded) :
    ((Run.fail host failure).run record).2.reads = record.reads ∧
      ((Run.fail host failure).run record).2.logged = record.logged := by
  rw [Run.fail]
  cases failure.announcement with
  | error panic => exact ⟨rfl, rfl⟩
  | ok message =>
    dsimp only
    rw [run_bind]
    split <;> exact ⟨rfl, rfl⟩

private theorem on_record_run (options : Options) (environment : Option Text) (record : Recorded) :
    ((run host options environment).run record).2.reads =
        ((Run.attempt host options environment).run record).2.reads ∧
      ((run host options environment).run record).2.logged =
        ((Run.attempt host options environment).run record).2.logged := by
  rw [run, run_bind]
  split
  · exact ⟨rfl, rfl⟩
  · exact on_record_fail _ _

end Recorded

/-- Whoever chooses how much is logged, and so does not let the environment decide, finds on record, whatever the files
and however the run ends: of all that the run had to tell, what the parts of the program tell up to that level, in the
same order. If the log goes to a file, it stands there behind what the file held. From information on the verdicts are
among it, one for each file, in order. How the run ended is missing at every level. -/
theorem own_entries_are_logged {arguments : List Bytes} {options : Options}
    (hrequest : CommandLine.request arguments = .ok (.run options))
    (hchosen : options.logConfig.usesEnvironment = false) (environment : Option Text) (bench : Workbench) :
    let ran := (program host arguments environment).run (start bench)
    let result := ((Run.attempt Workbench.host options environment).run bench).1
    let emitted := ran.2.reads.flatMap FileReading.entries ++ Run.completion options bench.elapsed result
    let shown := emitted.filter (Run.isDue options.threshold)
    (ran.1, ran.2.bench) = (program Workbench.host arguments environment).run bench ∧
      ran.2.logged = shown.map (fun entry => entry.line options.logConfig bench.stamp ++ ['\n']) ∧
      (∀ logger opened place before,
        (Workbench.host.openLogger options.logConfig environment none).run bench = (.ok logger, opened) →
        opened.logTarget = .file place → opened.files.entry? place = some (.file before) →
        FileTree.entry? ran.2.bench.files place = some (.file (before ++ Utf8.encode ran.2.logged.flatten))) ∧
      (∀ outcomes, result = .ok outcomes →
        ran.2.reads.map FileReading.path = options.files ∧ ran.2.reads.map FileReading.outcome = outcomes ∧
          (Level.info.rank ≤ options.threshold.rank →
            shown.filter (·.event.isVerdict) = outcomes.map Outcome.verdictEntry)) ∧
      ∀ fileCount failed duration, ⟨.runComplete fileCount failed duration, none⟩ ∉ shown := by
  intro ran result emitted shown
  have hran : ran = (run host options environment).run (start bench) := by
    simp only [ran, program, hrequest]
  obtain ⟨hreads, hlogged⟩ := on_record_run options environment (start bench)
  rw [← hran] at hreads hlogged
  obtain ⟨reads, htold, hdone⟩ := tells_run hchosen environment (start bench)
  have hfollows := attempt_follows options environment (start bench)
  have hresult : ((Run.attempt host options environment).run (start bench)).1 = result := congrArg Prod.fst hfollows
  have hread : ran.2.reads = reads := by
    rw [hreads, htold.reads_eq]
    rfl
  -- No part of the program goes by the name under which the end of a run is told, so only files are left.
  have hshown : shown = (reads.flatMap FileReading.entries).filter (Run.isDue options.threshold) := by
    simp only [shown, emitted, List.filter_append, Run.filter_isDue_completion, List.append_nil, hread]
  have hlines : ran.2.logged = shown.map fun entry => entry.line options.logConfig bench.stamp ++ ['\n'] := by
    rw [hlogged, htold.logged_eq, Run.lines_upTo_eq, hshown, List.map_map]
    rfl
  refine ⟨program_follows arguments environment (start bench), hlines, ?_, ?_, ?_⟩
  · intro logger opened place before hopened htarget hentry
    have hstart : InFile place before (start opened) := by
      refine ⟨htarget, hentry.trans ?_⟩
      simp [start, Utf8.encode]
    rw [hran]
    exact (inFile_run (openLogger_run_start hopened) hstart).entry
  · intro outcomes houtcomes
    obtain ⟨hpaths, hmap⟩ := hdone outcomes (hresult.trans houtcomes)
    refine ⟨by rw [hread, hpaths], by rw [hread, hmap], fun hinfo => ?_⟩
    rw [hshown, Run.filter_isVerdict_isDue hinfo, hmap, List.map_map]
    rfl
  · intro fileCount failed duration hmem
    have hdue := (List.mem_filter.1 hmem).2
    rw [Run.isDue_runComplete] at hdue
    cases hdue

/-- A file that passes and one that is not there, told at the level of information. -/
theorem verdicts_of_two_files :
    let files : List Path := [[0x61], [0x62]]
    let arguments : List Bytes := [0x2D, 0x76] :: files
    let bench : Workbench := .ofFiles ⟨[([[0x61]], .file [])], []⟩ []
    let options : Options := { files, verbose := 1 }
    let outcomes : List Outcome := [⟨[0x61], .passed 0⟩, ⟨[0x62], .unreadable "file not found: b".toList⟩]
    let ran := (program host arguments none).run (start bench)
    CommandLine.request arguments = .ok (.run options) ∧
      options.logConfig.usesEnvironment = false ∧
      ((Run.attempt Workbench.host options none).run bench).1 = .ok outcomes ∧
      ran.2.reads.map FileReading.path = files ∧
      ran.2.logged = [" INFO validation complete path=a passed=true\n".toList,
        " INFO validation complete path=b passed=false\n".toList] := by
  intro files arguments bench options outcomes ran
  have hrequest : CommandLine.request arguments = .ok (.run options) := by rfl
  have hchosen : options.logConfig.usesEnvironment = false := by rfl
  have hresult : ((Run.attempt Workbench.host options none).run bench).1 = .ok outcomes := by decide +kernel
  have hran : ran = (run host options none).run (start bench) := by
    simp only [ran, program, hrequest]
  have hlogged : ran.2.logged = [" INFO validation complete path=a passed=true\n".toList,
      " INFO validation complete path=b passed=false\n".toList] := by
    rw [hran]
    decide +kernel
  have hdone := (own_entries_are_logged hrequest hchosen none bench).2.2.2.1 outcomes hresult
  refine ⟨hrequest, hchosen, hresult, ?_, hlogged⟩
  simp only [ran]
  exact hdone.1

/-- A run that passes, told at the level at which its end is told too. -/
theorem end_of_run_is_not_logged :
    let files : List Path := [[0x61]]
    let arguments : List Bytes := [0x2D, 0x76] :: files
    let bench : Workbench := .ofFiles ⟨[([[0x61]], .file [])], []⟩ []
    let options : Options := { files, verbose := 1 }
    let finish : LogEntry := ⟨.runComplete 1 0 0, none⟩
    let ran := (program Workbench.host arguments none).run bench
    CommandLine.request arguments = .ok (.run options) ∧
      Run.completion options bench.elapsed ((Run.attempt Workbench.host options none).run bench).1 = [finish] ∧
      options.threshold.admits finish.event.level = true ∧
      finish.line options.logConfig [] = " INFO run complete file_count=1 failed=0 duration_ms=0".toList ∧
      ran.1 = 0 ∧
      ran.2.streams.taken .err = Utf8.encode " INFO validation complete path=a passed=true\n".toList := by
  intro files arguments bench options finish ran
  have hrequest : CommandLine.request arguments = .ok (.run options) := by rfl
  have hran : ran = (run Workbench.host options none).run bench := by
    simp only [ran, program, hrequest]
  refine ⟨hrequest, by decide +kernel, by decide +kernel, by decide +kernel, ?_, ?_⟩
  · rw [hran]
    decide +kernel
  · rw [hran]
    decide +kernel

end Overrule
