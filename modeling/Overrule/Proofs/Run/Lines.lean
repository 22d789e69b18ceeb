import Overrule.Proofs.Run.Streams
import Overrule.Proofs.Validation.Prescription

namespace Overrule

open Workbench

private theorem Utf8.encode_eq_nil_iff {text : Text} : encode text = [] ↔ text = [] := by
  cases text <;> simp [encode]

namespace Run

/-- What the report says of a file on each stream, given what reading the file gave. -/
def onStream (path : Path) (content : Except SystemError Bytes) : Channel → Text
  | .out =>
    match content with
    | .error _ => []
    | .ok content =>
      if collisions (rulesOfBytes content) = [] then path.display ++ ": OK\n".toList
      else (collisions (rulesOfBytes content)).flatMap fun collision => collision.line false ++ ['\n']
  | .err =>
    match content with
    | .error cause => (⟨path, cause⟩ : ReadError).message ++ ['\n']
    | .ok content =>
      if collisions (rulesOfBytes content) = [] then []
      else "Failed rules: ".toList ++ Text.decimal (collisions (rulesOfBytes content)).length ++ " in ".toList ++
        path.display ++ ['\n']

private theorem textsFor_lines (path : Path) (content : Except SystemError Bytes) (channel : Channel) :
    textsFor channel ((Validation.outcome path content).lines false) = onStream path content channel := by
  cases content with
  | error cause =>
    have hlines : (Validation.outcome path (.error cause)).lines false =
        [⟨.err, (⟨path, cause⟩ : ReadError).message ++ ['\n']⟩] := rfl
    rw [hlines]
    cases channel <;> simp [textsFor, onStream]
  | ok content =>
    rw [Validation.outcome_ok]
    by_cases hnone : collisions (rulesOfBytes content) = []
    · cases channel <;> simp [textsFor, onStream, Outcome.lines, Outcome.passedLine, Paint.apply, hnone]
    · cases channel with
      | out =>
        simp [textsFor, onStream, Outcome.lines, hnone, List.filter_map, List.flatMap_map, Function.comp_def]
      | err =>
        simp [textsFor, onStream, Outcome.lines, Outcome.failedLine, Paint.apply, hnone, List.filter_map,
          Function.comp_def]

private theorem onStream_err_eq_nil_iff (path : Path) (content : Except SystemError Bytes) :
    onStream path content .err = [] ↔ (Validation.outcome path content).isSuccess = true := by
  cases content with
  | error cause => simp [onStream, Validation.outcome, Validation.verdict, Status.ofVerdict, Outcome.isSuccess]
  | ok content =>
    rw [Validation.outcome_ok]
    by_cases hnone : collisions (rulesOfBytes content) = []
    · simp [onStream, Outcome.isSuccess, hnone]
    · simp [onStream, Outcome.isSuccess, hnone]

private theorem exists_ok_of_unhindered {options : Options} (hformat : options.format = .text)
    (hsummary : options.summary = false) {environment : Option Text} {bench opened : Workbench} {logger : Logger}
    (hopened : (host.openLogger options.logConfig environment none).run bench = (.ok logger, opened))
    (htaken : Unhindered ((attempt host options environment).run bench).1) :
    ∃ outcomes after, (attempt host options environment).run bench = (.ok outcomes, after) := by
  rcases hattempt : (attempt host options environment).run bench with ⟨result, after⟩
  rw [hattempt] at htaken
  have hcases := attempt_cases hopened
  rw [hattempt] at hcases
  rcases hcases with ⟨failure, hfailure, hblames⟩ | hending
  · exact absurd hblames.ofStream (htaken failure hfailure)
  · simp only [ending, hformat, hsummary] at hending
    exact ⟨_, after, by rw [hending]⟩

/-- A run that is asked for lines alone and logs nothing writes the lines about each file, as the files were once the
log was opened. -/
theorem wrote_attempt {options : Options} (hformat : options.format = .text) (hsummary : options.summary = false)
    {environment : Option Text} {logger : Logger} (hsilent : logger.Silent) {bench opened after : Workbench}
    (hopened : (host.openLogger options.logConfig environment none).run bench = (.ok logger, opened))
    {outcomes : List Outcome} (hattempt : (attempt host options environment).run bench = (.ok outcomes, after)) :
    outcomes = opened.files.validateAll options.files ∧
      Wrote (outcomes.flatMap (·.lines options.coloured)) opened after := by
  rcases hlines : (reportLines host logger options.coloured options.files).run opened with ⟨result, written⟩
  rw [attempt, run_bind, hopened] at hattempt
  dsimp only at hattempt
  rw [run_bind, report_run_of_lines hformat hsummary, hlines] at hattempt
  cases result with
  | error failure => cases hattempt
  | ok reported =>
    have helapsed : host.elapsed.run written = (written.elapsed, written) := rfl
    dsimp only at hattempt
    rw [run_bind, helapsed, run_bind, note_run_of_hidden (hsilent.run _ _ _ _)] at hattempt
    cases hattempt
    exact wrote_reportLines hsilent hlines

end Run

/-- Without colours, a summary or anything said about the log, a run whose streams take what is written leaves on each
of them what the report says of the files, in the order in which they are named. Nothing is written for failures if and
only if the status is 0. -/
theorem report_on_both_streams {files : List Path} {colour : ColourChoice} (hcolour : colour ≠ .always)
    {logFormat : LogFormat} {logFile : Option Path} {arguments : List Bytes}
    (hrequest : CommandLine.request arguments = .ok (.run { files, colour, logFormat, logFile }))
    {bench opened : Workbench} {logger : Logger}
    (hopened : (host.openLogger ({ files, colour, logFormat, logFile } : Options).logConfig none none).run bench =
      (.ok logger, opened))
    (htaken : Run.Unhindered ((Run.attempt host { files, colour, logFormat, logFile } none).run bench).1) :
    let status := ((program host arguments none).run bench).1
    let ended := ((program host arguments none).run bench).2
    let report (channel : Channel) :=
      files.flatMap fun path => Run.onStream path (opened.files.read path) channel
    (∀ channel, ended.streams.taken channel = bench.streams.taken channel ++ Utf8.encode (report channel)) ∧
      (ended.streams.taken .err = bench.streams.taken .err ↔ status = 0) := by
  intro status ended report
  obtain ⟨outcomes, after, hattempt⟩ := Run.exists_ok_of_unhindered rfl rfl hopened htaken
  have hsilent : logger.Silent := by
    rw [LogConfig.logger_eq_upTo (.inr rfl) (logger_of_openLogger hopened)]
    exact Logger.silent_upTo (Nat.le_refl Level.warn.rank)
  obtain ⟨houtcomes, hwrote⟩ := Run.wrote_attempt rfl rfl hsilent hopened hattempt
  have hrun : (program host arguments none).run bench = (Run.status outcomes, after) := by
    simp only [program, hrequest]
    rw [run, run_bind, hattempt]
    rfl
  have hended : ended = after := congrArg Prod.snd hrun
  have hstatus : status = Run.status outcomes := congrArg Prod.fst hrun
  have hcoloured : ({ files, colour, logFormat, logFile } : Options).coloured = false := by
    simpa [Options.coloured] using hcolour
  have htexts (channel : Channel) : textsFor channel (outcomes.flatMap (·.lines false)) = report channel := by
    rw [houtcomes, textsFor_flatMap, FileTree.validateAll, List.flatMap_map]
    exact List.flatMap_congr fun path _ => Run.textsFor_lines path _ channel
  have hstreams : opened.streams = bench.streams :=
    (keeps_streams_openLogger (· = bench.streams) _ _ _).of_run_eq hopened rfl
  have hall (channel : Channel) :
      ended.streams.taken channel = bench.streams.taken channel ++ Utf8.encode (report channel) := by
    rw [hended, hwrote.taken, hstreams, hcoloured, htexts]
  refine ⟨hall, ?_⟩
  rw [hstatus, Run.status_eq_zero_iff, houtcomes, FileTree.validateAll, List.forall_mem_map, hall .err,
    List.append_right_eq_self, Utf8.encode_eq_nil_iff, List.flatMap_eq_nil_iff]
  exact forall₂_congr fun path _ => Run.onStream_err_eq_nil_iff path _

/-- A file that passes, one with a collision and one that is not there, in this order. -/
theorem streams_of_mixed_files :
    let files : List Path := [[0x61], [0x62], [0x63]]
    let rules : Bytes := Utf8.encode "RewriteRule /a /x [L]\nRewriteRule /ab /y".toList
    let tree : FileTree := ⟨[([[0x61]], .file []), ([[0x62]], .file rules)], []⟩
    let bench : Workbench := ofFiles tree []
    let options : Options := { files }
    let logger : Logger := ⟨options.logConfig, .upTo (.upTo .warn)⟩
    let ended := ((program host files none).run bench).2
    CommandLine.request files = .ok (.run options) ∧
      (host.openLogger options.logConfig none none).run bench = (.ok logger, bench) ∧
      Run.Unhindered ((Run.attempt host options none).run bench).1 ∧
      ended.streams.taken .out = Utf8.encode "a: OK\nRedirect 1:/a overrides 2:/ab\n".toList ∧
      ended.streams.taken .err = Utf8.encode "Failed rules: 1 in b\nfile not found: c\n".toList ∧
      ((program host files none).run bench).1 ≠ 0 := by
  intro files rules tree bench options logger ended
  have hrequest : CommandLine.request files = .ok (.run options) := by rfl
  have hopened : (host.openLogger options.logConfig none none).run bench = (.ok logger, bench) := by rfl
  have htaken : Run.Unhindered ((Run.attempt host options none).run bench).1 :=
    Run.unhindered_of_endless hopened ⟨rfl, rfl⟩
  obtain ⟨hstreams, hstatus⟩ :=
    report_on_both_streams (show ColourChoice.auto ≠ .always by decide) hrequest hopened htaken
  have hout : ended.streams.taken .out = Utf8.encode "a: OK\nRedirect 1:/a overrides 2:/ab\n".toList := by
    rw [hstreams]
    decide +kernel
  have herr : ended.streams.taken .err = Utf8.encode "Failed rules: 1 in b\nfile not found: c\n".toList := by
    rw [hstreams]
    decide +kernel
  refine ⟨hrequest, hopened, htaken, hout, herr, fun hzero => ?_⟩
  have hempty := hstatus.2 hzero
  rw [herr] at hempty
  exact absurd hempty (by decide +kernel)
end Overrule
