import Overrule.Proofs.CommandLine.Files
import Overrule.Proofs.Run.FullStream

namespace Overrule

open Workbench

namespace Outcome

/-- The file in whose lines the room on the stream for verdicts comes to its end, if that is in the lines on one of some
files. -/
def cutFile? (colour : Bool) (room : Nat) : List Outcome → Option Outcome
  | [] => none
  | outcome :: others =>
    let length := (outcome.bytesFor colour .out).length
    if length ≤ room then cutFile? colour (room - length) others else some outcome

private theorem cutFile?_eq_none_iff {colour : Bool} {room : Nat} {outcomes : List Outcome} :
    cutFile? colour room outcomes = none ↔ (outcomes.flatMap (·.bytesFor colour .out)).length ≤ room := by
  induction outcomes generalizing room with
  | nil => exact iff_of_true rfl (Nat.zero_le room)
  | cons outcome others ih =>
    rw [cutFile?, List.flatMap_cons, List.length_append]
    split
    · rw [ih]
      omega
    · exact iff_of_false (Option.some_ne_none _) (by omega)

private theorem exists_line_of_mem_lines {outcome : Outcome} {colour : Bool} {put : Put}
    (hput : put ∈ outcome.lines colour) : ∃ line, put.text = line ++ ['\n'] := by
  obtain ⟨path, status⟩ := outcome
  cases status with
  | passed ruleCount =>
    obtain rfl := List.mem_singleton.1 hput
    exact ⟨_, rfl⟩
  | collisions ruleCount reports =>
    rcases List.mem_cons.1 hput with rfl | hput
    · exact ⟨_, rfl⟩
    · obtain ⟨report, _, rfl⟩ := List.mem_map.1 hput
      exact ⟨_, rfl⟩
  | unreadable message =>
    obtain rfl := List.mem_singleton.1 hput
    exact ⟨_, rfl⟩

end Outcome

namespace Run

variable {n : Nat} {fault : SystemError}

private theorem stopsWith_outcome_write (outcome : Outcome) (colour : Bool) :
    StopsWith n fault (· = some fault) (outcome.write colour host.write) := by
  refine stopsWith_writeEach fun put hput => ?_
  obtain ⟨line, hline⟩ := Outcome.exists_line_of_mem_lines hput
  obtain ⟨channel, text⟩ := put
  subst hline
  cases channel with
  | out => exact stopsWith_write_out _
  | err => exact (neverStops_write_err line).mono fun _ => False.elim

private theorem stopsWith_writeSummary (outcomes : List Outcome) :
    StopsWith n fault (· = some (.summary fault)) (writeSummary host outcomes) := by
  have hlines (lines : List Text) : StopsWith n fault (· = some fault)
      (writeEach host.write (lines.map fun line => ⟨.out, line ++ ['\n']⟩)) := by
    refine stopsWith_writeEach fun put hput => ?_
    obtain ⟨line, _, rfl⟩ := List.mem_map.1 hput
    exact stopsWith_write_out _
  refine (stopsWith_write_out _).bind (fun found => ?_) fun _ hfault => ⟨_, rfl, by rw [hfault]⟩
  cases found with
  | some _ => exact .pure _
  | none =>
    cases Summary.lines outcomes false with
    | error cause => exact .pure _
    | ok lines => exact (hlines lines).bind (fun _ => .pure _) fun _ hfault => ⟨_, rfl, by rw [hfault]; rfl⟩

private theorem stopsWith_writeDocument (outcomes : List Outcome) :
    StopsWith n fault (fun error => error = some (.serialize (.stream fault)) ∨ error = some (.finish fault))
      (Outcome.writeDocument outcomes fun text => host.write ⟨.out, text⟩) := by
  refine (stopsWith_writeEach fun text _ => stopsWith_write_out text).bind (fun found => ?_) fun _ hfault =>
    ⟨_, .inl rfl, by rw [hfault]⟩
  cases found with
  | some _ => exact .pure _
  | none =>
    dsimp only
    split
    · exact (stopsWith_write_out _).bind (fun _ => .pure _) fun _ hfault => ⟨_, .inr rfl, by rw [hfault]; rfl⟩
    · exact .pure _

private structure Reported (logger : Logger) (colour : Bool) (path : Path) (bench : Workbench) (outcome : Outcome)
    (validated written : Workbench) : Prop where
  validate_run : (host.validate logger path).run bench = (outcome, validated)
  write_run : (outcome.write colour host.write).run validated = (none, written)
  path_eq : outcome.path = path
  endless : written.Endless
  aside : written.logTarget ≠ .stream .out
  taken : written.streams.out.taken = bench.streams.out.taken ++ outcome.bytesFor colour .out
  /-- The files that follow have the outcomes that they have without the report. -/
  others : ∀ paths, ((host.validateAll logger (path :: paths)).run bench).1 =
    outcome :: ((host.validateAll logger paths).run written).1

private theorem exists_reported (logger : Logger) (colour : Bool) (path : Path) {bench : Workbench}
    (hendless : bench.Endless) (haside : bench.logTarget ≠ .stream .out) :
    ∃ outcome validated written, Reported logger colour path bench outcome validated written := by
  rcases hvalidated : (host.validate logger path).run bench with ⟨outcome, validated⟩
  rcases hwritten : (outcome.write colour host.write).run validated with ⟨found, written⟩
  obtain ⟨hkept, hout⟩ :=
    (keeps_validate (keeps_out_log bench.streams.out) logger path).of_run_eq hvalidated ⟨haside, rfl⟩
  have hvalidEndless := (keeps_validate keeps_endless_log logger path).of_run_eq hvalidated hendless
  obtain ⟨rfl, hwrittenEndless⟩ := (obliging_outcome_write outcome colour).of_run_eq hwritten hvalidEndless
  have hwrote : Wrote (outcome.lines colour) validated written := wrote_writeEach hwritten
  refine ⟨outcome, validated, written, hvalidated, hwritten, congrArg (·.1.path) hvalidated.symm, hwrittenEndless,
    ?_, ?_, fun paths => ?_⟩
  · rwa [(withoutStreams_eq_iff.1 hwrote.elsewhere).2.1]
  · rw [← hout]
    exact hwrote.taken .out
  · exact validateAll_cons paths hvalidated hwrote.elsewhere

private theorem taken_reportLines (logger : Logger) (colour : Bool) (paths : List Path) {bench : Workbench}
    (hendless : bench.Endless) (haside : bench.logTarget ≠ .stream .out) :
    ((reportLines host logger colour paths).run bench).2.streams.out.taken =
      bench.streams.out.taken ++
        ((host.validateAll logger paths).run bench).1.flatMap (·.bytesFor colour .out) := by
  induction paths generalizing bench with
  | nil => exact (List.append_nil _).symm
  | cons path paths ih =>
    obtain ⟨outcome, validated, written, hreported⟩ := exists_reported logger colour path hendless haside
    rw [hreported.others, List.flatMap_cons, ← List.append_assoc, ← hreported.taken,
      ← ih hreported.endless hreported.aside, reportLines, run_bind, hreported.validate_run, run_bind,
      hreported.write_run]
    rfl

/-- Lines that do not all fit end the report with the name of the file in whose lines the room ends. -/
private theorem compared_reportLines (fault : SystemError) (logger : Logger) (colour : Bool) (paths : List Path)
    {bench : Workbench} (hfits : Fits n bench) :
    Compared n fault
      (fun result => ∃ outcome, Outcome.cutFile? colour (n - bench.streams.out.taken.length)
        ((host.validateAll logger paths).run bench).1 = some outcome ∧ result = .error (.lines outcome.path fault))
      ((reportLines host logger colour paths).run bench)
      ((reportLines host logger colour paths).run (bench.limitedTo n fault)) := by
  -- By induction on the files, for any workbench: what is left of the room is what the lines so far left of it.
  induction paths generalizing bench with
  | nil => exact .same hfits
  | cons path paths ih =>
    obtain ⟨outcome, validated, written, hreported⟩ := exists_reported logger colour path hfits.endless hfits.aside
    have hlength : written.streams.out.taken.length =
        bench.streams.out.taken.length + (outcome.bytesFor colour .out).length := by
      rw [hreported.taken, List.length_append]
    rw [reportLines, hreported.others]
    refine (neverStops_validate logger path).compared_bind hfits hreported.validate_run fun hvalid => ?_
    refine ((stopsWith_outcome_write outcome colour).compared validated hvalid).bind (fun found => ?_) ?_ ?_
    · cases found with
      | some fault => exact related_grows.pure _
      | none => exact (related_grows.reportLines logger colour paths).bind fun _ => related_grows.pure _
    · rintro _ _ hwritten hwrote
      cases hreported.write_run.symm.trans hwritten
      refine (ih hwrote).bind_stopsWith (fun _ => .pure _) ?_
      rintro told ⟨cut, hcut, rfl⟩
      refine ⟨_, ⟨cut, ?_, rfl⟩, rfl⟩
      have hroom := hwrote.length_le
      rw [Outcome.cutFile?, if_pos (by omega), Nat.sub_sub, ← hlength]
      exact hcut
    · rintro _ _ hwritten hless _ rfl
      cases hreported.write_run.symm.trans hwritten
      refine ⟨_, ⟨outcome, ?_, rfl⟩, by rw [hreported.path_eq]⟩
      have hroom := hfits.length_le
      rw [Outcome.cutFile?, if_neg (by omega)]

/-- How a run that is to report some outcomes fails if there is room for `n` bytes on the stream for verdicts. -/
inductive CutOff (options : Options) (outcomes : List Outcome) (n : Nat) (fault : SystemError) : Failure → Prop where
  | lines {outcome : Outcome} (hformat : options.format = .text)
    (hcut : Outcome.cutFile? options.coloured n outcomes = some outcome) :
    CutOff options outcomes n fault (.lines outcome.path fault)
  | summary (hformat : options.format = .text) (hsummary : options.summary = true)
    (hcut : Outcome.cutFile? options.coloured n outcomes = none) : CutOff options outcomes n fault (.summary fault)
  | serialize (hformat : options.format = .json) :
    CutOff options outcomes n fault (.document (.serialize (.stream fault)))
  | finish (hformat : options.format = .json) : CutOff options outcomes n fault (.document (.finish fault))

/-- The lines on all files fit, and the cut is in the summary below them. -/
def CutInSummary (options : Options) (outcomes : List Outcome) (n : Nat) : Prop :=
  options.format = .text ∧ options.summary = true ∧ Outcome.cutFile? options.coloured n outcomes = none

private theorem CutOff.status_told {options : Options} {outcomes : List Outcome} {failure : Failure}
    (h : CutOff options outcomes n fault failure) (site : PanicSite) :
    (¬ CutInSummary options outcomes n → failure.status = 1 ∧
      ∃ what, failure.told site = ["error: ".toList ++ (what ++ ": ".toList ++ fault.message)] ∧
        (options.format = .text → ∃ outcome, Outcome.cutFile? options.coloured n outcomes = some outcome ∧
          what = "write report for ".toList ++ outcome.path.display)) ∧
      (CutInSummary options outcomes n →
        failure.status = 101 ∧ failure.told site = (Panic.print .out fault).lines site) := by
  cases h with
  | @lines outcome hformat hcut =>
    refine ⟨fun _ => ⟨rfl, "write report for ".toList ++ outcome.path.display, rfl, fun _ => ⟨outcome, hcut, rfl⟩⟩,
      fun hsummary => ?_⟩
    cases hcut.symm.trans hsummary.2.2
  | summary hformat hsummary hcut => exact ⟨fun hnot => absurd ⟨hformat, hsummary, hcut⟩ hnot, fun _ => ⟨rfl, rfl⟩⟩
  | serialize hformat =>
    refine ⟨fun _ => ⟨rfl, "serialize report".toList, rfl, fun htext => ?_⟩, fun hsummary => ?_⟩
    · cases hformat.symm.trans htext
    · cases hformat.symm.trans hsummary.1
  | finish hformat =>
    refine ⟨fun _ => ⟨rfl, "write report".toList, rfl, fun htext => ?_⟩, fun hsummary => ?_⟩
    · cases hformat.symm.trans htext
    · cases hformat.symm.trans hsummary.1

private theorem compared_report_text (fault : SystemError) (logger : Logger) {options : Options}
    (hformat : options.format = .text)
    {bench : Workbench} (hfits : Fits n bench) (hstart : bench.streams.out.taken = []) :
    Compared n fault
      (fun result => ∃ failure, CutOff options ((host.validateAll logger options.files).run bench).1 n fault failure ∧
        result = .error failure)
      ((report host logger options).run bench) ((report host logger options).run (bench.limitedTo n fault)) := by
  have hlines := compared_reportLines fault logger options.coloured options.files hfits
  have htaken := taken_reportLines logger options.coloured options.files hfits.endless hfits.aside
  rw [hstart] at hlines htaken
  simp only [report, hformat]
  refine hlines.bind_stopsWith_of_run (fun result => options.summary = true ∧ result = .error (.summary fault))
    (fun result => ?_) ?_ ?_
  · cases result with
    | error failure => exact .pure _
    | ok outcomes =>
      dsimp only
      split
      · refine (stopsWith_writeSummary outcomes).bind (fun found => ?_) fun _ hfault =>
          ⟨_, ⟨‹options.summary = true›, rfl⟩, by rw [hfault]⟩
        cases found <;> exact .pure _
      · exact .pure _
  · rintro _ after hrun hfits _ ⟨hsummary, rfl⟩
    rw [hrun, List.nil_append] at htaken
    have hcut := Outcome.cutFile?_eq_none_iff.2 (htaken ▸ hfits.length_le)
    exact ⟨_, .summary hformat hsummary hcut, rfl⟩
  · rintro _ ⟨outcome, hcut, rfl⟩
    exact ⟨_, ⟨_, .lines hformat hcut, rfl⟩, rfl⟩

private theorem stopsWith_report_json (logger : Logger) {options : Options} (hformat : options.format = .json) :
    StopsWith n fault
      (fun result => ∃ failure, (∀ outcomes, CutOff options outcomes n fault failure) ∧ result = .error failure)
      (report host logger options) := by
  simp only [report, hformat]
  refine (neverStops_validateAll logger options.files).bind fun outcomes => ?_
  refine (stopsWith_writeDocument outcomes).bind (fun error => ?_) fun error herror => ?_
  · cases error <;> exact .pure _
  · rcases herror with rfl | rfl
    · exact ⟨_, ⟨_, fun _ => .serialize hformat, rfl⟩, rfl⟩
    · exact ⟨_, ⟨_, fun _ => .finish hformat, rfl⟩, rfl⟩

/-- Each way to report notices that the room has come to its end, the summary as well as the lines and the document. -/
private theorem compared_report (fault : SystemError) (logger : Logger) (options : Options) {bench : Workbench}
    (hfits : Fits n bench) (hstart : bench.streams.out.taken = []) :
    Compared n fault
      (fun result => ∃ failure, CutOff options ((host.validateAll logger options.files).run bench).1 n fault failure ∧
        result = .error failure)
      ((report host logger options).run bench) ((report host logger options).run (bench.limitedTo n fault)) := by
  cases hformat : options.format with
  | text => exact compared_report_text fault logger hformat hfits hstart
  | json =>
    refine ((stopsWith_report_json logger hformat).compared bench hfits).mono ?_
    rintro _ ⟨failure, hcut, rfl⟩
    exact ⟨failure, hcut _, rfl⟩

/-- A run goes by its log before it goes by its report: if the log is not opened, nothing is reported. -/
private theorem compared_attempt {options : Options} {environment : Option Text} {bench opened : Workbench}
    {opening : Except LogError Logger}
    (hopened : (host.openLogger options.logConfig environment none).run bench = (opening, opened))
    (haside : opened.logTarget ≠ .stream .out) (n : Nat) (fault : SystemError) :
    Compared n fault
      (fun result => ∃ logger failure, opening = .ok logger ∧
        CutOff options ((host.validateAll logger options.files).run opened).1 n fault failure ∧ result = .error failure)
      ((attempt host options environment).run bench.withoutStreams)
      ((attempt host options environment).run (bench.withoutStreams.limitedTo n fault)) := by
  have hfits : Fits n opened.withoutStreams := ⟨⟨rfl, rfl⟩, Nat.zero_le n, ⟨[], rfl⟩, haside⟩
  have hwhole : (host.openLogger options.logConfig environment none).run bench.withoutStreams =
      (opening, opened.withoutStreams) := openLogger_run_of_streams hopened _
  have hlimited : (host.openLogger options.logConfig environment none).run (bench.withoutStreams.limitedTo n fault) =
      (opening, opened.withoutStreams.limitedTo n fault) :=
    openLogger_run_of_streams hopened ⟨.limited n fault, .unlimited⟩
  rw [attempt, run_bind, run_bind, hwhole, hlimited]
  cases opening with
  | error error => exact .same hfits
  | ok logger =>
    have hreport := compared_report fault logger options hfits rfl
    rw [(ignoresStreams_validateAll logger options.files opened.withoutStreams opened rfl).1] at hreport
    refine hreport.bind_stopsWith (fun result => ?_) ?_
    · cases result with
      | error failure => exact .pure _
      | ok outcomes => exact neverStops_elapsed.bind fun _ => (neverStops_note logger _).bind fun _ => .pure _
    · rintro _ ⟨failure, hfailure, rfl⟩
      exact ⟨_, ⟨logger, failure, rfl, hfailure, rfl⟩, rfl⟩

/-- What is left of a run that was stopped: what fits, the lines that were written before, and those on the failure. -/
structure Ended (n : Nat) (failure : Failure) (site : PanicSite) (whole cut : Nat × Workbench) : Prop where
  lt_length : n < whole.2.streams.out.taken.length
  status : cut.1 = failure.status
  out : cut.2.streams.out.taken = whole.2.streams.out.taken.take n
  lines : ∃ said, lineBytes said <+: whole.2.streams.err.taken ∧
    cut.2.streams.err.taken = lineBytes (said ++ failure.told site)

private theorem panicSite_log (text : Text) (bench : Workbench) :
    ((log text).run bench).2.panicSite = bench.panicSite := by
  simp only [StateT.run, log]
  split <;> rfl

private theorem panicSite_openLog (path : Path) (bench : Workbench) :
    ((openLog path).run bench).2.panicSite = bench.panicSite := by
  simp only [StateT.run, openLog]
  split <;> rfl

private theorem related_keeps_panicSite (site : PanicSite) :
    Related host host fun step _ => Keeps (·.panicSite = site) step where
  pure := .pure _
  bind := .bind
  read _ _ h := h
  write _ _ h := h
  log text bench h := (panicSite_log text bench).trans h
  now _ h := h
  elapsed _ h := h
  panicSite _ _ h := h

private theorem fail_run_of_endless (failure : Failure) {bench : Workbench} (hendless : bench.streams.err.room = none) :
    ((fail host failure).run bench).1 = failure.status ∧
      ((fail host failure).run bench).2.streams.out = bench.streams.out ∧
      ((fail host failure).run bench).2.streams.err.taken =
        bench.streams.err.taken ++ lineBytes (failure.told bench.panicSite) := by
  have hwrite (text : Text) : (host.write ⟨.err, text⟩).run bench = (none, { bench with
      streams := { bench.streams with
        err := { bench.streams.err with taken := bench.streams.err.taken ++ Utf8.encode text } } }) := by
    refine (write_err_run text bench).trans ?_
    rw [Sink.take_of_endless hendless]
  have hsite (panic : Panic) : (host.panicSite panic).run bench = (bench.panicSite, bench) := rfl
  rw [fail, Failure.status, Failure.told]
  cases failure.announcement with
  | error panic =>
    dsimp only
    rw [Run.panic, run_bind, hsite, run_bind, hwrite]
    exact ⟨rfl, rfl, rfl⟩
  | ok message =>
    dsimp only
    rw [run_bind, hwrite, lineBytes_singleton]
    exact ⟨rfl, rfl, rfl⟩

/-- A run that was stopped says why and ends; the other one goes on, and whatever it does takes nothing back. -/
theorem compared_run {options : Options} {environment : Option Text} {bench opened : Workbench}
    {opening : Except LogError Logger}
    (hopened : (host.openLogger options.logConfig environment none).run bench = (opening, opened))
    (haside : opened.logTarget ≠ .stream .out) (n : Nat) (fault : SystemError) :
    let whole := (run host options environment).run bench.withoutStreams
    let cut := (run host options environment).run (bench.withoutStreams.limitedTo n fault)
    Fits n whole.2 ∧ cut = (whole.1, whole.2.limitedTo n fault) ∨
      ∃ logger failure, opening = .ok logger ∧
        CutOff options ((host.validateAll logger options.files).run opened).1 n fault failure ∧
        Ended n failure bench.panicSite whole cut := by
  rw [Overrule.run]
  refine ((compared_attempt hopened haside n fault).bind_neverStops fun result => ?_).imp_right ?_
  · cases result with
    | ok outcomes => exact .pure _
    | error failure => exact neverStops_fail failure
  · rintro ⟨_, stopped, ⟨logger, failure, hopening, hcut, rfl⟩, hstopped, hattempt, hended⟩
    obtain ⟨said, hsaid, hprefix⟩ := hstopped.lines
    have hopen (path : Path) : Keeps (·.panicSite = bench.panicSite) (openLog path) :=
      fun opened h => (panicSite_openLog path opened).trans h
    have hsite : stopped.panicSite = bench.panicSite :=
      ((related_keeps_panicSite bench.panicSite).attempt hopen options environment).of_run_eq hattempt rfl
    obtain ⟨hstatus, hout, herr⟩ := fail_run_of_endless failure hstopped.endless
    refine ⟨logger, failure, hopening, hcut, hstopped.lt_length, ?_, ?_, said, hprefix, ?_⟩
    · rw [hended]
      exact hstatus
    · rw [hended]
      exact (congrArg Sink.taken hout).trans hstopped.out
    · rw [hended, lineBytes_append, ← hsaid, ← hsite]
      exact herr

end Run

/-- What the program gives and leaves at a workbench to whose streams nothing was written yet. The one for verdicts is a
given sink, and the one for errors takes everything. -/
def programOnto (out : Sink) (arguments : List Bytes) (environment : Option Text) (bench : Workbench) :
    Nat × Workbench :=
  (program host arguments environment).run { bench with streams := ⟨out, .unlimited⟩ }

/-- A run whose report does not fit on the stream for verdicts leaves there what fits, to the byte. What it says on the
other stream are whole lines that it says otherwise too, and in the end those on the failure. If the cut is in the lines
on a file or in a document, that is one line that begins with the word error and the status is 1; for lines, it names
the file. If all lines fit and the cut is in the summary below them, the run ends in a panic. A report that fits is
written as if there were no end of the room. -/
theorem cut_report_ends_run {options : Options} {arguments : List Bytes}
    (hrequest : CommandLine.request arguments = .ok (.run options)) {environment : Option Text}
    {bench opened : Workbench} {opening : Except LogError Logger}
    (hopened : (host.openLogger options.logConfig environment none).run bench = (opening, opened))
    (haside : opened.logTarget ≠ .stream .out) (n : Nat) (fault : SystemError) :
    let whole := programOnto .unlimited arguments environment bench
    let cut := programOnto (.limited n fault) arguments environment bench
    let outcomes (logger : Logger) := ((host.validateAll logger options.files).run opened).1
    (whole.2.streams.out.taken.length ≤ n →
      cut.1 = whole.1 ∧ ∀ channel, cut.2.streams.taken channel = whole.2.streams.taken channel) ∧
    (n < whole.2.streams.out.taken.length →
      cut.2.streams.out.taken = whole.2.streams.out.taken.take n ∧
      ∃ logger said last, opening = .ok logger ∧ lineBytes said <+: whole.2.streams.err.taken ∧
        cut.2.streams.err.taken = lineBytes (said ++ last) ∧
        (¬ Run.CutInSummary options (outcomes logger) n → cut.1 = 1 ∧
          ∃ what, last = ["error: ".toList ++ (what ++ ": ".toList ++ fault.message)] ∧
            (options.format = .text → ∃ outcome, Outcome.cutFile? options.coloured n (outcomes logger) = some outcome ∧
              what = "write report for ".toList ++ outcome.path.display)) ∧
        (Run.CutInSummary options (outcomes logger) n →
          cut.1 = 101 ∧ last = (Panic.print .out fault).lines bench.panicSite)) := by
  intro whole cut outcomes
  have hwhole : whole = (run host options environment).run bench.withoutStreams := by
    simp only [whole, programOnto, program, hrequest]
    rfl
  have hcut : cut = (run host options environment).run (bench.withoutStreams.limitedTo n fault) := by
    simp only [cut, programOnto, program, hrequest]
    rfl
  have hcompared := Run.compared_run hopened haside n fault
  rw [← hwhole, ← hcut] at hcompared
  rcases hcompared with ⟨hfits, hsame⟩ | ⟨logger, failure, rfl, hfailure, hended⟩
  · refine ⟨fun _ => ⟨by rw [hsame], fun channel => ?_⟩, fun hless => absurd hfits.length_le hless.not_ge⟩
    rw [hsame]
    cases channel <;> rfl
  · obtain ⟨said, hsaid, herr⟩ := hended.lines
    refine ⟨fun hle => absurd hle hended.lt_length.not_ge, fun _ => ?_⟩
    refine ⟨hended.out, logger, said, failure.told bench.panicSite, rfl, hsaid, herr, ?_⟩
    rw [hended.status]
    exact hfailure.status_told bench.panicSite

/-- A file that passes and one that is not there. The room ends in the line on the first one, or right behind it. -/
theorem cut_in_line_and_behind_it :
    let files : List Path := [[0x61], [0x62]]
    let arguments : List Bytes := Utf8.encode "--summary".toList :: files
    let options : Options := { files, summary := true }
    let bench : Workbench := ofFiles ⟨[([[0x61]], .file [])], []⟩ []
    let logger : Logger := ⟨options.logConfig, .upTo (.upTo .warn)⟩
    let announcement := "error: write report for a: No space left on device (os error 28)".toList
    CommandLine.request arguments = .ok (.run options) ∧
      (host.openLogger options.logConfig none none).run bench = (.ok logger, bench) ∧
      bench.logTarget ≠ .stream .out ∧
      6 < (programOnto .unlimited arguments none bench).2.streams.out.taken.length ∧
      (programOnto (.limited 3 .deviceFull) arguments none bench).1 = 1 ∧
      (∃ said, (programOnto (.limited 3 .deviceFull) arguments none bench).2.streams.err.taken =
        lineBytes (said ++ [announcement])) ∧
      (programOnto (.limited 6 .deviceFull) arguments none bench).1 = 101 ∧
      ∃ said, (programOnto (.limited 6 .deviceFull) arguments none bench).2.streams.err.taken =
        lineBytes (said ++ (Panic.print .out .deviceFull).lines bench.panicSite) := by
  intro files arguments options bench logger announcement
  have hrequest : CommandLine.request arguments = .ok (.run options) := by rfl
  have hopened : (host.openLogger options.logConfig none none).run bench = (.ok logger, bench) := by rfl
  have haside : bench.logTarget ≠ .stream .out := by decide
  have hlength : 6 < (programOnto .unlimited arguments none bench).2.streams.out.taken.length := by decide +kernel
  have hinLine : Outcome.cutFile? options.coloured 3 ((host.validateAll logger options.files).run bench).1 =
      some ⟨[0x61], .passed 0⟩ := by decide +kernel
  have hbehind : Outcome.cutFile? options.coloured 6 ((host.validateAll logger options.files).run bench).1 = none := by
    decide +kernel
  refine ⟨hrequest, hopened, haside, hlength, ?_⟩
  obtain ⟨_, _, said, last, ⟨⟩, _, hsaid, hline, _⟩ :=
    (cut_report_ends_run hrequest hopened haside 3 .deviceFull).2 (Nat.lt_trans (by decide) hlength)
  obtain ⟨_, _, before, _, ⟨⟩, _, hbefore, _, hsummary⟩ :=
    (cut_report_ends_run hrequest hopened haside 6 .deviceFull).2 hlength
  obtain ⟨hstatus, what, hlast, hwhat⟩ := hline fun hcut => Option.some_ne_none _ (hinLine.symm.trans hcut.2.2)
  obtain ⟨outcome, houtcome, hfile⟩ := hwhat rfl
  cases hinLine.symm.trans houtcome
  have hannouncement : last = [announcement] := by
    rw [hlast, hfile]
    decide
  obtain ⟨hstatus', hpanic⟩ := hsummary ⟨rfl, rfl, hbehind⟩
  exact ⟨hstatus, ⟨said, by rw [hsaid, hannouncement]⟩, hstatus', ⟨before, by rw [hbefore, hpanic]⟩⟩

/-- A file that is not there has no line among the verdicts. With a summary, the status of a run on a stream for
verdicts that takes nothing is not 1, and no line on the other stream begins with the word error. -/
theorem summary_cut_without_an_error :
    let arguments : List Bytes := [Utf8.encode "--summary".toList, [0x61]]
    let bench : Workbench := ofFiles ⟨[], []⟩ []
    let cut := programOnto (.limited 0 .deviceFull) arguments none bench
    CommandLine.request arguments = .ok (.run { files := [[0x61]], summary := true }) ∧
      0 < (programOnto .unlimited arguments none bench).2.streams.out.taken.length ∧
      cut.1 = 101 ∧
      ∀ line ∈ (Utf8.decode cut.2.streams.err.taken).lines, ¬ "error:".toList <+: line := by
  decide +kernel

end Overrule
