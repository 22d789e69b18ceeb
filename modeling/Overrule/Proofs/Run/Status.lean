import Overrule.Program
import Overrule.Proofs.CommandLine.Files
import Overrule.Proofs.Report.Document
import Overrule.Proofs.Run.Related
import Overrule.Proofs.Run.Steps

namespace Overrule

open Workbench

namespace Run

def Failure.OfStream : Failure → Prop
  | .lines .. | .summary _ | .document (.serialize (.stream _)) | .document (.finish _) => True
  | .log _ | .table _ | .document (.serialize .pathNotText) => False

/-- A failure that comes from the streams of a workbench, which then do not take everything. -/
structure Blames (bench : Workbench) (failure : Failure) : Prop where
  ofStream : failure.OfStream
  not_endless : ¬ bench.Endless

private theorem Blames.before {bench after : Workbench} {failure : Failure} (h : Blames after failure)
    (hendless : bench.Endless → after.Endless) : Blames bench failure :=
  ⟨h.ofStream, fun hbench => h.not_endless (hendless hbench)⟩

/-- A run that no stream brought to its end: the streams took all that was to be reported. -/
def Unhindered (result : Except Failure (List Outcome)) : Prop :=
  ∀ failure, result = .error failure → ¬ failure.OfStream

def ending (options : Options) (outcomes : List Outcome) : Except Failure (List Outcome) :=
  match options.format with
  | .text =>
    match options.summary, Summary.lines outcomes false with
    | true, .error cause => .error (.table cause)
    | _, _ => .ok outcomes
  | .json =>
    if (Outcome.document outcomes).complete then .ok outcomes
    else .error (.document (.serialize .pathNotText))

def Failure.status (failure : Failure) : Nat :=
  match failure.announcement with
  | .error _ => 101
  | .ok _ => 1

def Failure.told (failure : Failure) (site : PanicSite) : List Text :=
  match failure.announcement with
  | .error panic => panic.lines site
  | .ok message => ["error: ".toList ++ message]

private def statusOf : Except Failure (List Outcome) → Nat
  | .ok outcomes => status outcomes
  | .error failure => failure.status

private theorem keeps_withoutStreams_writeEach (view : Workbench) (puts : List Put) :
    Keeps (fun bench => bench.withoutStreams = view) (writeEach host.write puts) := by
  induction puts with
  | nil => exact .pure _ none
  | cons put puts ih =>
    refine Keeps.bind (fun bench hview => (withoutStreams_write put bench).trans hview) fun fault => ?_
    cases fault with
    | none => exact ih
    | some fault => exact .pure _ (some fault)

theorem obliging_outcome_write (outcome : Outcome) (colour : Bool) :
    Obliging (outcome.write colour host.write) :=
  obliging_writeEach obliging_write (outcome.lines colour)

private theorem related_keeps_endless : Related host host fun step _ => Keeps Endless step where
  pure := .pure Endless
  bind := .bind
  read _ _ h := h
  write put := (obliging_write put).keeps
  log := keeps_endless_log
  now _ h := h
  elapsed _ h := h
  panicSite _ _ h := h

private theorem reportLines_cons {logger : Logger} {colour : Bool} {path : Path} (paths : List Path)
    {bench validated written : Workbench} {outcome : Outcome} {fault : Option SystemError}
    (hvalidated : (host.validate logger path).run bench = (outcome, validated))
    (hwritten : (outcome.write colour host.write).run validated = (fault, written)) :
    ((reportLines host logger colour (path :: paths)).run bench).1 =
      fault.elim (((reportLines host logger colour paths).run written).1.map (outcome :: ·))
        fun fault => .error (.lines path fault) := by
  rw [reportLines, run_bind, hvalidated, run_bind, hwritten]
  cases fault <;> rfl

/-- A report as lines gives the outcomes that validating the files without a report gives, unless a line could not
be written. -/
theorem reportLines_cases (logger : Logger) (colour : Bool) (paths : List Path) (bench : Workbench) :
    (∃ failure, ((reportLines host logger colour paths).run bench).1 = .error failure ∧ Blames bench failure) ∨
      ((reportLines host logger colour paths).run bench).1 =
        .ok ((host.validateAll logger paths).run bench).1 := by
  induction paths generalizing bench with
  | nil => exact .inr rfl
  | cons path paths ih =>
    rcases hvalidated : (host.validate logger path).run bench with ⟨outcome, validated⟩
    rcases hwritten : (outcome.write colour host.write).run validated with ⟨fault, written⟩
    have hview : written.withoutStreams = validated.withoutStreams :=
      (keeps_withoutStreams_writeEach validated.withoutStreams _).of_run_eq hwritten rfl
    have hobliging := obliging_outcome_write outcome colour
    have hendless := (keeps_validate keeps_endless_log logger path).of_run_eq hvalidated
    rw [reportLines_cons paths hvalidated hwritten, validateAll_cons paths hvalidated hview]
    cases fault with
    | some fault => exact .inl ⟨_, rfl, trivial, fun h => hobliging.not_endless hwritten (hendless h)⟩
    | none =>
      rcases ih written with ⟨failure, hfailure, hblames⟩ | hreported
      · refine .inl ⟨failure, by rw [Option.elim_none, hfailure]; rfl, hblames.before fun h => ?_⟩
        exact (hobliging.of_run_eq hwritten (hendless h)).2
      · exact .inr (by rw [Option.elim_none, hreported]; rfl)

/-- The summary is written as soon as all paths in it can be measured, unless a stream does not take it. -/
theorem writeSummary_cases (outcomes : List Outcome) (bench : Workbench) :
    (∃ failure, ((writeSummary host outcomes).run bench).1 = some failure ∧ Blames bench failure) ∨
      ((writeSummary host outcomes).run bench).1 = match Summary.lines outcomes false with
        | .error cause => some (.table cause)
        | .ok _ => none := by
  have hobliging : Obliging (host.write ⟨.out, ['\n']⟩) := obliging_write _
  rcases hfirst : (host.write ⟨.out, ['\n']⟩).run bench with ⟨fault, begun⟩
  rw [writeSummary, run_bind, hfirst]
  cases fault with
  | some fault => exact .inl ⟨_, rfl, trivial, hobliging.not_endless hfirst⟩
  | none =>
    cases Summary.lines outcomes false with
    | error cause => exact .inr rfl
    | ok lines =>
      rcases hrest : (writeEach host.write (lines.map fun line => ⟨.out, line ++ ['\n']⟩)).run begun with
        ⟨fault, written⟩
      dsimp only
      rw [run_bind, hrest]
      cases fault with
      | some fault =>
        refine .inl ⟨_, rfl, trivial, fun h => ?_⟩
        exact (obliging_writeEach obliging_write _).not_endless hrest (hobliging.of_run_eq hfirst h).2
      | none => exact .inr rfl

/-- A document is written to its end as soon as all paths in it are text, unless a stream does not take it. -/
theorem writeDocument_cases (outcomes : List Outcome) (bench : Workbench) :
    (∃ error, ((Outcome.writeDocument outcomes fun text => host.write ⟨.out, text⟩).run bench).1 = some error ∧
        Blames bench (.document error)) ∨
      ((Outcome.writeDocument outcomes fun text => host.write ⟨.out, text⟩).run bench).1 =
        if (Outcome.document outcomes).complete then none else some (.serialize .pathNotText) := by
  have hobliging (text : Text) : Obliging (host.write ⟨.out, text⟩) := obliging_write _
  rcases hpieces : (writeEach (fun text => host.write ⟨.out, text⟩) (Outcome.document outcomes).pieces).run bench
    with ⟨fault, written⟩
  have hall := obliging_writeEach hobliging (Outcome.document outcomes).pieces
  rw [Outcome.writeDocument, run_bind, hpieces]
  cases fault with
  | some fault => exact .inl ⟨_, rfl, trivial, hall.not_endless hpieces⟩
  | none =>
    cases (Outcome.document outcomes).complete with
    | false => exact .inr rfl
    | true =>
      rcases hlast : (host.write ⟨.out, ['\n']⟩).run written with ⟨fault, ended⟩
      dsimp only
      rw [if_pos rfl, run_bind, hlast]
      cases fault with
      | some fault =>
        refine .inl ⟨_, rfl, trivial, fun h => ?_⟩
        exact (hobliging ['\n']).not_endless hlast (hall.of_run_eq hpieces h).2
      | none => exact .inr rfl

/-- Whatever is asked for, a run gives the outcomes of validating the files and nothing else, unless the report
cannot be written. -/
theorem report_cases (logger : Logger) (options : Options) (bench : Workbench) :
    (∃ failure, ((report host logger options).run bench).1 = .error failure ∧ Blames bench failure) ∨
      ((report host logger options).run bench).1 =
        ending options ((host.validateAll logger options.files).run bench).1 := by
  cases hformat : options.format with
  | text =>
    have hreported := reportLines_cases logger options.coloured options.files bench
    rcases hlines : (reportLines host logger options.coloured options.files).run bench with ⟨result, written⟩
    have hendless := (related_keeps_endless.reportLines logger options.coloured options.files).of_run_eq hlines
    simp only [report, ending, hformat]
    rw [run_bind, hlines]
    rw [hlines] at hreported
    rcases hreported with ⟨failure, rfl, hblames⟩ | rfl
    · exact .inl ⟨failure, rfl, hblames⟩
    generalize ((host.validateAll logger options.files).run bench).1 = outcomes
    cases options.summary with
    | false => exact .inr rfl
    | true =>
      rcases hsummary : (writeSummary host outcomes).run written with ⟨fault, ended⟩
      have hwritten := writeSummary_cases outcomes written
      rw [hsummary] at hwritten
      dsimp only
      rw [if_pos rfl, run_bind, hsummary]
      rcases hwritten with ⟨failure, rfl, hblames⟩ | rfl
      · exact .inl ⟨failure, rfl, hblames.before hendless⟩
      · refine .inr ?_
        cases Summary.lines outcomes false <;> rfl
  | json =>
    rcases hvalidated : (host.validateAll logger options.files).run bench with ⟨outcomes, validated⟩
    have hendless := (keeps_validateAll keeps_endless_log logger options.files).of_run_eq hvalidated
    rcases hwritten : (Outcome.writeDocument outcomes fun text => host.write ⟨.out, text⟩).run validated
      with ⟨error, written⟩
    have hdocument := writeDocument_cases outcomes validated
    simp only [report, ending, hformat]
    rw [run_bind, hvalidated, run_bind, hwritten]
    rw [hwritten] at hdocument
    rcases hdocument with ⟨cause, rfl, hblames⟩ | rfl
    · exact .inl ⟨_, rfl, hblames.before hendless⟩
    · refine .inr ?_
      cases (Outcome.document outcomes).complete <;> rfl

theorem attempt_cases {options : Options} {environment : Option Text} {bench opened : Workbench}
    {logger : Logger}
    (hopened : (host.openLogger options.logConfig environment none).run bench = (.ok logger, opened)) :
    (∃ failure, ((attempt host options environment).run bench).1 = .error failure ∧ Blames opened failure) ∨
      ((attempt host options environment).run bench).1 =
        ending options ((host.validateAll logger options.files).run opened).1 := by
  have hreport := report_cases logger options opened
  rcases hreported : (report host logger options).run opened with ⟨result, reported⟩
  rw [hreported] at hreport
  rw [attempt, run_bind, hopened, run_bind, hreported]
  rcases hreport with ⟨failure, rfl, hblames⟩ | rfl
  · exact .inl ⟨failure, rfl, hblames⟩
  · refine .inr ?_
    cases ending options ((host.validateAll logger options.files).run opened).1 <;> rfl

private theorem Failure.not_ofStream_of_ending {options : Options} {outcomes : List Outcome} {failure : Failure}
    (h : ending options outcomes = .error failure) : ¬ failure.OfStream := by
  rw [ending] at h
  split at h
  · split at h
    · cases h
      exact not_false
    · cases h
  · split at h
    · cases h
    · cases h
      exact not_false

theorem unhindered_of_endless {options : Options} {environment : Option Text} {bench opened : Workbench}
    {logger : Logger}
    (hopened : (host.openLogger options.logConfig environment none).run bench = (.ok logger, opened))
    (hendless : bench.Endless) : Unhindered ((attempt host options environment).run bench).1 := by
  have hopenedEndless := (keeps_endless_openLogger _ _ _).of_run_eq hopened hendless
  rcases attempt_cases hopened with ⟨_, _, hblames⟩ | hending
  · exact absurd hopenedEndless hblames.not_endless
  · intro failure hfailure
    exact Failure.not_ofStream_of_ending (hending.symm.trans hfailure)

/-- The stream for errors takes the line on a failure, if a run ends with one that is told in words. -/
def Announced (attempted : Except Failure (List Outcome) × Workbench) : Prop :=
  ∀ failure message, attempted.1 = .error failure → failure.announcement = .ok message →
    ((write ⟨.err, "error: ".toList ++ message ++ ['\n']⟩).run attempted.2).1 = none

private theorem announced_of_endless (options : Options) (environment : Option Text) {bench : Workbench}
    (hendless : bench.Endless) : Announced ((attempt host options environment).run bench) := by
  have hopen (path : Path) : Keeps Endless (openLog path) := fun bench h => by
    rwa [Endless, streams_openLog]
  intro failure message _ _
  exact (obliging_write _ _ (related_keeps_endless.attempt hopen options environment bench hendless)).1

private theorem fail_run_of_announced {failure : Failure} {bench : Workbench} (h : Announced (.error failure, bench)) :
    ((fail host failure).run bench).1 = failure.status := by
  rw [fail, Failure.status]
  cases hannouncement : failure.announcement with
  | error panic => rfl
  | ok message =>
    have hwritten := h failure message rfl hannouncement
    rcases hrun : (host.write ⟨.err, "error: ".toList ++ message ++ ['\n']⟩).run bench with ⟨fault, after⟩
    cases (congrArg Prod.fst hrun).symm.trans hwritten
    dsimp only
    rw [run_bind, hrun]
    rfl

private theorem status_eq (outcomes : List Outcome) :
    status outcomes = if ∀ outcome ∈ outcomes, outcome.isSuccess = true then 0 else 1 := by
  simp only [status, Outcome.allPassed, List.all_eq_true]

end Run

private theorem run_eq_of_announced {options : Options} {environment : Option Text} {bench : Workbench}
    (h : Run.Announced ((Run.attempt host options environment).run bench)) :
    ((run host options environment).run bench).1 =
      Run.statusOf ((Run.attempt host options environment).run bench).1 := by
  rcases hattempt : (Run.attempt host options environment).run bench with ⟨result, ended⟩
  rw [hattempt] at h
  rw [run, run_bind, hattempt]
  cases result with
  | ok outcomes => rfl
  | error failure => exact Run.fail_run_of_announced h

private theorem run_eq_of_unhindered {options : Options} {environment : Option Text} {bench opened : Workbench}
    {logger : Logger}
    (hopened : (host.openLogger options.logConfig environment none).run bench = (.ok logger, opened))
    (h : Run.Unhindered ((Run.attempt host options environment).run bench).1)
    (hannounced : Run.Announced ((Run.attempt host options environment).run bench)) :
    ((run host options environment).run bench).1 =
      Run.statusOf (Run.ending options ((host.validateAll logger options.files).run opened).1) := by
  rcases Run.attempt_cases hopened with ⟨failure, hfailure, hblames⟩ | hending
  · exact absurd hblames.ofStream (h failure hfailure)
  · rw [run_eq_of_announced hannounced, hending]

/-- If the log is opened and the streams take all that is written, the status tells whether all files passed, each as
it was when its turn came; files other than the log are as they were from the beginning. A document has to hold the
paths as text, and a summary has to measure them: if that cannot be done, the status is that of a failure even if all
files passed. -/
theorem status_tells_verdict {bench opened : Workbench} {logger : Logger} (options : Options)
    (environment : Option Text)
    (hopened : (host.openLogger options.logConfig environment none).run bench = (.ok logger, opened))
    (arguments : ReportFormat → List Bytes)
    (hrequest : ∀ format, CommandLine.request (arguments format) = .ok (.run { options with format })) :
    let outcomes := ((host.validateAll logger options.files).run opened).1
    let status (format : ReportFormat) := ((program host (arguments format) environment).run bench).1
    let taken (format : ReportFormat) :=
      let attempted := (Run.attempt host { options with format } environment).run bench
      Run.Unhindered attempted.1 ∧ Run.Announced attempted
    (taken .text → status .text =
        if options.summary = true ∧ (Summary.lines outcomes false).isOk = false then 101
        else if ∀ outcome ∈ outcomes, outcome.isSuccess = true then 0 else 1) ∧
      (taken .json → status .json =
        if (∀ outcome ∈ outcomes, outcome.isSuccess = true) ∧ ∀ path ∈ options.files, Utf8.IsText path then 0
        else 1) ∧
      ((∀ path ∈ options.files, ∀ place, opened.logTarget = .file place → opened.files.locate path ≠ .ok place) →
        outcomes = opened.files.validateAll options.files) := by
  intro outcomes status taken
  have hstatus (format : ReportFormat) (htaken : taken format) :
      status format = Run.statusOf (Run.ending { options with format } outcomes) := by
    have hopened : (host.openLogger ({ options with format } : Options).logConfig environment none).run bench =
        (.ok logger, opened) := hopened
    simp only [status, program, hrequest]
    exact run_eq_of_unhindered hopened htaken.1 htaken.2
  refine ⟨fun htaken => ?_, fun htaken => ?_, fun hpaths => ?_⟩
  · rw [hstatus .text htaken, ← Run.status_eq]
    dsimp only [Run.ending]
    cases options.summary with
    | false => simp [Run.statusOf]
    | true =>
      cases Summary.lines outcomes false with
      | error cause => simp [Run.statusOf, Except.isOk, Except.toBool, Run.Failure.status, Run.Failure.announcement]
      | ok lines => simp [Run.statusOf, Except.isOk, Except.toBool]
  · have hcomplete : (Outcome.document outcomes).complete = true ↔ ∀ path ∈ options.files, Utf8.IsText path := by
      rw [Outcome.complete_document_iff, ← List.forall_mem_map, map_path_validateAll]
    rw [hstatus .json htaken]
    dsimp only [Run.ending]
    by_cases htext : ∀ path ∈ options.files, Utf8.IsText path
    · rw [if_pos (hcomplete.2 htext), ← if_congr (and_iff_left htext).symm rfl rfl]
      exact Run.status_eq outcomes
    · rw [if_neg (mt hcomplete.1 htext), if_neg fun hall => htext hall.2]
      rfl
  · exact (OnlyLogged.refl opened).validateAll_eq logger hpaths

/-- Two files without collisions, one with a path that is no text. As lines they pass; as a document they do not. -/
theorem status_of_latin_path :
    let plain : Path := [0x61]
    let latin : Path := [0xE9]
    let rule : Bytes := Utf8.encode "RewriteRule /a /b [L]".toList
    let tree : FileTree := ⟨[([plain], .file rule), ([latin], .file [])], []⟩
    let bench : Workbench := ofFiles tree []
    let options : Options := { files := [plain, latin] }
    let logger : Logger := ⟨options.logConfig, .upTo (.upTo .warn)⟩
    let status (format : ReportFormat) :=
      ((program host (CommandLine.fileArguments format options.files) none).run bench).1
    (host.openLogger options.logConfig none none).run bench = (.ok logger, bench) ∧
      (∀ format, CommandLine.request (CommandLine.fileArguments format options.files) =
        .ok (.run { options with format })) ∧
      (∀ format, Run.Unhindered ((Run.attempt host { options with format } none).run bench).1 ∧
        Run.Announced ((Run.attempt host { options with format } none).run bench)) ∧
      (∀ path ∈ options.files, (tree.validate path).isSuccess = true) ∧
      status .text = 0 ∧ status .json = 1 := by
  intro plain latin rule tree bench options logger status
  have hopened : (host.openLogger options.logConfig none none).run bench = (.ok logger, bench) := by rfl
  have hrequest (format : ReportFormat) := CommandLine.request_fileArguments format
    (show options.files ≠ [] by decide) (by decide)
  have htaken (format : ReportFormat) :
      Run.Unhindered ((Run.attempt host { options with format } none).run bench).1 ∧
        Run.Announced ((Run.attempt host { options with format } none).run bench) :=
    ⟨Run.unhindered_of_endless hopened ⟨rfl, rfl⟩, Run.announced_of_endless _ none ⟨rfl, rfl⟩⟩
  obtain ⟨htext, hjson, hfiles⟩ := status_tells_verdict options none hopened
    (fun format => CommandLine.fileArguments format options.files) hrequest
  have houtcomes := hfiles (by intro path hpath place htarget; cases htarget)
  have hpass : ∀ path ∈ options.files, (tree.validate path).isSuccess = true := by decide
  refine ⟨hopened, hrequest, htaken, hpass, ?_, ?_⟩
  · refine (htext (htaken .text)).trans ?_
    rw [houtcomes]
    decide
  · refine (hjson (htaken .json)).trans ?_
    rw [houtcomes]
    decide

/-- A file that passes, with a path that is no text: asked for a document, the program does not end with status 0. -/
theorem status_json_of_path_not_text :
    let path : Path := [0xFF]
    let tree : FileTree := ⟨[([path], .file [])], []⟩
    let bench : Workbench := ofFiles tree []
    (tree.validate path).isSuccess = true ∧
      ((program host (CommandLine.fileArguments .text [path]) none).run bench).1 = 0 ∧
      ((program host (CommandLine.fileArguments .json [path]) none).run bench).1 = 1 := by
  decide +kernel

end Overrule
