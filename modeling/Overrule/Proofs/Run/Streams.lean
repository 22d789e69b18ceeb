import Overrule.Proofs.Log.Threshold
import Overrule.Proofs.Report.Sinks
import Overrule.Proofs.Run.Status

namespace Overrule

open Workbench

/-- Between two states of a workbench some puts were written, all of them as a whole, and nothing else was done. -/
structure Wrote (puts : List Put) (bench after : Workbench) : Prop where
  elsewhere : after.withoutStreams = bench.withoutStreams
  taken : ∀ channel,
    after.streams.taken channel = bench.streams.taken channel ++ Utf8.encode (textsFor channel puts)

private theorem Wrote.refl (bench : Workbench) : Wrote [] bench bench :=
  ⟨rfl, fun _ => (List.append_nil _).symm⟩

private theorem Wrote.trans {first second : List Put} {bench between after : Workbench}
    (hfirst : Wrote first bench between)
    (hsecond : Wrote second between after) : Wrote (first ++ second) bench after := by
  refine ⟨hsecond.elsewhere.trans hfirst.elsewhere, fun channel => ?_⟩
  rw [hsecond.taken, hfirst.taken, textsFor_append, Utf8.encode_append, List.append_assoc]

private theorem wrote_write {put : Put} {bench after : Workbench} (hwrite : (write put).run bench = (none, after)) :
    Wrote [put] bench after := by
  obtain ⟨channel, text⟩ := put
  have hafter : after = ((write ⟨channel, text⟩).run bench).2 := by rw [hwrite]
  have helsewhere : after.withoutStreams = bench.withoutStreams := by rw [hafter, withoutStreams_write]
  cases channel with
  | out =>
    rcases htake : bench.streams.out.take (Utf8.encode text) with ⟨fault, out⟩
    simp only [write, Streams.write, StateT.run, htake] at hwrite
    cases hwrite
    refine ⟨helsewhere, fun channel => ?_⟩
    cases channel with
    | out => simpa [Streams.taken, textsFor] using Sink.taken_take htake
    | err => simp [Streams.taken, textsFor, Utf8.encode]
  | err =>
    rcases htake : bench.streams.err.take (Utf8.encode text) with ⟨fault, err⟩
    simp only [write, Streams.write, StateT.run, htake] at hwrite
    cases hwrite
    refine ⟨helsewhere, fun channel => ?_⟩
    cases channel with
    | out => simp [Streams.taken, textsFor, Utf8.encode]
    | err => simpa [Streams.taken, textsFor] using Sink.taken_take htake

theorem wrote_writeEach {puts : List Put} {bench after : Workbench}
    (hwrite : (writeEach host.write puts).run bench = (none, after)) : Wrote puts bench after := by
  induction puts generalizing bench with
  | nil =>
    cases hwrite
    exact .refl _
  | cons put puts ih =>
    rcases hfirst : (host.write put).run bench with ⟨fault, between⟩
    rw [writeEach, run_bind, hfirst] at hwrite
    cases fault with
    | none => exact (wrote_write hfirst).trans (ih hwrite)
    | some fault => cases hwrite

/-- A log that shows nothing of what is logged about a file, nor how a run ended. -/
structure Logger.Silent (logger : Logger) : Prop where
  file : ∀ stamp path content, ∀ entry ∈ Validation.entries path content, logger.line? stamp entry = none
  run : ∀ stamp fileCount failed duration,
    logger.line? stamp ⟨.runComplete fileCount failed duration, none⟩ = none

theorem Logger.silent_upTo {config : LogConfig} (hquiet : config.threshold.rank ≤ Level.warn.rank) :
    config.upTo.Silent := by
  refine ⟨fun stamp path content entry hentry => ?_, line?_upTo_runComplete config⟩
  have hown := Validation.own_of_mem_entries hentry
  rw [line?_upTo_of_own config stamp hown]
  have hapart : Level.warn.rank < Level.info.rank := by decide
  have hlevel : Level.info.rank ≤ entry.event.level.rank := hown.level
  have hhidden : config.threshold.admits entry.event.level = false := by
    simp only [Threshold.admits, decide_eq_false_iff_not]
    omega
  rw [hhidden]
  rfl

namespace Workbench

theorem note_run_of_hidden {logger : Logger} {entry : LogEntry} {bench : Workbench}
    (hhidden : logger.line? bench.stamp entry = none) : (host.note logger entry).run bench = ((), bench) := by
  have hstamp : host.now.run bench = (bench.stamp, bench) := rfl
  rw [Host.note, run_bind, hstamp, hhidden]
  rfl

private theorem noteAll_run_of_hidden {logger : Logger} {entries : List LogEntry} {bench : Workbench}
    (hhidden : ∀ entry ∈ entries, logger.line? bench.stamp entry = none) :
    (host.noteAll logger entries).run bench = ((), bench) := by
  induction entries with
  | nil => rfl
  | cons entry entries ih =>
    obtain ⟨hentry, hentries⟩ := List.forall_mem_cons.1 hhidden
    rw [Host.noteAll, run_bind, note_run_of_hidden hentry]
    exact ih hentries

private theorem validate_run_of_silent {logger : Logger} (hsilent : logger.Silent) (path : Path) (bench : Workbench) :
    (host.validate logger path).run bench = (bench.files.validate path, bench) := by
  have hread : (host.read path).run bench = (bench.files.read path, bench) := rfl
  rw [Host.validate, run_bind, hread, run_bind, noteAll_run_of_hidden (hsilent.file _ path _)]
  rfl

end Workbench

namespace Run

/-- If nothing is logged, a report as lines writes the lines about each file, in order, and nothing else. -/
theorem wrote_reportLines {logger : Logger} (hsilent : logger.Silent) {colour : Bool} {paths : List Path}
    {bench after : Workbench} {outcomes : List Outcome}
    (hrun : (reportLines host logger colour paths).run bench = (.ok outcomes, after)) :
    outcomes = bench.files.validateAll paths ∧ Wrote (outcomes.flatMap (·.lines colour)) bench after := by
  induction paths generalizing bench outcomes with
  | nil =>
    cases hrun
    exact ⟨rfl, .refl _⟩
  | cons path paths ih =>
    rcases hwritten : ((bench.files.validate path).write colour host.write).run bench with ⟨fault, written⟩
    rw [reportLines, run_bind, validate_run_of_silent hsilent, run_bind, hwritten] at hrun
    cases fault with
    | some fault => cases hrun
    | none =>
      have hlines : Wrote ((bench.files.validate path).lines colour) bench written := wrote_writeEach hwritten
      rcases hrest : (reportLines host logger colour paths).run written with ⟨result, ended⟩
      dsimp only at hrun
      rw [run_bind, hrest] at hrun
      cases result with
      | error failure => cases hrun
      | ok others =>
        cases hrun
        obtain ⟨rfl, hothers⟩ := ih hrest
        have hfiles : written.files = bench.files := (withoutStreams_eq_iff.1 hlines.elsewhere).1
        rw [hfiles] at hothers ⊢
        exact ⟨rfl, hlines.trans hothers⟩

theorem report_run_of_lines {options : Options} (hformat : options.format = .text)
    (hsummary : options.summary = false) (logger : Logger) (bench : Workbench) :
    (report host logger options).run bench =
      (reportLines host logger options.coloured options.files).run bench := by
  rcases hlines : (reportLines host logger options.coloured options.files).run bench with ⟨result, written⟩
  simp only [report, hformat]
  rw [run_bind, hlines]
  cases result with
  | error failure => rfl
  | ok outcomes =>
    simp only [hsummary]
    rfl

end Run
end Overrule
