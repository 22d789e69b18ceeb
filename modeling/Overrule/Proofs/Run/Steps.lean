import Overrule.Proofs.Files.Append
import Overrule.Run

namespace Overrule.Workbench

variable {α β : Type}

def withoutStreams (bench : Workbench) : Workbench := { bench with streams := ⟨.unlimited, .unlimited⟩ }

/-- A step that does not look at the streams: whatever was written to them, it gives the same and does the same
elsewhere. -/
def IgnoresStreams (step : StateM Workbench α) : Prop :=
  ∀ bench other : Workbench, bench.withoutStreams = other.withoutStreams →
    (step.run bench).1 = (step.run other).1 ∧
      (step.run bench).2.withoutStreams = (step.run other).2.withoutStreams

/-- A step after which something still holds of the workbench. -/
def Keeps (kept : Workbench → Prop) (step : StateM Workbench α) : Prop :=
  ∀ bench, kept bench → kept (step.run bench).2

private theorem IgnoresStreams.pure (value : α) : IgnoresStreams (Pure.pure value : StateM Workbench α) :=
  fun _ _ hsame => ⟨rfl, hsame⟩

private theorem IgnoresStreams.bind {step : StateM Workbench α} {next : α → StateM Workbench β}
    (hstep : IgnoresStreams step) (hnext : ∀ value, IgnoresStreams (next value)) :
    IgnoresStreams (step >>= next) := by
  intro bench other hsame
  obtain ⟨hvalue, hafter⟩ := hstep bench other hsame
  rw [run_bind, run_bind, ← hvalue]
  exact hnext _ _ _ hafter

theorem Keeps.pure (kept : Workbench → Prop) (value : α) :
    Keeps kept (Pure.pure value : StateM Workbench α) := fun _ hkept => hkept

theorem Keeps.bind {kept : Workbench → Prop} {step : StateM Workbench α} {next : α → StateM Workbench β}
    (hstep : Keeps kept step) (hnext : ∀ value, Keeps kept (next value)) : Keeps kept (step >>= next) := by
  intro bench hkept
  rw [run_bind]
  exact hnext _ _ (hstep bench hkept)

theorem Keeps.of_run_eq {kept : Workbench → Prop} {step : StateM Workbench α} (h : Keeps kept step)
    {bench after : Workbench} {value : α} (hrun : step.run bench = (value, after)) (hkept : kept bench) :
    kept after := by
  have hafter := h bench hkept
  rwa [hrun] at hafter

theorem withoutStreams_eq_iff {bench other : Workbench} :
    bench.withoutStreams = other.withoutStreams ↔ bench.files = other.files ∧
      bench.logTarget = other.logTarget ∧ bench.stamp = other.stamp ∧ bench.elapsed = other.elapsed ∧
        bench.panicSite = other.panicSite := by
  simp [withoutStreams]

@[simp] theorem withoutStreams_write (put : Put) (bench : Workbench) :
    ((write put).run bench).2.withoutStreams = bench.withoutStreams := rfl

private theorem ignoresStreams_log (text : Text) : IgnoresStreams (log text) := by
  rintro ⟨files, streams, logTarget, stamp, elapsed, site⟩ ⟨files', streams', logTarget', stamp', elapsed', site'⟩ hsame
  obtain ⟨rfl, rfl, rfl, rfl, rfl⟩ := withoutStreams_eq_iff.1 hsame
  refine ⟨rfl, ?_⟩
  cases logTarget with
  | stream channel => rfl
  | file place => rfl

private theorem ignoresStreams_note (logger : Logger) (entry : LogEntry) : IgnoresStreams (host.note logger entry) := by
  refine IgnoresStreams.bind (fun bench other hsame => ?_) fun stamp => ?_
  · exact ⟨(withoutStreams_eq_iff.1 hsame).2.2.1, hsame⟩
  · cases logger.line? stamp entry with
    | none => exact .pure ()
    | some line => exact ignoresStreams_log _

private theorem ignoresStreams_noteAll (logger : Logger) (entries : List LogEntry) :
    IgnoresStreams (host.noteAll logger entries) := by
  induction entries with
  | nil => exact .pure ()
  | cons entry entries ih => exact (ignoresStreams_note logger entry).bind fun _ => ih

private theorem ignoresStreams_validate (logger : Logger) (path : Path) :
    IgnoresStreams (host.validate logger path) := by
  refine IgnoresStreams.bind (fun bench other hsame => ?_) fun content => ?_
  · exact ⟨congrArg (·.read path) (withoutStreams_eq_iff.1 hsame).1, hsame⟩
  · exact (ignoresStreams_noteAll logger _).bind fun _ => .pure _

theorem ignoresStreams_validateAll (logger : Logger) (paths : List Path) :
    IgnoresStreams (host.validateAll logger paths) := by
  induction paths with
  | nil => exact .pure []
  | cons path paths ih =>
    exact (ignoresStreams_validate logger path).bind fun _ => ih.bind fun _ => .pure _

theorem validateAll_cons {logger : Logger} {path : Path} (paths : List Path) {bench validated after : Workbench}
    {outcome : Outcome} (hvalidated : (host.validate logger path).run bench = (outcome, validated))
    (hview : after.withoutStreams = validated.withoutStreams) :
    ((host.validateAll logger (path :: paths)).run bench).1 =
      outcome :: ((host.validateAll logger paths).run after).1 := by
  rw [(ignoresStreams_validateAll logger paths after validated hview).1, Host.validateAll, run_bind, hvalidated]
  rfl

theorem map_path_validateAll (logger : Logger) (paths : List Path) (bench : Workbench) :
    ((host.validateAll logger paths).run bench).1.map Outcome.path = paths := by
  induction paths generalizing bench with
  | nil => rfl
  | cons path paths ih =>
    have hothers := ih ((host.validate logger path).run bench).2
    exact congrArg (path :: ·) hothers

section Logging

variable {kept : Workbench → Prop} (hlog : ∀ text, Keeps kept (log text))

include hlog

private theorem keeps_note (logger : Logger) (entry : LogEntry) : Keeps kept (host.note logger entry) := by
  refine Keeps.bind (fun _ hkept => hkept) fun stamp => ?_
  cases logger.line? stamp entry with
  | none => exact .pure kept ()
  | some line => exact hlog _

theorem keeps_noteAll (logger : Logger) (entries : List LogEntry) : Keeps kept (host.noteAll logger entries) := by
  induction entries with
  | nil => exact .pure kept ()
  | cons entry entries ih => exact (keeps_note hlog logger entry).bind fun _ => ih

theorem keeps_validate (logger : Logger) (path : Path) : Keeps kept (host.validate logger path) := by
  refine Keeps.bind (fun _ hkept => hkept) fun content => ?_
  exact (keeps_noteAll hlog logger _).bind fun _ => .pure kept _

theorem keeps_validateAll (logger : Logger) (paths : List Path) : Keeps kept (host.validateAll logger paths) := by
  induction paths with
  | nil => exact .pure kept []
  | cons path paths ih =>
    exact (keeps_validate hlog logger path).bind fun _ => ih.bind fun _ => .pure kept _

end Logging

/-- Streams that take everything. -/
def Endless (bench : Workbench) : Prop := bench.streams.out.room = none ∧ bench.streams.err.room = none

/-- A step that writes something and can do so on streams that take everything. -/
def Obliging (step : StateM Workbench (Option SystemError)) : Prop :=
  ∀ bench, bench.Endless → (step.run bench).1 = none ∧ (step.run bench).2.Endless

theorem Obliging.of_run_eq {step : StateM Workbench (Option SystemError)} (h : Obliging step)
    {bench after : Workbench} {fault : Option SystemError} (hrun : step.run bench = (fault, after))
    (hendless : bench.Endless) : fault = none ∧ after.Endless := by
  have hafter := h bench hendless
  rwa [hrun] at hafter

theorem Obliging.keeps {step : StateM Workbench (Option SystemError)} (h : Obliging step) :
    Keeps Endless step := fun bench hendless => (h bench hendless).2

theorem Obliging.not_endless {step : StateM Workbench (Option SystemError)} (h : Obliging step)
    {bench after : Workbench} {fault : SystemError} (hrun : step.run bench = (some fault, after)) :
    ¬ bench.Endless := by
  intro hendless
  exact Option.some_ne_none fault (h.of_run_eq hrun hendless).1

theorem obliging_write (put : Put) : Obliging (write put) := by
  rintro bench ⟨hout, herr⟩
  obtain ⟨channel, text⟩ := put
  cases channel with
  | out => simp [write, Streams.write, Sink.take, StateT.run, hout, herr, Endless]
  | err => simp [write, Streams.write, Sink.take, StateT.run, hout, herr, Endless]

theorem obliging_writeEach {write : α → StateM Workbench (Option SystemError)}
    (hwrite : ∀ thing, Obliging (write thing)) (things : List α) : Obliging (writeEach write things) := by
  induction things with
  | nil => exact fun bench hendless => ⟨rfl, hendless⟩
  | cons thing things ih =>
    intro bench hendless
    obtain ⟨hnone, hafter⟩ := hwrite thing bench hendless
    rw [writeEach, run_bind, hnone]
    exact ih _ hafter

theorem keeps_endless_log (text : Text) : Keeps Endless (log text) := by
  rintro ⟨files, streams, logTarget, stamp, elapsed, site⟩ h
  cases logTarget with
  | stream channel => exact (obliging_write ⟨channel, text⟩ _ h).2
  | file place => exact h

private theorem keeps_openLogger {kept : Workbench → Prop} (hopen : ∀ path, Keeps kept (openLog path))
    (config : LogConfig) (environment : Option Text) (current : Option Logger) :
    Keeps kept (host.openLogger config environment current) := by
  rw [Host.openLogger]
  cases config.file with
  | some path =>
    refine (hopen path).bind fun fault => ?_
    dsimp only
    split <;> exact .pure _ _
  | none =>
    refine (Keeps.pure kept none).bind fun fault => ?_
    dsimp only
    split <;> exact .pure _ _

theorem logger_of_openLogger {config : LogConfig} {environment : Option Text} {current : Option Logger}
    {bench opened : Workbench} {logger : Logger}
    (hopened : (host.openLogger config environment current).run bench = (.ok logger, opened)) :
    config.logger environment = .ok logger := by
  rw [Host.openLogger] at hopened
  generalize config.logger environment = found at hopened ⊢
  cases hfile : config.file with
  | some path =>
    simp only [hfile] at hopened
    rw [run_bind] at hopened
    split at hopened <;> cases hopened
    rfl
  | none =>
    simp only [hfile] at hopened
    rw [run_bind] at hopened
    split at hopened <;> cases hopened
    rfl

theorem streams_openLog (path : Path) (bench : Workbench) :
    ((openLog path).run bench).2.streams = bench.streams := by
  simp only [StateT.run, openLog]
  split <;> rfl

theorem keeps_streams_openLogger (kept : Streams → Prop) (config : LogConfig) (environment : Option Text)
    (current : Option Logger) :
    Keeps (fun bench => kept bench.streams) (host.openLogger config environment current) := by
  refine keeps_openLogger (fun path bench hkept => ?_) config environment current
  rwa [streams_openLog]

private theorem ignoresStreams_openLog (path : Path) : IgnoresStreams (openLog path) := by
  rintro ⟨files, streams, logTarget, stamp, elapsed, site⟩ ⟨files', streams', logTarget', stamp', elapsed', site'⟩ hsame
  obtain ⟨rfl, rfl, rfl, rfl, rfl⟩ := withoutStreams_eq_iff.1 hsame
  simp only [StateT.run, openLog]
  split <;> exact ⟨rfl, rfl⟩

private theorem ignoresStreams_openLogger (config : LogConfig) (environment : Option Text) (current : Option Logger) :
    IgnoresStreams (host.openLogger config environment current) := by
  rw [Host.openLogger]
  cases config.file with
  | some path =>
    refine (ignoresStreams_openLog path).bind fun fault => ?_
    dsimp only
    split <;> exact .pure _
  | none =>
    refine (IgnoresStreams.pure none).bind fun fault => ?_
    dsimp only
    split <;> exact .pure _

theorem openLogger_run_of_streams {config : LogConfig} {environment : Option Text} {current : Option Logger}
    {bench opened : Workbench} {opening : Except LogError Logger}
    (hopened : (host.openLogger config environment current).run bench = (opening, opened)) (streams : Streams) :
    (host.openLogger config environment current).run { bench with streams } = (opening, { opened with streams }) := by
  rcases hother : (host.openLogger config environment current).run { bench with streams } with ⟨other, after⟩
  obtain ⟨hvalue, hafter⟩ := ignoresStreams_openLogger config environment current bench { bench with streams } rfl
  have hkept : after.streams = streams :=
    (keeps_streams_openLogger (· = streams) config environment current).of_run_eq hother rfl
  rw [hopened, hother] at hvalue hafter
  obtain ⟨hfiles, htarget, hstamp, helapsed, hsite⟩ := withoutStreams_eq_iff.1 hafter
  obtain ⟨files, _, logTarget, stamp, elapsed, site⟩ := after
  subst hkept
  dsimp only at hvalue hfiles htarget hstamp helapsed hsite
  rw [hvalue, hfiles, htarget, hstamp, helapsed, hsite]

theorem keeps_endless_openLogger (config : LogConfig) (environment : Option Text) (current : Option Logger) :
    Keeps Endless (host.openLogger config environment current) :=
  keeps_streams_openLogger (fun streams => streams.out.room = none ∧ streams.err.room = none) config environment
    current

def SameButLog : LogTarget → FileTree → FileTree → Prop
  | .stream _, tree, other => other = tree
  | .file place, tree, other => FileTree.SameBut place tree other

/-- Nothing but the log was written since the files of a workbench were as in a tree. -/
structure OnlyLogged (tree : FileTree) (target : LogTarget) (bench : Workbench) : Prop where
  logTarget : bench.logTarget = target
  files : SameButLog target tree bench.files

theorem OnlyLogged.refl (bench : Workbench) : OnlyLogged bench.files bench.logTarget bench := by
  refine ⟨rfl, ?_⟩
  cases bench.logTarget with
  | stream channel => rfl
  | file place => exact .refl place bench.files

theorem keeps_onlyLogged_log (tree : FileTree) (target : LogTarget) (text : Text) :
    Keeps (OnlyLogged tree target) (log text) := by
  rintro ⟨files, streams, logTarget, stamp, elapsed, site⟩ ⟨rfl, hfiles⟩
  cases logTarget with
  | stream channel => exact ⟨rfl, hfiles⟩
  | file place => exact ⟨rfl, hfiles.trans (FileTree.sameBut_append files place _)⟩

theorem OnlyLogged.read_eq {tree : FileTree} {target : LogTarget} {bench : Workbench}
    (h : OnlyLogged tree target bench) {path : Path}
    (hpath : ∀ place, target = .file place → tree.locate path ≠ .ok place) :
    bench.files.read path = tree.read path := by
  cases target with
  | stream channel => rw [h.files]
  | file place => exact (FileTree.SameBut.read_eq h.files (hpath place rfl)).symm

/-- Files other than the log have the outcomes that the tree gives them before any of them is validated. -/
theorem OnlyLogged.validateAll_eq {tree : FileTree} {target : LogTarget} {bench : Workbench}
    (h : OnlyLogged tree target bench) (logger : Logger) {paths : List Path}
    (hpaths : ∀ path ∈ paths, ∀ place, target = .file place → tree.locate path ≠ .ok place) :
    ((host.validateAll logger paths).run bench).1 = tree.validateAll paths := by
  induction paths generalizing bench with
  | nil => rfl
  | cons path paths ih =>
    obtain ⟨hpath, hpaths⟩ := List.forall_mem_cons.1 hpaths
    have hfirst : ((host.validate logger path).run bench).1 = tree.validate path := by
      rw [outcome_validate, FileTree.validate, FileTree.validate, h.read_eq hpath]
    have hothers := ih (keeps_validate (keeps_onlyLogged_log tree target) logger path bench h) hpaths
    exact congrArg₂ List.cons hfirst hothers

end Overrule.Workbench
