import Overrule.Proofs.Files.Append
import Overrule.Proofs.Run.Related
import Overrule.Proofs.Run.Steps

namespace Overrule

structure FileReading where
  path : Path
  content : Except SystemError Bytes

namespace FileReading

def entries (reading : FileReading) : List LogEntry := Validation.entries reading.path reading.content

def outcome (reading : FileReading) : Outcome := Validation.outcome reading.path reading.content

end FileReading

/-- A workbench with a record of what was read there and of what was written to the log. -/
structure Recorded where
  bench : Workbench
  reads : List FileReading
  logged : List Text

namespace Recorded

variable {α β : Type}

def onBench (step : StateM Workbench α) : StateM Recorded α := fun record =>
  ((step.run record.bench).1, { record with bench := (step.run record.bench).2 })

def host : Host (StateM Recorded) where
  read path := fun record =>
    let content := record.bench.files.read path
    (content, { record with reads := record.reads ++ [⟨path, content⟩] })
  write put := onBench (Workbench.write put)
  openLog path := onBench (Workbench.openLog path)
  log text := fun record =>
    ((), { record with bench := ((Workbench.log text).run record.bench).2, logged := record.logged ++ [text] })
  now := onBench Workbench.host.now
  elapsed := onBench Workbench.host.elapsed
  panicSite panic := onBench (Workbench.host.panicSite panic)

def start (bench : Workbench) : Recorded := ⟨bench, [], []⟩

/-- A step on record that gives the same and does the same to the workbench as one that is not. -/
def Follows (step : StateM Recorded α) (plain : StateM Workbench α) : Prop :=
  ∀ record : Recorded, ((step.run record).1, (step.run record).2.bench) = plain.run record.bench

theorem related_follows : Related host Workbench.host Follows where
  pure value record := rfl
  bind {α β step plain next next'} hstep hnext record := by
    have hfirst := hstep record
    rw [run_bind, run_bind, ← hfirst]
    exact hnext _ _
  read path record := rfl
  write put record := rfl
  log text record := rfl
  now record := rfl
  elapsed record := rfl
  panicSite panic record := rfl

theorem program_follows (arguments : List Bytes) (environment : Option Text) :
    Follows (program host arguments environment) (program Workbench.host arguments environment) :=
  related_follows.program (fun _ _ => rfl) arguments environment

theorem attempt_follows (options : Options) (environment : Option Text) :
    Follows (Run.attempt host options environment) (Run.attempt Workbench.host options environment) :=
  related_follows.attempt (fun _ _ => rfl) options environment

/-- Between two records some files were read, and what there is to be told about them was logged as far as a logger
shows it. -/
structure Told (logger : Logger) (reads : List FileReading) (record after : Recorded) : Prop where
  reads_eq : after.reads = record.reads ++ reads
  logged_eq : after.logged =
    record.logged ++ (reads.flatMap fun reading => logger.lines record.bench.stamp reading.entries).map (· ++ ['\n'])
  stamp_eq : after.bench.stamp = record.bench.stamp

private theorem Told.refl (logger : Logger) (record : Recorded) : Told logger [] record record :=
  ⟨(List.append_nil _).symm, (List.append_nil _).symm, rfl⟩

private theorem Told.trans {logger : Logger} {first second : List FileReading} {record between after : Recorded}
    (hfirst : Told logger first record between) (hsecond : Told logger second between after) :
    Told logger (first ++ second) record after := by
  constructor
  · rw [hsecond.reads_eq, hfirst.reads_eq, List.append_assoc]
  · rw [hsecond.logged_eq, hfirst.logged_eq, hfirst.stamp_eq]
    simp
  · rw [hsecond.stamp_eq, hfirst.stamp_eq]

/-- A step that reads files and logs what there is to be told about them, and nothing else; what it gives goes with
what it read. -/
def Tells (logger : Logger) (step : StateM Recorded α) (about : α → List FileReading → Prop) : Prop :=
  ∀ record, ∃ reads, Told logger reads record (step.run record).2 ∧ about (step.run record).1 reads

section Tells

variable {logger : Logger}

private theorem Tells.pure {about : α → List FileReading → Prop} {value : α} (hvalue : about value []) :
    Tells logger (Pure.pure value) about :=
  fun record => ⟨[], .refl logger record, hvalue⟩

private theorem Tells.bind {step : StateM Recorded α} {next : α → StateM Recorded β}
    {about : α → List FileReading → Prop} {about' : β → List FileReading → Prop} (hstep : Tells logger step about)
    (hnext : ∀ value reads, about value reads →
      Tells logger (next value) fun result more => about' result (reads ++ more)) :
    Tells logger (step >>= next) about' := by
  intro record
  obtain ⟨reads, htold, habout⟩ := hstep record
  obtain ⟨more, hmore, habout'⟩ := hnext _ reads habout (step.run record).2
  exact ⟨reads ++ more, htold.trans hmore, habout'⟩

private theorem tells_onBench {step : StateM Workbench α}
    (hstamp : ∀ bench, (step.run bench).2.stamp = bench.stamp) :
    Tells logger (onBench step) fun _ reads => reads = [] := by
  intro record
  refine ⟨[], ⟨?_, ?_, hstamp record.bench⟩, rfl⟩
  · simp [onBench, StateT.run]
  · simp [onBench, StateT.run]

private theorem tells_write (put : Put) : Tells logger (host.write put) fun _ reads => reads = [] :=
  tells_onBench fun _ => rfl

private theorem tells_writeEach (put : α → Put) (things : List α) :
    Tells logger (writeEach (fun thing => host.write (put thing)) things) fun _ reads => reads = [] := by
  induction things with
  | nil => exact .pure rfl
  | cons thing things ih =>
    refine (tells_write (put thing)).bind fun fault reads hreads => ?_
    subst hreads
    cases fault with
    | none => exact ih
    | some fault => exact .pure rfl

end Tells

private theorem stamp_log (text : Text) (bench : Workbench) :
    ((Workbench.log text).run bench).2.stamp = bench.stamp := by
  simp only [StateT.run, Workbench.log]
  split <;> rfl

theorem noteAll_run (logger : Logger) (entries : List LogEntry) (record : Recorded) :
    ((host.noteAll logger entries).run record).2.reads = record.reads ∧
      ((host.noteAll logger entries).run record).2.logged =
        record.logged ++ (logger.lines record.bench.stamp entries).map (· ++ ['\n']) ∧
      ((host.noteAll logger entries).run record).2.bench.stamp = record.bench.stamp := by
  induction entries generalizing record with
  | nil => exact ⟨rfl, (List.append_nil _).symm, rfl⟩
  | cons entry entries ih =>
    have hnow : host.now.run record = (record.bench.stamp, record) := rfl
    rw [Host.noteAll, run_bind, Host.note, run_bind, hnow]
    cases hline : logger.line? record.bench.stamp entry with
    | none =>
      obtain ⟨hreads, hlogged, hstamp⟩ := ih record
      refine ⟨hreads, hlogged.trans ?_, hstamp⟩
      simp [Logger.lines, hline]
    | some line =>
      obtain ⟨hreads, hlogged, hstamp⟩ := ih ((host.log (line ++ ['\n'])).run record).2
      have hbench : ((host.log (line ++ ['\n'])).run record).2.bench.stamp = record.bench.stamp :=
        stamp_log _ record.bench
      rw [hbench] at hlogged hstamp
      refine ⟨hreads, hlogged.trans ?_, hstamp⟩
      simp [Logger.lines, hline, host, StateT.run]

private theorem tells_note_of_hidden {logger : Logger} {entry : LogEntry}
    (hhidden : ∀ stamp, logger.line? stamp entry = none) :
    Tells logger (host.note logger entry) fun _ reads => reads = [] := by
  refine (tells_onBench fun _ => rfl).bind fun stamp reads hreads => ?_
  subst hreads
  rw [hhidden]
  exact .pure rfl

private theorem tells_validate (logger : Logger) (path : Path) :
    Tells logger (host.validate logger path) fun outcome reads =>
      ∃ reading : FileReading, reading.path = path ∧ reads = [reading] ∧ outcome = reading.outcome := by
  intro record
  let reading : FileReading := ⟨path, record.bench.files.read path⟩
  obtain ⟨hreads, hlogged, hstamp⟩ :=
    noteAll_run logger reading.entries { record with reads := record.reads ++ [reading] }
  refine ⟨[reading], ⟨hreads, hlogged.trans ?_, hstamp⟩, reading, rfl, rfl, rfl⟩
  simp

structure ReadInTurn (paths : List Path) (outcomes : List Outcome) (reads : List FileReading) : Prop where
  paths_eq : reads.map FileReading.path = paths
  outcomes_eq : outcomes = reads.map FileReading.outcome

private theorem ReadInTurn.cons {reading : FileReading} {paths : List Path} {outcomes : List Outcome}
    {reads : List FileReading} (h : ReadInTurn paths outcomes reads) :
    ReadInTurn (reading.path :: paths) (reading.outcome :: outcomes) (reading :: reads) :=
  ⟨by rw [List.map_cons, h.paths_eq], by rw [List.map_cons, h.outcomes_eq]⟩

theorem tells_validateAll (logger : Logger) (paths : List Path) :
    Tells logger (host.validateAll logger paths) (ReadInTurn paths) := by
  induction paths with
  | nil => exact .pure ⟨rfl, rfl⟩
  | cons path paths ih =>
    refine (tells_validate logger path).bind fun outcome reads hfirst => ?_
    obtain ⟨reading, rfl, rfl, rfl⟩ := hfirst
    refine ih.bind fun outcomes reads hothers => .pure ?_
    simpa using hothers.cons

def ReadIfDone (paths : List Path) (result : Except Run.Failure (List Outcome)) (reads : List FileReading) : Prop :=
  ∀ outcomes, result = .ok outcomes → ReadInTurn paths outcomes reads

private theorem readIfDone_error (paths : List Path) (failure : Run.Failure) (reads : List FileReading) :
    ReadIfDone paths (.error failure) reads := by
  intro outcomes hdone
  cases hdone

private theorem tells_reportLines (logger : Logger) (colour : Bool) (paths : List Path) :
    Tells logger (Run.reportLines host logger colour paths) (ReadIfDone paths) := by
  induction paths with
  | nil =>
    refine .pure fun outcomes hdone => ?_
    cases hdone
    exact ⟨rfl, rfl⟩
  | cons path paths ih =>
    refine (tells_validate logger path).bind fun outcome reads hfirst => ?_
    obtain ⟨reading, rfl, rfl, rfl⟩ := hfirst
    refine (tells_writeEach id (reading.outcome.lines colour)).bind fun fault none hnone => ?_
    subst hnone
    cases fault with
    | some fault => exact .pure (readIfDone_error _ _ _)
    | none =>
      refine ih.bind fun result reads hothers => .pure fun outcomes hdone => ?_
      cases result with
      | error failure => cases hdone
      | ok others =>
        cases hdone
        simpa using (hothers others rfl).cons

private theorem tells_writeSummary (logger : Logger) (outcomes : List Outcome) :
    Tells logger (Run.writeSummary host outcomes) fun _ reads => reads = [] := by
  refine (tells_write _).bind fun fault reads hreads => ?_
  subst hreads
  cases fault with
  | some fault => exact .pure rfl
  | none =>
    cases Summary.lines outcomes false with
    | error cause => exact .pure rfl
    | ok lines =>
      refine (tells_writeEach id _).bind fun fault reads hreads => .pure ?_
      simpa using hreads

private theorem tells_writeDocument (logger : Logger) (outcomes : List Outcome) :
    Tells logger (Outcome.writeDocument outcomes fun text => host.write ⟨.out, text⟩) fun _ reads => reads = [] := by
  refine (tells_writeEach (fun text => ⟨.out, text⟩) _).bind fun fault reads hreads => ?_
  subst hreads
  cases fault with
  | some fault => exact .pure rfl
  | none =>
    dsimp only
    split
    · refine (tells_write _).bind fun fault reads hreads => .pure ?_
      simpa using hreads
    · exact .pure rfl

private theorem tells_report (logger : Logger) (options : Options) :
    Tells logger (Run.report host logger options) (ReadIfDone options.files) := by
  simp only [Run.report]
  cases options.format with
  | text =>
    refine (tells_reportLines logger _ _).bind fun result reads hlines => ?_
    cases result with
    | error failure => exact .pure (readIfDone_error _ _ _)
    | ok outcomes =>
      dsimp only
      split
      · refine (tells_writeSummary logger outcomes).bind fun fault none hnone => ?_
        subst hnone
        cases fault with
        | some failure => exact .pure (readIfDone_error _ _ _)
        | none => exact .pure (by simpa using hlines)
      · exact .pure (by simpa using hlines)
  | json =>
    refine (tells_validateAll logger _).bind fun outcomes reads hread => ?_
    refine (tells_writeDocument logger outcomes).bind fun error none hnone => ?_
    subst hnone
    cases error with
    | some error => exact .pure (readIfDone_error _ _ _)
    | none =>
      refine .pure fun result hdone => ?_
      cases hdone
      simpa using hread

theorem tells_openLogger (logger : Logger) (config : LogConfig) (environment : Option Text)
    (current : Option Logger) :
    Tells logger (host.openLogger config environment current) fun opening reads =>
      reads = [] ∧ ∀ found, opening = .ok found → config.logger environment = .ok found := by
  have hopenLog (path : Path) : Tells logger (host.openLog path) fun _ reads => reads = [] := by
    refine tells_onBench fun bench => ?_
    simp only [StateT.run, Workbench.openLog]
    split <;> rfl
  rw [Host.openLogger]
  cases config.file with
  | some path =>
    refine (hopenLog path).bind fun fault reads hreads => ?_
    subst hreads
    dsimp only
    split <;> refine .pure ⟨rfl, fun found hfound => ?_⟩ <;> cases hfound
    assumption
  | none =>
    have hnone : Tells logger (Pure.pure none : StateM Recorded (Option SystemError)) fun _ reads => reads = [] :=
      .pure rfl
    refine hnone.bind fun fault reads hreads => ?_
    subst hreads
    dsimp only
    split <;> refine .pure ⟨rfl, fun found hfound => ?_⟩ <;> cases hfound
    assumption

/-- A run tells its log about the files that it reads, and about nothing else if the log does not show how a run
ended. -/
theorem tells_attempt {logger : Logger} {options : Options} {environment : Option Text}
    (hlogger : options.logConfig.logger environment = .ok logger)
    (hhidden : ∀ stamp fileCount failed duration,
      logger.line? stamp ⟨.runComplete fileCount failed duration, none⟩ = none) :
    Tells logger (Run.attempt host options environment) (ReadIfDone options.files) := by
  refine (tells_openLogger logger options.logConfig environment none).bind fun opening reads hopening => ?_
  obtain ⟨rfl, hfound⟩ := hopening
  cases opening with
  | error error => exact .pure (readIfDone_error _ _ _)
  | ok found =>
    obtain rfl : logger = found := Except.ok.inj (hlogger.symm.trans (hfound found rfl))
    refine (tells_report logger options).bind fun result reads hread => ?_
    cases result with
    | error failure => exact .pure (readIfDone_error _ _ _)
    | ok outcomes =>
      refine (tells_onBench fun _ => rfl).bind fun elapsed none hnone => ?_
      subst hnone
      refine (tells_note_of_hidden fun stamp => hhidden stamp _ _ _).bind fun _ none hnone => ?_
      subst hnone
      exact .pure (by simpa using hread)

/-- The log goes to a file, and all that is on record as logged stands there behind what it held before. -/
structure InFile (place : Place) (before : Bytes) (record : Recorded) : Prop where
  target : record.bench.logTarget = .file place
  entry : record.bench.files.entry? place = some (.file (before ++ Utf8.encode record.logged.flatten))

private def KeepsInFile (place : Place) (before : Bytes) (step : StateM Recorded α) : Prop :=
  ∀ record, InFile place before record → InFile place before (step.run record).2

private theorem KeepsInFile.pure (place : Place) (before : Bytes) (value : α) :
    KeepsInFile place before (Pure.pure value) := fun _ h => h

private theorem KeepsInFile.bind {place : Place} {before : Bytes} {step : StateM Recorded α}
    {next : α → StateM Recorded β} (hstep : KeepsInFile place before step)
    (hnext : ∀ value, KeepsInFile place before (next value)) : KeepsInFile place before (step >>= next) :=
  fun record h => hnext _ _ (hstep record h)

private theorem inFile_log {place : Place} {before : Bytes} {record : Recorded} (h : InFile place before record)
    (text : Text) : InFile place before ((host.log text).run record).2 := by
  obtain ⟨⟨files, streams, logTarget, stamp, elapsed, site⟩, reads, logged⟩ := record
  obtain ⟨rfl, hentry⟩ := h
  have hplace : place ≠ [] := by
    rintro rfl
    simp [FileTree.entry?] at hentry
  refine ⟨rfl, ?_⟩
  change FileTree.entry? (files.append place (Utf8.encode text)) place = _
  rw [FileTree.append, hentry]
  simp only
  rw [FileTree.entry?_set _ hplace, if_pos rfl]
  simp [host, StateT.run, Utf8.encode_append]

private theorem related_keepsInFile (place : Place) (before : Bytes) :
    Related host host fun step _ => KeepsInFile place before step where
  pure := .pure place before
  bind := .bind
  read _ _ h := ⟨h.target, h.entry⟩
  write _ _ h := ⟨h.target, h.entry⟩
  log text _ h := inFile_log h text
  now _ h := h
  elapsed _ h := h
  panicSite _ _ h := h

theorem inFile_run {options : Options} {environment : Option Text} {record opened : Recorded} {logger : Logger}
    (hopened : (host.openLogger options.logConfig environment none).run record = (.ok logger, opened))
    {place : Place} {before : Bytes} (h : InFile place before opened) :
    InFile place before ((run host options environment).run record).2 := by
  have hrelated := related_keepsInFile place before
  have hattempt : InFile place before ((Run.attempt host options environment).run record).2 := by
    rw [Run.attempt, run_bind, hopened]
    refine KeepsInFile.bind (hrelated.report logger options) (fun result => ?_) opened h
    cases result with
    | error failure => exact .pure place before _
    | ok outcomes =>
      refine KeepsInFile.bind hrelated.elapsed fun elapsed => ?_
      exact KeepsInFile.bind (hrelated.note logger _) fun _ => .pure place before _
  rw [run, run_bind]
  split
  · exact KeepsInFile.pure place before _ _ hattempt
  · exact hrelated.fail _ _ hattempt

end Recorded
end Overrule
