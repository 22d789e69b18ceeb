import Overrule.Proofs.Run.Related
import Overrule.Proofs.Run.Streams

namespace Overrule

/-- Lines as they stand on a stream, each with its end. -/
def lineBytes (lines : List Text) : Bytes := Utf8.encode (lines.flatMap (· ++ ['\n']))

theorem lineBytes_append (first second : List Text) :
    lineBytes (first ++ second) = lineBytes first ++ lineBytes second := by
  rw [lineBytes, List.flatMap_append, Utf8.encode_append]
  rfl

theorem lineBytes_singleton (line : Text) : lineBytes [line] = Utf8.encode (line ++ ['\n']) := by
  rw [lineBytes, List.flatMap_singleton]

private theorem Sink.taken_prefix_take (sink : Sink) (bytes : Bytes) : sink.taken <+: (sink.take bytes).2.taken := by
  cases hroom : sink.room with
  | none =>
    rw [take_of_endless hroom]
    exact List.prefix_append _ _
  | some room =>
    rw [take_of_room hroom]
    exact List.prefix_append _ _

namespace Workbench

variable {α β : Type}

def Grows (step : StateM Workbench α) : Prop :=
  ∀ bench channel, bench.streams.taken channel <+: (step.run bench).2.streams.taken channel

private theorem write_out_run (text : Text) (bench : Workbench) :
    (write ⟨.out, text⟩).run bench =
      ((bench.streams.out.take (Utf8.encode text)).1,
        { bench with streams := { bench.streams with out := (bench.streams.out.take (Utf8.encode text)).2 } }) := rfl

theorem write_err_run (text : Text) (bench : Workbench) :
    (write ⟨.err, text⟩).run bench =
      ((bench.streams.err.take (Utf8.encode text)).1,
        { bench with streams := { bench.streams with err := (bench.streams.err.take (Utf8.encode text)).2 } }) := rfl

private theorem grows_write (put : Put) : Grows (write put) := by
  obtain ⟨written, text⟩ := put
  intro bench channel
  cases written with
  | out =>
    rw [write_out_run]
    cases channel with
    | out => exact Sink.taken_prefix_take _ _
    | err => exact List.prefix_rfl
  | err =>
    rw [write_err_run]
    cases channel with
    | out => exact List.prefix_rfl
    | err => exact Sink.taken_prefix_take _ _

private theorem log_run_of_stream {bench : Workbench} {channel : Channel} (htarget : bench.logTarget = .stream channel)
    (text : Text) : (log text).run bench = ((), ((write ⟨channel, text⟩).run bench).2) := by
  simp only [StateT.run, log, htarget]

private theorem log_run_of_file {bench : Workbench} {place : Place} (htarget : bench.logTarget = .file place)
    (text : Text) :
    (log text).run bench = ((), { bench with files := bench.files.append place (Utf8.encode text) }) := by
  simp only [StateT.run, log, htarget]

private theorem grows_log (text : Text) : Grows (log text) := by
  intro bench channel
  cases htarget : bench.logTarget with
  | stream written =>
    rw [log_run_of_stream htarget]
    exact grows_write _ bench channel
  | file place =>
    rw [log_run_of_file htarget]

theorem Grows.bind {step : StateM Workbench α} {next : α → StateM Workbench β} (hstep : Grows step)
    (hnext : ∀ value, Grows (next value)) : Grows (step >>= next) := by
  intro bench channel
  rw [run_bind]
  exact (hstep bench channel).trans (hnext _ _ channel)

theorem related_grows : Related host host fun step _ => Grows step where
  pure _ _ _ := List.prefix_rfl
  bind := Grows.bind
  read _ _ _ := List.prefix_rfl
  write := grows_write
  log := grows_log
  now _ _ := List.prefix_rfl
  elapsed _ _ := List.prefix_rfl
  panicSite _ _ _ := List.prefix_rfl

theorem keeps_out_log (out : Sink) (text : Text) :
    Keeps (fun bench => bench.logTarget ≠ .stream .out ∧ bench.streams.out = out) (log text) := by
  rintro bench ⟨haside, hout⟩
  cases htarget : bench.logTarget with
  | stream channel =>
    rw [log_run_of_stream htarget]
    cases channel with
    | out => exact absurd htarget haside
    | err => exact ⟨haside, hout⟩
  | file place =>
    rw [log_run_of_file htarget]
    exact ⟨haside, hout⟩

def limitedTo (bench : Workbench) (n : Nat) (fault : SystemError) : Workbench :=
  let out : Sink := ⟨bench.streams.out.taken, some (n - bench.streams.out.taken.length), fault⟩
  { bench with streams := { bench.streams with out } }

/-- A workbench with streams that take everything, at which no more than some number of bytes was written to the one for
verdicts, and whole lines to the other. The log does not go to the stream for verdicts. -/
structure Fits (n : Nat) (bench : Workbench) : Prop where
  endless : bench.Endless
  length_le : bench.streams.out.taken.length ≤ n
  lines : ∃ said, bench.streams.err.taken = lineBytes said
  aside : bench.logTarget ≠ .stream .out

/-- A workbench at which a write did not fit and nothing was done since, beside one at which it did fit. -/
structure StoppedAt (n : Nat) (whole stopped : Workbench) : Prop where
  lt_length : n < whole.streams.out.taken.length
  out : stopped.streams.out.taken = whole.streams.out.taken.take n
  lines : ∃ said, stopped.streams.err.taken = lineBytes said ∧ lineBytes said <+: whole.streams.err.taken
  endless : stopped.streams.err.room = none

private theorem StoppedAt.grown {n : Nat} {whole stopped after : Workbench} (h : StoppedAt n whole stopped)
    (hgrown : ∀ channel, whole.streams.taken channel <+: after.streams.taken channel) : StoppedAt n after stopped := by
  have hout : whole.streams.out.taken <+: after.streams.out.taken := hgrown .out
  obtain ⟨said, hsaid, herr⟩ := h.lines
  refine ⟨h.lt_length.trans_le hout.length_le, ?_, ⟨said, hsaid, herr.trans (hgrown .err)⟩, h.endless⟩
  obtain ⟨more, hmore⟩ := hout
  rw [h.out, ← hmore, List.take_append_of_le_length h.lt_length.le]

/-- What a step gives and does on a stream that takes everything, and what on one that takes some number of bytes. -/
inductive Compared (n : Nat) (fault : SystemError) (tells : α → Prop) : α × Workbench → α × Workbench → Prop where
  | same {value : α} {after : Workbench} (hfits : Fits n after) :
    Compared n fault tells (value, after) (value, after.limitedTo n fault)
  | stopped {value result : α} {after stopped : Workbench} (htells : tells result)
      (hstopped : StoppedAt n after stopped) :
    Compared n fault tells (value, after) (result, stopped)

/-- A step that is stopped if the stream for verdicts is full, with a result that tells it. -/
structure StopsWith (n : Nat) (fault : SystemError) (tells : α → Prop) (step : StateM Workbench α) : Prop where
  grows : Grows step
  compared : ∀ bench, Fits n bench → Compared n fault tells (step.run bench) (step.run (bench.limitedTo n fault))

abbrev NeverStops (n : Nat) (fault : SystemError) (step : StateM Workbench α) : Prop :=
  StopsWith n fault (fun _ => False) step

section Steps

variable {n : Nat} {fault : SystemError}

theorem StopsWith.pure {tells : α → Prop} (value : α) :
    StopsWith n fault tells (Pure.pure value : StateM Workbench α) :=
  ⟨fun _ _ => List.prefix_rfl, fun _ hfits => .same hfits⟩

theorem Compared.mono {tells tells' : α → Prop} {whole limited : α × Workbench}
    (h : Compared n fault tells whole limited)
    (htells : ∀ value, tells value → tells' value) : Compared n fault tells' whole limited := by
  cases h with
  | same hfits => exact .same hfits
  | stopped htold hstopped => exact .stopped (htells _ htold) hstopped

theorem StopsWith.mono {step : StateM Workbench α} {tells tells' : α → Prop} (h : StopsWith n fault tells step)
    (htells : ∀ value, tells value → tells' value) : StopsWith n fault tells' step :=
  ⟨h.grows, fun bench hfits => (h.compared bench hfits).mono htells⟩

/-- If a step was stopped, what follows it is left out on the full stream, but not on the other one. -/
theorem Compared.bind {bench : Workbench} {step : StateM Workbench α} {next : α → StateM Workbench β}
    {tells : α → Prop} {tells' : β → Prop}
    (hstep : Compared n fault tells (step.run bench) (step.run (bench.limitedTo n fault)))
    (hgrows : ∀ value, Grows (next value))
    (hsame : ∀ value after, step.run bench = (value, after) → Fits n after →
      Compared n fault tells' ((next value).run after) ((next value).run (after.limitedTo n fault)))
    (hskip : ∀ value after, step.run bench = (value, after) → n < after.streams.out.taken.length → ∀ told, tells told →
      ∃ result, tells' result ∧ next told = Pure.pure result) :
    Compared n fault tells' ((step >>= next).run bench) ((step >>= next).run (bench.limitedTo n fault)) := by
  rw [run_bind, run_bind]
  rcases hwhole : step.run bench with ⟨value, after⟩
  rcases hlimited : step.run (bench.limitedTo n fault) with ⟨told, ended⟩
  rw [hwhole, hlimited] at hstep
  cases hstep with
  | same hfits => exact hsame _ _ hwhole hfits
  | stopped htells hstopped =>
    obtain ⟨result, htells', hresult⟩ := hskip _ _ hwhole hstopped.lt_length _ htells
    dsimp only
    rw [hresult]
    exact .stopped htells' (hstopped.grown (hgrows _ _))

theorem Compared.bind_stopsWith_of_run {bench : Workbench} {step : StateM Workbench α} {next : α → StateM Workbench β}
    {tells : α → Prop} {tells' : β → Prop} (reason : β → Prop)
    (hstep : Compared n fault tells (step.run bench) (step.run (bench.limitedTo n fault)))
    (hnext : ∀ value, StopsWith n fault reason (next value))
    (hreason : ∀ value after, step.run bench = (value, after) → Fits n after → ∀ result, reason result → tells' result)
    (hskip : ∀ value, tells value → ∃ result, tells' result ∧ next value = Pure.pure result) :
    Compared n fault tells' ((step >>= next).run bench) ((step >>= next).run (bench.limitedTo n fault)) :=
  hstep.bind (fun value => (hnext value).grows)
    (fun value after hrun hfits => ((hnext value).compared after hfits).mono (hreason value after hrun hfits))
    fun _ _ _ _ => hskip

theorem Compared.bind_stopsWith {bench : Workbench} {step : StateM Workbench α} {next : α → StateM Workbench β}
    {tells : α → Prop} {tells' : β → Prop}
    (hstep : Compared n fault tells (step.run bench) (step.run (bench.limitedTo n fault)))
    (hnext : ∀ value, StopsWith n fault tells' (next value))
    (hskip : ∀ value, tells value → ∃ result, tells' result ∧ next value = Pure.pure result) :
    Compared n fault tells' ((step >>= next).run bench) ((step >>= next).run (bench.limitedTo n fault)) :=
  hstep.bind_stopsWith_of_run tells' hnext (fun _ _ _ _ _ => id) hskip

theorem StopsWith.bind {step : StateM Workbench α} {next : α → StateM Workbench β} {tells : α → Prop}
    {tells' : β → Prop} (hstep : StopsWith n fault tells step) (hnext : ∀ value, StopsWith n fault tells' (next value))
    (hskip : ∀ value, tells value → ∃ result, tells' result ∧ next value = Pure.pure result) :
    StopsWith n fault tells' (step >>= next) :=
  ⟨hstep.grows.bind fun value => (hnext value).grows,
    fun bench hfits => (hstep.compared bench hfits).bind_stopsWith hnext hskip⟩

theorem NeverStops.bind {step : StateM Workbench α} {next : α → StateM Workbench β} {tells : β → Prop}
    (hstep : NeverStops n fault step) (hnext : ∀ value, StopsWith n fault tells (next value)) :
    StopsWith n fault tells (step >>= next) :=
  StopsWith.bind hstep hnext fun _ => False.elim

private theorem NeverStops.run_limitedTo {step : StateM Workbench α} (hstep : NeverStops n fault step)
    {bench : Workbench} (hfits : Fits n bench) : Fits n (step.run bench).2 ∧
      step.run (bench.limitedTo n fault) = ((step.run bench).1, (step.run bench).2.limitedTo n fault) := by
  have hcompared := hstep.compared bench hfits
  generalize step.run bench = whole at hcompared ⊢
  generalize step.run (bench.limitedTo n fault) = limited at hcompared ⊢
  cases hcompared with
  | same hfits => exact ⟨hfits, rfl⟩
  | stopped hnever => exact hnever.elim

theorem NeverStops.compared_bind {step : StateM Workbench α} {next : α → StateM Workbench β} {tells : β → Prop}
    (hstep : NeverStops n fault step) {bench after : Workbench} {value : α} (hfits : Fits n bench)
    (hrun : step.run bench = (value, after))
    (hnext : Fits n after →
      Compared n fault tells ((next value).run after) ((next value).run (after.limitedTo n fault))) :
    Compared n fault tells ((step >>= next).run bench) ((step >>= next).run (bench.limitedTo n fault)) := by
  obtain ⟨hafter, hlimited⟩ := hstep.run_limitedTo hfits
  rw [hrun] at hafter hlimited
  rw [run_bind, run_bind, hlimited, hrun]
  exact hnext hafter

theorem Compared.bind_neverStops {bench : Workbench} {step : StateM Workbench α} {next : α → StateM Workbench β}
    {tells : α → Prop} (hstep : Compared n fault tells (step.run bench) (step.run (bench.limitedTo n fault)))
    (hnext : ∀ value, NeverStops n fault (next value)) :
    Fits n ((step >>= next).run bench).2 ∧ (step >>= next).run (bench.limitedTo n fault) =
        (((step >>= next).run bench).1, ((step >>= next).run bench).2.limitedTo n fault) ∨
      ∃ told stopped, tells told ∧ StoppedAt n ((step >>= next).run bench).2 stopped ∧
        step.run (bench.limitedTo n fault) = (told, stopped) ∧
        (step >>= next).run (bench.limitedTo n fault) = (next told).run stopped := by
  rw [run_bind, run_bind]
  generalize step.run bench = whole at hstep ⊢
  generalize step.run (bench.limitedTo n fault) = limited at hstep ⊢
  cases hstep with
  | same hfits => exact .inl ((hnext _).run_limitedTo hfits)
  | stopped htells hstopped => exact .inr ⟨_, _, htells, hstopped.grown ((hnext _).grows _), rfl, rfl⟩

theorem stopsWith_write_out (text : Text) : StopsWith n fault (· = some fault) (write ⟨.out, text⟩) := by
  refine ⟨grows_write _, fun bench hfits => ?_⟩
  obtain ⟨hendless, hlength, ⟨said, hsaid⟩, haside⟩ := hfits
  have hlimited : (bench.limitedTo n fault).streams.out.room = some (n - bench.streams.out.taken.length) := rfl
  rw [write_out_run, write_out_run, Sink.take_of_endless hendless.1, Sink.take_of_room hlimited]
  by_cases hroom : (Utf8.encode text).length ≤ n - bench.streams.out.taken.length
  · rw [if_pos hroom, List.take_of_length_le hroom, Nat.sub_sub, ← List.length_append]
    refine .same ⟨⟨hendless.1, hendless.2⟩, ?_, ⟨said, hsaid⟩, haside⟩
    rw [List.length_append]
    omega
  · rw [if_neg hroom]
    refine .stopped rfl ⟨?_, ?_, ⟨said, hsaid, hsaid ▸ List.prefix_rfl⟩, hendless.2⟩
    · rw [List.length_append]
      omega
    · rw [List.take_append, List.take_of_length_le hlength]
      rfl

private theorem neverStops_write_lines (lines : List Text) :
    NeverStops n fault (write ⟨.err, lines.flatMap (· ++ ['\n'])⟩) := by
  refine ⟨grows_write _, fun bench hfits => ?_⟩
  obtain ⟨hendless, hlength, ⟨said, hsaid⟩, haside⟩ := hfits
  have hlimited : (bench.limitedTo n fault).streams.err.room = none := hendless.2
  rw [write_err_run, write_err_run, Sink.take_of_endless hendless.2, Sink.take_of_endless hlimited]
  refine .same ⟨⟨hendless.1, hendless.2⟩, hlength, ⟨said ++ lines, ?_⟩, haside⟩
  rw [lineBytes_append, hsaid]
  rfl

theorem neverStops_write_err (line : Text) : NeverStops n fault (write ⟨.err, line ++ ['\n']⟩) := by
  have hlines : NeverStops n fault (write ⟨.err, [line].flatMap (· ++ ['\n'])⟩) := neverStops_write_lines [line]
  rwa [List.flatMap_singleton] at hlines

theorem stopsWith_writeEach {write : α → StateM Workbench (Option SystemError)} {things : List α}
    (hthings : ∀ thing ∈ things, StopsWith n fault (· = some fault) (write thing)) :
    StopsWith n fault (· = some fault) (writeEach write things) := by
  induction things with
  | nil => exact .pure none
  | cons thing things ih =>
    obtain ⟨hthing, hthings⟩ := List.forall_mem_cons.1 hthings
    refine hthing.bind (fun fault => ?_) fun _ hfault => ⟨some fault, rfl, by rw [hfault]⟩
    cases fault with
    | none => exact ih hthings
    | some fault => exact .pure _

private theorem neverStops_log (line : Text) : NeverStops n fault (log (line ++ ['\n'])) := by
  refine ⟨grows_log _, fun bench hfits => ?_⟩
  have hsame : (bench.limitedTo n fault).logTarget = bench.logTarget := rfl
  cases htarget : bench.logTarget with
  | stream channel =>
    cases channel with
    | out => exact absurd htarget hfits.aside
    | err =>
      obtain ⟨hfits, hlimited⟩ := (neverStops_write_err line).run_limitedTo hfits
      rw [log_run_of_stream htarget, log_run_of_stream (hsame.trans htarget), hlimited]
      exact .same hfits
  | file place =>
    rw [log_run_of_file htarget, log_run_of_file (hsame.trans htarget)]
    exact .same ⟨hfits.endless, hfits.length_le, hfits.lines, hfits.aside⟩

/-- A step that only looks at what is no stream. -/
private theorem neverStops_look {look : StateM Workbench α} (view : Workbench → α)
    (hlook : ∀ bench, look.run bench = (view bench, bench))
    (hview : ∀ bench : Workbench, view (bench.limitedTo n fault) = view bench) : NeverStops n fault look := by
  refine ⟨fun bench channel => ?_, fun bench hfits => ?_⟩
  · rw [hlook]
  · rw [hlook, hlook, hview]
    exact .same hfits

private theorem neverStops_now : NeverStops n fault host.now :=
  neverStops_look (·.stamp) (fun _ => rfl) fun _ => rfl

theorem neverStops_elapsed : NeverStops n fault host.elapsed :=
  neverStops_look (·.elapsed) (fun _ => rfl) fun _ => rfl

private theorem neverStops_read (path : Path) : NeverStops n fault (host.read path) :=
  neverStops_look (·.files.read path) (fun _ => rfl) fun _ => rfl

private theorem neverStops_panicSite (panic : Panic) : NeverStops n fault (host.panicSite panic) :=
  neverStops_look (·.panicSite) (fun _ => rfl) fun _ => rfl

private theorem neverStops_panic (panic : Panic) : NeverStops n fault (Run.panic host panic) :=
  (neverStops_panicSite panic).bind fun site => (neverStops_write_lines (panic.lines site)).bind fun _ => .pure _

theorem neverStops_fail (failure : Run.Failure) : NeverStops n fault (Run.fail host failure) := by
  rw [Run.fail]
  cases failure.announcement with
  | error panic => exact neverStops_panic panic
  | ok message =>
    refine (neverStops_write_err ("error: ".toList ++ message)).bind fun found => ?_
    cases found with
    | some cause => exact neverStops_panic _
    | none => exact .pure 1

theorem neverStops_note (logger : Logger) (entry : LogEntry) : NeverStops n fault (host.note logger entry) := by
  refine neverStops_now.bind fun stamp => ?_
  cases logger.line? stamp entry with
  | none => exact .pure ()
  | some line => exact neverStops_log line

private theorem neverStops_noteAll (logger : Logger) (entries : List LogEntry) :
    NeverStops n fault (host.noteAll logger entries) := by
  induction entries with
  | nil => exact .pure ()
  | cons entry entries ih => exact (neverStops_note logger entry).bind fun _ => ih

theorem neverStops_validate (logger : Logger) (path : Path) : NeverStops n fault (host.validate logger path) :=
  (neverStops_read path).bind fun _ => (neverStops_noteAll logger _).bind fun _ => .pure _

theorem neverStops_validateAll (logger : Logger) (paths : List Path) :
    NeverStops n fault (host.validateAll logger paths) := by
  induction paths with
  | nil => exact .pure []
  | cons path paths ih => exact (neverStops_validate logger path).bind fun _ => ih.bind fun _ => .pure _

end Steps
end Workbench
end Overrule
