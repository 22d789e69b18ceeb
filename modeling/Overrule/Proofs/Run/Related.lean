import Overrule.Program

namespace Overrule

variable {m n : Type → Type} [Monad m] [Monad n]

/-- A relation between computations on two surroundings that is kept by putting computations together, and that holds
of all that can be asked, apart from opening a log. -/
structure Related (first : Host m) (second : Host n) (related : {α : Type} → m α → n α → Prop) : Prop where
  pure : ∀ {α : Type} (value : α), related (Pure.pure value : m α) (Pure.pure value)
  bind : ∀ {α β : Type} {x : m α} {y : n α} {f : α → m β} {g : α → n β},
    related x y → (∀ value, related (f value) (g value)) → related (x >>= f) (y >>= g)
  read : ∀ path, related (first.read path) (second.read path)
  write : ∀ put, related (first.write put) (second.write put)
  log : ∀ text, related (first.log text) (second.log text)
  now : related first.now second.now
  elapsed : related first.elapsed second.elapsed
  panicSite : ∀ panic, related (first.panicSite panic) (second.panicSite panic)

namespace Related

variable {first : Host m} {second : Host n} {related : {α : Type} → m α → n α → Prop}
  (h : Related first second related)

include h

theorem note (logger : Logger) (entry : LogEntry) : related (first.note logger entry) (second.note logger entry) := by
  refine h.bind h.now fun stamp => ?_
  cases logger.line? stamp entry with
  | none => exact h.pure ()
  | some line => exact h.log _

theorem noteAll (logger : Logger) (entries : List LogEntry) :
    related (first.noteAll logger entries) (second.noteAll logger entries) := by
  induction entries with
  | nil => exact h.pure ()
  | cons entry entries ih => exact h.bind (h.note logger entry) fun _ => ih

theorem validate (logger : Logger) (path : Path) :
    related (first.validate logger path) (second.validate logger path) := by
  refine h.bind (h.read path) fun content => ?_
  exact h.bind (h.noteAll logger _) fun _ => h.pure _

private theorem validateAll (logger : Logger) (paths : List Path) :
    related (first.validateAll logger paths) (second.validateAll logger paths) := by
  induction paths with
  | nil => exact h.pure []
  | cons path paths ih =>
    refine h.bind (h.validate logger path) fun outcome => ?_
    exact h.bind ih fun outcomes => h.pure _

private theorem writeEach {α : Type} (put : α → Put) (things : List α) :
    related (writeEach (fun thing => first.write (put thing)) things)
      (writeEach (fun thing => second.write (put thing)) things) := by
  induction things with
  | nil => exact h.pure none
  | cons thing things ih =>
    refine h.bind (h.write (put thing)) fun fault => ?_
    cases fault with
    | none => exact ih
    | some fault => exact h.pure _

theorem reportLines (logger : Logger) (colour : Bool) (paths : List Path) :
    related (Run.reportLines first logger colour paths) (Run.reportLines second logger colour paths) := by
  induction paths with
  | nil => exact h.pure _
  | cons path paths ih =>
    refine h.bind (h.validate logger path) fun outcome => ?_
    refine h.bind (h.writeEach id (outcome.lines colour)) fun fault => ?_
    cases fault with
    | some fault => exact h.pure _
    | none => exact h.bind ih fun _ => h.pure _

private theorem writeSummary (outcomes : List Outcome) :
    related (Run.writeSummary first outcomes) (Run.writeSummary second outcomes) := by
  refine h.bind (h.write _) fun fault => ?_
  cases fault with
  | some fault => exact h.pure _
  | none =>
    cases Summary.lines outcomes false with
    | error cause => exact h.pure _
    | ok lines => exact h.bind (h.writeEach id _) fun _ => h.pure _

private theorem writeDocument (outcomes : List Outcome) :
    related (Outcome.writeDocument outcomes fun text => first.write ⟨.out, text⟩)
      (Outcome.writeDocument outcomes fun text => second.write ⟨.out, text⟩) := by
  refine h.bind (h.writeEach (fun text => ⟨.out, text⟩) _) fun fault => ?_
  cases fault with
  | some fault => exact h.pure _
  | none =>
    dsimp only
    split
    · exact h.bind (h.write _) fun _ => h.pure _
    · exact h.pure _

theorem report (logger : Logger) (options : Options) :
    related (Run.report first logger options) (Run.report second logger options) := by
  simp only [Run.report]
  cases options.format with
  | text =>
    refine h.bind (h.reportLines logger _ _) fun result => ?_
    cases result with
    | error failure => exact h.pure _
    | ok outcomes =>
      dsimp only
      split
      · refine h.bind (h.writeSummary outcomes) fun fault => ?_
        cases fault <;> exact h.pure _
      · exact h.pure _
  | json =>
    refine h.bind (h.validateAll logger _) fun outcomes => ?_
    refine h.bind (h.writeDocument outcomes) fun error => ?_
    cases error <;> exact h.pure _

private theorem panic (panic : Panic) : related (Run.panic first panic) (Run.panic second panic) :=
  h.bind (h.panicSite panic) fun _ => h.bind (h.write _) fun _ => h.pure _

theorem fail (failure : Run.Failure) : related (Run.fail first failure) (Run.fail second failure) := by
  simp only [Run.fail]
  cases failure.announcement with
  | error panic => exact h.panic panic
  | ok message =>
    refine h.bind (h.write _) fun fault => ?_
    cases fault with
    | some fault => exact h.panic _
    | none => exact h.pure _

section Opening

variable (hopen : ∀ path, related (first.openLog path) (second.openLog path))

include hopen

theorem openLogger (config : LogConfig) (environment : Option Text) (current : Option Logger) :
    related (first.openLogger config environment current) (second.openLogger config environment current) := by
  simp only [Host.openLogger]
  cases hconfig : config.file with
  | some path =>
    refine h.bind (hopen path) fun fault => ?_
    split <;> exact h.pure _
  | none =>
    refine h.bind (h.pure none) fun fault => ?_
    split <;> exact h.pure _

theorem attempt (options : Options) (environment : Option Text) :
    related (Run.attempt first options environment) (Run.attempt second options environment) := by
  refine h.bind (h.openLogger hopen _ environment none) fun opening => ?_
  cases opening with
  | error error => exact h.pure _
  | ok logger =>
    refine h.bind (h.report logger options) fun result => ?_
    cases result with
    | error failure => exact h.pure _
    | ok outcomes =>
      refine h.bind h.elapsed fun elapsed => ?_
      exact h.bind (h.note logger _) fun _ => h.pure _

private theorem run (options : Options) (environment : Option Text) :
    related (Overrule.run first options environment) (Overrule.run second options environment) := by
  refine h.bind (h.attempt hopen options environment) fun result => ?_
  cases result with
  | ok outcomes => exact h.pure _
  | error failure => exact h.fail failure

theorem program (arguments : List Bytes) (environment : Option Text) :
    related (Overrule.program first arguments environment) (Overrule.program second arguments environment) := by
  simp only [Overrule.program]
  split
  · exact h.bind (h.write _) fun _ => h.pure _
  · exact h.bind (h.write _) fun _ => h.pure _
  · exact h.bind (h.write _) fun _ => h.pure _
  · exact h.run hopen _ environment

end Opening

end Related
end Overrule
