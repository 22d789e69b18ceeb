import Overrule.Log.Event
import Overrule.Pattern.Automaton
import Overrule.Text.Basic

namespace Overrule
namespace Filter

/-- What the value of a field has to be. The only field of a context is a path, and so nothing but a
pattern for texts is ever met. -/
inductive ValueTest where
  | literal (text : Text)
  | pattern (source : Text) (pattern : Pattern)
  deriving DecidableEq, Repr

def ValueTest.admits : ValueTest → Text → Bool
  | .literal _, _ => false
  | .pattern _ form, value => form.reachesEnd value

/-- A field that has to be there, and perhaps what its value has to be. -/
structure FieldTest where
  name : Text
  value : Option ValueTest
  deriving DecidableEq, Repr

structure Subject where
  target : Option Text := none
  context : Option Text := none
  field : Option FieldTest := none
  deriving DecidableEq, Repr

structure Clause where
  subject : Subject := {}
  threshold : Threshold
  deriving DecidableEq, Repr

namespace Subject

def coversTarget (subject : Subject) (target : Text) : Bool :=
  subject.target.all (·.isPrefixOf target)

def coversFields (subject : Subject) (names : List Text) : Bool :=
  subject.field.all fun field => names.contains field.name

/-- Whether contexts or values of fields are concerned, or also the presence of a field. -/
def isScoped (subject : Subject) : Bool := subject.context.isSome || subject.field.isSome

def isGeneral (subject : Subject) : Bool :=
  subject.context.isNone && subject.field.all fun field => field.value.isNone

/-- Whether a general subject is at least as specific as another one that concerns the same: a longer
target counts first, then a field, then the order of the names of the fields. -/
def narrows (a b : Subject) : Bool :=
  let length (subject : Subject) : Nat := (subject.target.map (·.length + 1)).getD 0
  if length a = length b then
    match a.field, b.field with
    | some a, some b => b.name.upTo a.name
    | none, some _ => false
    | _, none => true
  else length b < length a

def coversContext (subject : Subject) : Bool :=
  subject.coversTarget LogEntry.contextTarget && subject.context.all (· == LogEntry.contextName) &&
    subject.coversFields [LogEntry.contextField]

def coversValidation (subject : Subject) (path : Text) : Bool :=
  subject.coversContext && subject.field.all fun field => field.value.all (·.admits path)

end Subject
end Filter

structure Filter where
  clauses : List Filter.Clause
  deriving DecidableEq, Repr

namespace Filter

/-- The clause that decides of one found so far and one that follows it. -/
def narrower (found : Option Clause) (next : Clause) : Option Clause :=
  match found with
  | some clause => if next.subject.narrows clause.subject then some next else found
  | none => some next

/-- The threshold that the general clauses set, given which subjects are concerned. -/
def threshold (filter : Filter) (covers : Subject → Bool) : Threshold :=
  let concerned := filter.clauses.filter fun clause => clause.subject.isGeneral && covers clause.subject
  match concerned.foldl narrower none with
  | some clause => clause.threshold
  | none => .off

def eventThreshold (filter : Filter) (target : Text) (fields : List Text) : Threshold :=
  filter.threshold fun subject => subject.coversTarget target && subject.coversFields fields

def inScope : List Clause → List Clause
  | [] => []
  | clause :: rest =>
    if clause.subject.isScoped && !rest.any (·.subject = clause.subject) then clause :: inScope rest
    else inScope rest

/-- The threshold within the validation of the file with some path: the loudest that a scoped clause
sets. -/
def scopeThreshold (filter : Filter) (path : Text) : Threshold :=
  ((inScope filter.clauses).filter (·.subject.coversValidation path)).foldl
    (fun found clause => found.louder clause.threshold) .off

def admits (filter : Filter) (entry : LogEntry) : Bool :=
  let event := entry.event
  (filter.eventThreshold event.target event.fieldNames).admits event.level ||
    entry.validating.any fun path => (filter.scopeThreshold path.display).admits event.level

/-- Whether the context of entries is shown. The fields that a general clause asks for do not count
there. -/
def showsContext (filter : Filter) : Bool :=
  (filter.clauses.any fun clause => clause.subject.isScoped && clause.subject.coversContext) ||
    (filter.threshold (·.coversTarget LogEntry.contextTarget)).admits LogEntry.contextLevel

/-- Where the program's own events come from: each part has targets that begin with one of these. -/
def ownTargets : List Text :=
  ["rewrite_cli".toList, "rewrite_ingest".toList, "rewrite_model".toList, "rewrite_validate".toList]

/-- The filter with one threshold for the program's own events. Other events are shown from warnings on,
or from where the program's own are if that is quieter. -/
def upTo (threshold : Threshold) : Filter :=
  ⟨⟨{}, .quieter (.upTo .warn) threshold⟩ ::
    ownTargets.map fun target => ⟨{ target := some target }, threshold⟩⟩

end Filter
end Overrule
