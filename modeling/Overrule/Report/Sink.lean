import Overrule.Channel
import Overrule.Files.Error

namespace Overrule

def writeEach {m : Type → Type} {α : Type} [Monad m] (write : α → m (Option SystemError)) :
    List α → m (Option SystemError)
  | [] => pure none
  | thing :: things => do
    match ← write thing with
    | none => writeEach write things
    | some fault => pure (some fault)

theorem run_bind {σ α β : Type} (step : StateM σ α) (next : α → StateM σ β) (state : σ) :
    (step >>= next).run state = (next (step.run state).1).run (step.run state).2 := rfl

structure Sink where
  taken : Bytes
  room : Option Nat
  fault : SystemError
  deriving DecidableEq, Repr

namespace Sink

def unlimited : Sink := ⟨[], none, .deviceFull⟩

def limited (room : Nat) (fault : SystemError) : Sink := ⟨[], some room, fault⟩

/-- Takes bytes, as many as fit. The result is the failure, if not all of them did. -/
def take (sink : Sink) (bytes : Bytes) : Option SystemError × Sink :=
  match sink.room with
  | none => (none, { sink with taken := sink.taken ++ bytes })
  | some room =>
    if bytes.length ≤ room then
      (none, { sink with taken := sink.taken ++ bytes, room := some (room - bytes.length) })
    else
      (some sink.fault, { sink with taken := sink.taken ++ bytes.take room, room := some 0 })

def write (text : Text) : StateM Sink (Option SystemError) := fun sink => sink.take (Utf8.encode text)

end Sink

structure Streams where
  out : Sink
  err : Sink
  deriving DecidableEq, Repr

structure Put where
  channel : Channel
  text : Text
  deriving DecidableEq, Repr

def Streams.write (put : Put) : StateM Streams (Option SystemError) := fun streams =>
  match put.channel with
  | .out =>
    let (fault, out) := streams.out.take (Utf8.encode put.text)
    (fault, { streams with out })
  | .err =>
    let (fault, err) := streams.err.take (Utf8.encode put.text)
    (fault, { streams with err })

end Overrule
