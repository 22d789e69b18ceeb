import Overrule.Log.Stamp
import Overrule.Program
import Std.Time.DateTime.Timestamp

namespace Overrule

/-- The number that the system knows an error by, and its words for it. -/
def systemReport : IO.Error → Option (Nat × String)
  | .alreadyExists _ code words | .otherError code words | .resourceBusy code words
  | .resourceVanished code words | .unsupportedOperation code words | .hardwareFault code words
  | .unsatisfiedConstraints code words | .illegalOperation code words | .protocolError code words
  | .timeExpired code words | .interrupted _ code words | .noFileOrDirectory _ code words
  | .invalidArgument _ code words | .permissionDenied _ code words
  | .resourceExhausted _ code words | .inappropriateType _ code words
  | .noSuchThing _ code words => some (code.toNat, words)
  | .unexpectedEof | .userError _ => none

def systemError (error : IO.Error) : SystemError :=
  match systemReport error with
  | some (2, _) => .missing
  | some (20, _) => .notDirectory
  | some (21, _) => .isDirectory
  | some (28, _) => .deviceFull
  | some (36, _) => .nameTooLong
  | some (40, _) => .tooManyLinks
  | some (code, words) =>
    .other (words.toList ++ " (os error ".toList ++ Text.decimal code ++ [')'])
  | none => .other (toString error).toList

def orRefusal {α : Type} (action : IO α) : IO (Except SystemError α) := do
  try
    return .ok (← action)
  catch error => return .error (systemError error)

def refusal? (action : IO Unit) : IO (Option SystemError) := do
  match ← orRefusal action with
  | .ok () => return none
  | .error fault => return some fault

def encoded (text : Text) : ByteArray := ⟨(Utf8.encode text).toArray⟩

def fileName (path : Path) : String := String.ofList path.display

def timeStamp : IO Text := do
  let now ← Std.Time.Timestamp.now
  return Stamp.render (now.toNanosecondsSinceUnixEpoch.toInt.toNat / 1000)

/-- The system as surroundings, given where the log file is kept once it is open, and the time of the
start. -/
def systemHost (logFile : IO.Ref (Option IO.FS.Handle)) (start : Nat) : Host IO where
  read path := orRefusal do
    let handle ← IO.FS.Handle.mk (fileName path) .read
    return (← handle.readBinToEnd).toList
  write put := refusal? do
    let stream ← match put.channel with
      | .out => IO.getStdout
      | .err => IO.getStderr
    stream.write (encoded put.text)
    stream.flush
  openLog path := refusal? do
    logFile.set (some (← IO.FS.Handle.mk (fileName path) .append))
  log text := do
    let _ ← refusal? do
      match ← logFile.get with
      | some handle =>
        handle.write (encoded text)
        handle.flush
      | none =>
        let stream ← IO.getStderr
        stream.write (encoded text)
        stream.flush
  now := timeStamp
  elapsed := return (← IO.monoMsNow) - start
  panicSite
    | .print .. => return .printing (← IO.getTID).toNat
    | _ => return ⟨(← IO.getTID).toNat, "<unknown>".toList⟩

end Overrule

def main (arguments : List String) : IO UInt32 := do
  let logFile ← IO.mkRef none
  let host := Overrule.systemHost logFile (← IO.monoMsNow)
  let environment ← IO.getEnv "RUST_LOG"
  let status ← Overrule.program host (arguments.map fun argument => argument.toUTF8.toList)
    (environment.map String.toList)
  return status.toUInt32
