import Overrule.Files.Tree
import Overrule.Panic
import Overrule.Report.Sink

namespace Overrule

/-- What the program asks of its surroundings. -/
structure Host (m : Type → Type) where
  read : Path → m (Except SystemError Bytes)
  /-- Writes to a stream. The result is the failure, if there was one. -/
  write : Put → m (Option SystemError)
  /-- Opens a file, at whose end the log is written from then on. -/
  openLog : Path → m (Option SystemError)
  /-- Writes to the log: at the end of the opened file, or else to the stream for errors. -/
  log : Text → m Unit
  now : m Text
  elapsed : m Nat
  panicSite : Panic → m PanicSite

inductive LogTarget where
  | stream (channel : Channel)
  | file (place : Place)
  deriving DecidableEq, Repr

/-- Surroundings made of values. -/
structure Workbench where
  files : FileTree
  streams : Streams
  logTarget : LogTarget
  stamp : Text
  elapsed : Nat
  panicSite : PanicSite
  deriving DecidableEq, Repr

namespace Workbench

def openLog (path : Path) : StateM Workbench (Option SystemError) := fun bench =>
  match bench.files.openAppend path with
  | .ok (files, place) =>
    let logTarget : LogTarget := match files.entry? place with
      | some (.stream channel) => .stream channel
      | _ => .file place
    (none, { bench with files, logTarget })
  | .error fault => (some fault, bench)

def write (put : Put) : StateM Workbench (Option SystemError) := fun bench =>
  let (fault, streams) := (Streams.write put).run bench.streams
  (fault, { bench with streams })

def log (text : Text) : StateM Workbench Unit := fun bench =>
  match bench.logTarget with
  | .stream channel => ((), ((write ⟨channel, text⟩).run bench).2)
  | .file place => ((), { bench with files := bench.files.append place (Utf8.encode text) })

def host : Host (StateM Workbench) where
  read path := fun bench => (bench.files.read path, bench)
  write := write
  openLog := openLog
  log := log
  now := fun bench => (bench.stamp, bench)
  elapsed := fun bench => (bench.elapsed, bench)
  panicSite _ := fun bench => (bench.panicSite, bench)

/-- A workbench at which nothing was done yet, with files as they are and streams that take everything. -/
def ofFiles (files : FileTree) (stamp : Text) : Workbench where
  files := files
  streams := ⟨.unlimited, .unlimited⟩
  logTarget := .stream .err
  stamp := stamp
  elapsed := 0
  panicSite := .printing 8

end Workbench
end Overrule
