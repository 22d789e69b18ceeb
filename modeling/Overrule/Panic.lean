import Overrule.Channel
import Overrule.Files.Error
import Overrule.Text.Slice

namespace Overrule

/-- Why a program ends out of order. -/
inductive Panic where
  | print (channel : Channel) (fault : SystemError)
  | filter (cause : SliceError)
  | subscriber
  | table (cause : SliceError)
  deriving DecidableEq, Repr

/-- Which thread panics, and where in the sources of the program. -/
structure PanicSite where
  thread : Nat
  place : Text
  deriving DecidableEq, Repr

/-- Where the library that the program is built with gives up printing. -/
def PanicSite.printing (thread : Nat) : PanicSite :=
  ⟨thread, "/rustc/b940084d7eb6a299eb4bfeb8e34901bc051e7ac4/library/std/src/io/stdio.rs:1168:9".toList⟩

namespace Panic

def message : Panic → Text
  | .print channel fault => "failed printing to ".toList ++ channel.name ++ ": ".toList ++ fault.message
  | .filter cause => cause.message
  | .subscriber => "failed to set global default subscriber".toList
  | .table cause => cause.message

/-- What is told of a panic, line by line, unless a trace of the calls is asked for. -/
def lines (panic : Panic) (site : PanicSite) : List Text :=
  [[], "thread 'main' (".toList ++ Text.decimal site.thread ++ ") panicked at ".toList ++ site.place ++ [':'],
    panic.message, "note: run with `RUST_BACKTRACE=1` environment variable to display a backtrace".toList]

end Panic
end Overrule
