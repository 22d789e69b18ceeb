import Overrule.CommandLine.Switch
import Overrule.Text.Controls

namespace Overrule.CommandLine

inductive Slot where
  | value (switch : Switch)
  | files
  deriving DecidableEq, Repr

def filesTitle : Text := "<FILE>...".toList

def Slot.title : Slot → Text
  | .value switch => switch.title
  | .files => filesTitle

inductive UsageError where
  | unknown (argument : Text)
  | valueMissing (slot : Slot)
  | valueInvalid (value : Text) (switch : Switch)
  | valueUnexpected (value : Text) (switch : Switch)
  | repeated (switch : Switch)
  | exclusive (first second : Switch)
  | filesMissing
  deriving DecidableEq, Repr

/-- What someone wrote, in quotes. It may hold anything, and is shown without its controls. -/
def quoted (text : Text) : Text := '\'' :: Controls.printed text ++ ['\'']

def UsageError.message : UsageError → Text
  | .unknown argument => "unexpected argument ".toList ++ quoted argument ++ " found".toList
  | .valueMissing slot =>
    "a value is required for ".toList ++ quoted slot.title ++ " but none was supplied".toList
  | .valueInvalid value switch =>
    "invalid value ".toList ++ quoted value ++ " for ".toList ++ quoted switch.title
  | .valueUnexpected value switch =>
    "unexpected value ".toList ++ quoted value ++ " for ".toList ++ quoted switch.title ++
      " found; no more were expected".toList
  | .repeated switch =>
    "the argument ".toList ++ quoted switch.title ++ " cannot be used multiple times".toList
  | .exclusive first second =>
    "the argument ".toList ++ quoted first.title ++ " cannot be used with ".toList ++
      quoted second.title
  | .filesMissing => "the following required arguments were not provided:".toList

inductive Request where
  | run (options : Options)
  | help (detailed : Bool)
  | version
  deriving DecidableEq, Repr

inductive Stop where
  | error (error : UsageError)
  | request (request : Request)
  deriving DecidableEq, Repr

inductive Argument where
  | terminator
  /-- A name, and the value behind an equals sign if there is one. -/
  | long (name : Bytes) (value : Option Bytes)
  /-- Letters, up to the first byte that belongs to none, and the bytes from there on. -/
  | short (letters : Text) (rest : Bytes)
  | plain (value : Bytes)
  deriving DecidableEq, Repr

namespace Argument

def dash : UInt8 := 0x2D

def equals : UInt8 := 0x3D

def ofBytes (bytes : Bytes) : Argument :=
  if bytes = [dash, dash] then .terminator
  else if [dash, dash].isPrefixOf bytes then
    let body := bytes.drop 2
    .long (body.takeWhile (· ≠ equals))
      (match body.dropWhile (· ≠ equals) with
        | [] => none
        | _ :: value => some value)
  else if [dash].isPrefixOf bytes ∧ bytes ≠ [dash] then
    let (letters, rest) := Utf8.split (bytes.drop 1)
    .short letters rest
  else .plain bytes

end Argument

inductive Pending where
  | nothing
  /-- A switch that takes a value, and the value if it was given. -/
  | value (switch : Switch) (value : Option Bytes)
  | files (paths : List Path)
  deriving DecidableEq, Repr

structure Reading where
  options : Options
  /-- The switches given so far, each where it was given last. -/
  given : List Switch
  pending : Pending
  terminated : Bool
  deriving DecidableEq, Repr

namespace Reading

def start : Reading := ⟨{}, [], .nothing, false⟩

def set (reading : Reading) (switch : Switch) (setting : Setting) : Reading :=
  { reading with
    options := setting.apply reading.options
    given := reading.given.erase switch ++ [switch]
    pending := .nothing }

/-- Looks at the value of a switch: whether the switch may be given again, and what the value sets. -/
def close (reading : Reading) (switch : Switch) (value : Bytes) : Except UsageError Reading :=
  if switch ∈ reading.given then .error (.repeated switch)
  else if value = [] then .error (.valueMissing (.value switch))
  else
    let setting := match switch.effect with
      | .choice _ choices => (Utf8.decode? value).bind fun name => choices.lookup name
      | .path _ setting => some (setting value)
      | _ => none
    match setting with
    | some setting => .ok (reading.set switch setting)
    | none => .error (.valueInvalid (Utf8.decode value) switch)

def settle (reading : Reading) : Except UsageError Reading :=
  match reading.pending with
  | .nothing => .ok reading
  | .value switch none => .error (.valueMissing (.value switch))
  | .value switch (some value) => reading.close switch value
  | .files paths =>
    if [] ∈ paths then .error (.valueMissing .files)
    else
      .ok { reading with
        options := { reading.options with files := reading.options.files ++ paths }
        pending := .nothing }

def orStop {α : Type} : Except UsageError α → Except Stop α
  | .ok value => .ok value
  | .error error => .error (.error error)

def turnOn (reading : Reading) (switch : Switch) (spelledOut : Bool) : Except Stop Reading := do
  let settled ← orStop reading.settle
  match switch.effect with
  | .once setting =>
    if switch ∈ settled.given then .error (.error (.repeated switch))
    else .ok (settled.set switch setting)
  | .each setting => .ok (settled.set switch setting)
  | .help => .error (.request (.help spelledOut))
  | .version => .error (.request .version)
  | .choice .. | .path .. => .ok { settled with pending := .value switch none }

def readLong (reading : Reading) (name : Bytes) (value : Option Bytes) : Except Stop Reading :=
  match Switch.ofLong? name, value with
  | none, _ => .error (.error (.unknown ("--".toList ++ Utf8.decode name)))
  | some switch, none => reading.turnOn switch true
  | some switch, some value =>
    match switch.effect with
    | .choice .. | .path .. => orStop (reading.settle.bind (·.close switch value))
    | _ => .error (.error (.valueUnexpected (Utf8.decode value) switch))

def readLetters (reading : Reading) : Text → Except Stop Reading
  | [] => .ok reading
  | letter :: letters =>
    match Switch.ofShort? letter with
    | none => .error (.error (.unknown ['-', letter]))
    | some switch => (reading.turnOn switch false).bind (·.readLetters letters)

def readFile (reading : Reading) (path : Path) : Except Stop Reading :=
  match reading.pending with
  | .files paths => .ok { reading with pending := .files (paths ++ [path]) }
  | _ => orStop (reading.settle.map fun settled => { settled with pending := .files [path] })

def read (reading : Reading) (bytes : Bytes) : Except Stop Reading :=
  if reading.terminated then reading.readFile bytes
  else
    match Argument.ofBytes bytes with
    | .terminator => .ok { reading with terminated := true }
    | .long name value => reading.readLong name value
    | .short letters rest => do
      let read ← reading.readLetters letters
      if rest = [] then .ok read else .error (.error (.unknown ('-' :: Utf8.decode rest)))
    | .plain value =>
      match reading.pending with
      | .value switch none => .ok { reading with pending := .value switch (some value) }
      | _ => reading.readFile value

def finish (reading : Reading) : Except UsageError Request := do
  let settled ← reading.settle
  match settled.given.filter (· ∈ [Switch.verbose, Switch.quiet]) with
  | first :: second :: _ => .error (.exclusive first second)
  | _ =>
    if settled.options.files = [] then .error .filesMissing else .ok (.run settled.options)

end Reading

def request (arguments : List Bytes) : Except UsageError Request :=
  match arguments.foldlM Reading.read Reading.start with
  | .ok reading => reading.finish
  | .error (.error error) => .error error
  | .error (.request request) => .ok request

end Overrule.CommandLine
