import Overrule.Channel
import Overrule.Files.Error

namespace Overrule

abbrev Name := Bytes

abbrev Place := List Name

inductive Entry where
  | directory
  | file (content : Bytes)
  | link (target : Path)
  | null
  /-- A device that gives nothing, and through which a stream is written. -/
  | stream (channel : Channel)
  | refused (error : SystemError)
  deriving DecidableEq, Repr

structure FileTree where
  entries : List (Place × Entry)
  home : Place
  deriving DecidableEq, Repr

namespace Path

def slash : UInt8 := 0x2F

/-- The names of a path, without the empty ones that repeated slashes leave. -/
def names (path : Path) : List Name := (path.splitOn slash).filter (· ≠ [])

def isAbsolute (path : Path) : Bool := path.head? == some slash

def endsInSlash (path : Path) : Bool := path.getLast? == some slash

def here : Name := [0x2E]

def above : Name := [0x2E, 0x2E]

def longestName : Nat := 255

def lengthLimit : Nat := 4096

def linkLimit : Nat := 40

/-- The steps through the tree that a path asks for: its names, and one more into the directory it names
if it ends in a slash. -/
def steps (path : Path) : List Name := path.names ++ if path.endsInSlash then [here] else []

end Path

namespace FileTree

def entry? (tree : FileTree) (place : Place) : Option Entry :=
  if place = [] then some .directory else tree.entries.lookup place

def set (tree : FileTree) (place : Place) (entry : Entry) : FileTree :=
  if tree.entries.any (·.1 == place) then
    { tree with entries := tree.entries.map fun old => if old.1 == place then (place, entry) else old }
  else { tree with entries := tree.entries ++ [(place, entry)] }

def origin (directory : Place) (path : Path) : Place := if path.isAbsolute then [] else directory

inductive Walk where
  | arrived (place : Place)
  /-- A symbolic link in a directory, with the names still to go. -/
  | link (directory : Place) (target : Path) (rest : List Name)
  | failed (error : SystemError)
  deriving DecidableEq, Repr

/-- Takes the steps from a place on until the last or the first symbolic link. -/
def walk (tree : FileTree) (place : Place) : List Name → Walk
  | [] => .arrived place
  | name :: rest =>
    match tree.entry? place with
    | some .directory =>
      if name = Path.here then walk tree place rest
      else if name = Path.above then walk tree place.dropLast rest
      else if Path.longestName < name.length then .failed .nameTooLong
      else
        match tree.entry? (place ++ [name]) with
        | some (.link target) => .link place target rest
        | some _ => walk tree (place ++ [name]) rest
        | none => .failed .missing
    | some _ => .failed .notDirectory
    | none => .failed .missing

/-- Takes the steps from a place on, following up to `links` symbolic links. -/
def follow (tree : FileTree) (links : Nat) (place : Place) (steps : List Name) :
    Except SystemError Place :=
  match tree.walk place steps with
  | .arrived place => .ok place
  | .failed error => .error error
  | .link directory target rest =>
    match links with
    | 0 => .error .tooManyLinks
    | links + 1 => follow tree links (origin directory target) (target.steps ++ rest)

/-- Refuses the paths that no tree can hold. -/
def check (path : Path) : Except SystemError Unit :=
  if path.contains 0 then .error .zeroByte
  else if path = [] then .error .missing
  else if Path.lengthLimit ≤ path.length then .error .nameTooLong
  else .ok ()

def locate (tree : FileTree) (path : Path) : Except SystemError Place := do
  check path
  tree.follow Path.linkLimit (origin tree.home path) path.steps

def read (tree : FileTree) (path : Path) : Except SystemError Bytes := do
  let place ← tree.locate path
  match tree.entry? place with
  | some (.file content) => .ok content
  | some .null | some (.stream _) => .ok []
  | some .directory => .error .isDirectory
  | some (.refused error) => .error error
  | some (.link _) | none => .error .missing

/-- The place at which a file opened for writing stands or is to be made, given the names to go through
from a place on. The root, a name with a slash after it, `.` and `..` can only be directories. A link at
the end is followed even if nothing stands where it leads. -/
def destination (tree : FileTree) (links : Nat) (place : Place) (names : List Name) (slashed : Bool) :
    Except SystemError Place :=
  match names.getLast? with
  | none => .error .isDirectory
  | some last =>
    match tree.walk place names.dropLast with
    | .failed error => .error error
    | .link directory target rest =>
      match links with
      | 0 => .error .tooManyLinks
      | links + 1 =>
        destination tree links (origin directory target) (target.names ++ rest ++ [last]) slashed
    | .arrived directory =>
      match tree.entry? directory with
      | some .directory =>
        if last = Path.here ∨ last = Path.above ∨ slashed then .error .isDirectory
        else if Path.longestName < last.length then .error .nameTooLong
        else
          match tree.entry? (directory ++ [last]) with
          | some .directory => .error .isDirectory
          | some (.refused error) => .error error
          | some (.link target) =>
            match links with
            | 0 => .error .tooManyLinks
            | links + 1 =>
              destination tree links (origin directory target) target.names target.endsInSlash
          | _ => .ok (directory ++ [last])
      | some _ => .error .notDirectory
      | none => .error .missing

/-- Opens a file to be written at its end, and makes it if it is not there. -/
def openAppend (tree : FileTree) (path : Path) : Except SystemError (FileTree × Place) := do
  check path
  let place ← tree.destination Path.linkLimit (origin tree.home path) path.names path.endsInSlash
  match tree.entry? place with
  | none => .ok (tree.set place (.file []), place)
  | some _ => .ok (tree, place)

def append (tree : FileTree) (place : Place) (bytes : Bytes) : FileTree :=
  match tree.entry? place with
  | some (.file content) => tree.set place (.file (content ++ bytes))
  | _ => tree

/-- The place of the last of some names in the directory that those before it lead to from a place on. The
name itself is not followed; `.` and `..` name no place. -/
def placeOf? (tree : FileTree) (start : Place) (names : List Name) : Option Place :=
  match names.getLast?, tree.follow Path.linkLimit start names.dropLast with
  | some last, .ok directory =>
    if last = Path.here ∨ last = Path.above then none else some (directory ++ [last])
  | _, _ => none

/-- Makes the directory that names lead to from a place on, if only the last one is not there. -/
def makeDirectory (tree : FileTree) (start : Place) (names : List Name) : FileTree :=
  match tree.placeOf? start names with
  | some place =>
    match tree.entry? place with
    | none => tree.set place .directory
    | some _ => tree
  | none => tree

/-- Makes the directories that names lead through and that are not there. -/
def makeDirectories (tree : FileTree) (start : Place) (names : List Name) : FileTree :=
  (List.range names.length).foldl (fun tree count => tree.makeDirectory start (names.take (count + 1)))
    tree

/-- Puts an entry at a path, with the directories on the way. A file put where a link stands becomes the
file that the link leads to. -/
def put (tree : FileTree) (path : Path) (entry : Entry) : FileTree :=
  let start := origin tree.home path
  let tree := tree.makeDirectories start path.names.dropLast
  match entry with
  | .file _ =>
    match tree.openAppend path with
    | .ok (tree, place) => tree.set place entry
    | .error _ => tree
  | .directory => tree.makeDirectory start path.names
  | _ =>
    match tree.placeOf? start path.names with
    | some place => tree.set place entry
    | none => tree

/-- Takes away what stands at a path, and all below it. A link is taken away itself. -/
def remove (tree : FileTree) (path : Path) : FileTree :=
  match tree.placeOf? (origin tree.home path) path.names with
  | some place => { tree with entries := tree.entries.filter fun old => !place.isPrefixOf old.1 }
  | none => tree

def fresh : FileTree :=
  let name (text : String) : Name := Utf8.encode text.toList
  let dev := name "dev"
  let home := [name "tmp", name "work"]
  { entries := [([dev], .directory), ([dev, name "null"], .null), ([dev, name "stdin"], .null),
      ([dev, name "stdout"], .stream .out), ([dev, name "stderr"], .stream .err),
      ([name "tmp"], .directory), (home, .directory)]
    home }

end FileTree
end Overrule
