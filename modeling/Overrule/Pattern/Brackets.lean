import Overrule.Pattern.Escaped

namespace Overrule.Pattern

structure Nested (α : Type) where
  value : α
  depth : Nat
  deriving DecidableEq, Repr

def namedClasses : List (Text × CodeRanges) :=
  [("alnum".toList, [(0x30, 0x39), (0x41, 0x5A), (0x61, 0x7A)]),
   ("alpha".toList, [(0x41, 0x5A), (0x61, 0x7A)]), ("ascii".toList, [(0x00, 0x7F)]),
   ("blank".toList, [(0x09, 0x09), (0x20, 0x20)]), ("cntrl".toList, [(0x00, 0x1F), (0x7F, 0x7F)]),
   ("digit".toList, digits), ("graph".toList, [(0x21, 0x7E)]), ("lower".toList, [(0x61, 0x7A)]),
   ("print".toList, [(0x20, 0x7E)]),
   ("punct".toList, [(0x21, 0x2F), (0x3A, 0x40), (0x5B, 0x60), (0x7B, 0x7E)]),
   ("space".toList, spaces), ("upper".toList, [(0x41, 0x5A)]), ("word".toList, wordParts),
   ("xdigit".toList, [(0x30, 0x39), (0x41, 0x46), (0x61, 0x66)])]

def readNamed? : Text → Option (CharSet × Text)
  | ':' :: text =>
    let (negated, text) := match text with
      | '^' :: rest => (true, rest)
      | _ => (false, text)
    let name := text.takeWhile (· ≠ ':')
    match namedClasses.lookup name, text.drop name.length with
    | some ranges, ':' :: ']' :: rest =>
      let set : CharSet := .ofRanges ranges
      some (if negated then set.others else set, rest)
    | _, _ => none
  | _ => none

inductive Joint where
  | both
  | without
  | either
  deriving DecidableEq, Repr

def Joint.join : Joint → CharSet → CharSet → CharSet
  | .both => CharSet.both
  | .without => CharSet.without
  | .either => CharSet.either

/-- A set that is being read: the part in front of the last joint, and the members behind it. -/
structure OpenSet where
  earlier : Option (Nested CharSet × Joint) := none
  members : List (Nested CharSet) := []
  deriving DecidableEq, Repr

namespace OpenSet

def add (set : OpenSet) (member : Nested CharSet) : OpenSet :=
  { set with members := member :: set.members }

/-- The set of the members behind the last joint. Several of them lie deeper than one does. -/
def current (set : OpenSet) : Nested CharSet :=
  let depth := (set.members.map Nested.depth).foldl max 0
  ⟨set.members.foldl (fun union member => union.union member.value) .empty,
    if set.members.length < 2 then depth else depth + 1⟩

def close (set : OpenSet) : Nested CharSet :=
  match set.earlier with
  | none => set.current
  | some (earlier, joint) =>
    ⟨joint.join earlier.value set.current.value, max earlier.depth set.current.depth + 1⟩

def join (set : OpenSet) (joint : Joint) : OpenSet := ⟨some (set.close, joint), []⟩

end OpenSet

/-- Reads one character of a set, or what stands behind a backslash there. -/
def readMember? (settings : Settings) : Text → Option (Escaped × Text)
  | [] => none
  | '\\' :: rest => readEscaped? settings rest
  | c :: rest => some (.char c, rest)

/-- The next character of a text that counts. What a comment says does count here, and only the mark in
front of it does not. -/
def peek (settings : Settings) (inComment : Bool) : Text → Option Char
  | [] => none
  | c :: rest =>
    if settings.spaced ∧ isBlank c then peek settings inComment rest
    else if settings.spaced ∧ c = '#' ∧ ¬ inComment then peek settings true rest
    else some c

def readRange? (settings : Settings) (text : Text) : Option (CharSet × Text) := do
  let (first, rest) ← readMember? settings text
  let rest := settings.skip rest
  let single : Option (CharSet × Text) := match first with
    | .char c => (settings.set? (.single c)).map fun set => (set, rest)
    | .set set => some (set, rest)
    | .border _ => none
  match rest with
  | '-' :: after =>
    let next := peek settings false after
    if next = some ']' ∨ next = some '-' then single
    else
      match first, ← readMember? settings (settings.skip after) with
      | .char first, (.char last, rest) =>
        if first ≤ last then (settings.set? (.range first last)).map fun set => (set, rest) else none
      | _, _ => none
  | _ => single

/-- Drops the hyphens in front of a text, up to some number of them, and counts them. -/
def takeHyphens (settings : Settings) : Nat → Text → Nat × Text
  | 0, text => (0, text)
  | limit + 1, text =>
    match settings.skip text with
    | '-' :: rest =>
      let (count, rest) := takeHyphens settings limit rest
      (count + 1, rest)
    | text => (0, text)

/-- Reads the front of a set, behind `[`: whether it is negated, hyphens, and a bracket that stands for
itself because nothing else does yet. -/
def readFront? (settings : Settings) (text : Text) : Option (Bool × OpenSet × Text) := do
  let (negated, text) := match settings.skip text with
    | '^' :: rest => (true, rest)
    | text => (false, text)
  let (hyphens, text) := takeHyphens settings text.length text
  let literal (c : Char) : Option (Nested CharSet) := (settings.set? (.single c)).map (⟨·, 0⟩)
  match hyphens, text with
  | 0, ']' :: rest => return (negated, OpenSet.add {} (← literal ']'), rest)
  | 0, text => return (negated, {}, text)
  | count, text => return (negated, ⟨none, List.replicate count (← literal '-')⟩, text)

/-- Reads a set behind its front, up to and with `]`, in a number of steps and with some number of further
sets in each other. -/
def readSet? (settings : Settings) (negated : Bool) :
    Nat → Nat → OpenSet → Text → Option (Nested CharSet × Text)
  | 0, _, _, _ => none
  | steps + 1, levels, set, text =>
    match settings.skip text with
    | ']' :: rest =>
      let closed := set.close
      let value? := if negated then settings.others? closed.value else some closed.value
      value?.map fun value => (⟨value, closed.depth + 1⟩, rest)
    | '[' :: rest =>
      match readNamed? rest, levels with
      | some (named, rest), levels =>
        match settings.set? named with
        | some named => readSet? settings negated steps levels (set.add ⟨named, 0⟩) rest
        | none => none
      | none, 0 => none
      | none, levels + 1 =>
        match readFront? settings rest with
        | some (negates, inner, rest) =>
          match readSet? settings negates steps levels inner rest with
          | some (inner, rest) => readSet? settings negated steps (levels + 1) (set.add inner) rest
          | none => none
        | none => none
    | '&' :: '&' :: rest => readSet? settings negated steps levels (set.join .both) rest
    | '-' :: '-' :: rest => readSet? settings negated steps levels (set.join .without) rest
    | '~' :: '~' :: rest => readSet? settings negated steps levels (set.join .either) rest
    | text =>
      match readRange? settings text with
      | some (more, rest) => readSet? settings negated steps levels (set.add ⟨more, 0⟩) rest
      | none => none

/-- Reads a set behind `[`, up to and with `]`, with some number of further sets in each other. Each step
takes at least one character off the text. -/
def readBrackets? (settings : Settings) (levels : Nat) (text : Text) :
    Option (Nested CharSet × Text) := do
  let (negated, set, rest) ← readFront? settings text
  readSet? settings negated (rest.length + 1) levels set rest

end Overrule.Pattern
