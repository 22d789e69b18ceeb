import Overrule.Pattern.Brackets
import Overrule.Text.Alphanumeric

namespace Overrule
namespace Pattern

def deepest : Nat := 250

/-- What several parts make together, if there are several. One part is what it is. -/
def Nested.together (make : List Pattern → Pattern) (parts : List (Nested Pattern)) : Nested Pattern :=
  let depth := (parts.map Nested.depth).foldl max 0
  ⟨make (parts.map Nested.value), if parts.length < 2 then depth else depth + 1⟩

def Nested.wrap (make : Pattern → Pattern) (pattern : Nested Pattern) : Nested Pattern :=
  ⟨make pattern.value, pattern.depth + 1⟩

inductive Part where
  | pattern (pattern : Nested Pattern)
  /-- Options for what follows, which match nothing and cannot be repeated. -/
  | options
  deriving DecidableEq, Repr

def Part.toNested : Part → Nested Pattern
  | .pattern nested => nested
  | .options => ⟨.empty, 0⟩

/-- A pattern that is being read: the finished branches, and the parts of the last one, both in reverse. -/
structure OpenPattern where
  branches : List (Nested Pattern) := []
  parts : List Part := []
  deriving DecidableEq, Repr

namespace OpenPattern

def add (pattern : OpenPattern) (part : Part) : OpenPattern :=
  { pattern with parts := part :: pattern.parts }

def alternate (pattern : OpenPattern) : OpenPattern :=
  ⟨Nested.together inSequence (pattern.parts.reverse.map Part.toNested) :: pattern.branches, []⟩

def close (pattern : OpenPattern) : Nested Pattern :=
  Nested.together choice pattern.alternate.branches.reverse

def repeat? (pattern : OpenPattern) (repeated : Pattern → Pattern) : Option OpenPattern :=
  match pattern.parts with
  | .pattern last :: parts => some { pattern with parts := .pattern (last.wrap repeated) :: parts }
  | _ => none

end OpenPattern

def times? (c : Char) : Option Times :=
  if c = '*' then some .anyTimes
  else if c = '+' then some .atLeastOnce
  else if c = '?' then some .atMostOnce
  else none

def isGroupName : Text → Bool
  | [] => false
  | c :: rest =>
    (c == '_' || isLetter c) &&
      rest.all fun c => c == '_' || c == '.' || c == '[' || c == ']' || isAlphanumeric c

/-- The groups that were read: how many there are, and the names that they have. -/
structure Groups where
  count : Nat := 0
  names : List Text := []
  deriving DecidableEq, Repr

/-- Reads the name of a group, up to and with `>`. No two groups have the same name. -/
def Groups.readName? (groups : Groups) (text : Text) : Option (Groups × Text) :=
  let name := text.takeWhile (· ≠ '>')
  match text.drop name.length with
  | _ :: rest =>
    if isGroupName name ∧ name ∉ groups.names then some (⟨groups.count + 1, name :: groups.names⟩, rest)
    else none
  | [] => none

inductive GroupFront where
  | numbered (groups : Groups)
  | plain (settings : Settings)
  | options (settings : Settings)
  deriving DecidableEq, Repr

def readGroup? (groups : Groups) (settings : Settings) (text : Text) : Option (GroupFront × Text) :=
  match settings.skip text with
  | '?' :: 'P' :: '<' :: rest | '?' :: '<' :: rest =>
    (groups.readName? rest).map fun (groups, rest) => (.numbered groups, rest)
  | '?' :: ')' :: _ => none
  | '?' :: rest =>
    match settings.read? rest with
    | some (settings, ':' :: rest) => some (.plain settings, rest)
    | some (settings, _ :: rest) => some (.options settings, rest)
    | _ => none
  | rest => some (.numbered { groups with count := groups.count + 1 }, rest)

def readSimple? (settings : Settings) : Text → Option (Pattern × Text)
  | [] => none
  | '{' :: _ => none
  | '.' :: rest => settings.point?.map (·, rest)
  | '^' :: rest => some (.border settings.front, rest)
  | '$' :: rest => some (.border settings.back, rest)
  | '\\' :: rest =>
    match readEscaped? settings rest with
    | some (.char c, rest) => (settings.literal? c).map (·, rest)
    | some (.set set, rest) => some (ofSet true set, rest)
    | some (.border place, rest) => some (.border place, rest)
    | none => none
  | c :: rest => (settings.literal? c).map (·, rest)

/-- Reads a pattern up to its end or to the `)` that closes the group it is in, in a number of steps and
with some number of further groups in each other. -/
def readFrom? : Nat → Nat → Groups → Settings → OpenPattern → Text →
    Option (Nested Pattern × Groups × Text)
  | 0, _, _, _, _, _ => none
  | steps + 1, levels, groups, settings, pattern, text =>
    match settings.skip text with
    | [] => some (pattern.close, groups, [])
    | ')' :: rest => some (pattern.close, groups, ')' :: rest)
    | '|' :: rest => readFrom? steps levels groups settings pattern.alternate rest
    | '[' :: rest =>
      match readBrackets? settings deepest rest with
      | some (set, rest) =>
        let part := ⟨ofSet (!settings.allScripts) set.value, set.depth⟩
        readFrom? steps levels groups settings (pattern.add (.pattern part)) rest
      | none => none
    | '(' :: rest =>
      match readGroup? groups settings rest, levels with
      | some (.options settings, rest), _ =>
        readFrom? steps levels groups settings (pattern.add .options) rest
      | some (.plain inner, rest), levels + 1 =>
        match readFrom? steps levels groups inner {} rest with
        | some (body, groups, ')' :: rest) =>
          readFrom? steps (levels + 1) groups settings (pattern.add (.pattern (body.wrap id))) rest
        | _ => none
      | some (.numbered inner, rest), levels + 1 =>
        match readFrom? steps levels inner settings {} rest with
        | some (body, groups, ')' :: rest) =>
          let part := body.wrap (.group inner.count)
          readFrom? steps (levels + 1) groups settings (pattern.add (.pattern part)) rest
        | _ => none
      | _, _ => none
    | c :: rest =>
      match times? c with
      | some count =>
        let (marked, rest) := match rest with
          | '?' :: rest => (true, rest)
          | _ => (false, rest)
        match pattern.repeat? fun part => part.times count (marked == settings.swapsGreed) with
        | some pattern => readFrom? steps levels groups settings pattern rest
        | none => none
      | none =>
        match readSimple? settings (c :: rest) with
        | some (part, rest) =>
          readFrom? steps levels groups settings (pattern.add (.pattern ⟨part, 0⟩)) rest
        | none => none

/-- Reads a pattern. Each step takes at least one character off the text. -/
def ofText? (text : Text) : Option Pattern :=
  match readFrom? (text.length + 1) deepest {} {} {} text with
  | some (pattern, _, []) => if pattern.depth ≤ deepest then some pattern.value else none
  | _ => none

end Pattern
end Overrule
