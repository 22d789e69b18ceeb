import Overrule.Text.CharSet

namespace Overrule

inductive Border where
  | front
  | back
  /-- The front of a line. With `returns` a carriage return ends a line too, unless a line feed follows. -/
  | lineFront (returns : Bool)
  | lineBack (returns : Bool)
  /-- The front or the end of a word, or else any other place. -/
  | wordEdge (isEdge : Bool)
  | wordFront
  | wordBack
  deriving DecidableEq, Repr

def Border.isWordPart (c : Char) : Bool := c.isAlphanum || c == '_'

/-- Whether a place is such a border, given the characters on both sides of it. -/
def Border.holds (border : Border) (before after : Option Char) : Bool :=
  let inWord := before.any isWordPart
  let atWord := after.any isWordPart
  match border with
  | .front => before.isNone
  | .back => after.isNone
  | .lineFront returns =>
    before.isNone || before == some '\n' || returns && before == some '\r' && after != some '\n'
  | .lineBack returns =>
    after.isNone || returns && after == some '\r' ||
      after == some '\n' && !(returns && before == some '\r')
  | .wordEdge isEdge => (inWord != atWord) == isEdge
  | .wordFront => !inWord && atWord
  | .wordBack => inWord && !atWord

inductive Times where
  | atMostOnce
  | anyTimes
  | atLeastOnce
  deriving DecidableEq, Repr

inductive Pattern where
  | empty
  | literal (text : Text)
  /-- Matches one character of a set. A set that was written for ASCII alone is not the same as one with the
  same characters that was not. -/
  | oneOf (inAscii : Bool) (set : CharSet)
  | border (border : Border)
  /-- As often as possible if `greedy`, and otherwise as rarely. -/
  | repeated (times : Times) (greedy : Bool) (body : Pattern)
  | group (number : Nat) (body : Pattern)
  | seq (first rest : Pattern)
  | alt (first rest : Pattern)
  deriving DecidableEq, Repr

namespace Pattern

def never : Pattern := .oneOf true .empty

def ofSet (inAscii : Bool) (set : CharSet) : Pattern :=
  if set = .empty then never
  else
    match set.single? with
    | some c => .literal [c]
    | none => .oneOf inAscii set

def takesNothing : Pattern → Bool
  | .empty | .border _ => true
  | .literal _ | .oneOf _ _ => false
  | .repeated _ _ body | .group _ body => body.takesNothing
  | .seq first rest | .alt first rest => first.takesNothing && rest.takesNothing

def takesSome : Pattern → Bool
  | .empty | .border _ => false
  | .literal _ | .oneOf _ _ => true
  | .repeated times _ body => times = .atLeastOnce && body.takesSome
  | .group _ body => body.takesSome
  | .seq first rest => first.takesSome || rest.takesSome
  | .alt first rest => first.takesSome && rest.takesSome

/-- A repetition. What takes no character is not repeated more than once. -/
def times (body : Pattern) (times : Times) (greedy : Bool) : Pattern :=
  if body.takesNothing then
    if times = .atLeastOnce then body else .repeated .atMostOnce greedy body
  else .repeated times greedy body

def parts : Pattern → List Pattern
  | .empty => []
  | .seq first rest => first :: rest.parts
  | pattern => [pattern]

def ofParts : List Pattern → Pattern
  | [] => .empty
  | [part] => part
  | part :: rest => .seq part (ofParts rest)

def consPart (part : Pattern) (parts : List Pattern) : List Pattern :=
  match part, parts with
  | .literal first, .literal second :: rest => .literal (first ++ second) :: rest
  | _, _ => part :: parts

def inSequence (patterns : List Pattern) : Pattern :=
  ofParts ((patterns.flatMap parts).foldr consPart [])

def branches : Pattern → List Pattern
  | .alt first rest => first :: rest.branches
  | pattern => [pattern]

def ofBranches : List Pattern → Pattern
  | [] => never
  | [branch] => branch
  | branch :: rest => .alt branch (ofBranches rest)

def characterSet? : Pattern → Option CharSet
  | .literal [c] => some (.single c)
  | _ => none

def set? : Pattern → Option CharSet
  | .oneOf _ set => some set
  | _ => none

/-- The set of all branches together, if all of them are texts of one character or all of them are sets. -/
def commonSet? (branches : List Pattern) : Option CharSet :=
  let union (sets : List CharSet) : CharSet := sets.foldl CharSet.union .empty
  ((branches.mapM characterSet?).orElse fun _ => branches.mapM set?).map union

def sharedParts : List Pattern → List Pattern → List Pattern
  | a :: as, b :: bs => if a = b then a :: sharedParts as bs else []
  | _, _ => []

/-- The parts that all branches begin with. A branch that is no sequence shares none. -/
def commonParts : List Pattern → List Pattern
  | [] => []
  | first :: rest =>
    let own (branch : Pattern) : List Pattern :=
      match branch with
      | .seq first rest => first :: rest.parts
      | _ => []
    rest.foldl (fun shared branch => sharedParts shared (own branch)) (own first)

/-- A choice between patterns, of which common beginnings are taken out up to some depth. -/
def choiceWithin : Nat → List Pattern → Pattern
  | 0, patterns => ofBranches (patterns.flatMap branches)
  | depth + 1, patterns =>
    match patterns.flatMap branches with
    | [] => never
    | [branch] => branch
    | branches =>
      match commonSet? branches, commonParts branches with
      | some set, _ => ofSet false set
      | none, [] => ofBranches branches
      | none, common =>
        let rests := branches.map fun branch => inSequence (branch.parts.drop common.length)
        inSequence (common ++ [choiceWithin depth rests])

def size : Pattern → Nat
  | .empty | .literal _ | .oneOf _ _ | .border _ => 1
  | .repeated _ _ body | .group _ body => body.size + 1
  | .seq first rest | .alt first rest => first.size + rest.size + 1

/-- A choice between patterns. Each time that a beginning is taken out, less is left. -/
def choice (patterns : List Pattern) : Pattern :=
  choiceWithin ((patterns.map size).foldr (· + ·) 0 + 1) patterns

end Pattern
end Overrule
