import Overrule.Pattern.Basic

namespace Overrule
namespace Pattern

inductive Instruction where
  | accept
  | take (set : CharSet) (next : Nat)
  | check (border : Border) (next : Nat)
  | fork (first second : Nat)
  deriving DecidableEq, Repr

namespace Instruction

def loop (greedy : Bool) (inside outside : Nat) : Instruction :=
  if greedy then .fork inside outside else .fork outside inside

end Instruction

structure Program where
  steps : Array Instruction
  start : Nat
  deriving DecidableEq, Repr

namespace Program

def push (program : Program) (step : Instruction) : Program :=
  let place := program.steps.size
  ⟨program.steps.push step, place⟩

/-- A program with a pattern in front. A repetition of what can match the empty text is entered by a way of
its own, or else a first round without a character would be taken for a second one. -/
def prepend (program : Program) : Pattern → Program
  | .empty => program
  | .literal text => text.foldr (fun c program => program.push (.take (.single c) program.start)) program
  | .oneOf _ set => program.push (.take set program.start)
  | .border edge => program.push (.check edge program.start)
  | .group _ body => program.prepend body
  | .seq first rest => (program.prepend rest).prepend first
  | .alt first rest =>
    let left := program.prepend first
    let right := Program.prepend ⟨left.steps, program.start⟩ rest
    right.push (.fork left.start right.start)
  | .repeated .atMostOnce greedy body =>
    let inner := program.prepend body
    inner.push (.loop greedy inner.start program.start)
  | .repeated times greedy body =>
    let again := program.steps.size
    let inner := (program.push .accept).prepend body
    let loop : Instruction := .loop greedy inner.start program.start
    let round : Program := ⟨inner.steps.setIfInBounds again loop, inner.start⟩
    if times = .atLeastOnce then round
    else if body.takesSome then ⟨round.steps, again⟩
    else round.push loop

def ofPattern (pattern : Pattern) : Program := Program.prepend ⟨#[.accept], 0⟩ pattern

/-- What attempts come to at a place: the characters they ask for and where they go on, and whether one of
them, behind all these, is at its end. -/
structure Reached where
  takes : List (CharSet × Nat)
  accepts : Bool
  deriving DecidableEq, Repr

/-- What attempts come to that stand at some steps, at a place where some borders hold. Given are which steps
were already followed, and a bound for the number of steps. -/
def follow (program : Program) (holds : Border → Bool) : Nat → Array Bool → List Nat → Reached
  | 0, _, _ | _, _, [] => ⟨[], false⟩
  | count + 1, seen, place :: others =>
    if seen.getD place true then program.follow holds count seen others
    else
      let seen := seen.setIfInBounds place true
      match program.steps[place]? with
      | none => program.follow holds count seen others
      | some .accept => ⟨[], true⟩
      | some (.take set next) =>
        let reached := program.follow holds count seen others
        { reached with takes := (set, next) :: reached.takes }
      | some (.check edge next) =>
        program.follow holds count seen (if holds edge then next :: others else others)
      | some (.fork first second) => program.follow holds count seen (first :: second :: others)

/-- What attempts come to at a place between two characters. Each step is followed once and leads to two
others at most. -/
def reach (program : Program) (before after : Option Char) (attempts : List Nat) : Reached :=
  program.follow (·.holds before after) (attempts.length + 2 * program.steps.size + 1)
    (Array.replicate program.steps.size false) attempts

/-- Whether some attempts, and those that begin later if any do, reach the end of a text. A match that ends
inside a character ends the search as well, but no attempt. -/
def reachesEnd (program : Program) (before : Option Char) (attempts : List Nat) (searching : Bool) :
    Text → Bool
  | [] => (program.reach before none (if searching then attempts ++ [program.start] else attempts)).accepts
  | c :: rest =>
    let reached :=
      program.reach before (some c) (if searching then attempts ++ [program.start] else attempts)
    let next := reached.takes.filterMap fun (set, next) => if set.has c then some next else none
    let endsInside := 1 < c.utf8Size && (program.reach (some c) (some c) [program.start]).accepts
    program.reachesEnd (some c) next (searching && !reached.accepts && !endsInside) rest

end Program

/-- Whether the match that is found in a text ends where the text does. -/
def reachesEnd (pattern : Pattern) (text : Text) : Bool :=
  (Program.ofPattern pattern).reachesEnd none [] true text

end Pattern
end Overrule
