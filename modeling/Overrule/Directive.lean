import Overrule.Rule

namespace Overrule

def keyword : Text := "RewriteRule".toList

inductive LineReading where
  | unrelated
  /-- A directive whose source or destination is empty, once its quotes are taken off. -/
  | incomplete
  | rule (found : Rule)
  deriving DecidableEq, Repr

namespace LineReading

/-- What follows the keyword and a white space character, if the line begins with them; the white
space is still in front. -/
def arguments? (line : Text) : Option Text :=
  match keyword.isPrefixOf? line with
  | some (c :: rest) => if isBlank c then some (c :: rest) else none
  | _ => none

def ofLine (index : Nat) (line : Text) : LineReading :=
  match arguments? line with
  | none => .unrelated
  | some rest =>
    let arguments := rest.trimStart.splitOn ' '
    let source := Text.unquote (arguments.getD 0 [])
    let destination := Text.unquote (arguments.getD 1 [])
    let flags := Flags.parse (arguments.getD 2 [])
    if source = [] ∨ destination = [] then .incomplete
    else .rule { index, source, destination, flags, line }

def rule? : LineReading → Option Rule
  | .rule found => some found
  | _ => none

end LineReading

/-- Reads the rule of a line with a given number, if it has one. -/
def Rule.ofLine? (index : Nat) (line : Text) : Option Rule := (LineReading.ofLine index line).rule?

end Overrule
