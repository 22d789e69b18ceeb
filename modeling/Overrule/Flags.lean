import Overrule.Text.Blank
import Overrule.Text.UpperCase

namespace Overrule

structure Flags where
  tokens : List Text
  deriving DecidableEq, Repr

namespace Flags

/-- Whether a character of a flag block counts: brackets and white space do not. -/
def keeps (c : Char) : Bool := c != '[' && c != ']' && !isBlank c

/-- Reads a flag block: brackets and white space dropped wherever they stand, the rest in upper case,
split at commas. -/
def parse (block : Text) : Flags :=
  ⟨(Text.toUpper (block.filter keeps)).splitOn ','⟩

def contains (flags : Flags) (token : Text) : Bool := flags.tokens.contains token

/-- Whether the flag `L` is set, which ends the processing of rules. -/
def isLast (flags : Flags) : Bool := flags.contains ['L']

def isEmpty (flags : Flags) : Bool := flags.tokens.all List.isEmpty

def render (flags : Flags) : Text := '[' :: [','].intercalate flags.tokens ++ [']']

theorem tokens_parse_ne_nil (block : Text) : (parse block).tokens ≠ [] :=
  List.splitOn_ne_nil _ _

end Flags
end Overrule
