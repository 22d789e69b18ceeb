import Overrule.Pattern.Basic
import Overrule.Text.Blank

namespace Overrule.Pattern

structure Settings where
  ignoresCase : Bool := false
  crossesLines : Bool := false
  linewise : Bool := false
  returns : Bool := false
  /-- A repetition is greedy if marked with `?`, and otherwise not. -/
  swapsGreed : Bool := false
  spaced : Bool := false
  allScripts : Bool := true
  deriving DecidableEq, Repr

namespace Settings

def set (on : Bool) (settings : Settings) (letter : Char) : Settings :=
  match letter with
  | 'i' => { settings with ignoresCase := on }
  | 's' => { settings with crossesLines := on }
  | 'm' => { settings with linewise := on }
  | 'R' => { settings with returns := on }
  | 'U' => { settings with swapsGreed := on }
  | 'x' => { settings with spaced := on }
  | 'u' => { settings with allScripts := on }
  | _ => settings

/-- Reads the letters of options up to `)` or `:`, and gives the rest from there on. Those behind a hyphen
are turned off. Nothing may be given twice, and something has to follow the hyphen. -/
def read? (settings : Settings) (text : Text) : Option (Settings × Text) :=
  let letters := text.takeWhile fun c => c ≠ ')' ∧ c ≠ ':'
  let rest := text.drop letters.length
  let on := letters.takeWhile (· ≠ '-')
  let off := letters.drop (on.length + 1)
  if rest ≠ [] ∧ letters.all "ismRUxu-".toList.contains ∧ letters.eraseDups = letters ∧
      letters.getLast? ≠ some '-' then
    some (off.foldl (set false) (on.foldl (set true) settings), rest)
  else none

/-- Drops white space and comments in front of a text, or only those if it begins inside a comment. A comment
goes up to the end of its line. -/
def dropSpace (inComment : Bool) : Text → Text
  | [] => []
  | c :: rest =>
    if inComment then dropSpace (c ≠ '\n') rest
    else if isBlank c then dropSpace false rest
    else if c = '#' then dropSpace true rest
    else c :: rest

def skip (settings : Settings) (text : Text) : Text :=
  if settings.spaced then dropSpace false text else text

def set? (settings : Settings) (set : CharSet) : Option CharSet :=
  if settings.allScripts then if settings.ignoresCase then none else some set
  else if set.isAscii then some (if settings.ignoresCase then set.folded else set)
  else none

def others? (settings : Settings) (set : CharSet) : Option CharSet :=
  if settings.allScripts then some set.others else none

def literal? (settings : Settings) (c : Char) : Option Pattern :=
  if ¬ settings.ignoresCase then some (.literal [c])
  else if settings.allScripts then none
  else some (ofSet true (if c.isAlpha then (CharSet.single c).folded else .single c))

def point? (settings : Settings) : Option Pattern :=
  let ends : CharSet :=
    if settings.crossesLines then .empty
    else if settings.returns then (CharSet.single '\n').union (.single '\r')
    else .single '\n'
  if settings.allScripts then some (ofSet false ends.others) else none

def front (settings : Settings) : Border :=
  if settings.linewise then .lineFront settings.returns else .front

def back (settings : Settings) : Border :=
  if settings.linewise then .lineBack settings.returns else .back

end Settings
end Overrule.Pattern
