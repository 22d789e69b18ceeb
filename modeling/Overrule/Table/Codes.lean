import Overrule.Text.Escape

namespace Overrule
namespace Codes

/-- Where a reader stands in a code, behind the character that opens it. -/
inductive Stage where
  | opened
  /-- One parenthesis came, which may be that of a character set. -/
  | parenthesis
  | marks
  | digits (count : Nat)
  | semicolon
  | complete
  deriving DecidableEq, Repr

/-- Whether what was read so far is a code. The last character of a code may be a digit. -/
def Stage.isCode : Stage → Bool
  | .digits _ | .complete => true
  | _ => false

def opens (c : Char) : Bool := c == Escape.esc || c.toNat == 0x9B

def closes (c : Char) : Bool :=
  ('A' ≤ c && c ≤ 'P') || ('f' ≤ c && c ≤ 'n') || "RZcqry=><".toList.contains c

/-- Where a reader stands after one more character, if a code may go on with it. A number has five digits
at most, the last of which may end the code. -/
def Stage.next? (stage : Stage) (c : Char) : Option Stage :=
  let starting := stage = .opened ∨ stage = .parenthesis ∨ stage = .marks
  if c = '(' ∨ c = ')' then
    if stage = .opened then some .parenthesis else if starting then some .marks else none
  else if c = '[' ∨ c = '#' ∨ c = '?' then if starting then some .marks else none
  else
    match stage with
    | .complete => none
    | .digits count =>
      if 5 ≤ count then none
      else if c.isDigit then some (.digits (count + 1))
      else if c = ';' then some .semicolon
      else if closes c then some .complete
      else none
    | _ =>
      if c.isDigit then
        some (if stage = .parenthesis ∧ c ≤ '2' then .complete else .digits 1)
      else if c = ';' then some (if starting then .marks else .semicolon)
      else if closes c then some .complete
      else none

/-- The length of the longest code, given how many characters were read and how many of them are one. -/
def longest (stage : Stage) (count found : Nat) : Text → Nat
  | [] => found
  | c :: rest =>
    match stage.next? c with
    | none => found
    | some stage => longest stage (count + 1) (if stage.isCode then count + 1 else found) rest

/-- The length of what stands between the beginning of a string and its end, that end included: a bell, a
string terminator, or that of the text. -/
def stringLength : Text → Nat
  | [] => 0
  | c :: rest =>
    if c.toNat = 0x07 ∨ c.toNat = 0x9C then 1
    else if c = Escape.esc ∧ rest.head? = some '\\' then 2
    else stringLength rest + 1

/-- The length of the code at the front of a text, or nothing if there is none. -/
def length (text : Text) : Nat :=
  match text with
  | [] => 0
  | c :: rest =>
    if c = Escape.esc ∧ (rest.head? = some ']' ∨ rest.head? = some 'P') then
      stringLength (rest.drop 1) + 2
    else if opens c then longest .opened 1 0 rest
    else 0

inductive Run where
  | plain (text : Text)
  | code (text : Text)
  deriving DecidableEq, Repr

def Run.text : Run → Text
  | .plain text => text
  | .code text => text

def consPlain (c : Char) : List Run → List Run
  | .plain text :: rest => .plain (c :: text) :: rest
  | runs => .plain [c] :: runs

/-- Reads runs, given the front of a code and how many characters of it are still to be read. -/
def runsFrom (code : Text) : Nat → Text → List Run
  | 0, [] => []
  | _ + 1, [] => [.code code]
  | 0, c :: rest =>
    match length (c :: rest) with
    | more + 2 => runsFrom [c] (more + 1) rest
    | _ => consPlain c (runsFrom [] 0 rest)
  | 1, c :: rest => .code (code ++ [c]) :: runsFrom [] 0 rest
  | more + 2, c :: rest => runsFrom (code ++ [c]) (more + 1) rest

def runs (text : Text) : List Run := runsFrom [] 0 text

/-- The codes in force after some text, given those in force before it. -/
def inForce (before : List Text) (text : Text) : List Text :=
  (runs text).foldl (fun codes run =>
    match run with
    | .plain _ => codes
    | .code code => if code = resetCode then [] else codes ++ [code]) before

/-- Closes the codes that would reach over the end of a part, and repeats them on the next part. -/
def carry (before : List Text) : List Text → List Text
  | [] => []
  | part :: rest =>
    let after := inForce before part
    (before.flatten ++ part ++ if after = [] then [] else resetCode) :: carry after rest

/-- The words of a line, which are its pieces between blanks. A blank inside a code does not count. -/
def words (line : Text) : List Text :=
  carry [] ((runs line).foldr (fun run words =>
    match run with
    | .code code => words.modifyHead (code ++ ·)
    | .plain text =>
      match (text.splitOn ' ').getLast?, words with
      | some last, first :: others => (text.splitOn ' ').dropLast ++ (last ++ first) :: others
      | _, _ => words) [[]])

end Codes
end Overrule
