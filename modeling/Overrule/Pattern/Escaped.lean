import Overrule.Pattern.Settings

namespace Overrule.Pattern

inductive Escaped where
  | char (c : Char)
  | set (set : CharSet)
  | border (border : Border)
  deriving DecidableEq, Repr

def hexValue? (c : Char) : Option Nat :=
  if c.isDigit then some (c.toNat - '0'.toNat)
  else if 'a' ≤ c.toLower ∧ c.toLower ≤ 'f' then some (c.toLower.toNat - 'a'.toNat + 10)
  else none

def readHex? (settings : Settings) : Nat → Nat → Text → Option (Nat × Text)
  | 0, value, text => some (value, text)
  | count + 1, value, text =>
    match settings.skip text with
    | [] => none
    | c :: rest =>
      match hexValue? c with
      | some digit => readHex? settings count (16 * value + digit) rest
      | none => none

def readCode? (settings : Settings) (count : Nat) (text : Text) : Option (Char × Text) :=
  match readHex? settings count 0 text with
  | some (value, rest) => if value.isValidChar then some (Char.ofNat value, rest) else none
  | none => none

def digits : CodeRanges := [(0x30, 0x39)]

def spaces : CodeRanges := [(0x09, 0x0D), (0x20, 0x20)]

def wordParts : CodeRanges := [(0x30, 0x39), (0x41, 0x5A), (0x5F, 0x5F), (0x61, 0x7A)]

/-- What one character behind a backslash stands for. Classes and the borders of words are known for ASCII
only. -/
def Escaped.ofChar? (settings : Settings) (c : Char) : Option Escaped :=
  let inAscii (escaped : Escaped) : Option Escaped :=
    if settings.allScripts then none else some escaped
  match c with
  | 'd' => inAscii (.set (.ofRanges digits))
  | 's' => inAscii (.set (.ofRanges spaces))
  | 'w' => inAscii (.set (.ofRanges wordParts))
  | 'b' => inAscii (.border (.wordEdge true))
  | 'B' => inAscii (.border (.wordEdge false))
  | '<' => inAscii (.border .wordFront)
  | '>' => inAscii (.border .wordBack)
  | 'A' => some (.border .front)
  | 'z' => some (.border .back)
  | 'a' => some (.char (Char.ofNat 0x07))
  | 'f' => some (.char (Char.ofNat 0x0C))
  | 'v' => some (.char (Char.ofNat 0x0B))
  | 't' => some (.char '\t')
  | 'n' => some (.char '\n')
  | 'r' => some (.char '\r')
  | _ => if c.toNat < 0x80 ∧ ¬ c.isAlphanum then some (.char c) else none

/-- Reads what stands behind a backslash. Two digits behind `x` are a byte, which is no character by itself
beyond ASCII. -/
def readEscaped? (settings : Settings) : Text → Option (Escaped × Text)
  | [] => none
  | 'x' :: rest => do
    let (c, rest) ← readCode? settings 2 rest
    if settings.allScripts ∨ c.toNat < 0x80 then return (.char c, rest) else none
  | 'u' :: rest => (readCode? settings 4 rest).map fun (c, rest) => (.char c, rest)
  | 'U' :: rest => (readCode? settings 8 rest).map fun (c, rest) => (.char c, rest)
  | c :: rest => (Escaped.ofChar? settings c).map fun escaped => (escaped, rest)

end Overrule.Pattern
