import Overrule.Json

namespace Overrule.Json

/-- What a JSON text stands for. -/
inductive Value where
  | null
  | truth (value : Bool)
  | number (literal : Text)
  | string (text : Text)
  | array (items : List Value)
  | object (members : List (Text × Value))
  deriving Repr

def isBlank (c : Char) : Bool := c = ' ' || c = '\t' || c = '\n' || c = '\r'

/-- Whether a text is a whole number: its digits, of which the first is not a zero unless it is the only one. -/
def isWhole : Text → Bool
  | [] => false
  | first :: digits => first.isDigit && digits.all Char.isDigit && (first != '0' || digits.isEmpty)

/-- A text without the sign in front of it, if it begins with one of some signs. -/
def dropSign (signs : List Char) : Text → Text
  | [] => []
  | first :: rest => if signs.contains first then rest else first :: rest

/-- Whether a text is nothing, or an exponent: a letter `e`, possibly a sign, and digits. -/
def isExponent : Text → Bool
  | [] => true
  | letter :: rest =>
    let digits := dropSign ['+', '-'] rest
    (letter == 'e' || letter == 'E') && !digits.isEmpty && digits.all Char.isDigit

/-- Whether a text is what may follow the whole part of a number: possibly a point and digits, and possibly an
exponent. -/
def isFraction : Text → Bool
  | '.' :: rest => !(rest.takeWhile Char.isDigit).isEmpty && isExponent (rest.dropWhile Char.isDigit)
  | rest => isExponent rest

/-- Whether a text is a number: possibly a minus sign, a whole part, and what may follow it. -/
def isNumber (literal : Text) : Bool :=
  let unsigned := dropSign ['-'] literal
  isWhole (unsigned.takeWhile Char.isDigit) && isFraction (unsigned.dropWhile Char.isDigit)

def hexValue? (c : Char) : Option Nat :=
  if '0' ≤ c ∧ c ≤ '9' then some (c.toNat - '0'.toNat)
  else if 'a' ≤ c ∧ c ≤ 'f' then some (c.toNat - 'a'.toNat + 10)
  else if 'A' ≤ c ∧ c ≤ 'F' then some (c.toNat - 'A'.toNat + 10)
  else none

def escaped? (letter : Char) : Option Char :=
  match letter with
  | '"' => some '"'
  | '\\' => some '\\'
  | '/' => some '/'
  | 'b' => some (Char.ofNat 0x08)
  | 'f' => some (Char.ofNat 0x0C)
  | 'n' => some '\n'
  | 'r' => some '\r'
  | 't' => some '\t'
  | _ => none

def standsForItself (c : Char) : Bool := 0x20 ≤ c.toNat && c != '"' && c != '\\'

/-- A part of a string: a character, or one of the units that UTF-16 cuts characters into. -/
inductive Element where
  | char (c : Char)
  | unit (code : Nat)
  deriving DecidableEq, Repr

def elements? : Text → Option (List Element)
  | [] => some []
  | '\\' :: 'u' :: a :: b :: c :: d :: rest => do
    let high := (← hexValue? a) * 16 + (← hexValue? b)
    let low := (← hexValue? c) * 16 + (← hexValue? d)
    return .unit (high * 256 + low) :: (← elements? rest)
  | '\\' :: letter :: rest => do
    let c ← escaped? letter
    return .char c :: (← elements? rest)
  | c :: rest => if standsForItself c then (elements? rest).map (.char c :: ·) else none

def isWholeUnit (code : Nat) : Bool := code < 0xD800 || 0xE000 ≤ code

/-- The text that elements stand for. Two units in a row may be the halves of one character. -/
def joined? : List Element → Option Text
  | [] => some []
  | .char c :: rest => (joined? rest).map (c :: ·)
  | .unit code :: rest =>
    if isWholeUnit code then (joined? rest).map (Char.ofNat code :: ·)
    else match rest with
      | .unit low :: rest =>
        if code < 0xDC00 ∧ 0xDC00 ≤ low ∧ low < 0xE000 then
          (joined? rest).map (Char.ofNat (0x10000 + (code - 0xD800) * 0x400 + (low - 0xDC00)) :: ·)
        else none
      | _ => none

def unescape? (body : Text) : Option Text := (elements? body).bind joined?

inductive Phrase where
  | value (value : Value)
  | padded (value : Value)
  | items (items : List Value)
  | pair (name : Text) (value : Value)
  | members (members : List (Text × Value))

def IsBlank (text : Text) : Prop := ∀ c ∈ text, isBlank c = true

/-- Which phrase a text stands for. -/
inductive Denotes : Text → Phrase → Prop where
  | null : Denotes "null".toList (.value .null)
  | truth (value : Bool) : Denotes (if value then "true".toList else "false".toList) (.value (.truth value))
  | number {literal : Text} (hnumber : isNumber literal = true) : Denotes literal (.value (.number literal))
  | string {body text : Text} (hbody : unescape? body = some text) :
      Denotes ('"' :: body ++ ['"']) (.value (.string text))
  | emptyArray {blanks : Text} (hblanks : IsBlank blanks) : Denotes ('[' :: blanks ++ [']']) (.value (.array []))
  | array {text : Text} {items : List Value} (hitems : Denotes text (.items items)) :
      Denotes ('[' :: text ++ [']']) (.value (.array items))
  | emptyObject {blanks : Text} (hblanks : IsBlank blanks) :
      Denotes ('\x7b' :: blanks ++ ['\x7d']) (.value (.object []))
  | object {text : Text} {members : List (Text × Value)} (hmembers : Denotes text (.members members)) :
      Denotes ('\x7b' :: text ++ ['\x7d']) (.value (.object members))
  | padded {before text after : Text} {value : Value} (hbefore : IsBlank before) (hvalue : Denotes text (.value value))
      (hafter : IsBlank after) : Denotes (before ++ text ++ after) (.padded value)
  | item {text : Text} {value : Value} (hvalue : Denotes text (.padded value)) : Denotes text (.items [value])
  | moreItems {text rest : Text} {value : Value} {items : List Value} (hvalue : Denotes text (.padded value))
      (hitems : Denotes rest (.items items)) : Denotes (text ++ ',' :: rest) (.items (value :: items))
  | pair {before body between text : Text} {name : Text} {value : Value} (hbefore : IsBlank before)
      (hbody : unescape? body = some name) (hbetween : IsBlank between) (hvalue : Denotes text (.padded value)) :
      Denotes (before ++ '"' :: body ++ '"' :: between ++ ':' :: text) (.pair name value)
  | member {text : Text} {name : Text} {value : Value} (hpair : Denotes text (.pair name value)) :
      Denotes text (.members [(name, value)])
  | moreMembers {text rest : Text} {name : Text} {value : Value} {members : List (Text × Value)}
      (hpair : Denotes text (.pair name value)) (hmembers : Denotes rest (.members members)) :
      Denotes (text ++ ',' :: rest) (.members ((name, value) :: members))

end Overrule.Json
