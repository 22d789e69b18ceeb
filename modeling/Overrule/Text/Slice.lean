import Overrule.Text.Hidden

namespace Overrule

inductive SliceEnd where
  | start
  | stop
  deriving DecidableEq, Repr

structure SliceError where
  edge : SliceEnd
  position : Nat
  character : Char
  first : Nat
  deriving DecidableEq, Repr

namespace SliceError

/-- A character between quotation marks, as its code point if it cannot be seen. -/
def quoted (c : Char) : Text :=
  let shown :=
    if hidden.has c then "\\u\x7b".toList ++ Nat.toDigits 16 c.toNat ++ ['\x7d'] else [c]
  '\'' :: shown ++ ['\'']

def message (error : SliceError) : Text :=
  let edge := match error.edge with
    | .start => "start".toList
    | .stop => "end".toList
  let last := error.first + error.character.utf8Size
  edge ++ " byte index ".toList ++ Text.decimal error.position ++
    " is not a char boundary; it is inside ".toList ++ quoted error.character ++
    " (bytes ".toList ++ Text.decimal error.first ++ "..".toList ++ Text.decimal last ++
    " of string)".toList

end SliceError

namespace Text

/-- Cuts a text at a position, given the position at which it begins itself. A position behind its end
is its end. -/
def cutAt (edge : SliceEnd) (position : Nat) (first : Nat) : Text → Except SliceError (Text × Text)
  | [] => .ok ([], [])
  | c :: rest =>
    if position ≤ first then .ok ([], c :: rest)
    else if position < first + c.utf8Size then .error ⟨edge, position, c, first⟩
    else (cutAt edge position (first + c.utf8Size) rest).map fun (front, back) => (c :: front, back)

def sliceFrom (text : Text) (start : Nat) : Except SliceError Text :=
  (cutAt .start start 0 text).map Prod.snd

def slice (text : Text) (start stop : Nat) : Except SliceError Text := do
  let rest ← text.sliceFrom start
  (cutAt .stop stop start rest).map Prod.fst

/-- The parts of a text between some positions, put together. The positions are in ascending order, and none
is before the one at which the text begins itself. -/
def slices (first : Nat) (text : Text) : List (Nat × Nat) → Except SliceError Text
  | [] => .ok []
  | (start, stop) :: more => do
    let (_, rest) ← cutAt .start start first text
    let (part, rest) ← cutAt .stop stop start rest
    return part ++ (← slices stop rest more)

end Text
end Overrule
