import Overrule.Table.Codes
import Overrule.Text.Clusters

namespace Overrule.Table

/-- A line with fewer free cells than one more than this is not filled up. -/
def leastRoom : Nat := 2

def fitting (room : Nat) : List Text → Nat
  | [] => 0
  | cluster :: rest =>
    if Cells.ofText cluster ≤ room then fitting (room - Cells.ofText cluster) rest + 1 else 0

/-- The front of a word, as far as it was read: its text, that text without the codes at its end, whether
codes were in force there, and the codes in force now. -/
structure Front where
  text : Text
  plain : Text
  styled : Bool
  codes : List Text
  deriving DecidableEq, Repr

/-- Cuts a word, given its front and the room behind that. The front ends with the last cluster that fits,
and is reset if codes were in force there; those in force at the cut are repeated behind it. -/
def cutFrom (room : Nat) (front : Front) : List Codes.Run → Text × Text
  | [] => (front.text, [])
  | .code code :: rest =>
    let codes := if code = resetCode then [] else front.codes ++ [code]
    cutFrom room { front with text := front.text ++ code, codes } rest
  | .plain text :: rest =>
    let styled : Bool := front.codes ≠ []
    if Cells.ofText text ≤ room then
      cutFrom (room - Cells.ofText text)
        ⟨front.text ++ text, front.text ++ text, styled, front.codes⟩ rest
    else
      let clusters := text.clusters
      let taken := (clusters.take (fitting room clusters)).flatten
      let left := (clusters.drop (fitting room clusters)).flatten
      let (kept, styled) :=
        if taken = [] then (front.plain, front.styled) else (front.text ++ taken, styled)
      (kept ++ (if styled then resetCode else []),
        front.codes.flatten ++ left ++ rest.flatMap Codes.Run.text)

/-- Cuts a word so that its front has some room: the front and the rest of it. -/
def cut (room : Nat) (word : Text) : Text × Text := cutFrom room ⟨[], [], false, []⟩ (Codes.runs word)

/-- Cuts a word that is to stand on a line of its own. If not even its first cluster fits, the line gets
the first character of it all the same. -/
def cutFirst (room : Nat) (word : Text) : Text × Text :=
  match cut room word with
  | ([], c :: rest) => ([c], rest)
  | parts => parts

structure Wrapped where
  finished : List Text
  line : Text
  deriving DecidableEq, Repr

namespace Wrapped

def finish (wrapped : Wrapped) : Wrapped := ⟨wrapped.finished ++ [wrapped.line], []⟩

/-- Finishes the line being filled if hardly anything fits behind it. -/
def finishFull (limit : Nat) (wrapped : Wrapped) : Except SliceError Wrapped := do
  return if limit - leastRoom < (← wrapped.line.cells) then wrapped.finish else wrapped

/-- Puts one word on the line being filled, or on as many lines as it needs, up to a number of cuts and
line ends. -/
def place (limit : Nat) : Nat → Wrapped → Text → Except SliceError Wrapped
  | 0, wrapped, word => .ok ⟨wrapped.finished, wrapped.line ++ word⟩
  | steps + 1, wrapped, word => do
    let used ← wrapped.line.cells
    let size ← word.cells
    let joint := if wrapped.line = [] then [] else [' ']
    let room := limit - used - joint.length
    if used + joint.length + size ≤ limit then
      finishFull limit ⟨wrapped.finished, wrapped.line ++ joint ++ word⟩
    else if wrapped.line ≠ [] ∧ room ≤ leastRoom then
      place limit steps wrapped.finish word
    else if limit < size then
      let (front, rest) := if wrapped.line = [] then cutFirst room word else cut room word
      place limit steps (finish ⟨wrapped.finished, wrapped.line ++ joint ++ front⟩) rest
    else
      finishFull limit ⟨wrapped.finish.finished, word⟩

/-- Puts a word on the line being filled, or on as many lines as it needs. Each cut takes something off the
word, unless it only ends a line that is not empty, so that the steps suffice. -/
def add (limit : Nat) (wrapped : Wrapped) (word : Text) : Except SliceError Wrapped :=
  place limit (word.length + 3) wrapped word

end Wrapped

def wrap (limit : Nat) (line : Text) : Except SliceError (List Text) := do
  let wrapped ← (Codes.words line).foldlM (Wrapped.add limit) ⟨[], []⟩
  return if wrapped.line = [] then wrapped.finished else wrapped.finish.finished

end Overrule.Table
