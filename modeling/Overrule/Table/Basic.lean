import Overrule.Table.Wrap
import Overrule.Text.Utf8

namespace Overrule

/-- What a cell holds and how it is shown: a colour of the 256-colour palette, and weight. -/
structure Cell where
  text : Text
  colour : Option Nat
  bold : Bool
  deriving DecidableEq, Repr

def Cell.plain (text : Text) : Cell := ⟨text, none, false⟩

inductive Alignment where
  | left
  | right
  | centre
  deriving DecidableEq, Repr

/-- A table: a header, rows of as many cells, and how each column is aligned. -/
structure Table where
  header : List Cell
  rows : List (List Cell)
  alignments : List Alignment
  deriving DecidableEq, Repr

namespace Cell

def lines (cell : Cell) : List Text := Codes.carry [] cell.text.lines

def linesWithin (limit : Nat) (cell : Cell) : Except SliceError (List Text) := do
  let parts ← cell.lines.mapM fun line => do
    if limit < (← line.cells) then Table.wrap limit line else return [line]
  return parts.flatten

def width (cell : Cell) : Except SliceError Nat := do
  return (← cell.lines.mapM Text.cells).foldl max 0

/-- Shows a line of a cell in its style. A colour alone is reset alone; weight resets everything. -/
def style (cell : Cell) (line : Text) : Text :=
  let colourCodes := match cell.colour with
    | some index => colourCode ("38;5;".toList ++ Text.decimal index)
    | none => []
  let boldCodes := if cell.bold then colourCode ['1'] else []
  let closing :=
    if cell.bold then resetCode
    else if cell.colour.isSome then colourCode ['3', '9']
    else []
  colourCodes ++ boldCodes ++ line ++ closing

end Cell

/-- Fills a line up to a width. Of an odd number of blanks around a centred text, one more goes to the
left. -/
def Alignment.fill (alignment : Alignment) (width : Nat) (line : Text) : Except SliceError Text := do
  let free := width - (← line.cells)
  let blanks (n : Nat) : Text := List.replicate n ' '
  return match alignment with
  | .left => line ++ blanks free
  | .right => blanks free ++ line
  | .centre => blanks (free - free / 2) ++ line ++ blanks (free / 2)

namespace Table

def totalWidth : Nat := 120

def allRows (table : Table) : List (List Cell) := table.header :: table.rows

def naturalWidths (table : Table) : Except SliceError (List Nat) :=
  table.allRows.foldlM (fun widths row => return List.zipWith max widths (← row.mapM Cell.width))
    (table.header.map fun _ => 0)

/-- The width of a first column that has to be wrapped, given the room for it: the room, or the size of
the longest line that wrapping leaves if that is smaller by three or more. The size is taken in bytes, and
so never falls short of the cells that the line needs. -/
def wrappedWidth (room : Nat) (cells : List Cell) : Except SliceError Nat := do
  let lines := (← cells.mapM (Cell.linesWithin room)).flatten
  let longest := (lines.map fun line => (Utf8.encode line).length).foldl max 0
  return if 3 ≤ room - longest then longest else room

/-- The widths of the columns, without the borders and the blank on either side of a text. -/
def widths (table : Table) : Except SliceError (List Nat) := do
  match ← table.naturalWidths with
  | [] => return []
  | first :: others =>
    let borders := others.length + 2
    let padding := 2 * (others.length + 1)
    let room := totalWidth - borders - padding - others.foldr (· + ·) 0
    if first ≤ room then return first :: others
    else return (← wrappedWidth room (table.allRows.filterMap List.head?)) :: others

def rule (left line joint right : Char) (widths : List Nat) : Text :=
  left :: [joint].intercalate (widths.map fun width => List.replicate (width + 2) line) ++ [right]

def textLine (parts : List Text) : Text := '│' :: ['┆'].intercalate parts ++ ['│']

def shownLines (styled : Bool) (width : Nat) (alignment : Alignment) (cell : Cell) :
    Except SliceError (List Text) := do
  (← cell.linesWithin width).mapM fun line => do
    let padded := ' ' :: (← alignment.fill width line) ++ [' ']
    return if styled then cell.style padded else padded

/-- The lines of a row. A cell with fewer lines than the others is filled up with blanks. -/
def rowLines (styled : Bool) (widths : List Nat) (alignments : List Alignment) (row : List Cell) :
    Except SliceError (List Text) := do
  let columns ← (row.zip (widths.zip alignments)).mapM fun (cell, width, alignment) =>
    return (← shownLines styled width alignment cell, List.replicate (width + 2) ' ')
  let height := (columns.map (·.1.length)).foldl max 0
  return (List.range height).map fun i =>
    textLine (columns.map fun (lines, blank) => lines.getD i blank)

def render (table : Table) (styled : Bool) : Except SliceError (List Text) := do
  let widths ← table.widths
  let header ← rowLines styled widths table.alignments table.header
  let rows ← table.rows.mapM (rowLines styled widths table.alignments)
  return [rule '╭' '─' '┬' '╮' widths] ++ header ++ [rule '╞' '═' '╪' '╡' widths] ++
    rows.flatten ++ [rule '╰' '─' '┴' '╯' widths]

end Table
end Overrule
