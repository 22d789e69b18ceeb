import Overrule.Text.Basic

namespace Overrule
namespace Escape

def esc : Char := Char.ofNat 0x1B

inductive Piece where
  | char (c : Char)
  | code (parameters : Text)
  deriving DecidableEq, Repr

def Piece.text : Piece → Text
  | .char c => [c]
  | .code parameters => esc :: '[' :: parameters ++ ['m']

/-- What may turn out to be the beginning of a code: nothing, the opening character, or also the
bracket and some parameters. -/
inductive Held where
  | nothing
  | opened
  | parameters (read : Text)
  deriving DecidableEq, Repr

/-- The held characters as pieces of text, once it is known that no code comes of them. -/
def Held.release : Held → List Piece
  | .nothing => []
  | .opened => [.char esc]
  | .parameters read => .char esc :: .char '[' :: read.map .char

def isParameter (c : Char) : Bool := c.isDigit || c == ';'

def piecesFrom : Held → Text → List Piece
  | held, [] => held.release
  | .nothing, c :: rest =>
    if c = esc then piecesFrom .opened rest else .char c :: piecesFrom .nothing rest
  | .opened, c :: rest =>
    if c = '[' then piecesFrom (.parameters []) rest
    else if c = esc then .char esc :: piecesFrom .opened rest
    else .char esc :: .char c :: piecesFrom .nothing rest
  | .parameters read, c :: rest =>
    if isParameter c then piecesFrom (.parameters (read ++ [c])) rest
    else if c = 'm' then .code read :: piecesFrom .nothing rest
    else if c = esc then Held.release (.parameters read) ++ piecesFrom .opened rest
    else Held.release (.parameters read) ++ .char c :: piecesFrom .nothing rest

def pieces (text : Text) : List Piece := piecesFrom .nothing text

/-- The text without its codes: what a terminal shows. -/
def strip (text : Text) : Text :=
  (pieces text).flatMap fun
    | .char c => [c]
    | .code _ => []

end Escape

def colourCode (parameters : Text) : Text := Escape.Piece.text (.code parameters)

def resetCode : Text := colourCode ['0']

end Overrule
