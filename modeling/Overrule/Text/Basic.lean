namespace Overrule

abbrev Text := List Char

abbrev Bytes := List UInt8

namespace Text

def decimal (n : Nat) : Text := Nat.toDigits 10 n

/-- The lines of a text are its pieces between line feeds. There is always at least one, and a text
that ends in a line feed ends in an empty line. A carriage return is part of its line. -/
def lines (text : Text) : List Text := text.splitOn '\n'

/-- Takes one double quote off the front and, of what is left, one off the back. -/
def unquote (token : Text) : Text :=
  let opened := match token with
    | '"' :: rest => rest
    | _ => token
  if opened.getLast? = some '"' then opened.dropLast else opened

/-- Whether a text is another one or comes before it in the order of a dictionary, characters being
ordered by their code points. -/
def upTo (first second : Text) : Bool := !second.lex first fun c d => c.toNat < d.toNat

/-- Fills a text with blanks on the left up to a width counted in characters. -/
def padLeft (width : Nat) (text : Text) : Text :=
  List.replicate (width - text.length) ' ' ++ text

end Text
end Overrule
