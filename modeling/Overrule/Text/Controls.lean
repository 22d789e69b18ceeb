import Overrule.Text.Escape

namespace Overrule.Controls

inductive Header where
  | start
  | parameters
  | intermediates
  deriving DecidableEq, Repr

inductive Mode where
  | ground
  | escape
  /-- A sequence that ends at the first character from `0` on. -/
  | short
  /-- A sequence that ends at the first character from `@` on. -/
  | long
  | command
  | header (part : Header)
  /-- The content of a device string, or another string that is not shown. -/
  | content
  deriving DecidableEq, Repr

def breaksOff (c : Char) : Bool := c.toNat == 0x18 || c.toNat == 0x1A

/-- Whether a character ends the content of a device string: one with the byte 0x9C in its encoding. -/
def endsContent (c : Char) : Bool := (String.utf8EncodeChar c).contains 0x9C

/-- Where a terminal stands after a character that comes behind U+001B. -/
def introduced (c : Char) : Mode :=
  if c = '[' then .long
  else if c = ']' then .command
  else if c = 'P' then .header .start
  else if c = 'X' ∨ c = '^' ∨ c = '_' then .content
  else if 0x20 ≤ c.toNat ∧ c.toNat < 0x30 then .short
  else if 0x30 ≤ c.toNat ∧ c.toNat < 0x7F then .ground
  else .escape

/-- Where a terminal stands after a character at the beginning of a device string. Parameters may come
there and then intermediates; from a letter on, or if the order is broken, it is content. -/
def Header.after (part : Header) (c : Char) : Mode :=
  if c.toNat < 0x20 ∨ 0x7F ≤ c.toNat then .header part
  else if c.toNat < 0x30 then .header .intermediates
  else if c.isDigit ∨ c = ':' ∨ c = ';' then
    if part = .intermediates then .content else .header .parameters
  else if '<' ≤ c ∧ c ≤ '?' ∧ part = .start then .header .parameters
  else .content

def Mode.after (mode : Mode) (c : Char) : Mode :=
  if c = Escape.esc then .escape
  else if breaksOff c then .ground
  else
    match mode with
    | .ground => .ground
    | .escape => introduced c
    | .short => if 0x30 ≤ c.toNat ∧ c.toNat < 0x7F then .ground else .short
    | .long => if 0x40 ≤ c.toNat ∧ c.toNat < 0x7F then .ground else .long
    | .command => if c.toNat = 0x07 then .ground else .command
    | .header part => part.after c
    | .content => if endsContent c then .ground else .content

def isWhite (c : Char) : Bool := c == '\t' || c == '\n' || c == '\r' || c.toNat == 0x0C

def isPrinted (c : Char) : Bool := isWhite c || 0x20 ≤ c.toNat && c.toNat ≠ 0x7F

def Mode.admitsWhite : Mode → Bool
  | .escape | .short | .long => true
  | _ => false

/-- Where a printer stands: where the terminal does, and whether it is printing regardless of that. -/
structure Printer where
  mode : Mode
  running : Bool
  deriving DecidableEq, Repr

/-- What is printed for a character, and where the printer stands after it. White space inside a sequence
begins a run, in which characters are printed up to the next control character; the sequence goes on
after it, unless the run has a character outside of ASCII. -/
def Printer.step (printer : Printer) (c : Char) : Text × Printer :=
  if printer.running && isPrinted c then
    ([c], ⟨if c.toNat < 0x80 then printer.mode else .ground, true⟩)
  else if printer.mode = .ground ∧ isPrinted c then ([c], ⟨.ground, true⟩)
  else if printer.mode.admitsWhite && isWhite c then ([c], ⟨printer.mode, true⟩)
  else ([], ⟨printer.mode.after c, false⟩)

def printedFrom (printer : Printer) : Text → Text
  | [] => []
  | c :: rest => (printer.step c).1 ++ printedFrom (printer.step c).2 rest

def printed (text : Text) : Text := printedFrom ⟨.ground, false⟩ text

end Overrule.Controls
