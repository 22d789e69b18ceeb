import Overrule.Text.Escape
import Overrule.Text.Slice
import Overrule.Text.Utf8

namespace Overrule
namespace Stripped

inductive Part where
  | start
  | parameters
  | intermediates
  /-- The order of the parts is broken, and the sequence means nothing. -/
  | broken
  deriving DecidableEq, Repr

inductive Mode where
  | ground
  | escape
  | short
  | long (part : Part)
  | header (part : Part)
  | content
  | command
  | message
  deriving DecidableEq, Repr

inductive Effect where
  | pending
  | plain
  | sequence
  deriving DecidableEq, Repr

/-- Whether a byte is a control that a terminal obeys wherever it comes. -/
def isControl (byte : Nat) : Bool := byte < 0x20 && byte ≠ 0x18 && byte ≠ 0x1A && byte ≠ 0x1B

/-- The part of a sequence that is reached with a byte from U+0020 up to `?`. -/
def Part.after (part : Part) (byte : Nat) : Part :=
  match part with
  | .broken => .broken
  | _ =>
    if byte < 0x30 then .intermediates
    else if part = .start ∨ part = .parameters ∧ byte < 0x3C then .parameters
    else .broken

def introduce (byte : Nat) : Mode × Effect :=
  if byte < 0x20 ∨ 0x7F ≤ byte then (.escape, .pending)
  else if byte < 0x30 then (.short, .pending)
  else if byte = 0x50 then (.header .start, .pending)
  else if byte = 0x5B then (.long .start, .pending)
  else if byte = 0x5D then (.command, .pending)
  else if byte = 0x58 ∨ byte = 0x5E ∨ byte = 0x5F then (.message, .pending)
  else (.ground, .sequence)

/-- Reads a byte other than U+001B. Two of them break off whatever they come in. -/
def Mode.read (mode : Mode) (byte : Nat) : Mode × Effect :=
  if byte = 0x18 ∨ byte = 0x1A then (.ground, .plain)
  else
    match mode with
    | .ground => (.ground, .plain)
    | .escape => if isControl byte then (.escape, .plain) else introduce byte
    | .short =>
      if isControl byte then (.short, .plain)
      else if 0x30 ≤ byte ∧ byte < 0x7F then (.ground, .sequence)
      else (.short, .pending)
    | .long part =>
      if isControl byte then (.long part, .plain)
      else if 0x7F ≤ byte then (.long part, .pending)
      else if byte < 0x40 then (.long (part.after byte), .pending)
      else (.ground, if part = .broken then .pending else .sequence)
    | .header part =>
      if byte < 0x20 ∨ 0x7F ≤ byte then (.header part, .pending)
      else if byte < 0x40 then (.header (part.after byte), .pending)
      else (if part = .broken then .header part else .content, .pending)
    | .content => (if byte = 0x9C then .ground else .content, .pending)
    | .command => if byte = 0x07 then (.ground, .sequence) else (.command, .pending)
    | .message => (.message, .pending)

structure Reader where
  mode : Mode := .ground
  first : Nat := 0
  count : Nat := 0
  interrupted : Bool := false
  /-- The texts between the sequences, by their ends, the last one first. -/
  parts : List (Nat × Nat) := []
  deriving DecidableEq, Repr

namespace Reader

/-- Finishes the text between two sequences; another one begins at some position. -/
def cut (reader : Reader) (position : Nat) : Reader :=
  { reader with
    first := position
    count := 0
    interrupted := false
    parts :=
      if reader.count = 0 then reader.parts
      else (reader.first, reader.first + reader.count) :: reader.parts }

/-- Reads the byte at a position. U+001B ends a command, and if it comes inside a sequence, the text in
front of that is finished. -/
def step (reader : Reader) (position : Nat) (byte : Nat) : Reader :=
  if byte = 0x1B then
    let reader :=
      if reader.mode = .command then reader.cut position
      else if reader.interrupted then reader.cut (reader.first + reader.count)
      else reader
    { reader with mode := .escape, interrupted := true }
  else
    let (mode, effect) := reader.mode.read byte
    match effect with
    | .pending => { reader with mode }
    | .plain => { reader with mode, count := reader.count + 1, interrupted := false }
    | .sequence => { reader.cut (position + 1) with mode }

/-- The texts between the sequences, in order, once the end is reached. A sequence that has no end does not
show, but if no text is in front of it, only U+001B does not. -/
def finish (reader : Reader) (position : Nat) : List (Nat × Nat) :=
  let last :=
    if reader.interrupted then
      if reader.count = 0 then (reader.first + 1, position)
      else (reader.first, reader.first + reader.count)
    else (reader.first, if reader.count = 0 then reader.first else position)
  (last :: reader.parts).reverse

def read (reader : Reader) (position : Nat) : Bytes → List (Nat × Nat)
  | [] => reader.finish position
  | byte :: rest => (reader.step position byte.toNat).read (position + 1) rest

end Reader
end Stripped

def Text.stripped (text : Text) : Except SliceError Text :=
  if text.contains Escape.esc then text.slices 0 (Stripped.Reader.read {} 0 (Utf8.encode text))
  else .ok text

end Overrule
