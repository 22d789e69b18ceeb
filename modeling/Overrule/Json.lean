import Overrule.Files.Error

namespace Overrule

/-- A JSON value. Members of an object keep the order in which they are given. -/
inductive Json where
  | number (value : Nat)
  | truth (value : Bool)
  | string (text : Text)
  | utf8 (bytes : Bytes)
  | array (items : List Json)
  | object (members : List (Text × Json))
  deriving Repr

/-- Pieces of text written one after the other, and whether nothing is missing after the last. -/
structure Draft where
  pieces : List Text
  complete : Bool
  deriving DecidableEq, Repr

namespace Draft

def piece (text : Text) : Draft := ⟨[text], true⟩

def broken : Draft := ⟨[], false⟩

protected def append (first second : Draft) : Draft :=
  if first.complete then ⟨first.pieces ++ second.pieces, second.complete⟩ else first

instance : Append Draft := ⟨Draft.append⟩

def text (draft : Draft) : Text := draft.pieces.flatten

def text? (draft : Draft) : Option Text := if draft.complete then some draft.text else none

end Draft

namespace Json

inductive Layout where
  | compact
  | indented
  deriving DecidableEq, Repr

def Layout.lineBreak (layout : Layout) (depth : Nat) : Text :=
  match layout with
  | .compact => []
  | .indented => '\n' :: List.replicate (2 * depth) ' '

def Layout.colon : Layout → Text
  | .compact => [':']
  | .indented => [':', ' ']

def hexDigit (n : Nat) : Char := Nat.digitChar n

/-- A character inside a string: quotes, backslashes and control characters below U+0020 are escaped, the
common ones by a letter, and all others stand for themselves. -/
def escape (c : Char) : Text :=
  if c = '"' then ['\\', '"']
  else if c = '\\' then ['\\', '\\']
  else if c.toNat = 0x08 then ['\\', 'b']
  else if c.toNat = 0x09 then ['\\', 't']
  else if c.toNat = 0x0A then ['\\', 'n']
  else if c.toNat = 0x0C then ['\\', 'f']
  else if c.toNat = 0x0D then ['\\', 'r']
  else if c.toNat < 0x20 then
    ['\\', 'u', '0', '0', hexDigit (c.toNat / 16), hexDigit (c.toNat % 16)]
  else [c]

def quote (text : Text) : Text := '"' :: text.flatMap escape ++ ['"']

mutual

def draft (layout : Layout) (depth : Nat) : Json → Draft
  | .number value => .piece (Text.decimal value)
  | .truth value => .piece (if value then "true".toList else "false".toList)
  | .string text => .piece (quote text)
  | .utf8 bytes =>
    match Utf8.decode? bytes with
    | some text => .piece (quote text)
    | none => .broken
  | .array [] => .piece ['[', ']']
  | .array (item :: items) =>
    .piece ['['] ++ draftItems layout (depth + 1) true (item :: items) ++
      .piece (layout.lineBreak depth) ++ .piece [']']
  | .object [] => .piece ['\x7b', '\x7d']
  | .object (member :: members) =>
    .piece ['\x7b'] ++ draftMembers layout (depth + 1) true (member :: members) ++
      .piece (layout.lineBreak depth) ++ .piece ['\x7d']

/-- Writes the items of an array, with a comma in front of each but the first. -/
def draftItems (layout : Layout) (depth : Nat) (first : Bool) : List Json → Draft
  | [] => ⟨[], true⟩
  | item :: items =>
    .piece (if first then [] else [',']) ++ .piece (layout.lineBreak depth) ++
      draft layout depth item ++ draftItems layout depth false items

/-- Writes the members of an object, with a comma in front of each but the first. -/
def draftMembers (layout : Layout) (depth : Nat) (first : Bool) : List (Text × Json) → Draft
  | [] => ⟨[], true⟩
  | (name, value) :: members =>
    .piece (if first then [] else [',']) ++ .piece (layout.lineBreak depth) ++
      .piece (quote name) ++ .piece layout.colon ++
      draft layout depth value ++ draftMembers layout depth false members

end

def compact? (value : Json) : Option Text := (value.draft .compact 0).text?

end Json
end Overrule
