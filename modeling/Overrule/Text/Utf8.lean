import Overrule.Text.Basic

namespace Overrule.Utf8

def encode (text : Text) : Bytes := text.flatMap String.utf8EncodeChar

def replacement : Char := Char.ofNat 0xFFFD

/-- Where the reader stands: between characters, or inside one whose lead byte promised more. -/
inductive State where
  | ready
  /-- `missing + 1` more bytes are due, the next one between `0x80 + low` and `0x80 + high`; `value`
  holds the bits read so far. -/
  | partway (missing : Nat) (low high : Nat) (value : Nat)
  deriving DecidableEq, Repr

/-- Reads a byte between characters. A lead byte narrows the range of the byte after it where a wider
one would admit an overlong form, a surrogate or a value beyond U+10FFFF. -/
def start (byte : Nat) : Text × State :=
  if byte < 0x80 then ([Char.ofNat byte], .ready)
  else if 0xC2 ≤ byte ∧ byte ≤ 0xDF then ([], .partway 0 0 0x3F (byte - 0xC0))
  else if byte = 0xE0 then ([], .partway 1 0x20 0x3F 0)
  else if byte = 0xED then ([], .partway 1 0 0x1F 0xD)
  else if 0xE1 ≤ byte ∧ byte ≤ 0xEF then ([], .partway 1 0 0x3F (byte - 0xE0))
  else if byte = 0xF0 then ([], .partway 2 0x10 0x3F 0)
  else if byte = 0xF4 then ([], .partway 2 0 0xF 4)
  else if 0xF1 ≤ byte ∧ byte ≤ 0xF3 then ([], .partway 2 0 0x3F (byte - 0xF0))
  else ([replacement], .ready)

/-- Reads one byte: the characters it completes, and where the reader stands after it. A byte that does
not continue the character begun is read again as the first of another one. -/
def step (state : State) (byte : Nat) : Text × State :=
  match state with
  | .ready => start byte
  | .partway missing low high value =>
    if 0x80 + low ≤ byte ∧ byte ≤ 0x80 + high then
      let value := value * 64 + (byte - 0x80)
      match missing with
      | 0 => ([Char.ofNat value], .ready)
      | missing + 1 => ([], .partway missing 0 0x3F value)
    else
      let (text, state) := start byte
      (replacement :: text, state)

/-- What the end of the bytes leaves behind: nothing between characters, else one replacement. -/
def State.finish : State → Text
  | .ready => []
  | .partway .. => [replacement]

def decodeFrom (state : State) : Bytes → Text
  | [] => state.finish
  | byte :: rest =>
    let (text, state) := step state byte.toNat
    text ++ decodeFrom state rest

/-- Reads any bytes as text, replacing what encodes no character. -/
def decode (bytes : Bytes) : Text := decodeFrom .ready bytes

/-- Reads bytes that are the encoding of a text, and refuses all others. -/
def decode? (bytes : Bytes) : Option Text :=
  let text := decode bytes
  if encode text = bytes then some text else none

/-- The longest part at the front of some bytes, up to a length, that is the encoding of a text: that
text, and the bytes after it. -/
def splitUpTo (bytes : Bytes) : Nat → Text × Bytes
  | 0 => ([], bytes)
  | length + 1 =>
    match decode? (bytes.take (length + 1)) with
    | some text => (text, bytes.drop (length + 1))
    | none => splitUpTo bytes length

/-- The longest part at the front of some bytes that is the encoding of a text: that text, and the bytes
after it. -/
def split (bytes : Bytes) : Text × Bytes := splitUpTo bytes bytes.length

@[simp] theorem encode_append (a b : Text) : encode (a ++ b) = encode a ++ encode b := by
  simp [encode]

theorem encode_of_decode? {bytes : Bytes} {text : Text} (h : decode? bytes = some text) :
    encode text = bytes := by
  unfold decode? at h
  simp only at h
  split at h
  · rename_i henc
    cases h
    exact henc
  · cases h

end Overrule.Utf8
