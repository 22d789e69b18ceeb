import Overrule.Text.Marks
import Overrule.Text.Pictures
import Overrule.Text.Stripped
import Overrule.Text.Wide

namespace Overrule
namespace Cells

/-- What a character and those before it asks for of the character in front of it. -/
inductive Selector where
  | picture
  | symbol
  | wide
  deriving DecidableEq, Repr

inductive LigatureEnd where
  | lamed
  | ya
  | vowelAndYa
  | consonant
  | joinedConsonant
  | tone
  | orkhonI
  | subscript
  deriving DecidableEq, Repr

inductive Joined where
  | picture
  | keycap
  | flagLetter
  | evenFlagLetters
  | oddFlagLetters
  | tag (letters : Nat)
  /-- The end of a tag, with some digits in front of it and of the letters. -/
  | numbered (digits : Nat)
  deriving DecidableEq, Repr

/-- What stands behind a place in a text, as far as it matters for what is in front of it. -/
inductive Context where
  | plain
  | lineFeed
  | skinTone
  | flagLetter
  | flagLetters
  | picture
  | joined (next : Joined)
  | ligature (last : LigatureEnd) (joiner : Bool)
  | alef
  | vowelE
  | vowelAi
  deriving DecidableEq, Repr

structure Behind where
  context : Context
  selector : Option Selector := none
  deriving DecidableEq, Repr

def Behind.plain : Behind := ⟨.plain, none⟩

/-- Whether a character is one of the Unicode code points from a first to a last one. -/
def between (first last : Nat) (c : Char) : Bool := first ≤ c.toNat && c.toNat ≤ last

def isJoiner (c : Char) : Bool := c.toNat == 0x200D

def isFlagLetter : Char → Bool := between 0x1F1E6 0x1F1FF

def isSkinTone : Char → Bool := between 0x1F3FB 0x1F3FF

def isTagLetter : Char → Bool := between 0xE0061 0xE007A

def isTagDigit : Char → Bool := between 0xE0030 0xE0039

def isTifinaghConsonant (c : Char) : Bool := between 0x2D31 0x2D65 c || c.toNat == 0x2D6F

def isAlef (c : Char) : Bool :=
  CodeRanges.has [(0x0622, 0x0623), (0x0625, 0x0625), (0x0627, 0x0627), (0x0671, 0x0673),
    (0x0675, 0x0675), (0x0773, 0x0774), (0x0870, 0x0882)] c

def isLam (c : Char) : Bool :=
  CodeRanges.has [(0x0644, 0x0644), (0x06B5, 0x06B8), (0x076A, 0x076A), (0x08A6, 0x08A6),
    (0x08C7, 0x08C7)] c

def isKhmerSubscript (c : Char) : Bool :=
  CodeRanges.has [(0x1780, 0x1782), (0x1784, 0x1787), (0x1789, 0x178C), (0x178E, 0x1793),
    (0x1795, 0x1798), (0x179B, 0x179D), (0x17A0, 0x17A0), (0x17A2, 0x17A2), (0x17A7, 0x17A7),
    (0x17AB, 0x17AC), (0x17AE, 0x17AF)] c

def hasWideForm (c : Char) : Bool :=
  c.toNat == 0x2018 || c.toNat == 0x2019 || c.toNat == 0x201C || c.toNat == 0x201D

def hasNarrowForm (c : Char) : Bool :=
  Pictures.selectable.has c && Pictures.coloured.has c && !between 0x1F200 0x1F2FF c

def ofChar (c : Char) : Nat :=
  if c.toNat ≤ 0xA0 then 1
  else if Marks.weightless.has c then 0
  else if c.toNat = 0x17D8 then 3
  else if wide.has c then 2
  else 1

def selector? (c : Char) : Option Selector :=
  if c.toNat = 0xFE0F then some .picture
  else if c.toNat = 0xFE0E then some .symbol
  else if c.toNat = 0xFE01 then some .wide
  else none

/-- What a character is for those in front of it, if nothing behind it matters. -/
def Context.ofChar (c : Char) : Context :=
  if c.toNat = 0x05DC then .ligature .lamed false
  else if isAlef c then .alef
  else if isKhmerSubscript c then .ligature .subscript false
  else if c.toNat = 0x1A10 then .ligature .ya false
  else if isTifinaghConsonant c then .ligature .consonant false
  else if between 0xA4FC 0xA4FD c then .ligature .tone false
  else if c.toNat = 0x10C03 then .ligature .orkhonI false
  else if c.toNat = 0x16D67 then .vowelE
  else if c.toNat = 0x16D68 then .vowelAi
  else if isFlagLetter c then .flagLetter
  else if isSkinTone c then .skinTone
  else if Pictures.coloured.has c then .picture
  else .plain

/-- What a character in front of a ligature's end adds, and what the two together are, if the ligature
goes on with it. -/
def LigatureEnd.extend? (last : LigatureEnd) (joiner : Bool) (c : Char) : Option (Int × Context) :=
  if isJoiner c then some (0, .ligature last true)
  else if Marks.ignorableMarks.has c then some (0, .ligature last joiner)
  else
    match last with
    | .lamed => if joiner ∧ c.toNat = 0x05D0 then some (0, .plain) else none
    | .ya => if joiner ∧ c.toNat = 0x1A17 then some (0, .ligature .vowelAndYa true) else none
    | .vowelAndYa => if c.toNat = 0x1A15 then some (0, .plain) else none
    | .consonant =>
      if c.toNat = 0x2D7F then some (1, .ligature .joinedConsonant true)
      else if joiner ∧ isTifinaghConsonant c then some (0, .plain)
      else none
    | .joinedConsonant => if isTifinaghConsonant c then some (-1, .plain) else none
    | .tone => if between 0xA4F8 0xA4FB c then some (0, .plain) else none
    | .orkhonI => if joiner ∧ c.toNat = 0x10C32 then some (0, .plain) else none
    | .subscript => if c.toNat = 0x17D2 then some (-1, .plain) else none

/-- What a character in front of a joiner adds, and what all together are, if it joins. The letters of
flags pair up from the joiner on, so that each second one takes back what the first has added. -/
def Joined.extend? (next : Joined) (c : Char) : Option (Int × Context) :=
  match next with
  | .picture =>
    if c.toNat = 0x20E3 then some (0, .joined .keycap)
    else if isFlagLetter c then some (1, .joined .flagLetter)
    else if isSkinTone c then some (0, .skinTone)
    else if c.toNat = 0xE007F then some (0, .joined (.tag 0))
    else if Pictures.coloured.has c then some (0, .picture)
    else none
  | .keycap => none
  | .flagLetter | .oddFlagLetters =>
    if isFlagLetter c then some (-1, .joined .evenFlagLetters)
    else if next = .oddFlagLetters ∧ isJoiner c then some (0, .joined .picture)
    else none
  | .evenFlagLetters =>
    if isFlagLetter c then some (3, .joined .oddFlagLetters)
    else if isJoiner c then some (0, .joined .picture)
    else none
  | .tag letters =>
    if isTagLetter c ∧ letters < 6 then some (0, .joined (.tag (letters + 1)))
    else if isTagDigit c ∧ letters < 5 then some (0, .joined (.numbered 1))
    else if c.toNat = 0x1F3F4 ∧ 3 ≤ letters then some (0, .picture)
    else none
  | .numbered digits =>
    if isTagDigit c ∧ digits < 3 then some (0, .joined (.numbered (digits + 1)))
    else if c.toNat = 0x1F3F4 ∧ digits = 3 then some (0, .picture)
    else none

/-- What a character adds, and what it and all behind it are, if it is drawn together with that. -/
def Context.extend? (context : Context) (c : Char) : Option (Int × Context) :=
  match context with
  | .plain | .lineFeed => none
  | .ligature last joiner => last.extend? joiner c
  | .joined next => next.extend? c
  | .alef =>
    if isLam c then some (0, .plain)
    else if Cells.ofChar c = 0 ∧ ¬ Marks.unjoined.has c then some (0, .alef)
    else none
  | .skinTone =>
    if Pictures.toned.has c then some (0, .picture)
    else if isJoiner c then some (0, .joined .picture)
    else none
  | .flagLetter => if isFlagLetter c then some (1, .flagLetters) else none
  | .flagLetters =>
    if isFlagLetter c then some (1, .flagLetters)
    else if isJoiner c then some (0, .joined .picture)
    else none
  | .picture => if isJoiner c then some (0, .joined .picture) else none
  | .vowelE =>
    if c.toNat = 0x16D63 ∨ c.toNat = 0x16D69 then some (0, .plain)
    else if c.toNat = 0x16D67 then some (0, .vowelAi)
    else if c.toNat = 0x16D68 then some (1, .vowelE)
    else none
  | .vowelAi => if c.toNat = 0x16D63 then some (0, .plain) else none

/-- What a selector leaves of the context behind it. A ligature forms across selectors, and a picture can
be selected behind a joiner; nothing else goes on. -/
def Context.across (selector : Selector) : Context → Context
  | .ligature last joiner => .ligature last joiner
  | .alef => .alef
  | .joined next =>
    if selector = .picture ∧ (next = .picture ∨ next = .keycap) then .joined next else .plain
  | _ => .plain

/-- Drops a selector that does not concern the character in front of it. A picture that it was to make
does not join. -/
def Behind.unselected (behind : Behind) : Context :=
  match behind.selector, behind.context with
  | some .picture, .joined _ => .plain
  | _, context => context

/-- What a character adds to the cells of all behind it, and what they are together. -/
def Behind.step (behind : Behind) (c : Char) : Int × Behind :=
  let joins := match behind.context with
    | .joined _ => true
    | _ => false
  if behind.selector = some .picture ∧ Pictures.selectable.has c then
    (if joins then 0 else 2, ⟨.picture, none⟩)
  else if c.toNat ≤ 0xA0 then
    if c = '\n' then (1, ⟨.lineFeed, none⟩)
    else if c = '\r' ∧ behind.unselected = .lineFeed then (0, .plain)
    else (1, .plain)
  else
    match selector? c with
    | some selector => (0, ⟨behind.unselected.across selector, some selector⟩)
    | none =>
      if behind.selector = some .symbol ∧ hasNarrowForm c then (1, .plain)
      else if behind.selector = some .wide ∧ hasWideForm c then (2, .plain)
      else
        match behind.unselected.extend? c with
        | some (cells, context) => (cells, ⟨context, none⟩)
        | none => (ofChar c, ⟨.ofChar c, none⟩)

def total (text : Text) : Int × Behind :=
  text.foldr (fun c (cells, behind) =>
    let (more, behind) := behind.step c
    (cells + more, behind)) (0, .plain)

def ofText (text : Text) : Nat := (total text).1.toNat

end Cells

/-- The cells that a text takes on a terminal, where control sequences do not show. -/
def Text.cells (text : Text) : Except SliceError Nat := text.stripped.map Cells.ofText

end Overrule
