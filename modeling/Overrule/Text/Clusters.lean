import Overrule.Text.Cells
import Overrule.Text.Conjuncts

namespace Overrule
namespace Cluster

inductive Kind where
  | carriageReturn
  | lineFeed
  | separating
  | extending
  | joiner
  | spacing
  | preceding
  | flagLetter
  /-- Hangul: a first consonant, a vowel, a last consonant, a syllable without and with the last one. -/
  | leading | vowel | trailing | openSyllable | closedSyllable
  | pictographic
  | other
  deriving DecidableEq, Repr

def Kind.ofChar (c : Char) : Kind :=
  if c = '\r' then .carriageReturn
  else if c = '\n' then .lineFeed
  else if 0x20 ≤ c.toNat ∧ c.toNat < 0x7F then .other
  else if Cells.isJoiner c then .joiner
  else if Marks.separating.has c then .separating
  else if Marks.extending.has c ∨ Cells.isSkinTone c then .extending
  else if Marks.spacing.has c then .spacing
  else if Marks.preceding.has c then .preceding
  else if Cells.isFlagLetter c then .flagLetter
  else if Cells.between 0x1100 0x115F c ∨ Cells.between 0xA960 0xA97C c then .leading
  else if CodeRanges.has [(0x1160, 0x11A7), (0xD7B0, 0xD7C6), (0x16D63, 0x16D63),
      (0x16D67, 0x16D6A)] c then .vowel
  else if Cells.between 0x11A8 0x11FF c ∨ Cells.between 0xD7CB 0xD7FB c then .trailing
  else if Cells.between 0xAC00 0xD7A3 c then
    if (c.toNat - 0xAC00) % 28 = 0 then .openSyllable else .closedSyllable
  else if Pictures.pictographic.has c then .pictographic
  else .other

/-- How far something that two characters can make together has come. -/
inductive Progress where
  | none
  | begun
  | ready
  deriving DecidableEq, Repr

structure Open where
  last : Kind
  picture : Progress
  conjunct : Progress
  halfFlag : Bool
  deriving DecidableEq, Repr

/-- How a picture goes on. Marks may come between the picture and the joiner, and nothing behind the
joiner. -/
def Progress.picture (before : Progress) : Kind → Progress
  | .pictographic => .begun
  | .extending => if before = .begun then .begun else .none
  | .joiner => if before = .begun then .ready else .none
  | _ => .none

/-- How a conjunct goes on. Marks and joiners may come before and behind the linker. -/
def Progress.conjunct (before : Progress) (c : Char) (kind : Kind) : Progress :=
  if Conjuncts.consonants.has c then .begun
  else if Conjuncts.linkers.has c then if before = .none then .none else .ready
  else if kind = .joiner ∨ kind = .extending ∧ c.toNat ≠ 0x200C then before
  else .none

def Open.single (c : Char) : Open :=
  let kind := Kind.ofChar c
  ⟨kind, Progress.picture .none kind, Progress.conjunct .none c kind, kind = .flagLetter⟩

def Open.push (cluster : Open) (c : Char) : Open :=
  let kind := Kind.ofChar c
  ⟨kind, cluster.picture.picture kind, cluster.conjunct.conjunct c kind,
    kind = .flagLetter ∧ ¬ cluster.halfFlag⟩

def Open.takes (cluster : Open) (c : Char) : Bool :=
  match cluster.last, Kind.ofChar c with
  | .carriageReturn, .lineFeed => true
  | .carriageReturn, _ | .lineFeed, _ | .separating, _ => false
  | _, .carriageReturn | _, .lineFeed | _, .separating => false
  | _, .extending | _, .joiner | _, .spacing => true
  | .preceding, _ => true
  | .leading, kind => kind ∈ [.leading, .vowel, .openSyllable, .closedSyllable]
  | .vowel, kind | .openSyllable, kind => kind ∈ [.vowel, .trailing]
  | .trailing, kind | .closedSyllable, kind => kind = .trailing
  | .flagLetter, .flagLetter => cluster.halfFlag
  | _, kind =>
    kind = .pictographic && cluster.picture = .ready || Conjuncts.consonants.has c && cluster.conjunct = .ready

/-- Cuts a text into what still belongs to the open cluster, and the clusters behind that. -/
def split (cluster : Open) : Text → List Text
  | [] => [[]]
  | c :: rest =>
    if cluster.takes c then (split (cluster.push c) rest).modifyHead (c :: ·)
    else [] :: (split (.single c) rest).modifyHead (c :: ·)

end Cluster

namespace Text

def clusters : Text → List Text
  | [] => []
  | c :: rest => (Cluster.split (.single c) rest).modifyHead (c :: ·)

end Text
end Overrule
