import Overrule.Text.CodeRanges

namespace Overrule

structure CharSet where
  changes : List Nat
  deriving DecidableEq, Repr

namespace CharSet

def empty : CharSet := ⟨[]⟩

def all : CharSet := ⟨[0]⟩

def following (code : Nat) : Nat := if code = 0xD7FF then 0xE000 else code + 1

def range (first last : Char) : CharSet :=
  if last.toNat = 0x10FFFF then ⟨[first.toNat]⟩ else ⟨[first.toNat, following last.toNat]⟩

def single (c : Char) : CharSet := range c c

def single? (set : CharSet) : Option Char :=
  match set.changes with
  | first :: _ => if set = single (Char.ofNat first) then some (Char.ofNat first) else none
  | [] => none

/-- Whether a code point is in a set, given whether those below the next change are. -/
def hasFrom (inside : Bool) (code : Nat) : List Nat → Bool
  | [] => inside
  | change :: rest => if code < change then inside else hasFrom (!inside) code rest

def has (set : CharSet) (c : Char) : Bool := hasFrom false c.toNat set.changes

def others (set : CharSet) : CharSet :=
  match set.changes with
  | 0 :: rest => ⟨rest⟩
  | changes => ⟨0 :: changes⟩

/-- The changes of a set made of two others, given whether what is below the next changes is in these. -/
def combineFrom (f : Bool → Bool → Bool) (inA inB : Bool) : List Nat → List Nat → List Nat
  | [], [] => []
  | a :: as, [] => change a (!inA) inB (combineFrom f (!inA) inB as [])
  | [], b :: bs => change b inA (!inB) (combineFrom f inA (!inB) [] bs)
  | a :: as, b :: bs =>
    if a < b then change a (!inA) inB (combineFrom f (!inA) inB as (b :: bs))
    else if b < a then change b inA (!inB) (combineFrom f inA (!inB) (a :: as) bs)
    else change a (!inA) (!inB) (combineFrom f (!inA) (!inB) as bs)
termination_by as bs => as.length + bs.length
where
  /-- With a change in front, if it is one. -/
  change (code : Nat) (isA isB : Bool) (rest : List Nat) : List Nat :=
    if f inA inB = f isA isB then rest else code :: rest

def union (a b : CharSet) : CharSet := ⟨combineFrom (· || ·) false false a.changes b.changes⟩

def both (a b : CharSet) : CharSet := ⟨combineFrom (· && ·) false false a.changes b.changes⟩

def without (a b : CharSet) : CharSet :=
  ⟨combineFrom (fun inA inB => inA && !inB) false false a.changes b.changes⟩

def either (a b : CharSet) : CharSet := ⟨combineFrom (· != ·) false false a.changes b.changes⟩

def ofRanges (ranges : CodeRanges) : CharSet :=
  ranges.foldl (fun set (first, last) => set.union (range (Char.ofNat first) (Char.ofNat last))) empty

def ascii : CharSet := ofRanges [(0x00, 0x7F)]

def isAscii (set : CharSet) : Bool := set.without ascii = empty

def folded (set : CharSet) : CharSet :=
  (List.range 26).foldl (fun folded i =>
    let upper := Char.ofNat (0x41 + i)
    if set.has upper || set.has upper.toLower then
      folded.union ((single upper).union (single upper.toLower))
    else folded) set

end CharSet
end Overrule
