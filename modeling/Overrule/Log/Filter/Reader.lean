import Overrule.Log.Filter
import Overrule.Pattern.Reader
import Overrule.Text.Alphanumeric
import Overrule.Text.Slice

namespace Overrule

/-- The threshold of a number in decimal digits, with or without a plus sign. -/
def Threshold.ofDecimal? (text : Text) : Option Threshold :=
  let digits := match text with
    | '+' :: rest => rest
    | _ => text
  if digits = [] ∨ ¬ digits.all Char.isDigit then none
  else
    let value := Nat.ofDigitChars 10 digits 0
    if value ≤ Level.trace.rank then some (.ofRank value) else none

/-- The threshold of a name, which may be in upper or lower case, or of a number. -/
def Threshold.ofText? (text : Text) : Option Threshold :=
  match Threshold.ofDecimal? text with
  | some threshold => some threshold
  | none =>
    (Threshold.off :: Level.all.map .upTo).find? fun threshold =>
      threshold.name == text.map Char.toLower

namespace Filter

inductive ReadError where
  | malformed
  | slice (error : SliceError)
  deriving DecidableEq, Repr

def part (text : Text) (start stop : Nat) : Except ReadError Text :=
  (text.slice start stop).mapError .slice

def lastPart (text : Text) (start : Nat) : Except ReadError Text :=
  (text.sliceFrom start).mapError .slice

/-- Whether a text is a decimal number, perhaps with a point or an exponent, without a sign. -/
def isDecimal (text : Text) : Bool :=
  let whole := text.takeWhile Char.isDigit
  let rest := text.drop whole.length
  let fraction := match rest with
    | '.' :: rest => rest.takeWhile Char.isDigit
    | _ => []
  let rest := match rest with
    | '.' :: rest => rest.drop fraction.length
    | _ => rest
  let isExponent (text : Text) : Bool :=
    let digits := match text with
      | '+' :: rest => rest
      | '-' :: rest => rest
      | _ => text
    digits ≠ [] && digits.all Char.isDigit
  (whole ≠ [] || fraction ≠ []) &&
    match rest with
    | [] => true
    | c :: rest => c.toLower = 'e' && isExponent rest

def isLiteral (text : Text) : Bool :=
  let unsigned := match text with
    | '+' :: rest => rest
    | '-' :: rest => rest
    | _ => text
  text = "true".toList || text = "false".toList || isDecimal unsigned ||
    ["inf".toList, "infinity".toList, "nan".toList].contains (unsigned.map Char.toLower)

def ValueTest.ofText? (text : Text) : Option ValueTest :=
  if isLiteral text then some (.literal text) else (Pattern.ofText? text).map (.pattern text)

/-- Reads a field and its value. What stands behind a second equals sign does not count. -/
def FieldTest.ofText? (text : Text) : Option FieldTest :=
  match text.splitOn '=' with
  | [] | [[]] => none
  | [name] => some ⟨name, none⟩
  | name :: value :: _ => (ValueTest.ofText? value).map fun value => ⟨name, some value⟩

/-- Where a reader stands in a clause, with the position at which the present part begins. -/
inductive Reading where
  | front
  | targetOrThreshold (first : Nat)
  | context (first : Nat)
  | field (first : Nat)
  | behindField
  | behindContext
  | threshold (first : Nat)
  deriving DecidableEq, Repr

structure Draft where
  reading : Reading := .front
  subject : Subject := {}
  deriving DecidableEq, Repr

def opensClause (c : Char) : Bool := isAlphanumeric c || c == '-' || c == ':' || c == '_'

def Draft.step (text : Text) (draft : Draft) (position : Nat) (c : Char) : Except ReadError Draft :=
  let subject := draft.subject
  match draft.reading with
  | .front =>
    if c = '[' then .ok ⟨.context (position + 1), subject⟩
    else if opensClause c then .ok ⟨.targetOrThreshold position, subject⟩
    else .error .malformed
  | .targetOrThreshold first => do
    if c = '=' ∨ c = '[' then
      let target ← part text first position
      return ⟨if c = '=' then .threshold (position + 1) else .context (position + 1),
        { subject with target := some target }⟩
    else return draft
  | .context first => do
    if c = ']' then
      let name ← part text first position
      return ⟨.behindContext, { subject with context := some name }⟩
    else if c = '\x7b' then
      let name ← part text first position
      return ⟨.field (position + 1), { subject with context := if name = [] then none else some name }⟩
    else return draft
  | .field first => do
    if c = '\x7d' then
      match FieldTest.ofText? (← part text first position) with
      | some field => return ⟨.behindField, { subject with field := some field }⟩
      | none => .error .malformed
    else return draft
  | .behindField => if c = ']' then .ok ⟨.behindContext, subject⟩ else .error .malformed
  | .behindContext =>
    if c = '=' then .ok ⟨.threshold (position + 1), subject⟩ else .error .malformed
  | .threshold _ => .ok draft

def Draft.read (text : Text) (draft : Draft) (position : Nat) : Text → Except ReadError Draft
  | [] => .ok draft
  | c :: rest => do
    let draft ← draft.step text position c
    draft.read text (position + c.utf8Size) rest

def Draft.finish (text : Text) (draft : Draft) : Except ReadError Clause :=
  match draft.reading with
  | .targetOrThreshold first => do
    let whole ← lastPart text first
    match Threshold.ofText? whole with
    | some threshold => return ⟨{}, threshold⟩
    | none => return ⟨{ target := some whole }, .upTo .trace⟩
  | .behindContext => .ok ⟨draft.subject, .upTo .trace⟩
  | .threshold first => do
    let threshold ← lastPart text first
    if threshold = [] then return ⟨draft.subject, .upTo .trace⟩
    else
      match Threshold.ofText? threshold with
      | some threshold => return ⟨draft.subject, threshold⟩
      | none => .error .malformed
  | _ => .error .malformed

def Clause.ofText (text : Text) : Except ReadError Clause := do
  let draft ← Draft.read text {} 0 text.trim
  draft.finish text

/-- Reads a filter. Nothing between two commas is no clause; the first thing that is none otherwise makes
the whole text unreadable. -/
def ofText (text : Text) : Except ReadError Filter :=
  (((text.splitOn ',').filter (· ≠ [])).mapM Clause.ofText).map (⟨·⟩)

end Filter
end Overrule
