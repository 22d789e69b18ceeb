import Overrule.Proofs.Json.Reader
import Overrule.Proofs.Json.Written
import Overrule.Proofs.Report.Sinks

namespace Overrule

namespace Json.Value

/-- The value of a member of an object. There must be one of that name, and only one. -/
def member? (name : Text) : Value → Option Value
  | .object members =>
    match members.filter (·.1 = name) with
    | [member] => some member.2
    | _ => none
  | _ => none

def text? : Value → Option Text
  | .string text => some text
  | _ => none

/-- A number that is written with digits alone. -/
def natural? : Value → Option Nat
  | .number literal => if literal.all Char.isDigit then some (Nat.ofDigitChars 10 literal 0) else none
  | _ => none

def items? : Value → Option (List Value)
  | .array items => some items
  | _ => none

@[simp] private theorem text?_string (text : Text) : text? (.string text) = some text := rfl

@[simp] private theorem items?_array (items : List Value) : items? (.array items) = some items := rfl

@[simp] private theorem natural?_decimal (n : Nat) : natural? (.number (Text.decimal n)) = some n := by
  rw [natural?, if_pos (List.all_eq_true.2 Text.isDigit_of_mem_decimal), Text.decimal, Nat.ofDigitChars_ten_toDigits]

end Json.Value

open Json

private theorem mapM_map_of_inverse {α β : Type} {write : α → β} {read : β → Option α} {things : List α}
    (h : ∀ thing ∈ things, read (write thing) = some thing) : (things.map write).mapM read = some things := by
  induction things with
  | nil => rfl
  | cons thing things ih =>
    obtain ⟨hthing, hthings⟩ := List.forall_mem_cons.1 h
    simp [hthing, ih hthings]

namespace Rule

/-- The rule that an object tells of. -/
def ofValue? (value : Value) : Option Rule := do
  let index ← (← value.member? "index".toList).natural?
  let source ← (← value.member? "source".toList).text?
  let destination ← (← value.member? "destination".toList).text?
  let tokens ← (← (← value.member? "flags".toList).items?).mapM Value.text?
  let line ← (← value.member? "line".toList).text?
  return ⟨index, source, destination, ⟨tokens⟩, line⟩

private theorem ofValue?_toJson (rule : Rule) : ofValue? rule.toJson.toValue = some rule := by
  have hindex : rule.toJson.toValue.member? "index".toList = some (.number (Text.decimal rule.index)) := rfl
  have hsource : rule.toJson.toValue.member? "source".toList = some (.string rule.source) := rfl
  have hdestination : rule.toJson.toValue.member? "destination".toList = some (.string rule.destination) := rfl
  have hflags : rule.toJson.toValue.member? "flags".toList =
      some (.array (toValues (rule.flags.tokens.map .string))) := rfl
  have hline : rule.toJson.toValue.member? "line".toList = some (.string rule.line) := rfl
  have htokens : (toValues (rule.flags.tokens.map .string)).mapM Value.text? = some rule.flags.tokens := by
    rw [toValues_eq_map, List.map_map]
    exact mapM_map_of_inverse fun _ _ => rfl
  simp only [ofValue?, hindex, hsource, hdestination, hflags, hline, Option.bind_eq_bind, Option.bind_some,
    Value.natural?_decimal, Value.text?_string, Value.items?_array, htokens, Option.pure_def]

end Rule

namespace Collision

/-- The collision that an object tells of. -/
def ofValue? (value : Value) : Option Collision := do
  let kind ← (← value.member? "type".toList).text?
  guard (kind = "collision".toList)
  let overridden ← Rule.ofValue? (← value.member? "overridden".toList)
  let overrider ← Rule.ofValue? (← value.member? "overrider".toList)
  return ⟨overridden, overrider⟩

private theorem ofValue?_toJson (collision : Collision) : ofValue? collision.toJson.toValue = some collision := by
  have hkind : collision.toJson.toValue.member? "type".toList = some (.string "collision".toList) := rfl
  have hoverridden : collision.toJson.toValue.member? "overridden".toList =
      some collision.overridden.toJson.toValue := rfl
  have hoverrider : collision.toJson.toValue.member? "overrider".toList =
      some collision.overrider.toJson.toValue := rfl
  simp only [ofValue?, hkind, hoverridden, hoverrider, Option.bind_eq_bind, Option.bind_some, Value.text?_string,
    Rule.ofValue?_toJson, Option.pure_def, guard]
  rfl

end Collision

namespace Outcome

def statusOfValue? (value : Value) : Option Status := do
  let name ← (← value.member? "status".toList).text?
  if name = "passed".toList then
    let ruleCount ← (← value.member? "rule_count".toList).natural?
    return .passed ruleCount
  else if name = "collisions".toList then
    let ruleCount ← (← value.member? "rule_count".toList).natural?
    let reports ← (← (← value.member? "reports".toList).items?).mapM Collision.ofValue?
    return .collisions ruleCount reports
  else if name = "unreadable".toList then
    let message ← (← value.member? "message".toList).text?
    return .unreadable message
  else none

/-- The outcome that an object tells of. -/
def ofValue? (value : Value) : Option Outcome := do
  let path ← (← value.member? "path".toList).text?
  let status ← statusOfValue? value
  return ⟨Utf8.encode path, status⟩

private theorem statusOfValue?_toJson (outcome : Outcome) :
    statusOfValue? outcome.toJson.toValue = some outcome.status := by
  obtain ⟨path, status⟩ := outcome
  cases status with
  | passed ruleCount =>
    have hname : (toJson ⟨path, .passed ruleCount⟩).toValue.member? "status".toList =
        some (.string "passed".toList) := rfl
    have hcount : (toJson ⟨path, .passed ruleCount⟩).toValue.member? "rule_count".toList =
        some (.number (Text.decimal ruleCount)) := rfl
    simp only [statusOfValue?, hname, Option.bind_eq_bind, Option.bind_some, Value.text?_string]
    rw [if_pos trivial, hcount]
    simp only [Option.bind_some, Value.natural?_decimal, Option.pure_def]
  | collisions ruleCount reports =>
    have hname : (toJson ⟨path, .collisions ruleCount reports⟩).toValue.member? "status".toList =
        some (.string "collisions".toList) := rfl
    have hcount : (toJson ⟨path, .collisions ruleCount reports⟩).toValue.member? "rule_count".toList =
        some (.number (Text.decimal ruleCount)) := rfl
    have hitems : (toJson ⟨path, .collisions ruleCount reports⟩).toValue.member? "reports".toList =
        some (.array (toValues (reports.map Collision.toJson))) := rfl
    have hreports : (toValues (reports.map Collision.toJson)).mapM Collision.ofValue? = some reports := by
      rw [toValues_eq_map, List.map_map]
      exact mapM_map_of_inverse fun report _ => report.ofValue?_toJson
    simp only [statusOfValue?, hname, Option.bind_eq_bind, Option.bind_some, Value.text?_string]
    rw [if_neg (by decide), if_pos trivial, hcount, hitems]
    simp only [Option.bind_some, Value.natural?_decimal, Value.items?_array, hreports, Option.pure_def]
  | unreadable message => rfl

private theorem ofValue?_toJson {outcome : Outcome} (hpath : Utf8.IsText outcome.path) :
    ofValue? outcome.toJson.toValue = some outcome := by
  obtain ⟨text, htext⟩ := hpath
  have hmember : outcome.toJson.toValue.member? "path".toList = some (.string (Utf8.decode outcome.path)) := by
    obtain ⟨path, status⟩ := outcome
    cases status <;> rfl
  have hdecode : Utf8.encode (Utf8.decode outcome.path) = outcome.path := by rw [← htext, Utf8.decode_encode]
  rw [ofValue?, hmember]
  simp only [Option.bind_eq_bind, Option.bind_some, Value.text?_string, statusOfValue?_toJson, hdecode, Option.pure_def]

private def documentValues (outcomes : List Outcome) : List Value := outcomes.map fun outcome => outcome.toJson.toValue

/-- The outcomes that the bytes of a document tell of. -/
def ofDocument? (bytes : Bytes) : Option (List Outcome) := do
  let text ← Utf8.decode? bytes
  let values ← (← read? text).items?
  values.mapM ofValue?

private theorem denotes_document {outcomes : List Outcome} (hpaths : ∀ outcome ∈ outcomes, Utf8.IsText outcome.path) :
    Denotes (document outcomes).text (.value (.array (documentValues outcomes))) := by
  have hdenotes := denotes_draft .indented (.array (outcomes.map toJson)) 0 (complete_document_iff.2 hpaths)
  rwa [toValue, toValues_eq_map, List.map_map] at hdenotes

private theorem mapM_documentValues {outcomes : List Outcome}
    (hpaths : ∀ outcome ∈ outcomes, Utf8.IsText outcome.path) :
    (documentValues outcomes).mapM ofValue? = some outcomes :=
  mapM_map_of_inverse fun outcome houtcome => ofValue?_toJson (hpaths outcome houtcome)

end Outcome

/-- What was written of a document, if there was no failure, is the document and tells of the outcomes. -/
theorem Outcome.ofDocument?_encode {outcomes : List Outcome} (hcomplete : (document outcomes).complete = true) :
    ofDocument? (Utf8.encode ((document outcomes).text ++ ['\n'])) = some outcomes := by
  have hpaths := complete_document_iff.1 hcomplete
  have hread := read?_of_denotes (.padded isBlank_nil (denotes_document hpaths) isBlank_lineFeed)
  rw [List.nil_append] at hread
  simp only [ofDocument?, Utf8.decode?_encode, hread, Option.bind_eq_bind, Option.bind_some, Value.items?_array,
    mapM_documentValues hpaths]

/-- The document on any outcomes whose paths are text is written to its end, if only the writer does not fail. It is one
JSON array and a line feed, and stands for nothing else. Reading it gives back the outcomes, and any outcomes that leave
the same bytes are the same. -/
theorem document_loses_nothing {outcomes : List Outcome}
    (hpaths : ∀ outcome ∈ outcomes, Utf8.IsText outcome.path) {sink : Sink} (hroom : sink.room = none) :
    ∃ text values,
      (Outcome.writeDocument outcomes Sink.write).run sink =
        (none, { sink with taken := sink.taken ++ Utf8.encode (text ++ ['\n']) }) ∧
      Denotes text (.value (.array values)) ∧
      (∀ value, Denotes (text ++ ['\n']) (.padded value) → value = .array values) ∧
      values.mapM Outcome.ofValue? = some outcomes ∧
      Outcome.ofDocument? (Utf8.encode (text ++ ['\n'])) = some outcomes ∧
      ∀ others, (Outcome.writeDocument others Sink.write).run sink =
          (Outcome.writeDocument outcomes Sink.write).run sink → others = outcomes := by
  have hcomplete : (Outcome.document outcomes).complete = true := Outcome.complete_document_iff.2 hpaths
  have hrun := Outcome.writeDocument_run_of_endless hroom outcomes
  rw [if_pos hcomplete] at hrun
  have hdenotes := Outcome.denotes_document hpaths
  have hread := Outcome.ofDocument?_encode hcomplete
  refine ⟨(Outcome.document outcomes).text, Outcome.documentValues outcomes, hrun, hdenotes, fun value hvalue => ?_,
    Outcome.mapM_documentValues hpaths, hread, fun others hothers => ?_⟩
  · have hpadded := Denotes.padded isBlank_nil hdenotes isBlank_lineFeed
    exact hvalue.unique hpadded
  · rw [hrun, Outcome.writeDocument_run_of_endless hroom] at hothers
    split at hothers
    · rename_i hothersComplete
      have htaken := congrArg (fun ran => ran.2.taken) hothers
      have hbytes := List.append_cancel_left htaken
      rw [← Option.some_inj, ← Outcome.ofDocument?_encode hothersComplete, hbytes, hread]
    · cases hothers

/-- A file that passes, one with a collision, and one of which all there is to say has to be escaped. -/
theorem document_of_mixed_outcomes :
    let earlier : Rule := ⟨1, "/a".toList, "/x".toList, ⟨["L".toList, []]⟩, []⟩
    let later : Rule := ⟨20, "/ab".toList, "\"".toList, ⟨[[]]⟩, "\t".toList⟩
    let outcomes : List Outcome := [⟨[0x61], .passed 0⟩, ⟨[0xC3, 0xA4], .collisions 2 [⟨earlier, later⟩]⟩,
      ⟨[], .unreadable "\\\"\n\x1F".toList⟩]
    (∀ outcome ∈ outcomes, Utf8.IsText outcome.path) ∧ Sink.unlimited.room = none ∧
      ∃ text, (Outcome.writeDocument outcomes Sink.write).run .unlimited =
          (none, { Sink.unlimited with taken := Utf8.encode (text ++ ['\n']) }) ∧
        Outcome.ofDocument? (Utf8.encode (text ++ ['\n'])) = some outcomes := by
  intro earlier later outcomes
  have hpaths : ∀ outcome ∈ outcomes, Utf8.IsText outcome.path := by decide
  have hroom : Sink.unlimited.room = none := rfl
  obtain ⟨text, values, hrun, _, _, _, hread, _⟩ := document_loses_nothing hpaths hroom
  exact ⟨hpaths, hroom, text, hrun, hread⟩

end Overrule
