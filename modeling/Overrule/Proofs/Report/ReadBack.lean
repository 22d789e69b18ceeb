import Overrule.Proofs.Document.NormalForm
import Overrule.Proofs.Report.Sinks
import Overrule.Proofs.Text.Decimal
import Overrule.Proofs.Text.Encoding
import Overrule.Proofs.Validation.Prescription

namespace Overrule

def Text.numbered (number : Nat) (text : Text) : Text := decimal number ++ ':' :: text

def Text.numbered? (piece : Text) : Option (Nat × Text) :=
  match piece.dropWhile (· ≠ ':') with
  | [] => none
  | _ :: text => (natural? (piece.takeWhile (· ≠ ':'))).map (·, text)

private theorem Text.numbered?_numbered (number : Nat) (text : Text) :
    numbered? (numbered number text) = some (number, text) := by
  have hdigits : ∀ c ∈ decimal number, decide (c ≠ ':') = true := fun c hc =>
    decide_eq_true fun hcolon => not_mem_decimal (by decide) (hcolon ▸ hc)
  have hfront : (numbered number text).takeWhile (· ≠ ':') = decimal number := by
    have hstop : (':' :: text).takeWhile (· ≠ ':') = [] := rfl
    rw [numbered, List.takeWhile_append_of_pos hdigits, hstop, List.append_nil]
  have hback : (numbered number text).dropWhile (· ≠ ':') = ':' :: text := by
    rw [numbered, List.dropWhile_append_of_pos hdigits]
    rfl
  rw [numbered?, hfront, hback, natural?_decimal]
  rfl

private theorem Text.not_mem_numbered {number : Nat} {text : Text} {c : Char} (hdigit : c.isDigit = false)
    (hcolon : c ≠ ':') (htext : c ∉ text) : c ∉ numbered number text := by
  rw [numbered, List.mem_append, List.mem_cons, not_or, not_or]
  exact ⟨not_mem_decimal hdigit, hcolon, htext⟩

namespace Collision

/-- What the line about a collision says of each of the two rules: the number of its line, and its source. -/
def named (collision : Collision) : (Nat × Text) × (Nat × Text) :=
  ((collision.overridden.index, collision.overridden.source), (collision.overrider.index, collision.overrider.source))

private def pieces (collision : Collision) : List Text :=
  ["Redirect".toList, .numbered collision.overridden.index collision.overridden.source, "overrides".toList,
    .numbered collision.overrider.index collision.overrider.source]

/-- Reads the line about a collision. -/
def ofLine? (line : Text) : Option ((Nat × Text) × (Nat × Text)) :=
  match line.splitOn ' ' with
  | [redirect, overridden, overrides, overrider] =>
    if redirect = "Redirect".toList ∧ overrides = "overrides".toList then do
      some (← Text.numbered? overridden, ← Text.numbered? overrider)
    else none
  | _ => none

private theorem line_eq_intercalate (collision : Collision) :
    collision.line false = [' '].intercalate collision.pieces := by
  have hline : collision.line false = "Redirect".toList ++ [' '] ++ Text.decimal collision.overridden.index ++ [':'] ++
      collision.overridden.source ++ ([' '] ++ "overrides".toList ++ [' ']) ++
      Text.decimal collision.overrider.index ++ [':'] ++ collision.overrider.source := rfl
  rw [hline]
  simp only [pieces, Text.numbered, List.intercalate_cons_cons, List.intercalate_singleton, List.append_assoc,
    List.cons_append, List.nil_append]

end Collision

/-- A rule whose source can be read from a line: there is nothing in it that divides pieces or lines. -/
structure Rule.Legible (rule : Rule) : Prop where
  undivided : ' ' ∉ rule.source
  in_one_line : '\n' ∉ rule.source

private theorem Rule.legible_of_mem_rules {text : Text} {rule : Rule} (hrule : rule ∈ Document.rules text) :
    rule.Legible := by
  have hfound := Document.mem_rules_iff.1 hrule
  exact ⟨hfound.extracted.source_undivided, hfound.lineFeed_not_mem.1⟩

private structure Collision.Legible (collision : Collision) : Prop where
  overridden : collision.overridden.Legible
  overrider : collision.overrider.Legible

private theorem Collision.legible_of_mem_collisions {text : Text} {collision : Collision}
    (hcollision : collision ∈ collisions (Document.rules text)) : collision.Legible := by
  obtain ⟨hoverridden, hoverrider, _⟩ := overrides_of_mem_collisions hcollision
  exact ⟨Rule.legible_of_mem_rules (mem_eligible.1 hoverridden).1,
    Rule.legible_of_mem_rules (mem_eligible.1 hoverrider).1⟩

/-- A character that is in neither source, and that no number or word around them has, is in none of the pieces. -/
private theorem Collision.not_mem_pieces {collision : Collision} {c : Char} (hdigit : c.isDigit = false)
    (hcolon : c ≠ ':')
    (hwords : c ∉ "Redirect".toList ∧ c ∉ "overrides".toList) (hoverridden : c ∉ collision.overridden.source)
    (hoverrider : c ∉ collision.overrider.source) : ∀ piece ∈ collision.pieces, c ∉ piece := by
  intro piece hpiece
  rw [pieces, List.mem_cons, List.mem_cons, List.mem_cons, List.mem_singleton] at hpiece
  rcases hpiece with rfl | rfl | rfl | rfl
  · exact hwords.1
  · exact Text.not_mem_numbered hdigit hcolon hoverridden
  · exact hwords.2
  · exact Text.not_mem_numbered hdigit hcolon hoverrider

namespace Collision.Legible

variable {collision : Collision} (hlegible : collision.Legible)
include hlegible

private theorem splitOn_line : (collision.line false).splitOn ' ' = collision.pieces := by
  rw [line_eq_intercalate]
  exact List.splitOn_intercalate ' ' (not_mem_pieces rfl (by decide) (by decide) hlegible.overridden.undivided
    hlegible.overrider.undivided) (List.cons_ne_nil _ _)

private theorem ofLine?_line : ofLine? (collision.line false) = some collision.named := by
  rw [ofLine?, hlegible.splitOn_line, pieces]
  dsimp only
  rw [if_pos ⟨rfl, rfl⟩, Text.numbered?_numbered, Text.numbered?_numbered]
  rfl

private theorem lineFeed_not_mem_line : '\n' ∉ collision.line false := by
  have hpieces := not_mem_pieces rfl (by decide) (by decide) hlegible.overridden.in_one_line
    hlegible.overrider.in_one_line
  have hblank : '\n' ≠ ' ' := by decide
  intro hmem
  obtain ⟨piece, hpiece, hin⟩ := (Text.mem_iff_exists_mem_splitOn hblank).1 hmem
  rw [hlegible.splitOn_line] at hpiece
  exact hpieces piece hpiece hin

end Collision.Legible

-- With blanks in the sources two collisions may have the same line.
example : Collision.line ⟨⟨1, "a overrides 2:b".toList, [], ⟨[]⟩, []⟩, ⟨3, "c".toList, [], ⟨[]⟩, []⟩⟩ false =
    Collision.line ⟨⟨1, "a".toList, [], ⟨[]⟩, []⟩, ⟨2, "b overrides 3:c".toList, [], ⟨[]⟩, []⟩⟩ false := by
  decide

private theorem Text.lines_flatMap {texts : List Text} (hlines : ∀ text ∈ texts, '\n' ∉ text) :
    lines (texts.flatMap (· ++ ['\n'])) = texts ++ [[]] := by
  induction texts with
  | nil => rfl
  | cons text texts ih =>
    have hfirst : lines text = [text] := List.splitOn_eq_singleton (hlines text List.mem_cons_self)
    have hrest := ih fun other hother => hlines other (List.mem_cons_of_mem _ hother)
    rw [List.flatMap_cons, List.append_assoc, List.singleton_append, lines_append_lineFeed, hfirst, hrest]
    rfl

namespace Validation

variable {path : Path} {content : Except SystemError Bytes} {ruleCount : Nat} {reports : List Collision}

private theorem legible_of_collisions (hcollisions : (outcome path content).status = .collisions ruleCount reports) :
    ∀ report ∈ reports, report.Legible := by
  cases content with
  | error cause => cases hcollisions
  | ok content =>
    rw [outcome_ok] at hcollisions
    dsimp only at hcollisions
    split at hcollisions
    · cases hcollisions
    · cases hcollisions
      exact fun report hreport => Collision.legible_of_mem_collisions hreport

end Validation

theorem Outcome.textsFor_out_of_collisions {outcome : Outcome} {ruleCount : Nat} {reports : List Collision}
    (hcollisions : outcome.status = .collisions ruleCount reports) (colour : Bool) :
    textsFor .out (outcome.lines colour) = (reports.map (·.line colour)).flatMap (· ++ ['\n']) := by
  rw [lines, hcollisions]
  simp [textsFor, List.filter_map, List.flatMap_map, Function.comp_def]

namespace Validation

private theorem exists_lines_of_collisions {path : Path} {content : Except SystemError Bytes} {ruleCount : Nat}
    {reports : List Collision} (hcollisions : (outcome path content).status = .collisions ruleCount reports) :
    ∃ lines, (Utf8.decode? ((outcome path content).bytesFor false .out)).map Text.lines = some (lines ++ [[]]) ∧
      lines.length = reports.length ∧ lines.map Collision.ofLine? = (reports.map Collision.named).map some := by
  have hlegible := legible_of_collisions hcollisions
  refine ⟨reports.map (·.line false), ?_, List.length_map _, ?_⟩
  · have hlines : ∀ line ∈ reports.map (·.line false), '\n' ∉ line := by
      intro line hline
      obtain ⟨report, hreport, rfl⟩ := List.mem_map.1 hline
      exact (hlegible report hreport).lineFeed_not_mem_line
    rw [Outcome.bytesFor, Utf8.decode?_encode, Outcome.textsFor_out_of_collisions hcollisions, Option.map_some,
      Text.lines_flatMap hlines]
  · rw [List.map_map, List.map_map]
    exact List.map_congr_left fun report hreport => (hlegible report hreport).ofLine?_line

end Validation

/-- What is written of a file with collisions to the stream for verdicts, without colours, is a text of as many lines as
there are collisions, each with its end. From the lines alone it can be read which collisions they are about: for each
of the two rules, what its number and its source are. So what is written is the same for two files only if the numbers
and the sources are. -/
theorem collisions_read_back {path : Path} {content : Except SystemError Bytes} {ruleCount : Nat}
    {reports : List Collision}
    (hcollisions : (Validation.outcome path content).status = .collisions ruleCount reports) :
    let written (path : Path) (content : Except SystemError Bytes) : Bytes :=
      (((Validation.outcome path content).write false Streams.write).run ⟨.unlimited, .unlimited⟩).2.out.taken
    (∃ lines, (Utf8.decode? (written path content)).map Text.lines = some (lines ++ [[]]) ∧
      lines.length = reports.length ∧ lines.map Collision.ofLine? = (reports.map Collision.named).map some) ∧
      ∀ otherPath otherContent otherCount otherReports,
        (Validation.outcome otherPath otherContent).status = .collisions otherCount otherReports →
        written path content = written otherPath otherContent →
        reports.map Collision.named = otherReports.map Collision.named := by
  intro written
  have hwritten (path : Path) (content : Except SystemError Bytes) :
      written path content = (Validation.outcome path content).bytesFor false .out :=
    congrArg (·.2.out.taken) ((Validation.outcome path content).write_run_of_endless false)
  have hlines := Validation.exists_lines_of_collisions hcollisions
  rw [← hwritten] at hlines
  refine ⟨hlines, fun otherPath otherContent otherCount otherReports hother hsame => ?_⟩
  obtain ⟨lines, htext, _, hread⟩ := hlines
  obtain ⟨otherLines, hotherText, _, hotherRead⟩ := Validation.exists_lines_of_collisions hother
  rw [← hwritten, ← hsame, htext, Option.some_inj, List.append_cancel_right_eq] at hotherText
  rw [← hotherText, hread] at hotherRead
  exact List.map_injective_iff.2 (Option.some_injective _) hotherRead

/-- Sources with a colon and digits in front, with the word between the rules, with a tab, a quote, a carriage return,
and with a byte that is no text. -/
theorem odd_sources_read_back :
    let content : Bytes := Utf8.encode "RewriteRule 7:overrides\t\"\r".toList ++ 0xFF :: Utf8.encode " /x L\n".toList ++
      Utf8.encode "RewriteRule 7:overrides\t\"\r".toList ++ 0xFF :: Utf8.encode ":2 /y\n".toList
    let source : Text := "7:overrides\t\"\r\uFFFD".toList
    (Validation.outcome [0x61] (.ok content)).collisionCount = 1 ∧
      ∃ lines, (Utf8.decode? (((Validation.outcome [0x61] (.ok content)).write false Streams.write).run
          ⟨.unlimited, .unlimited⟩).2.out.taken).map Text.lines = some (lines ++ [[]]) ∧
        lines.map Collision.ofLine? = [some ((1, source), (2, source ++ ":2".toList))] := by
  intro content source
  have hstatus : (Validation.outcome [0x61] (.ok content)).status =
      .collisions 2 (collisions (rulesOfBytes content)) := by decide +kernel
  have hnamed : (collisions (rulesOfBytes content)).map Collision.named =
      [((1, source), (2, source ++ ":2".toList))] := by decide +kernel
  obtain ⟨⟨lines, htext, _, hread⟩, _⟩ := collisions_read_back hstatus
  rw [hnamed] at hread
  exact ⟨by decide +kernel, lines, htext, hread⟩

end Overrule
