import Overrule.Proofs.Collision.Nearest
import Overrule.Proofs.Document.Rules
import Overrule.Proofs.Flags.Tokens

namespace Overrule

/-- A line that is no directive, or a directive with blanks behind its source and its destination: what follows the
white space behind the keyword has two blanks or more. -/
def FlagBlockWritten (line : Text) : Prop :=
  ∀ gap rest, line = keyword ++ gap ++ rest → gap ≠ [] → (∀ c ∈ gap, isBlank c = true) →
    (∀ c ∈ rest.head?, isBlank c = false) → 2 ≤ rest.count ' '

private theorem flagBlockWritten_of_arguments {line : Text}
    (harguments : ∀ arguments ∈ LineReading.arguments? line, 2 ≤ arguments.trimStart.count ' ') :
    FlagBlockWritten line := by
  rintro gap rest rfl hgap hblank hrest
  obtain ⟨c, behind, rfl⟩ := List.exists_cons_of_ne_nil hgap
  have hline : LineReading.arguments? (keyword ++ (c :: behind) ++ rest) = some ((c :: behind) ++ rest) :=
    LineReading.arguments?_eq_some_iff.2 ⟨List.append_assoc _ _ _, c, rfl, hblank c List.mem_cons_self⟩
  have hcount := harguments _ hline
  rwa [Text.trimStart, (Text.span_append hblank hrest).2] at hcount

private theorem Flags.parse_append_return (block : Text) : parse (block ++ ['\r']) = parse block := by
  have hfiller : IsFiller '\r' := by decide
  rw [parse_eq, parse_eq, counted_append, counted_cons_of_filler hfiller, counted_nil, List.append_nil]

private theorem Text.word_append_singleton {c : Char} (hc : c ≠ ' ') (text : Text) :
    word (text ++ [c]) = if ' ' ∈ text then text.word else text ++ [c] := by
  split
  · rename_i hmem
    have hafter : text.afterWord ≠ [] := by
      intro hnil
      have hwhole := text.word_append_afterWord
      rw [hnil, List.append_nil] at hwhole
      exact text.blank_not_mem_word (hwhole.symm ▸ hmem)
    have hcons := (text.afterWord_eq_nil_or_cons).resolve_left hafter
    have hparts : text ++ [c] = text.word ++ (text.afterWord ++ [c]) := by
      rw [← List.append_assoc, text.word_append_afterWord]
    rw [hparts, word_append text.blank_not_mem_word (.inr _)]
    rw [hcons]
    rfl
  · rename_i hmem
    exact word_eq_self (by simp [hmem, Ne.symm hc])

namespace Directive

private def returned (directive : Directive) : Directive :=
  { directive with remainder := directive.remainder ++ ['\r'] }

private theorem text_returned (directive : Directive) : directive.returned.text = directive.text ++ ['\r'] := by
  simp [returned, text, arguments]

section Returned

variable {directive : Directive} (hwell : directive.WellFormed)
include hwell

/-- Of the blanks that a flag block needs, one stands behind the source and another one further on. -/
private theorem WellFormed.blank_mem_of_written {rest : Text}
    (hwritten : FlagBlockWritten (keyword ++ directive.gap ++ (directive.source ++ ' ' :: rest))) : ' ' ∈ rest := by
  have hcount := hwritten _ _ rfl hwell.gap_ne_nil hwell.gap_blank (hwell.isBlank_head?_source _)
  rw [List.count_append, List.count_cons_self, List.count_eq_zero.2 hwell.source_undivided] at hcount
  exact List.count_pos_iff.1 (by omega)

private theorem WellFormed.remainder_ne_nil (hwritten : FlagBlockWritten directive.text) :
    directive.remainder ≠ [] := by
  intro hnil
  have hline : directive.text = keyword ++ directive.gap ++ (directive.source ++ ' ' :: directive.destination) := by
    simp [text, arguments, hnil]
  exact hwell.destination_undivided (hwell.blank_mem_of_written (hline ▸ hwritten))

private theorem WellFormed.withRemainder {remainder : Text}
    (hstart : remainder = [] ∨ remainder = ' ' :: remainder.tail) : WellFormed { directive with remainder } where
  gap_ne_nil := hwell.gap_ne_nil
  gap_blank := hwell.gap_blank
  source_ne_nil := hwell.source_ne_nil
  source_start := hwell.source_start
  source_undivided := hwell.source_undivided
  destination_undivided := hwell.destination_undivided
  remainder_start := hstart
  source_filled := hwell.source_filled
  destination_filled := hwell.destination_filled

private theorem WellFormed.returned (hremainder : directive.remainder ≠ []) : directive.returned.WellFormed := by
  have hcons := hwell.remainder_start.resolve_left hremainder
  refine hwell.withRemainder (.inr ?_)
  rw [hcons]
  rfl

omit hwell in
private theorem flags_returned (hremainder : directive.remainder ≠ []) :
    Flags.parse directive.returned.flagBlock = Flags.parse directive.flagBlock := by
  have htail : directive.returned.remainder.tail = directive.remainder.tail ++ ['\r'] := by
    rw [Directive.returned, List.tail_append_of_ne_nil hremainder]
  rw [flagBlock, htail, Text.word_append_singleton (by decide), flagBlock]
  split
  · rfl
  · rename_i hmem
    rw [Flags.parse_append_return, Text.word_eq_self hmem]

private theorem WellFormed.destination_ne_nil : directive.destination ≠ [] := by
  intro hnil
  have hdestination := hwell.unquote_ne_nil.2
  rw [hnil] at hdestination
  exact hdestination rfl

/-- A carriage return that a directive ends in may be taken off, if a flag block is written without it. -/
private theorem WellFormed.exists_of_return {line : Text} (hline : directive.text = line ++ ['\r'])
    (hwritten : FlagBlockWritten line) : ∃ before : Directive, before.WellFormed ∧ before.text = line := by
  -- The carriage return is the last character behind the source.
  obtain hnil | ⟨front, last, hfront⟩ := List.eq_nil_or_concat (directive.destination ++ directive.remainder)
  · exact absurd (List.append_eq_nil_iff.1 hnil).1 hwell.destination_ne_nil
  rw [List.concat_eq_append] at hfront
  have htext : (keyword ++ directive.gap ++ (directive.source ++ ' ' :: front)) ++ [last] = line ++ ['\r'] := by
    rw [← hline, text, arguments, List.append_assoc _ _ (directive.remainder), List.cons_append, hfront]
    simp
  obtain ⟨rfl, hlast⟩ := List.append_inj' htext rfl
  obtain rfl : last = '\r' := List.singleton_inj.1 hlast
  have hblank : ' ' ∈ front := hwell.blank_mem_of_written hwritten
  -- Behind the source stands a blank before the carriage return, so both lines have the same destination.
  have hdestination : Text.word front = directive.destination := by
    rw [← Text.word_append hwell.destination_undivided hwell.remainder_start, hfront,
      Text.word_append_singleton (by decide), if_pos hblank]
  refine ⟨_, hwell.withRemainder (Text.afterWord_eq_nil_or_cons front), ?_⟩
  have hwhole : directive.destination ++ Text.afterWord front = front := by
    rw [← hdestination, Text.word_append_afterWord]
  simp [text, arguments, hwhole]

end Returned

end Directive

def Rule.returned (rule : Rule) : Rule := { rule with line := rule.line ++ ['\r'] }

/-- Where a flag block is written, a carriage return at the end of a line changes nothing but the line. -/
theorem Rule.ofLine?_append_return {line : Text} (hwritten : FlagBlockWritten line) (index : Nat) :
    Rule.ofLine? index (line ++ ['\r']) = (Rule.ofLine? index line).map Rule.returned := by
  cases hrule : Rule.ofLine? index line with
  | some rule =>
    obtain ⟨directive, hwell, rfl, rfl⟩ := Directive.exists_wellFormed_of_ofLine? hrule
    have hremainder := hwell.remainder_ne_nil hwritten
    rw [← Directive.text_returned, (hwell.returned hremainder).ofLine?_text, Directive.rule,
      Directive.flags_returned hremainder, Directive.text_returned]
    rfl
  | none =>
    cases hother : Rule.ofLine? index (line ++ ['\r']) with
    | none => rfl
    | some rule =>
      obtain ⟨directive, hwell, hline, _⟩ := Directive.exists_wellFormed_of_ofLine? hother
      obtain ⟨before, hbefore, rfl⟩ := hwell.exists_of_return hline hwritten
      rw [hbefore.ofLine?_text] at hrule
      cases hrule

-- Without a blank behind it the destination takes the carriage return.
example : (Rule.ofLine? 1 "RewriteRule /a /b\r".toList).map Rule.destination = some "/b\r".toList := by decide

/-- A text with a carriage return in front of each of its line feeds. -/
def Text.withReturns (text : Text) : Text := text.flatMap fun c => if c = '\n' then ['\r', '\n'] else [c]

private def returnedLines : List Text → List Text
  | [] => []
  | [line] => [line]
  | line :: next :: lines => (line ++ ['\r']) :: returnedLines (next :: lines)

private theorem returnedLines_cons {line : Text} {lines : List Text} (hlines : lines ≠ []) :
    returnedLines (line :: lines) = (line ++ ['\r']) :: returnedLines lines := by
  obtain ⟨next, lines, rfl⟩ := List.exists_cons_of_ne_nil hlines
  rfl

private theorem returnedLines_modifyHead (c : Char) (lines : List Text) :
    returnedLines (lines.modifyHead (c :: ·)) = (returnedLines lines).modifyHead (c :: ·) := by
  cases lines with
  | nil => rfl
  | cons line lines =>
    cases lines with
    | nil => rfl
    | cons next lines => rfl

private theorem lines_withReturns (text : Text) : text.withReturns.lines = returnedLines text.lines := by
  induction text with
  | nil => rfl
  | cons c text ih =>
    have hnil : Text.lines text ≠ [] := Text.lines_ne_nil text
    by_cases hc : c = '\n'
    · subst hc
      have hlines : Text.lines ('\n' :: text) = [] :: Text.lines text := Text.lines_append_lineFeed [] text
      have hreturn : Text.lines ['\r'] = [['\r']] := rfl
      rw [hlines, returnedLines_cons hnil, ← ih]
      exact (Text.lines_append_lineFeed ['\r'] (Text.withReturns text)).trans (by rw [hreturn]; rfl)
    · have hlines (rest : Text) : Text.lines (c :: rest) = (Text.lines rest).modifyHead (c :: ·) := by
        rw [Text.lines, List.splitOn_cons_eq_if_modifyHead, if_neg (by simpa using hc)]
        rfl
      have hreturns : Text.withReturns (c :: text) = c :: Text.withReturns text := by
        rw [Text.withReturns, List.flatMap_cons, if_neg hc]
        rfl
      rw [hreturns, hlines, hlines, ih, returnedLines_modifyHead]

private theorem getElem?_returnedLines (lines : List Text) (place : Nat) :
    (returnedLines lines)[place]? =
      lines[place]?.map fun line => if place + 1 < lines.length then line ++ ['\r'] else line := by
  fun_induction returnedLines lines generalizing place with
  | case1 => rfl
  | case2 line =>
    cases place with
    | zero => rfl
    | succ place => rfl
  | case3 line next lines ih =>
    cases place with
    | zero => simp
    | succ place =>
      rw [List.getElem?_cons_succ, ih, List.getElem?_cons_succ]
      simp only [List.length_cons, Nat.add_lt_add_iff_right]

namespace Document

private theorem isLine_withReturns_iff {text line : Text} {number : Nat} :
    IsLine text.withReturns number line ↔
      ∃ before, IsLine text number before ∧ line = if number < text.lines.length then before ++ ['\r'] else before := by
  rw [IsLine, lines_withReturns]
  constructor
  · rintro ⟨place, rfl, hget⟩
    rw [getElem?_returnedLines, Option.map_eq_some_iff] at hget
    obtain ⟨before, hbefore, rfl⟩ := hget
    exact ⟨before, ⟨place, rfl, hbefore⟩, rfl⟩
  · rintro ⟨before, ⟨place, rfl, hbefore⟩, rfl⟩
    exact ⟨place, rfl, by rw [getElem?_returnedLines, hbefore, Option.map_some]⟩

/-- The same rule as it is in a document of some number of lines of which all but the last end in a carriage return. -/
private def returnedRule (lineCount : Nat) (rule : Rule) : Rule :=
  { rule with line := if rule.index < lineCount then rule.line ++ ['\r'] else rule.line }

private theorem ofLine?_withReturns {line : Text} (hwritten : FlagBlockWritten line) (number lineCount : Nat) :
    Rule.ofLine? number (if number < lineCount then line ++ ['\r'] else line) =
      (Rule.ofLine? number line).map (returnedRule lineCount) := by
  split
  · rename_i hnumber
    rw [Rule.ofLine?_append_return hwritten]
    refine Option.map_congr fun rule hrule => ?_
    obtain ⟨rfl, _⟩ := Rule.index_line_of_ofLine? hrule
    rw [returnedRule, if_pos hnumber, Rule.returned]
  · rename_i hnumber
    cases hrule : Rule.ofLine? number line with
    | none => rfl
    | some rule =>
      obtain ⟨rfl, _⟩ := Rule.index_line_of_ofLine? hrule
      rw [Option.map_some, returnedRule, if_neg hnumber]

private theorem rules_withReturns {text : Text} (hwritten : ∀ line ∈ text.lines, FlagBlockWritten line) :
    rules text.withReturns = (rules text).map (returnedRule text.lines.length) := by
  refine rules_eq_map_of_hasRule_iff (fun _ => rfl) fun number found => ?_
  constructor
  · rintro ⟨line, hline, hfound⟩
    obtain ⟨before, hbefore, rfl⟩ := isLine_withReturns_iff.1 hline
    rw [ofLine?_withReturns (hwritten before hbefore.mem_lines), Option.map_eq_some_iff] at hfound
    obtain ⟨rule, hrule, rfl⟩ := hfound
    exact ⟨rule, ⟨before, hbefore, hrule⟩, rfl⟩
  · rintro ⟨rule, ⟨before, hbefore, hrule⟩, rfl⟩
    refine ⟨_, isLine_withReturns_iff.2 ⟨before, hbefore, rfl⟩, ?_⟩
    rw [ofLine?_withReturns (hwritten before hbefore.mem_lines), hrule, Option.map_some]

/-- If every directive has blanks behind its source and its destination, it makes no difference whether lines end in
line feeds or in carriage returns and line feeds: the rules are the same but for carriage returns at the ends of their
lines, and the check gives the same verdict, with as many rules and with collisions between the same lines. -/
theorem returns_change_nothing {text : Text} (hwritten : ∀ line ∈ text.lines, FlagBlockWritten line) :
    List.Forall₂ (fun rule other : Rule =>
        other.index = rule.index ∧ other.source = rule.source ∧ other.destination = rule.destination ∧
          other.flags = rule.flags ∧ (other.line = rule.line ∨ other.line = rule.line ++ ['\r']))
      (rules text) (rules text.withReturns) ∧
      (check (rules text.withReturns)).mapError Conflict.numbers = (check (rules text)).mapError Conflict.numbers := by
  rw [rules_withReturns hwritten]
  constructor
  · rw [List.forall₂_map_right_iff, List.forall₂_same]
    intro rule _
    have hline : (returnedRule text.lines.length rule).line = rule.line ∨
        (returnedRule text.lines.length rule).line = rule.line ++ ['\r'] := by
      simp only [returnedRule]
      split
      · exact .inr rfl
      · exact .inl rfl
    exact ⟨rfl, rfl, rfl, rfl, hline⟩
  · exact check_map (fun _ _ => rfl) (fun _ _ => rfl) fun _ _ _ _ => rfl

/-- A bare keyword, an empty destination, an empty flag block behind an anchored destination, and two rules that
collide. -/
theorem returns_in_five_lines :
    let text : Text := ("RewriteRule\nRewriteRule /x  [L]\nRewriteRule /a /b$ \n" ++
      "RewriteRule /a /c [l]\nRewriteRule /ab /d  ").toList
    (∀ line ∈ text.lines, FlagBlockWritten line) ∧
      (rules text.withReturns).map (fun rule => (rule.index, rule.destination, rule.flags.tokens)) =
        [(3, "/b$".toList, [[]]), (4, "/c".toList, [['L']]), (5, "/d".toList, [[]])] ∧
      (check (rules text.withReturns)).mapError Conflict.numbers = .error (3, [(4, 5)]) := by
  intro text
  have hwritten : ∀ line ∈ text.lines, FlagBlockWritten line := by
    have harguments : ∀ line ∈ text.lines, ∀ arguments ∈ LineReading.arguments? line,
        2 ≤ arguments.trimStart.count ' ' := by decide +kernel
    exact fun line hline => flagBlockWritten_of_arguments (harguments line hline)
  obtain ⟨_, hcheck⟩ := returns_change_nothing hwritten
  refine ⟨hwritten, by decide +kernel, hcheck.trans ?_⟩
  decide +kernel

end Document

end Overrule
