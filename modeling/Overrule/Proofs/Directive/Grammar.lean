import Mathlib.Data.List.Infix
import Overrule.Directive
import Overrule.Proofs.Text.Pieces

namespace Overrule

/-- The parts of a line that gives a rule, as they are written behind the keyword. -/
structure Directive where
  gap : Text
  source : Text
  destination : Text
  remainder : Text
  deriving DecidableEq, Repr

namespace Directive

def arguments (directive : Directive) : Text :=
  directive.gap ++ directive.source ++ ' ' :: directive.destination ++ directive.remainder

/-- The line that is made of the parts. -/
def text (directive : Directive) : Text := keyword ++ directive.arguments

/-- The flag block: what stands between the blank behind the destination and the next one, or the end of
the line. -/
def flagBlock (directive : Directive) : Text := Text.word directive.remainder.tail

/-- The parts can be told apart in the line, and neither source nor destination is empty once its quotes
are off. White space separates the source from the keyword; from there on only blanks do. -/
structure WellFormed (directive : Directive) : Prop where
  gap_ne_nil : directive.gap ≠ []
  gap_blank : ∀ c ∈ directive.gap, isBlank c = true
  source_ne_nil : directive.source ≠ []
  source_start : ∀ c ∈ directive.source.head?, isBlank c = false
  source_undivided : ' ' ∉ directive.source
  destination_undivided : ' ' ∉ directive.destination
  remainder_start : directive.remainder = [] ∨ directive.remainder = ' ' :: directive.remainder.tail
  source_filled : ∃ inner, directive.source.Encloses inner ∧ inner ≠ []
  destination_filled : ∃ inner, directive.destination.Encloses inner ∧ inner ≠ []

/-- A rule says what a directive on a line with a given number does. -/
structure Gives (directive : Directive) (index : Nat) (rule : Rule) : Prop where
  index_eq : rule.index = index
  line_eq : rule.line = directive.text
  source : directive.source.Encloses rule.source
  destination : directive.destination.Encloses rule.destination
  flags_eq : rule.flags = Flags.parse directive.flagBlock

/-- The parts found behind a keyword: white space, and then words that end at single blanks. -/
def read (arguments : Text) : Directive where
  gap := arguments.takeWhile isBlank
  source := arguments.trimStart.word
  destination := Text.word arguments.trimStart.afterWord.tail
  remainder := Text.afterWord arguments.trimStart.afterWord.tail

def rule (directive : Directive) (index : Nat) : Rule where
  index := index
  source := directive.source.unquote
  destination := directive.destination.unquote
  flags := Flags.parse directive.flagBlock
  line := directive.text

private theorem gives_iff {directive : Directive} {index : Nat} {found : Rule} :
    directive.Gives index found ↔ found = directive.rule index := by
  constructor
  · intro hgives
    obtain ⟨number, source, destination, flags, line⟩ := found
    obtain ⟨hindex, hline, hsource, hdestination, hflags⟩ := hgives
    simp only at hindex hline hsource hdestination hflags
    rw [rule, Text.encloses_iff.1 hsource, Text.encloses_iff.1 hdestination, hindex, hline, hflags]
  · rintro rfl
    exact ⟨rfl, rfl, Text.encloses_iff.2 rfl, Text.encloses_iff.2 rfl, rfl⟩

end Directive

namespace LineReading

theorem arguments?_eq_some_iff {line rest : Text} :
    arguments? line = some rest ↔
      line = keyword ++ rest ∧ ∃ c, rest.head? = some c ∧ isBlank c = true := by
  rw [eq_comm (a := line), ← List.isPrefixOf?_eq_some_iff_append_eq]
  unfold arguments?
  cases hbehind : keyword.isPrefixOf? line with
  | none => simp
  | some behind =>
    cases behind with
    | nil =>
      constructor
      · intro h
        cases h
      · rintro ⟨h, c, hhead, _⟩
        cases h
        cases hhead
    | cons c more =>
      by_cases hblank : isBlank c = true
      · simp only [hblank, if_true]
        constructor
        · intro h
          cases h
          exact ⟨rfl, c, rfl, hblank⟩
        · exact fun h => h.1
      · simp only [hblank]
        constructor
        · intro h
          cases h
        · rintro ⟨h, d, hhead, hd⟩
          cases h
          cases hhead
          exact absurd hd hblank

end LineReading

namespace Directive

private theorem ofLine?_eq_some_iff_read {index : Nat} {line : Text} {found : Rule} :
    Rule.ofLine? index line = some found ↔
      ∃ arguments, LineReading.arguments? line = some arguments ∧
        (read arguments).source.unquote ≠ [] ∧ (read arguments).destination.unquote ≠ [] ∧
          found = { (read arguments).rule index with line } := by
  unfold Rule.ofLine? LineReading.ofLine
  cases LineReading.arguments? line with
  | none => simp [LineReading.rule?]
  | some arguments =>
    have hsource : (arguments.trimStart.splitOn ' ').getD 0 [] = (read arguments).source :=
      Text.getD_zero_splitOn_blank _
    have hdestination : (arguments.trimStart.splitOn ' ').getD 1 [] = (read arguments).destination := by
      rw [Text.getD_succ_splitOn_blank, Text.getD_zero_splitOn_blank]
      rfl
    have hflags : (arguments.trimStart.splitOn ' ').getD 2 [] = (read arguments).flagBlock := by
      rw [Text.getD_succ_splitOn_blank, Text.getD_succ_splitOn_blank, Text.getD_zero_splitOn_blank]
      rfl
    simp only [hsource, hdestination, hflags]
    by_cases hempty : (read arguments).source.unquote = [] ∨ (read arguments).destination.unquote = []
    · rw [if_pos hempty]
      constructor
      · intro h
        cases h
      · rintro ⟨_, ⟨⟩, hfilled, hfilled', _⟩
        exact absurd hempty (by simp [hfilled, hfilled'])
    · rw [if_neg hempty]
      rw [not_or] at hempty
      constructor
      · intro h
        cases h
        exact ⟨arguments, rfl, hempty.1, hempty.2, rfl⟩
      · rintro ⟨_, ⟨⟩, _, _, rfl⟩
        rfl

section WellFormed

variable {directive : Directive} (hwell : directive.WellFormed)
include hwell

private theorem WellFormed.arguments?_text : LineReading.arguments? directive.text = some directive.arguments := by
  rw [LineReading.arguments?_eq_some_iff]
  obtain ⟨c, gap, hgap⟩ := List.exists_cons_of_ne_nil hwell.gap_ne_nil
  refine ⟨rfl, c, ?_, hwell.gap_blank c (hgap ▸ List.mem_cons_self)⟩
  simp [arguments, hgap]

theorem WellFormed.isBlank_head?_source (rest : Text) : ∀ c ∈ (directive.source ++ rest).head?, isBlank c = false := by
  obtain ⟨d, source, hsource⟩ := List.exists_cons_of_ne_nil hwell.source_ne_nil
  have hstart := hwell.source_start
  rw [hsource] at hstart ⊢
  exact hstart

private theorem WellFormed.span_arguments :
    directive.arguments.takeWhile isBlank = directive.gap ∧
      directive.arguments.trimStart =
        directive.source ++ ' ' :: (directive.destination ++ directive.remainder) := by
  have hshape : directive.arguments =
      directive.gap ++ (directive.source ++ ' ' :: (directive.destination ++ directive.remainder)) := by
    simp [arguments]
  rw [Text.trimStart, hshape]
  exact Text.span_append hwell.gap_blank (hwell.isBlank_head?_source _)

theorem WellFormed.read_arguments : read directive.arguments = directive := by
  obtain ⟨hgap, htrim⟩ := hwell.span_arguments
  have hsource : directive.arguments.trimStart.word = directive.source := by
    rw [htrim, Text.word_append hwell.source_undivided (Or.inr rfl)]
  have hbehind : directive.arguments.trimStart.afterWord.tail =
      directive.destination ++ directive.remainder := by
    rw [htrim, Text.afterWord_append hwell.source_undivided (Or.inr rfl), List.tail_cons]
  rw [read, hgap, hsource, hbehind,
    Text.word_append hwell.destination_undivided hwell.remainder_start,
    Text.afterWord_append hwell.destination_undivided hwell.remainder_start]

theorem WellFormed.unquote_ne_nil :
    directive.source.unquote ≠ [] ∧ directive.destination.unquote ≠ [] := by
  obtain ⟨source, hsource, hsourceNe⟩ := hwell.source_filled
  obtain ⟨destination, hdestination, hdestinationNe⟩ := hwell.destination_filled
  rw [Text.encloses_iff.1 hsource, Text.encloses_iff.1 hdestination]
  exact ⟨hsourceNe, hdestinationNe⟩

theorem WellFormed.ofLine?_text (index : Nat) :
    Rule.ofLine? index directive.text = some (directive.rule index) := by
  obtain ⟨hsource, hdestination⟩ := hwell.unquote_ne_nil
  refine ofLine?_eq_some_iff_read.2 ⟨directive.arguments, hwell.arguments?_text, ?_⟩
  rw [hwell.read_arguments]
  exact ⟨hsource, hdestination, rfl⟩

private theorem WellFormed.eq_of_text_eq {other : Directive} (hother : other.WellFormed)
    (htext : directive.text = other.text) : directive = other := by
  rw [← hwell.read_arguments, ← hother.read_arguments, List.append_cancel_left htext]

end WellFormed

/-- The parts that were read make up the text they were read from, and are well-formed, if it begins with
white space and they leave a source and a destination. -/
private theorem wellFormed_read {arguments : Text}
    (hstart : ∃ c, arguments.head? = some c ∧ isBlank c = true)
    (hsource : (read arguments).source.unquote ≠ [])
    (hdestination : (read arguments).destination.unquote ≠ []) :
    (read arguments).WellFormed ∧ (read arguments).arguments = arguments := by
  -- Without a blank behind the source there would be no destination.
  have hbehind : arguments.trimStart.afterWord = ' ' :: arguments.trimStart.afterWord.tail := by
    rcases Text.afterWord_eq_nil_or_cons arguments.trimStart with hnil | hcons
    · exact absurd (by simp [read, hnil, Text.word, Text.unquote]) hdestination
    · exact hcons
  have hsourceNe : (read arguments).source ≠ [] := fun hnil => hsource (by rw [hnil]; rfl)
  have hwhole : (read arguments).source ++ arguments.trimStart.afterWord = arguments.trimStart :=
    Text.word_append_afterWord _
  refine ⟨⟨?_, ?_, hsourceNe, ?_, Text.blank_not_mem_word _, Text.blank_not_mem_word _,
    Text.afterWord_eq_nil_or_cons _, ⟨_, Text.encloses_iff.2 rfl, hsource⟩,
    ⟨_, Text.encloses_iff.2 rfl, hdestination⟩⟩, ?_⟩
  · obtain ⟨c, hhead, hblank⟩ := hstart
    obtain ⟨rest, rfl⟩ := List.head?_eq_some_iff.1 hhead
    simp [read, hblank]
  · exact fun c hc => List.mem_takeWhile_imp hc
  · -- The source begins where the white space in front of it ends.
    intro c hc
    have hhead : arguments.trimStart.head? = some c := by
      rw [← hwhole, List.head?_append, hc]
      rfl
    have hnot := List.head?_dropWhile_not isBlank arguments
    rw [show (arguments.dropWhile isBlank).head? = some c from hhead] at hnot
    exact hnot
  · calc (read arguments).arguments
        = arguments.takeWhile isBlank ++ ((read arguments).source ++ ' ' ::
            (Text.word arguments.trimStart.afterWord.tail ++
              Text.afterWord arguments.trimStart.afterWord.tail)) := by
          simp [Directive.arguments, read]
      _ = arguments.takeWhile isBlank ++ arguments.trimStart := by
          rw [Text.word_append_afterWord, ← hbehind, hwhole]
      _ = arguments := List.takeWhile_append_dropWhile

theorem exists_wellFormed_of_ofLine? {index : Nat} {line : Text} {found : Rule}
    (hfound : Rule.ofLine? index line = some found) :
    ∃ directive : Directive, directive.WellFormed ∧ directive.text = line ∧
      found = directive.rule index := by
  obtain ⟨arguments, harguments, hsource, hdestination, rfl⟩ := ofLine?_eq_some_iff_read.1 hfound
  obtain ⟨rfl, hstart⟩ := LineReading.arguments?_eq_some_iff.1 harguments
  obtain ⟨hwell, htext⟩ := wellFormed_read hstart hsource hdestination
  have hline : (read arguments).text = keyword ++ arguments := by rw [text, htext]
  exact ⟨read arguments, hwell, hline, by rw [← hline]; rfl⟩

/-- The lines that give a rule are exactly the texts of well-formed directives. A line is the text of no
more than one, and the rule it gives says what that one does. -/
theorem ruleLine_iff_wellFormed (index : Nat) (line : Text) :
    ((∃ found, Rule.ofLine? index line = some found) ↔
        ∃ directive : Directive, directive.WellFormed ∧ directive.text = line) ∧
      (∀ first second : Directive, first.WellFormed → first.text = line →
        second.WellFormed → second.text = line → first = second) ∧
      ∀ (directive : Directive) (found : Rule), directive.WellFormed → directive.text = line →
        Rule.ofLine? index line = some found → directive.Gives index found := by
  refine ⟨⟨?_, ?_⟩, ?_, ?_⟩
  · rintro ⟨found, hfound⟩
    obtain ⟨directive, hwell, htext, _⟩ := exists_wellFormed_of_ofLine? hfound
    exact ⟨directive, hwell, htext⟩
  · rintro ⟨directive, hwell, rfl⟩
    exact ⟨_, hwell.ofLine?_text index⟩
  · intro first second hfirst htext hsecond htext'
    exact hfirst.eq_of_text_eq hsecond (htext.trans htext'.symm)
  · rintro directive found hwell rfl hfound
    rw [hwell.ofLine?_text] at hfound
    exact gives_iff.2 (Option.some.inj hfound).symm

-- A tab ends the keyword, but it does not end the source.
example : (Rule.ofLine? 1 "RewriteRule\t/a\t /b [l,r]".toList).map
    (fun rule => (rule.source, rule.flags.render)) = some ("/a\t".toList, "[L,R]".toList) := by
  decide

end Directive
end Overrule
