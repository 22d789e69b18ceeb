import Overrule.Document
import Overrule.Proofs.Ascending
import Overrule.Proofs.Directive.Grammar

namespace Overrule

theorem Rule.index_line_of_ofLine? {index : Nat} {line : Text} {rule : Rule}
    (hrule : Rule.ofLine? index line = some rule) : rule.index = index ∧ rule.line = line := by
  obtain ⟨directive, _, rfl, rfl⟩ := Directive.exists_wellFormed_of_ofLine? hrule
  exact ⟨rfl, rfl⟩

theorem Rule.ofLine?_renumber (index other : Nat) (line : Text) :
    Rule.ofLine? other line = (Rule.ofLine? index line).map fun rule => { rule with index := other } := by
  cases hrule : Rule.ofLine? index line with
  | some rule =>
    obtain ⟨directive, hwell, rfl, rfl⟩ := Directive.exists_wellFormed_of_ofLine? hrule
    exact hwell.ofLine?_text other
  | none =>
    -- Whether a line gives a rule does not depend on its number.
    cases hother : Rule.ofLine? other line with
    | none => rfl
    | some rule =>
      obtain ⟨directive, hwell, rfl, rfl⟩ := Directive.exists_wellFormed_of_ofLine? hother
      rw [hwell.ofLine?_text] at hrule
      cases hrule

private theorem Rule.ofLine?_add (index n : Nat) (line : Text) :
    Rule.ofLine? (index + n) line = (Rule.ofLine? index line).map (Rule.shift n) := by
  rw [Rule.ofLine?_renumber index]
  cases hrule : Rule.ofLine? index line with
  | none => rfl
  | some rule =>
    obtain ⟨rfl, _⟩ := Rule.index_line_of_ofLine? hrule
    rfl

namespace Document

def IsLine (text : Text) (number : Nat) (line : Text) : Prop :=
  ∃ place, number = place + 1 ∧ text.lines[place]? = some line

def HasRule (text : Text) (number : Nat) (rule : Rule) : Prop :=
  ∃ line, IsLine text number line ∧ Rule.ofLine? number line = some rule

theorem mem_numberedLines_iff {text line : Text} {number : Nat} :
    (line, number) ∈ numberedLines text ↔ IsLine text number line := by
  constructor
  · intro hmem
    obtain ⟨hle, hline⟩ := List.mk_mem_zipIdx_iff_le_and_getElem?_sub.1 hmem
    exact ⟨number - 1, by omega, hline⟩
  · rintro ⟨place, rfl, hline⟩
    rw [numberedLines, Nat.add_comm place 1, List.mk_add_mem_zipIdx_iff_getElem?]
    exact hline

theorem IsLine.unique {text first second : Text} {number : Nat} (hfirst : IsLine text number first)
    (hsecond : IsLine text number second) : first = second := by
  obtain ⟨place, rfl, hline⟩ := hfirst
  obtain ⟨other, hplace, hother⟩ := hsecond
  obtain rfl : place = other := by omega
  exact Option.some.inj (hline.symm.trans hother)

theorem HasRule.unique {text : Text} {number : Nat} {first second : Rule}
    (hfirst : HasRule text number first) (hsecond : HasRule text number second) : first = second := by
  obtain ⟨line, hline, hrule⟩ := hfirst
  obtain ⟨other, hother, hrule'⟩ := hsecond
  obtain rfl := hline.unique hother
  exact Option.some.inj (hrule.symm.trans hrule')

theorem HasRule.index_eq {text : Text} {number : Nat} {rule : Rule} (hrule : HasRule text number rule) :
    rule.index = number := by
  obtain ⟨line, _, hfound⟩ := hrule
  exact (Rule.index_line_of_ofLine? hfound).1

theorem HasRule.isLine {text : Text} {number : Nat} {rule : Rule} (hrule : HasRule text number rule) :
    IsLine text number rule.line := by
  obtain ⟨line, hline, hfound⟩ := hrule
  rwa [(Rule.index_line_of_ofLine? hfound).2]

theorem IsLine.mem_lines {text line : Text} {number : Nat} (hline : IsLine text number line) : line ∈ text.lines := by
  obtain ⟨place, _, hget⟩ := hline
  exact List.mem_of_getElem? hget

theorem IsLine.number_bounds {text line : Text} {number : Nat} (hline : IsLine text number line) :
    1 ≤ number ∧ number ≤ text.lines.length := by
  obtain ⟨place, rfl, hget⟩ := hline
  obtain ⟨hlt, _⟩ := List.getElem?_eq_some_iff.1 hget
  omega

theorem mem_rules_iff {text : Text} {rule : Rule} :
    rule ∈ rules text ↔ HasRule text rule.index rule := by
  rw [rules_eq_filterMap_numberedLines, List.mem_filterMap]
  constructor
  · rintro ⟨⟨line, number⟩, hline, hrule⟩
    obtain ⟨rfl, _⟩ := Rule.index_line_of_ofLine? hrule
    exact ⟨line, mem_numberedLines_iff.1 hline, hrule⟩
  · rintro ⟨line, hline, hrule⟩
    exact ⟨(line, rule.index), mem_numberedLines_iff.2 hline, hrule⟩

theorem HasRule.mem_rules {text : Text} {number : Nat} {rule : Rule} (hrule : HasRule text number rule) :
    rule ∈ rules text :=
  mem_rules_iff.2 (hrule.index_eq.symm ▸ hrule)

theorem mem_map_index_rules_iff {text : Text} {number : Nat} :
    number ∈ (rules text).map Rule.index ↔ ∃ rule, HasRule text number rule := by
  rw [List.mem_map]
  constructor
  · rintro ⟨rule, hrule, rfl⟩
    exact ⟨rule, mem_rules_iff.1 hrule⟩
  · rintro ⟨rule, hrule⟩
    exact ⟨rule, hrule.mem_rules, hrule.index_eq⟩

theorem ascending_numberedLines (text : Text) : Ascending Prod.snd (numberedLines text) := by
  have hnumbers : ((numberedLines text).map Prod.snd).Pairwise (· < ·) := by
    rw [numberedLines, List.zipIdx_map_snd]
    exact List.pairwise_lt_range'
  exact List.pairwise_map.1 hnumbers

theorem ascending_rules (text : Text) : Ascending Rule.index (rules text) := by
  rw [rules_eq_filterMap_numberedLines]
  refine (ascending_numberedLines text).filterMap fun entry rule hrule => ?_
  exact (Rule.index_line_of_ofLine? hrule).1

/-- If the lines of a document give the rules of another one, each changed but on the line with the same number, its
rules are those rules. -/
theorem rules_eq_map_of_hasRule_iff {text other : Text} {change : Rule → Rule}
    (hindex : ∀ rule, (change rule).index = rule.index)
    (hsame : ∀ number found, HasRule other number found ↔ ∃ rule, HasRule text number rule ∧ found = change rule) :
    rules other = (rules text).map change := by
  have hkept : Ascending Rule.index ((rules text).map change) := by
    refine List.pairwise_map.2 ((ascending_rules text).imp fun hlt => ?_)
    rwa [hindex, hindex]
  refine (ascending_rules other).eq_of_mem_iff hkept fun found => ?_
  rw [mem_rules_iff, hsame, List.mem_map]
  constructor
  · rintro ⟨rule, hrule, rfl⟩
    exact ⟨rule, hrule.mem_rules, rfl⟩
  · rintro ⟨rule, hrule, rfl⟩
    exact ⟨rule, (hindex rule).symm ▸ mem_rules_iff.1 hrule, rfl⟩

/-- A document under another one, with a line feed between them, adds its rules, moved down by the lines of
the other. -/
theorem rules_append_lineFeed (first second : Text) :
    rules (first ++ '\n' :: second) =
      rules first ++ (rules second).map (Rule.shift first.lines.length) := by
  have hbelow : second.lines.zipIdx (1 + first.lines.length) =
      (second.lines.zipIdx 1).map (Prod.map id (· + first.lines.length)) := by
    rw [List.map_snd_add_zipIdx_eq_zipIdx, Nat.add_comm]
  simp only [rules_eq_filterMap_numberedLines, numberedLines, Text.lines_append_lineFeed,
    List.zipIdx_append, List.filterMap_append, hbelow, List.filterMap_map, List.map_filterMap]
  congr 1
  refine List.filterMap_congr fun entry _ => ?_
  exact Rule.ofLine?_add entry.2 first.lines.length entry.1

end Document
end Overrule
