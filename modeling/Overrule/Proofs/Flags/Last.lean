import Overrule.Proofs.Directive.Grammar
import Overrule.Proofs.Flags.Tokens

namespace Overrule

namespace Flags

/-- What is left of a piece of a block when its fillers are taken out. -/
def bare (piece : Text) : Text := piece.filter (¬ IsFiller ·)

private theorem counted_eq_toUpper_bare (piece : Text) : counted piece = (bare piece).toUpper := by
  have hkeeps : piece.filter keeps = bare piece := by
    refine List.filter_congr fun c _ => ?_
    rw [Bool.eq_iff_iff, ← Bool.not_eq_false, keeps_eq_false_iff, decide_eq_true_iff]
  rw [counted, hkeeps]

private theorem isLast_parse_iff {block : Text} :
    (parse block).isLast = true ↔ ∃ piece ∈ block.splitOn ',', bare piece = ['L'] ∨ bare piece = ['l'] := by
  rw [isLast, contains, List.contains_iff_mem, tokens_parse, List.mem_map]
  refine exists_congr fun piece => and_congr_right fun _ => ?_
  rw [counted_eq_toUpper_bare, Text.toUpper_eq_singleton_iff]
  constructor
  · rintro ⟨c, hbare, hletter⟩
    rcases upperCase_eq_letterL_iff.1 hletter with rfl | rfl
    · exact Or.inl hbare
    · exact Or.inr hbare
  · rintro (hbare | hbare)
    · exact ⟨'L', hbare, upperCase_eq_letterL_iff.2 (Or.inl rfl)⟩
    · exact ⟨'l', hbare, upperCase_eq_letterL_iff.2 (Or.inr rfl)⟩

end Flags

/-- The third of the arguments that stand behind the keyword of a line and the white space there, with single blanks
between them. A line with fewer has an empty one. -/
def thirdArgument (line : Text) : Text := (((line.drop keyword.length).dropWhile isBlank).splitOn ' ').getD 2 []

private theorem Directive.WellFormed.thirdArgument_text {directive : Directive} (hwell : directive.WellFormed) :
    thirdArgument directive.text = directive.flagBlock := by
  have hbehind : directive.text.drop keyword.length = directive.arguments := List.drop_left
  have hread : directive.flagBlock = (read directive.arguments).flagBlock := by rw [hwell.read_arguments]
  rw [thirdArgument, hbehind, Text.getD_succ_splitOn_blank, Text.getD_succ_splitOn_blank,
    Text.getD_zero_splitOn_blank, hread]
  rfl

private theorem Rule.flags_eq_parse_thirdArgument {index : Nat} {line : Text} {rule : Rule}
    (hrule : Rule.ofLine? index line = some rule) : rule.flags = Flags.parse (thirdArgument line) := by
  obtain ⟨directive, hwell, rfl, rfl⟩ := Directive.exists_wellFormed_of_ofLine? hrule
  rw [hwell.thirdArgument_text]
  rfl

/-- A rule has the flag `L` if and only if some piece of the third argument of its line between commas is `L` or `l`,
once its brackets and white space are taken out. So lines with the same third argument agree in this, whatever else
is on them. -/
theorem Rule.isLast_iff_lone_letter {index : Nat} {line : Text} {rule : Rule}
    (hrule : Rule.ofLine? index line = some rule) :
    (rule.flags.isLast = true ↔
      ∃ piece ∈ (thirdArgument line).splitOn ',', Flags.bare piece = ['L'] ∨ Flags.bare piece = ['l']) ∧
    ∀ (number : Nat) (other : Text) (found : Rule), Rule.ofLine? number other = some found →
      thirdArgument other = thirdArgument line → found.flags.isLast = rule.flags.isLast := by
  have hflags := Rule.flags_eq_parse_thirdArgument hrule
  refine ⟨?_, fun number other found hfound hsame => ?_⟩
  · rw [hflags, Flags.isLast_parse_iff]
  · rw [Rule.flags_eq_parse_thirdArgument hfound, hsame, hflags]

/-- The third line has the letter in its source, its destination and behind its flags, and in the flags within longer
tokens, with brackets between it and another letter, and in a ligature. -/
theorem Rule.isLast_of_three_lines :
    let first : Text := "RewriteRule\t /a \"/b\" nc,[l] [R]".toList
    let second : Text := "RewriteRule /c /d nc,[l]".toList
    let third : Text := "RewriteRule L [L] QSL,L=x,[L][R],ﬂ [L]".toList
    ∃ marked alike unmarked, Rule.ofLine? 1 first = some marked ∧ Rule.ofLine? 2 second = some alike ∧
      Rule.ofLine? 3 third = some unmarked ∧ marked.flags.isLast = true ∧
      alike.flags.isLast = marked.flags.isLast ∧ unmarked.flags.isLast = false := by
  intro first second third
  obtain ⟨marked, hfirst⟩ := Option.isSome_iff_exists.1 (by decide : (Rule.ofLine? 1 first).isSome = true)
  obtain ⟨alike, hsecond⟩ := Option.isSome_iff_exists.1 (by decide : (Rule.ofLine? 2 second).isSome = true)
  obtain ⟨unmarked, hthird⟩ := Option.isSome_iff_exists.1 (by decide : (Rule.ofLine? 3 third).isSome = true)
  obtain ⟨hmarked, halike⟩ := Rule.isLast_iff_lone_letter hfirst
  have hunmarked : ¬ unmarked.flags.isLast = true := by
    rw [(Rule.isLast_iff_lone_letter hthird).1]
    decide
  exact ⟨marked, alike, unmarked, hfirst, hsecond, hthird, hmarked.2 (by decide),
    halike 2 second alike hsecond (by decide), Bool.eq_false_iff.2 hunmarked⟩

end Overrule
