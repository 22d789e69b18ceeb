import Overrule.Flags
import Overrule.Proofs.Text.UpperCase

namespace Overrule.Flags

/-- What counts of a flag block, in upper case: the tokens with the commas between them. -/
def counted (block : Text) : Text := Text.toUpper (block.filter keeps)

theorem parse_eq (block : Text) : parse block = ⟨(counted block).splitOn ','⟩ := rfl

private theorem mem_delimiterCodes_of_not_keeps {c : Char} (hc : keeps c = false) :
    c.toNat ∈ delimiterCodes := by
  simp only [keeps, Bool.and_eq_false_iff, bne_eq_false_iff_eq, Bool.not_eq_false'] at hc
  rcases hc with (rfl | rfl) | hblank
  · simp [delimiterCodes]
  · simp [delimiterCodes]
  · exact mem_delimiterCodes_of_isBlank hblank

theorem keeps_of_mem_counted {block : Text} {d : Char} (hd : d ∈ counted block) :
    keeps d = true := by
  obtain ⟨c, hc, hdc⟩ := List.mem_flatMap.1 hd
  cases hkeeps : keeps d with
  | true => rfl
  | false =>
    -- What does not count would have to be in the block already, where it was filtered out.
    have hdelimiter := mem_delimiterCodes_of_not_keeps hkeeps
    rw [eq_self_of_mem_upperCase_of_mem_delimiterCodes hdc hdelimiter, (List.mem_filter.1 hc).2] at hkeeps
    cases hkeeps

private theorem counted_counted (block : Text) : counted (counted block) = counted block := by
  have hfilter : (counted block).filter keeps = counted block :=
    List.filter_eq_self.2 fun d hd => keeps_of_mem_counted hd
  rw [counted, hfilter, counted, Text.toUpper_toUpper]

private theorem render_parse (block : Text) : (parse block).render = '[' :: counted block ++ [']'] := by
  rw [parse_eq, render, List.intercalate_splitOn]

theorem parse_render_parse (block : Text) : parse (parse block).render = parse block := by
  have hbrackets : counted ('[' :: counted block ++ [']']) = counted (counted block) := by
    simp [counted, keeps]
  rw [render_parse, parse_eq, hbrackets, counted_counted, parse_eq]

end Overrule.Flags
