import Overrule.Text.Basic

namespace Overrule

/-- Ranges from a first to a last code point, both included, in ascending order. -/
abbrev CodeRanges := List (Nat × Nat)

/-- Whether a character is in one of the ranges. Ranges behind it are not looked at. -/
def CodeRanges.has (ranges : CodeRanges) (c : Char) : Bool :=
  match ranges with
  | [] => false
  | (first, last) :: rest => first ≤ c.toNat && (c.toNat ≤ last || CodeRanges.has rest c)

theorem CodeRanges.mem_of_has {ranges : CodeRanges} {c : Char} (h : ranges.has c = true) :
    ∃ range ∈ ranges, range.1 ≤ c.toNat ∧ c.toNat ≤ range.2 := by
  fun_induction CodeRanges.has ranges c with
  | case1 => cases h
  | case2 first last rest ih =>
    simp only [Bool.and_eq_true, Bool.or_eq_true, decide_eq_true_eq] at h
    rcases h with ⟨hfirst, hlast | hrest⟩
    · exact ⟨(first, last), List.mem_cons_self, hfirst, hlast⟩
    · obtain ⟨range, hmem, hrange⟩ := ih hrest
      exact ⟨range, List.mem_cons_of_mem _ hmem, hrange⟩

end Overrule
