import Overrule.Text.Blank
import Overrule.Text.UpperCase

namespace Overrule

private def bitsAt (places : List Nat) : Nat := places.foldr (fun place bits => 1 <<< place ||| bits) 0

private theorem testBit_bitsAt {places : List Nat} {place : Nat} (hplace : place ∈ places) :
    (bitsAt places).testBit place = true := by
  induction places with
  | nil => cases hplace
  | cons first rest ih =>
    rw [bitsAt, List.foldr_cons, Nat.testBit_or, Bool.or_eq_true]
    rcases List.mem_cons.1 hplace with rfl | hrest
    · exact Or.inl (by simp)
    · exact Or.inr (ih hrest)

private theorem not_mem_of_bitsAt_and_eq_zero {first second : List Nat}
    (hapart : bitsAt first &&& bitsAt second = 0) {place : Nat} (hfirst : place ∈ first) :
    place ∉ second := by
  intro hsecond
  have hbit : (bitsAt first &&& bitsAt second).testBit place = true := by
    rw [Nat.testBit_and, testBit_bitsAt hfirst, testBit_bitsAt hsecond]
    rfl
  rw [hapart, Nat.zero_testBit] at hbit
  cases hbit

namespace CaseRun

def offsets (run : CaseRun) : List Nat :=
  (List.range ((run.last - run.first) / run.step + 1)).map (run.step * ·)

private theorem offset_mem_of_covers {run : CaseRun} {code : Nat} (hcovers : run.covers code = true) :
    code - run.first ∈ run.offsets ∧ run.first + (code - run.first) = code := by
  simp only [covers, Bool.and_eq_true, decide_eq_true_eq, beq_iff_eq] at hcovers
  obtain ⟨⟨hfirst, hlast⟩, hstep⟩ := hcovers
  refine ⟨List.mem_map.2 ⟨(code - run.first) / run.step, ?_, ?_⟩, by omega⟩
  · have hle : code - run.first ≤ run.last - run.first := by omega
    exact List.mem_range.2 (Nat.lt_succ_of_le (Nat.div_le_div_right hle))
  · exact Nat.mul_div_cancel' (Nat.dvd_of_mod_eq_zero hstep)

end CaseRun

private def lowerCodes : List Nat :=
  caseRuns.flatMap (fun run => run.offsets.map (run.first + ·)) ++ caseExpansions.map (·.1)

private def imageCodes : List Nat :=
  caseRuns.flatMap (fun run => run.offsets.map (run.image + ·)) ++ caseExpansions.flatMap (·.2)

/-- The code points of the characters that flag blocks are cut at, or that do not count in them. -/
def delimiterCodes : List Nat :=
  ','.toNat :: '['.toNat :: ']'.toNat ::
    blanks.flatMap fun range => List.range' range.1 (range.2 + 1 - range.1)

private theorem imageCodes_apart :
    bitsAt (lowerCodes ++ delimiterCodes) &&& bitsAt imageCodes = 0 := by
  decide +kernel

private theorem imageCodes_valid : ∀ code ∈ imageCodes, code.isValidChar := by
  decide +kernel

private theorem two_le_length_of_mem_caseExpansions :
    ∀ entry ∈ caseExpansions, 2 ≤ entry.2.length := by
  decide +kernel

private theorem first_add_eq_of_image_add_eq : ∀ run ∈ caseRuns, ∀ offset ∈ run.offsets,
    run.image + offset = 'L'.toNat → run.first + offset = 'l'.toNat := by
  decide +kernel

theorem mem_delimiterCodes_of_isBlank {c : Char} (hblank : isBlank c = true) :
    c.toNat ∈ delimiterCodes := by
  obtain ⟨range, hrange, hfirst, hlast⟩ := CodeRanges.mem_of_has hblank
  have hmem : c.toNat ∈ blanks.flatMap fun range => List.range' range.1 (range.2 + 1 - range.1) :=
    List.mem_flatMap.2 ⟨range, hrange, List.mem_range'_1.2 ⟨hfirst, by omega⟩⟩
  exact List.mem_cons_of_mem _ (List.mem_cons_of_mem _ (List.mem_cons_of_mem _ hmem))

private theorem toNat_ofNat_of_mem_imageCodes {code : Nat} (hcode : code ∈ imageCodes) :
    (Char.ofNat code).toNat = code := by
  rw [Char.ofNat, dif_pos (imageCodes_valid code hcode)]
  rfl

private theorem mem_lowerCodes_of_covers {run : CaseRun} (hrun : run ∈ caseRuns) {code : Nat}
    (hcovers : run.covers code = true) : code ∈ lowerCodes := by
  obtain ⟨hoffset, hcode⟩ := CaseRun.offset_mem_of_covers hcovers
  have hmem : code ∈ run.offsets.map (run.first + ·) := List.mem_map.2 ⟨_, hoffset, hcode⟩
  exact List.mem_append_left _ (List.mem_flatMap.2 ⟨run, hrun, hmem⟩)

private theorem image_mem_imageCodes {run : CaseRun} (hrun : run ∈ caseRuns) {offset : Nat}
    (hoffset : offset ∈ run.offsets) : run.image + offset ∈ imageCodes :=
  List.mem_append_left _ (List.mem_flatMap.2 ⟨run, hrun, List.mem_map.2 ⟨_, hoffset, rfl⟩⟩)

private theorem upperCase_eq_self_of_not_mem {c : Char} (hc : c.toNat ∉ lowerCodes) : upperCase c = [c] := by
  have hruns : caseRuns.find? (·.covers c.toNat) = none := by
    refine List.find?_eq_none.2 fun run hrun hcovers => hc ?_
    exact mem_lowerCodes_of_covers hrun hcovers
  have hexpansions : caseExpansions.lookup c.toNat = none := by
    refine List.lookup_eq_none_iff.2 fun entry hentry => ?_
    refine bne_iff_ne.2 fun heq => hc ?_
    exact List.mem_append_right _ (List.mem_map.2 ⟨entry, hentry, heq.symm⟩)
  simp only [upperCase, hruns, hexpansions]

/-- A character is its own upper case, or lies in a run and is replaced by the one at the same place in the image, or
has an entry with several characters. -/
theorem upperCase_cases (c : Char) :
    upperCase c = [c] ∨
      (∃ run ∈ caseRuns, ∃ offset ∈ run.offsets, run.first + offset = c.toNat ∧
        upperCase c = [Char.ofNat (run.image + offset)]) ∨
      ∃ codes, (c.toNat, codes) ∈ caseExpansions ∧ upperCase c = codes.map Char.ofNat := by
  unfold upperCase
  split
  · rename_i run hfind
    have hrun : run ∈ caseRuns := List.mem_of_find?_eq_some hfind
    have hcovers := List.find?_some hfind
    obtain ⟨hoffset, hcode⟩ := CaseRun.offset_mem_of_covers hcovers
    exact Or.inr (Or.inl ⟨run, hrun, _, hoffset, hcode, rfl⟩)
  · split
    · rename_i codes hlookup
      obtain ⟨before, after, htable, _⟩ := List.lookup_eq_some_iff.1 hlookup
      have hentry : (c.toNat, codes) ∈ caseExpansions := by
        rw [htable]
        exact List.mem_append_right _ List.mem_cons_self
      exact Or.inr (Or.inr ⟨codes, hentry, rfl⟩)
    · exact Or.inl rfl

private theorem upperCase_eq_self_or_mem_imageCodes (c : Char) :
    upperCase c = [c] ∨ ∀ d ∈ upperCase c, d.toNat ∈ imageCodes := by
  rcases upperCase_cases c with hself | ⟨run, hrun, offset, hoffset, _, hupper⟩ | ⟨codes, hentry, hupper⟩
  · exact Or.inl hself
  · have hmem := image_mem_imageCodes hrun hoffset
    refine Or.inr fun d hd => ?_
    rw [hupper] at hd
    rwa [List.mem_singleton.1 hd, toNat_ofNat_of_mem_imageCodes hmem]
  · refine Or.inr fun d hd => ?_
    rw [hupper] at hd
    obtain ⟨code, hcode, rfl⟩ := List.mem_map.1 hd
    have hmem : code ∈ imageCodes :=
      List.mem_append_right _ (List.mem_flatMap.2 ⟨_, hentry, hcode⟩)
    rwa [toNat_ofNat_of_mem_imageCodes hmem]

private theorem upperCase_of_mem_upperCase {c d : Char} (hd : d ∈ upperCase c) : upperCase d = [d] := by
  rcases upperCase_eq_self_or_mem_imageCodes c with hself | himages
  · rw [hself] at hd
    rwa [List.mem_singleton.1 hd]
  · -- An image cannot be in the table again, so a second look-up finds nothing.
    refine upperCase_eq_self_of_not_mem fun hlower => ?_
    exact not_mem_of_bitsAt_and_eq_zero imageCodes_apart (List.mem_append_left _ hlower) (himages d hd)

theorem eq_self_of_mem_upperCase_of_mem_delimiterCodes {c d : Char} (hd : d ∈ upperCase c)
    (hdelimiter : d.toNat ∈ delimiterCodes) : d = c := by
  rcases upperCase_eq_self_or_mem_imageCodes c with hself | himages
  · rw [hself] at hd
    exact List.mem_singleton.1 hd
  · exact absurd (himages d hd)
      (not_mem_of_bitsAt_and_eq_zero imageCodes_apart (List.mem_append_right _ hdelimiter))

theorem upperCase_comma : upperCase ',' = [','] := by decide

private theorem upperCase_ne_nil (c : Char) : upperCase c ≠ [] := by
  rcases upperCase_cases c with hself | ⟨run, _, offset, _, _, hupper⟩ | ⟨codes, hentry, hupper⟩
  · simp [hself]
  · simp [hupper]
  · have hlength : 2 ≤ codes.length := two_le_length_of_mem_caseExpansions _ hentry
    intro hnil
    rw [hupper, List.map_eq_nil_iff] at hnil
    simp [hnil] at hlength

/-- The letter `L` is the upper case of itself and of `l` alone. The ligature of `f` and `l` gives two letters. -/
theorem upperCase_eq_letterL_iff {c : Char} : upperCase c = ['L'] ↔ c = 'L' ∨ c = 'l' := by
  constructor
  · intro hletter
    rcases upperCase_cases c with hself | ⟨run, hrun, offset, hoffset, hcode, hupper⟩ | ⟨codes, hentry, hupper⟩
    · exact Or.inl (List.singleton_inj.1 (hself.symm.trans hletter))
    · have heq : Char.ofNat (run.image + offset) = 'L' := List.singleton_inj.1 (hupper.symm.trans hletter)
      have hL : run.image + offset = 'L'.toNat := by
        rw [← heq, toNat_ofNat_of_mem_imageCodes (image_mem_imageCodes hrun hoffset)]
      have hl : c.toNat = 'l'.toNat := by
        rw [← hcode, first_add_eq_of_image_add_eq run hrun offset hoffset hL]
      exact Or.inr (Char.toNat_inj.1 hl)
    · have hlength : 2 ≤ codes.length := two_le_length_of_mem_caseExpansions _ hentry
      have hone : codes.length = 1 := by
        simpa using congrArg List.length (hupper.symm.trans hletter)
      omega
  · rintro (rfl | rfl) <;> decide

theorem Text.toUpper_eq_nil_iff {text : Text} : text.toUpper = [] ↔ text = [] := by
  rw [Text.toUpper, List.flatMap_eq_nil_iff, List.eq_nil_iff_forall_not_mem]
  exact forall₂_congr fun c _ => iff_of_false (upperCase_ne_nil c) not_false

theorem Text.toUpper_eq_singleton_iff {text : Text} {letter : Char} :
    text.toUpper = [letter] ↔ ∃ c, text = [c] ∧ upperCase c = [letter] := by
  constructor
  · intro hupper
    cases text with
    | nil => cases hupper
    | cons c rest =>
      rw [Text.toUpper, List.flatMap_cons] at hupper
      rcases List.append_eq_singleton_iff.1 hupper with ⟨hnil, _⟩ | ⟨hletter, hrest⟩
      · exact absurd hnil (upperCase_ne_nil c)
      · exact ⟨c, by rw [Text.toUpper_eq_nil_iff.1 hrest], hletter⟩
  · rintro ⟨c, rfl, hletter⟩
    simpa [Text.toUpper] using hletter

private theorem Text.toUpper_eq_self {text : Text} (hself : ∀ c ∈ text, upperCase c = [c]) :
    text.toUpper = text := by
  induction text with
  | nil => rfl
  | cons c rest ih =>
    have hrest : Text.toUpper rest = rest := ih fun d hd => hself d (List.mem_cons_of_mem _ hd)
    rw [Text.toUpper, List.flatMap_cons, hself c List.mem_cons_self]
    exact congrArg (c :: ·) hrest

theorem Text.toUpper_toUpper (text : Text) : text.toUpper.toUpper = text.toUpper := by
  refine Text.toUpper_eq_self fun d hd => ?_
  obtain ⟨c, _, hdc⟩ := List.mem_flatMap.1 hd
  exact upperCase_of_mem_upperCase hdc

end Overrule
