import Mathlib.Logic.Relation
import Overrule.Proofs.Flags.Block
import Overrule.Proofs.Text.Pieces

namespace Overrule.Flags

/-- A character that does not count in a block, wherever it stands: a bracket or white space. -/
def IsFiller (c : Char) : Prop := c = '[' ∨ c = ']' ∨ isBlank c = true

instance : DecidablePred IsFiller := fun c =>
  inferInstanceAs (Decidable (c = '[' ∨ c = ']' ∨ isBlank c = true))

theorem keeps_eq_false_iff {c : Char} : keeps c = false ↔ IsFiller c := by
  rw [keeps, Bool.and_eq_false_iff, Bool.and_eq_false_iff, bne_eq_false_iff_eq, bne_eq_false_iff_eq,
    Bool.not_eq_false', IsFiller, or_assoc]

@[simp] theorem counted_nil : counted [] = [] := rfl

@[simp] theorem counted_append (front back : Text) : counted (front ++ back) = counted front ++ counted back := by
  simp [counted]

private theorem counted_cons (c : Char) (rest : Text) :
    counted (c :: rest) = (if keeps c then upperCase c else []) ++ counted rest := by
  cases hkeeps : keeps c <;> simp [counted, hkeeps, Text.toUpper]

theorem counted_cons_of_filler {c : Char} (hc : IsFiller c) (rest : Text) :
    counted (c :: rest) = counted rest := by
  simp [counted_cons, keeps_eq_false_iff.2 hc]

private theorem counted_cons_comma (rest : Text) : counted (',' :: rest) = ',' :: counted rest := by
  have hkeeps : keeps ',' = true := by decide
  rw [counted_cons, if_pos hkeeps, upperCase_comma, List.singleton_append]

private theorem counted_eq_nil_iff {block : Text} : counted block = [] ↔ ∀ c ∈ block, IsFiller c := by
  rw [counted, Text.toUpper_eq_nil_iff, List.filter_eq_nil_iff]
  refine forall₂_congr fun c _ => ?_
  rw [Bool.not_eq_true, keeps_eq_false_iff]

private theorem counted_eq_toUpper {text : Text} (hplain : ∀ c ∈ text, ¬ IsFiller c) : counted text = text.toUpper := by
  have hfilter : text.filter keeps = text := by
    refine List.filter_eq_self.2 fun c hc => ?_
    rw [← Bool.not_eq_false, keeps_eq_false_iff]
    exact hplain c hc
  rw [counted, hfilter]

private theorem comma_not_mem_counted {piece : Text} (hpiece : ',' ∉ piece) : ',' ∉ counted piece := by
  intro hmem
  obtain ⟨c, hc, hcomma⟩ := List.mem_flatMap.1 hmem
  have heq := eq_self_of_mem_upperCase_of_mem_delimiterCodes hcomma (by simp [delimiterCodes])
  exact hpiece (heq ▸ (List.mem_filter.1 hc).1)

/-- What counts of pieces with commas between them is what counts of each, with the commas still between. -/
theorem counted_intercalate (pieces : List Text) :
    counted ([','].intercalate pieces) = [','].intercalate (pieces.map counted) := by
  induction pieces with
  | nil => rfl
  | cons piece pieces ih =>
    cases pieces with
    | nil => simp
    | cons next pieces =>
      rw [List.map_cons] at ih
      simp [counted_cons_comma, ih]

private theorem parse_intercalate {pieces : List Text} (hne : pieces ≠ []) (hcomma : ∀ piece ∈ pieces, ',' ∉ piece) :
    parse ([','].intercalate pieces) = ⟨pieces.map counted⟩ := by
  rw [parse_eq, counted_intercalate, List.splitOn_intercalate]
  · intro token htoken
    obtain ⟨piece, hpiece, rfl⟩ := List.mem_map.1 htoken
    exact comma_not_mem_counted (hcomma piece hpiece)
  · simpa using hne

theorem tokens_parse (block : Text) : (parse block).tokens = (block.splitOn ',').map counted := by
  have hparse := parse_intercalate (List.splitOn_ne_nil ',' block) fun piece hpiece =>
    Text.not_mem_of_mem_splitOn hpiece
  rw [List.intercalate_splitOn] at hparse
  rw [hparse]

section Plain

variable {tokens : List Text} (hne : tokens ≠ [])
  (hplain : ∀ token ∈ tokens, ∀ c ∈ token, c ≠ ',' ∧ ¬ IsFiller c)

include hplain in
private theorem comma_not_mem_of_plain {token : Text} (htoken : token ∈ tokens) : ',' ∉ token :=
  fun hmem => (hplain token htoken ',' hmem).1 rfl

include hne hplain

/-- Tokens without commas and fillers are read from the block that is written for them, in upper case. -/
theorem parse_render : parse (render ⟨tokens⟩) = ⟨tokens.map Text.toUpper⟩ := by
  have hbrackets : counted (render ⟨tokens⟩) = counted ([','].intercalate tokens) := by
    rw [render, List.cons_append, counted_cons_of_filler (Or.inl rfl), counted_append,
      counted_cons_of_filler (Or.inr (Or.inl rfl)), counted_nil, List.append_nil]
  have hupper : tokens.map counted = tokens.map Text.toUpper :=
    List.map_congr_left fun token htoken => counted_eq_toUpper fun c hc => (hplain token htoken c hc).2
  rw [parse_eq, hbrackets, ← parse_eq, parse_intercalate hne fun _ => comma_not_mem_of_plain hplain, hupper]

theorem isBlank_of_mem_render {c : Char} (hc : c ∈ render ⟨tokens⟩) : isBlank c = false := by
  rw [render, List.mem_append, List.mem_cons, List.mem_singleton] at hc
  rcases hc with (rfl | hc) | rfl
  · decide
  · by_cases hcomma : c = ','
    · rw [hcomma]
      decide
    · -- The pieces between the commas are the tokens again.
      rw [Text.mem_iff_exists_mem_splitOn hcomma,
        List.splitOn_intercalate ',' (fun _ => comma_not_mem_of_plain hplain) hne] at hc
      obtain ⟨token, htoken, hmem⟩ := hc
      exact Bool.eq_false_iff.2 fun hblank => (hplain token htoken c hmem).2 (Or.inr (Or.inr hblank))
  · decide

end Plain

private theorem tokens_parse_append_comma (front back : Text) :
    (parse (front ++ ',' :: back)).tokens = (parse front).tokens ++ (parse back).tokens := by
  simp only [tokens_parse, List.splitOn_append_cons_self, List.map_append]

private theorem length_tokens_parse (block : Text) : (parse block).tokens.length = block.count ',' + 1 := by
  rw [tokens_parse, List.length_map, Text.length_splitOn]

theorem plain_of_mem_tokens_parse {block token : Text} (htoken : token ∈ (parse block).tokens) {c : Char}
    (hc : c ∈ token) : c ≠ ',' ∧ ¬ IsFiller c := by
  constructor
  · rintro rfl
    exact Text.not_mem_of_mem_splitOn htoken hc
  · rw [tokens_parse] at htoken
    obtain ⟨piece, _, rfl⟩ := List.mem_map.1 htoken
    rw [← keeps_eq_false_iff, keeps_of_mem_counted hc]
    exact Bool.noConfusion

private theorem isEmpty_parse_iff {block : Text} :
    (parse block).isEmpty = true ↔ ∀ c ∈ block, c = ',' ∨ IsFiller c := by
  have hpieces : (parse block).isEmpty = true ↔ ∀ piece ∈ block.splitOn ',', ∀ c ∈ piece, IsFiller c := by
    rw [isEmpty, List.all_eq_true, tokens_parse, List.forall_mem_map]
    refine forall₂_congr fun piece _ => ?_
    rw [List.isEmpty_iff, counted_eq_nil_iff]
  rw [hpieces]
  constructor
  · intro hfiller c hc
    by_cases hcomma : c = ','
    · exact Or.inl hcomma
    · obtain ⟨piece, hpiece, hmem⟩ := (Text.mem_iff_exists_mem_splitOn hcomma).1 hc
      exact Or.inr (hfiller piece hpiece c hmem)
  · intro hblock piece hpiece c hc
    have hcomma : c ≠ ',' := by
      rintro rfl
      exact Text.not_mem_of_mem_splitOn hpiece hc
    exact (hblock c ((Text.mem_iff_exists_mem_splitOn hcomma).2 ⟨piece, hpiece, hc⟩)).resolve_left hcomma

/-- The second block is the first one with a filler put in somewhere. -/
inductive Fills : Text → Text → Prop
  | insert (front back : Text) (c : Char) (hc : IsFiller c) : Fills (front ++ back) (front ++ c :: back)

private theorem Fills.parse_eq_parse {block filled : Text} (hfills : Fills block filled) :
    parse block = parse filled := by
  obtain ⟨front, back, c, hc⟩ := hfills
  rw [parse_eq, parse_eq, counted_append, counted_append, counted_cons_of_filler hc]

/-- Blocks that can be made into one another, with fillers put in and taken out in any number of places, are read
alike. -/
theorem parse_eq_parse_of_refilled {block other : Text} (hrefilled : Relation.EqvGen Fills block other) :
    parse block = parse other := by
  induction hrefilled with
  | rel block other hfills => exact hfills.parse_eq_parse
  | refl block => rfl
  | symm block other _ ih => exact ih.symm
  | trans block between other _ _ ih ih' => exact ih.trans ih'

/-- What the tokens of a block are. Blocks with a comma between them have the tokens of the one and then those of the
other, and fillers change nothing. There is one token more than there are commas, and no token holds a comma or a
filler. Flags are empty where a block has nothing else. What is written for flags is read as these flags, and so
different flags are written differently. -/
theorem blocks_are_read_by_pieces (block other : Text) :
    (parse (block ++ ',' :: other)).tokens = (parse block).tokens ++ (parse other).tokens ∧
      (Relation.EqvGen Fills block other → parse block = parse other) ∧
      (parse block).tokens.length = block.count ',' + 1 ∧
      (∀ token ∈ (parse block).tokens, ∀ c ∈ token, c ≠ ',' ∧ ¬ IsFiller c) ∧
      ((parse block).isEmpty = true ↔ ∀ c ∈ block, c = ',' ∨ IsFiller c) ∧
      parse (parse block).render = parse block ∧
      ((parse block).render = (parse other).render → parse block = parse other) := by
  refine ⟨tokens_parse_append_comma block other, parse_eq_parse_of_refilled, length_tokens_parse block,
    fun token htoken c hc => plain_of_mem_tokens_parse htoken hc, isEmpty_parse_iff, parse_render_parse block, ?_⟩
  intro hrender
  rw [← parse_render_parse block, hrender, parse_render_parse]

/-- One block has brackets, another a blank behind its comma, and a third is in other letters and has neither. -/
theorem blocks_of_three_spellings :
    let bracketed : Text := "[l,R=301]".toList
    let spaced : Text := "l, R=301".toList
    let bare : Text := "L,r=301".toList
    Relation.EqvGen Fills bracketed spaced ∧ parse bracketed = parse spaced ∧
      (parse bracketed).render = (parse bare).render ∧ parse bracketed = parse bare := by
  intro bracketed spaced bare
  have hopening : Fills "l,R=301]".toList bracketed := .insert [] _ '[' (by decide)
  have hclosing : Fills "l,R=301".toList "l,R=301]".toList := .insert "l,R=301".toList [] ']' (by decide)
  have hblank : Fills "l,R=301".toList spaced := .insert "l,".toList "R=301".toList ' ' (by decide)
  have hrefilled : Relation.EqvGen Fills bracketed spaced :=
    .trans _ _ _ (.symm _ _ (.rel _ _ hopening)) (.trans _ _ _ (.symm _ _ (.rel _ _ hclosing)) (.rel _ _ hblank))
  have hrender : (parse bracketed).render = (parse bare).render := by decide
  obtain ⟨_, hspaced, _⟩ := blocks_are_read_by_pieces bracketed spaced
  obtain ⟨_, _, _, _, _, _, hbare⟩ := blocks_are_read_by_pieces bracketed bare
  exact ⟨hrefilled, hspaced hrefilled, hrender, hbare hrender⟩

end Overrule.Flags
