import Overrule.Proofs.Directive.Grammar
import Overrule.Proofs.Flags.Tokens

namespace Overrule

/-- The ways to write an argument: between double quotes, or as it is if it neither begins nor ends with one. -/
inductive Text.Spells (inner : Text) : Text → Prop
  | quoted : Text.Spells inner ('"' :: (inner ++ ['"']))
  | bare (hfront : ¬ ['"'] <+: inner) (hback : ¬ ['"'] <:+ inner) : Text.Spells inner inner

namespace Text.Spells

variable {inner token : Text} (hspells : inner.Spells token)
include hspells

private theorem encloses : token.Encloses inner := by
  cases hspells with
  | quoted => exact encloses_iff.2 (unquote_quoted inner)
  | bare hfront hback => exact ⟨inner, Or.inr ⟨rfl, hfront⟩, Or.inr ⟨rfl, hback⟩⟩

private theorem ne_nil (hne : inner ≠ []) : token ≠ [] := by
  cases hspells with
  | quoted => exact List.cons_ne_nil _ _
  | bare => exact hne

private theorem blank_not_mem (hundivided : ' ' ∉ inner) : ' ' ∉ token := by
  cases hspells with
  | quoted => simp [hundivided]
  | bare => exact hundivided

private theorem isBlank_head? (hstart : token = inner → ∀ c ∈ inner.head?, isBlank c = false) :
    ∀ c ∈ token.head?, isBlank c = false := by
  cases hspells with
  | quoted =>
    intro c hc
    obtain rfl : '"' = c := Option.some.inj hc
    rfl
  | bare => exact hstart rfl

end Text.Spells

namespace Directive

/-- The parts of a line write a source and a destination. White space sets the source off from the keyword, so the
source cannot begin with it unless there is a quote in front. -/
structure Writes (directive : Directive) (source destination : Text) : Prop where
  gap_ne_nil : directive.gap ≠ []
  gap_blank : ∀ c ∈ directive.gap, isBlank c = true
  source_ne_nil : source ≠ []
  source_undivided : ' ' ∉ source
  source_spelled : source.Spells directive.source
  source_start : directive.source = source → ∀ c ∈ source.head?, isBlank c = false
  destination_ne_nil : destination ≠ []
  destination_undivided : ' ' ∉ destination
  destination_spelled : destination.Spells directive.destination

section Writes

variable {directive : Directive} {source destination : Text} (hwrites : directive.Writes source destination)
include hwrites

private theorem Writes.wellFormed
    (hremainder : directive.remainder = [] ∨ directive.remainder = ' ' :: directive.remainder.tail) :
    directive.WellFormed where
  gap_ne_nil := hwrites.gap_ne_nil
  gap_blank := hwrites.gap_blank
  source_ne_nil := hwrites.source_spelled.ne_nil hwrites.source_ne_nil
  source_start := hwrites.source_spelled.isBlank_head? hwrites.source_start
  source_undivided := hwrites.source_spelled.blank_not_mem hwrites.source_undivided
  destination_undivided := hwrites.destination_spelled.blank_not_mem hwrites.destination_undivided
  remainder_start := hremainder
  source_filled := ⟨source, hwrites.source_spelled.encloses, hwrites.source_ne_nil⟩
  destination_filled := ⟨destination, hwrites.destination_spelled.encloses, hwrites.destination_ne_nil⟩

/-- Whatever follows, the line gives back the source and the destination, and the flags of its flag block. -/
theorem Writes.ofLine?_text (index : Nat)
    (hremainder : directive.remainder = [] ∨ directive.remainder = ' ' :: directive.remainder.tail) :
    Rule.ofLine? index directive.text =
      some ⟨index, source, destination, Flags.parse directive.flagBlock, directive.text⟩ := by
  rw [(hwrites.wellFormed hremainder).ofLine?_text, rule, Text.encloses_iff.1 hwrites.source_spelled.encloses,
    Text.encloses_iff.1 hwrites.destination_spelled.encloses]

end Writes

theorem flagBlock_of_remainder_eq {directive : Directive} {tokens : List Text} (hne : tokens ≠ [])
    (hplain : ∀ token ∈ tokens, ∀ c ∈ token, c ≠ ',' ∧ ¬ Flags.IsFiller c)
    (hremainder : directive.remainder = ' ' :: Flags.render ⟨tokens⟩) :
    directive.flagBlock = Flags.render ⟨tokens⟩ := by
  have hundivided : ' ' ∉ Flags.render ⟨tokens⟩ := by
    intro hmem
    have hblank := Flags.isBlank_of_mem_render hne hplain hmem
    exact absurd hblank (by decide)
  rw [flagBlock, hremainder, List.tail_cons, Text.word_eq_self hundivided]

/-- A line that writes a source and a destination, in either spelling, and then a block of plain tokens gives the rule
that was written, with the tokens in upper case and in order. Without a block it gives the same rule with the one empty
token. -/
theorem written_line_round_trips (index : Nat) {directive : Directive} {source destination : Text}
    (hwrites : directive.Writes source destination) :
    (∀ tokens : List Text, tokens ≠ [] → (∀ token ∈ tokens, ∀ c ∈ token, c ≠ ',' ∧ ¬ Flags.IsFiller c) →
      directive.remainder = ' ' :: '[' :: ([','].intercalate tokens ++ [']']) →
        Rule.ofLine? index directive.text =
          some ⟨index, source, destination, ⟨tokens.map Text.toUpper⟩, directive.text⟩) ∧
    (directive.remainder = [] ∨ directive.remainder = [' '] →
      Rule.ofLine? index directive.text = some ⟨index, source, destination, ⟨[[]]⟩, directive.text⟩) := by
  constructor
  · intro tokens hne hplain hremainder
    have hstart : directive.remainder = ' ' :: directive.remainder.tail := by rw [hremainder, List.tail_cons]
    rw [hwrites.ofLine?_text index (Or.inr hstart), flagBlock_of_remainder_eq hne hplain hremainder,
      Flags.parse_render hne hplain]
  · intro hremainder
    have hstart : directive.remainder = [] ∨ directive.remainder = ' ' :: directive.remainder.tail :=
      hremainder.imp_right fun hblank => by rw [hblank, List.tail_cons]
    have hblock : directive.flagBlock = [] := by
      rcases hremainder with hnone | hblank
      · rw [flagBlock, hnone]
        rfl
      · rw [flagBlock, hblank]
        rfl
    rw [hwrites.ofLine?_text index hstart, hblock]
    rfl

/-- The source begins with a tab and ends in a quote, and so it is quoted. The destination needs no quotes, although it
has one inside. -/
theorem round_trip_of_quoted_source :
    let source : Text := "\t/a[,]\"".toList
    let destination : Text := "/\"b\r".toList
    let tokens : List Text := ["l".toList, [], "e=\"ß".toList]
    let short : Directive := ⟨"\t\u3000".toList, '"' :: (source ++ ['"']), destination, []⟩
    let full : Directive := { short with remainder := ' ' :: '[' :: ([','].intercalate tokens ++ [']']) }
    Rule.ofLine? 3 full.text =
        some ⟨3, source, destination, ⟨["L".toList, [], "E=\"SS".toList]⟩, full.text⟩ ∧
      Rule.ofLine? 3 short.text = some ⟨3, source, destination, ⟨[[]]⟩, short.text⟩ := by
  intro source destination tokens short full
  have hshort : short.Writes source destination :=
    { gap_ne_nil := by decide
      gap_blank := List.all_eq_true.1 (by decide : short.gap.all isBlank = true)
      source_ne_nil := by decide
      source_undivided := by decide
      source_spelled := .quoted
      source_start := fun hbare => absurd hbare (by decide)
      destination_ne_nil := by decide
      destination_undivided := by decide
      destination_spelled := .bare (by decide) (by decide) }
  have hfull : full.Writes source destination := { hshort with }
  have hupper : tokens.map Text.toUpper = ["L".toList, [], "E=\"SS".toList] := by decide
  have hall : tokens.all (·.all fun c => decide (c ≠ ',' ∧ ¬ Flags.IsFiller c)) = true := by decide
  have hplain : ∀ token ∈ tokens, ∀ c ∈ token, c ≠ ',' ∧ ¬ Flags.IsFiller c := fun token htoken c hc =>
    of_decide_eq_true (List.all_eq_true.1 (List.all_eq_true.1 hall token htoken) c hc)
  have hread := (written_line_round_trips 3 hfull).1 tokens (by decide) hplain rfl
  rw [hupper] at hread
  exact ⟨hread, (written_line_round_trips 3 hshort).2 (Or.inl rfl)⟩

end Directive
end Overrule
