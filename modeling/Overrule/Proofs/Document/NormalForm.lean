import Overrule.Proofs.Collision.Nearest
import Overrule.Proofs.Directive.Spelling
import Overrule.Proofs.Document.Rules

namespace Overrule

/-- The line of a rule in normal form. -/
def Rule.normalLine (rule : Rule) : Text :=
  keyword ++ [' ', '"'] ++ rule.source ++ ['"', ' ', '"'] ++ rule.destination ++ ['"', ' '] ++
    rule.flags.render

private def Rule.normalDirective (rule : Rule) : Directive where
  gap := [' ']
  source := '"' :: (rule.source ++ ['"'])
  destination := '"' :: (rule.destination ++ ['"'])
  remainder := ' ' :: rule.flags.render

private theorem Rule.text_normalDirective (rule : Rule) : rule.normalDirective.text = rule.normalLine := by
  simp [Directive.text, Directive.arguments, normalDirective, normalLine]

/-- A rule as documents have them: neither source nor destination is empty or holds a blank, and the flags
were read from a block. -/
structure Rule.Extracted (rule : Rule) : Prop where
  source_ne_nil : rule.source ≠ []
  destination_ne_nil : rule.destination ≠ []
  source_undivided : ' ' ∉ rule.source
  destination_undivided : ' ' ∉ rule.destination
  flags_read : ∃ block, rule.flags = Flags.parse block

private theorem Rule.extracted_of_ofLine? {index : Nat} {line : Text} {rule : Rule}
    (hrule : Rule.ofLine? index line = some rule) : rule.Extracted := by
  obtain ⟨directive, hwell, _, rfl⟩ := Directive.exists_wellFormed_of_ofLine? hrule
  obtain ⟨hsource, hdestination⟩ := hwell.unquote_ne_nil
  exact ⟨hsource, hdestination, fun hmem => hwell.source_undivided (Text.mem_of_mem_unquote hmem),
    fun hmem => hwell.destination_undivided (Text.mem_of_mem_unquote hmem), _, rfl⟩

private theorem Rule.mem_line_of_ofLine? {index : Nat} {line : Text} {rule : Rule}
    (hrule : Rule.ofLine? index line = some rule) {c : Char}
    (hc : c ∈ rule.source ∨ c ∈ rule.destination) : c ∈ line := by
  obtain ⟨directive, _, rfl, rfl⟩ := Directive.exists_wellFormed_of_ofLine? hrule
  rcases hc with hc | hc
  · have hmem := Text.mem_of_mem_unquote hc
    simp [Directive.text, Directive.arguments, hmem]
  · have hmem := Text.mem_of_mem_unquote hc
    simp [Directive.text, Directive.arguments, hmem]

private theorem Rule.Extracted.writes_normalDirective {rule : Rule} (hrule : rule.Extracted) :
    rule.normalDirective.Writes rule.source rule.destination where
  gap_ne_nil := List.cons_ne_nil _ _
  gap_blank c hc := by
    obtain rfl := List.mem_singleton.1 hc
    rfl
  source_ne_nil := hrule.source_ne_nil
  source_undivided := hrule.source_undivided
  source_spelled := .quoted
  source_start hbare := by
    have hlength := congrArg List.length hbare
    simp only [normalDirective, List.length_cons, List.length_append] at hlength
    omega
  destination_ne_nil := hrule.destination_ne_nil
  destination_undivided := hrule.destination_undivided
  destination_spelled := .quoted

private theorem Rule.Extracted.tokens_ne_nil {rule : Rule} (hrule : rule.Extracted) : rule.flags.tokens ≠ [] := by
  obtain ⟨block, hflags⟩ := hrule.flags_read
  rw [hflags]
  exact Flags.tokens_parse_ne_nil block

private theorem Rule.Extracted.plain_tokens {rule : Rule} (hrule : rule.Extracted) :
    ∀ token ∈ rule.flags.tokens, ∀ c ∈ token, c ≠ ',' ∧ ¬ Flags.IsFiller c := by
  obtain ⟨block, hflags⟩ := hrule.flags_read
  rw [hflags]
  exact fun token htoken c hc => Flags.plain_of_mem_tokens_parse htoken hc

private theorem Rule.Extracted.not_mem_render_of_isBlank {rule : Rule} (hrule : rule.Extracted) {c : Char}
    (hc : isBlank c = true) : c ∉ rule.flags.render := by
  intro hmem
  rw [Flags.isBlank_of_mem_render hrule.tokens_ne_nil hrule.plain_tokens hmem] at hc
  cases hc

private theorem Rule.Extracted.ofLine?_normalLine {rule : Rule} (hrule : rule.Extracted) :
    Rule.ofLine? rule.index rule.normalLine = some { rule with line := rule.normalLine } := by
  obtain ⟨block, hflags⟩ := hrule.flags_read
  have hparse : Flags.parse rule.flags.render = rule.flags := by
    rw [hflags, Flags.parse_render_parse]
  have hblock : rule.normalDirective.flagBlock = rule.flags.render :=
    Directive.flagBlock_of_remainder_eq hrule.tokens_ne_nil hrule.plain_tokens rfl
  rw [← Rule.text_normalDirective, hrule.writes_normalDirective.ofLine?_text rule.index (Or.inr rfl), hblock, hparse]

private theorem Rule.Extracted.lineFeed_not_mem_normalLine {rule : Rule} (hrule : rule.Extracted)
    (hsource : '\n' ∉ rule.source) (hdestination : '\n' ∉ rule.destination) :
    '\n' ∉ rule.normalLine := by
  have hrender : '\n' ∉ rule.flags.render := hrule.not_mem_render_of_isBlank (by decide)
  have hkeyword : '\n' ∉ keyword := by decide
  simp [Rule.normalLine, hsource, hdestination, hrender, hkeyword]

namespace Document

def normalLineAt (text : Text) (number : Nat) : Text :=
  match (rules text).find? (·.index = number) with
  | some rule => rule.normalLine
  | none => []

/-- A document in normal form. -/
def normalForm (text : Text) : Text :=
  ['\n'].intercalate ((List.range' 1 text.lines.length).map (normalLineAt text))

theorem HasRule.extracted {text : Text} {number : Nat} {rule : Rule} (hrule : HasRule text number rule) :
    rule.Extracted := by
  obtain ⟨line, _, hfound⟩ := hrule
  exact Rule.extracted_of_ofLine? hfound

theorem HasRule.lineFeed_not_mem {text : Text} {number : Nat} {rule : Rule} (hrule : HasRule text number rule) :
    '\n' ∉ rule.source ∧ '\n' ∉ rule.destination := by
  obtain ⟨line, ⟨place, _, hget⟩, hfound⟩ := hrule
  have hline : '\n' ∉ line := Text.not_mem_of_mem_splitOn (List.mem_of_getElem? hget)
  exact ⟨fun hmem => hline (Rule.mem_line_of_ofLine? hfound (Or.inl hmem)),
    fun hmem => hline (Rule.mem_line_of_ofLine? hfound (Or.inr hmem))⟩

private theorem HasRule.normalLineAt_eq {text : Text} {number : Nat} {rule : Rule}
    (hrule : HasRule text number rule) : normalLineAt text number = rule.normalLine := by
  have hfind : (rules text).find? (·.index = number) = some rule := by
    rw [(ascending_rules text).find?_eq_some_iff]
    refine ⟨hrule.mem_rules, by simpa using hrule.index_eq, fun other _ hother => ?_⟩
    have hindex : other.index = number := by simpa using hother
    rw [hrule.index_eq, hindex]
  rw [normalLineAt, hfind]

private theorem normalLineAt_eq_nil_or_hasRule (text : Text) (number : Nat) :
    normalLineAt text number = [] ∨ ∃ rule, HasRule text number rule := by
  cases hfind : (rules text).find? (·.index = number) with
  | none => exact Or.inl (by rw [normalLineAt, hfind])
  | some rule =>
    have hindex : rule.index = number := by simpa using List.find?_some hfind
    exact Or.inr ⟨rule, hindex ▸ mem_rules_iff.1 (List.mem_of_find?_eq_some hfind)⟩

private theorem lineFeed_not_mem_normalLineAt (text : Text) (number : Nat) :
    '\n' ∉ normalLineAt text number := by
  rcases normalLineAt_eq_nil_or_hasRule text number with hnil | ⟨rule, hrule⟩
  · rw [hnil]
    exact List.not_mem_nil
  · rw [hrule.normalLineAt_eq]
    obtain ⟨hsource, hdestination⟩ := hrule.lineFeed_not_mem
    exact hrule.extracted.lineFeed_not_mem_normalLine hsource hdestination

private theorem lines_normalForm (text : Text) :
    (normalForm text).lines = (List.range' 1 text.lines.length).map (normalLineAt text) := by
  refine List.splitOn_intercalate '\n' ?_ ?_
  · intro line hline
    obtain ⟨number, _, rfl⟩ := List.mem_map.1 hline
    exact lineFeed_not_mem_normalLineAt text number
  · simpa using Text.lines_ne_nil text

private theorem isLine_normalForm_iff {text line : Text} {number : Nat} :
    IsLine (normalForm text) number line ↔
      1 ≤ number ∧ number ≤ text.lines.length ∧ line = normalLineAt text number := by
  rw [IsLine, lines_normalForm]
  constructor
  · rintro ⟨place, rfl, hget⟩
    obtain ⟨hlt, rfl⟩ := List.getElem?_eq_some_iff.1 hget
    rw [List.length_map, List.length_range'] at hlt
    refine ⟨by omega, by omega, ?_⟩
    rw [List.getElem_map, List.getElem_range', Nat.one_mul, Nat.add_comm]
  · rintro ⟨hge, hle, rfl⟩
    have hlt : number - 1 < text.lines.length := by omega
    refine ⟨number - 1, by omega, ?_⟩
    rw [List.getElem?_map, List.getElem?_range' hlt, Nat.one_mul, Nat.add_sub_cancel' hge]
    rfl

private theorem hasRule_normalForm_iff {text : Text} {number : Nat} {found : Rule} :
    HasRule (normalForm text) number found ↔
      ∃ rule, HasRule text number rule ∧ found = { rule with line := rule.normalLine } := by
  constructor
  · rintro ⟨line, hline, hfound⟩
    obtain ⟨_, _, rfl⟩ := isLine_normalForm_iff.1 hline
    rcases normalLineAt_eq_nil_or_hasRule text number with hnil | ⟨rule, hrule⟩
    · rw [hnil] at hfound
      cases hfound
    · rw [hrule.normalLineAt_eq, ← hrule.index_eq, hrule.extracted.ofLine?_normalLine] at hfound
      exact ⟨rule, hrule, (Option.some.inj hfound).symm⟩
  · rintro ⟨rule, hrule, rfl⟩
    obtain ⟨hge, hle⟩ := hrule.isLine.number_bounds
    refine ⟨rule.normalLine, isLine_normalForm_iff.2 ⟨hge, hle, hrule.normalLineAt_eq.symm⟩, ?_⟩
    rw [← hrule.index_eq]
    exact hrule.extracted.ofLine?_normalLine

private theorem rules_normalForm (text : Text) :
    rules (normalForm text) = (rules text).map fun rule => { rule with line := rule.normalLine } :=
  rules_eq_map_of_hasRule_iff (fun _ => rfl) fun _ _ => hasRule_normalForm_iff

/-- The normal form of a document means what the document means. It has as many lines, its rules differ in
nothing but their lines as they are written, and the check gives the same verdict, with as many rules and
with collisions between the same lines. -/
theorem normalForm_preserves_meaning (text : Text) :
    (normalForm text).lines.length = text.lines.length ∧
      rules (normalForm text) = (rules text).map (fun rule => { rule with line := rule.normalLine }) ∧
        (check (rules (normalForm text))).mapError Conflict.numbers =
          (check (rules text)).mapError Conflict.numbers := by
  refine ⟨?_, rules_normalForm text, ?_⟩
  · rw [lines_normalForm, List.length_map, List.length_range']
  · rw [rules_normalForm]
    exact check_map (fun _ _ => rfl) (fun _ _ => rfl) fun _ _ _ _ => rfl

-- The second line has an empty destination between two blanks, and so gives no rule.
example : normalForm "x\nRewriteRule \"a\"  b\nRewriteRule a \"b l".toList =
    "\n\nRewriteRule \"a\" \"b\" [L]".toList := by
  decide

end Document
end Overrule
