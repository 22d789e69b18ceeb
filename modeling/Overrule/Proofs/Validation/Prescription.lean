import Mathlib.Data.Set.Card
import Mathlib.Order.Bounds.Basic
import Overrule.Proofs.Collision.Nearest
import Overrule.Proofs.Document.Rules
import Overrule.Validation

namespace Overrule

namespace Document

/-- The line with a number gives a rule that takes part in collisions: its destination does not end in
`$`. -/
def TakesPart (text : Text) (number : Nat) (rule : Rule) : Prop :=
  HasRule text number rule ∧ ¬ ['$'] <:+ rule.destination

/-- The numbers of the lines that override a line: they are further down, the rules on both take part, the
rule that is overridden has the flag `L`, and its source is what the other one's begins with. -/
def overriders (text : Text) (number : Nat) : Set Nat :=
  {later | number < later ∧ ∃ overridden overrider, TakesPart text number overridden ∧
    TakesPart text later overrider ∧ ['L'] ∈ overridden.flags.tokens ∧
      overridden.source <+: overrider.source}

def ruleLines (text : Text) : Set Nat := {number | ∃ rule, HasRule text number rule}

private theorem mem_eligible_rules_iff {text : Text} {rule : Rule} :
    rule ∈ eligible (rules text) ↔ TakesPart text rule.index rule := by
  have hanchored : rule.isAnchored = false ↔ ¬ ['$'] <:+ rule.destination := by
    rw [Rule.isAnchored, beq_eq_false_iff_ne, ne_eq, List.getLast?_eq_some_iff]
    exact not_congr (exists_congr fun front => eq_comm)
  rw [mem_eligible, mem_rules_iff, hanchored, TakesPart]

private theorem TakesPart.mem_eligible_rules {text : Text} {number : Nat} {rule : Rule}
    (hrule : TakesPart text number rule) : rule ∈ eligible (rules text) :=
  mem_eligible_rules_iff.2 (hrule.1.index_eq.symm ▸ hrule)

private theorem mem_overriders_iff {text : Text} {overridden : Rule}
    (hoverridden : overridden ∈ eligible (rules text)) {number : Nat} :
    number ∈ overriders text overridden.index ↔
      ∃ overrider ∈ eligible (rules text), overrider.overrides overridden = true ∧
        overrider.index = number := by
  have htakes := mem_eligible_rules_iff.1 hoverridden
  constructor
  · rintro ⟨hlt, first, second, hfirst, hsecond, hlast, hsource⟩
    obtain rfl := htakes.1.unique hfirst.1
    have hindex := hsecond.1.index_eq
    refine ⟨second, hsecond.mem_eligible_rules, ?_, hindex⟩
    exact Rule.overrides_iff.2 ⟨hindex.symm ▸ hlt, List.contains_iff_mem.2 hlast, hsource⟩
  · rintro ⟨overrider, hoverrider, hover, rfl⟩
    obtain ⟨hlt, hlast, hsource⟩ := Rule.overrides_iff.1 hover
    exact ⟨hlt, overridden, overrider, htakes, mem_eligible_rules_iff.1 hoverrider,
      List.contains_iff_mem.1 hlast, hsource⟩

private theorem ncard_ruleLines (text : Text) : (ruleLines text).ncard = (rules text).length := by
  have hnumbers : ruleLines text = (((rules text).map Rule.index).toFinset : Set Nat) := by
    ext number
    rw [List.coe_toFinset, Set.mem_ofPred_eq, mem_map_index_rules_iff]
    rfl
  have hnodup : ((rules text).map Rule.index).Nodup :=
    List.pairwise_map.2 ((ascending_rules text).imp fun hlt => Nat.ne_of_lt hlt)
  rw [hnumbers, Set.ncard_coe_finset, List.toFinset_card_of_nodup hnodup, List.length_map]

/-- Reports account for a document: they go down its lines, there is one for each line that is overridden,
and it names the nearest line that does so. Both rules of a report are those of their lines, and hold these
lines as they are written. -/
structure Accounts (text : Text) (reports : List Collision) : Prop where
  ascending : Ascending (·.overridden.index) reports
  rules_on_lines : ∀ report ∈ reports,
    HasRule text report.overridden.index report.overridden ∧
      HasRule text report.overrider.index report.overrider
  lines_as_written : ∀ report ∈ reports,
    IsLine text report.overridden.index report.overridden.line ∧
      IsLine text report.overrider.index report.overrider.line
  nearest : ∀ report ∈ reports,
    IsLeast (overriders text report.overridden.index) report.overrider.index
  complete : ∀ number, (overriders text number).Nonempty →
    ∃ report ∈ reports, report.overridden.index = number

private theorem accounts_collisions (text : Text) : Accounts text (collisions (rules text)) := by
  have hrules (report : Collision) (hreport : report ∈ collisions (rules text)) :
      HasRule text report.overridden.index report.overridden ∧
        HasRule text report.overrider.index report.overrider := by
    obtain ⟨hoverridden, hoverrider, _⟩ := overrides_of_mem_collisions hreport
    exact ⟨(mem_eligible_rules_iff.1 hoverridden).1, (mem_eligible_rules_iff.1 hoverrider).1⟩
  refine ⟨ascending_collisions (ascending_rules text), hrules, ?_, ?_, ?_⟩
  · intro report hreport
    exact ⟨(hrules report hreport).1.isLine, (hrules report hreport).2.isLine⟩
  · -- The first rule found is the nearest one, because the rules are in the order of their lines.
    intro report hreport
    obtain ⟨hoverridden, hoverrider, hover, hleast⟩ :=
      (mem_collisions_iff_of_ascending (ascending_rules text)).1 hreport
    refine ⟨(mem_overriders_iff hoverridden).2 ⟨_, hoverrider, hover, rfl⟩, fun number hnumber => ?_⟩
    obtain ⟨other, hother, hover', rfl⟩ := (mem_overriders_iff hoverridden).1 hnumber
    exact hleast other hother hover'
  · rintro number ⟨later, hlater⟩
    obtain ⟨_, overridden, _, htakes, _⟩ := id hlater
    obtain rfl := htakes.1.index_eq
    have hoverridden := htakes.mem_eligible_rules
    obtain ⟨overrider, hoverrider, hover, _⟩ := (mem_overriders_iff hoverridden).1 hlater
    cases hsearch : overrider? (eligible (rules text)) overridden with
    | none => exact absurd hover (List.find?_eq_none.1 hsearch overrider hoverrider)
    | some first => exact ⟨⟨overridden, first⟩, mem_collisions_iff.2 ⟨hoverridden, hsearch⟩, rfl⟩

private theorem Accounts.mem_of_mem {text : Text} {first second : List Collision} (hfirst : Accounts text first)
    (hsecond : Accounts text second) {report : Collision} (hreport : report ∈ first) :
    report ∈ second := by
  have hnearest := hfirst.nearest report hreport
  obtain ⟨other, hother, hindex⟩ := hsecond.complete report.overridden.index ⟨_, hnearest.1⟩
  have hnearest' := hsecond.nearest other hother
  obtain ⟨hoverridden, hoverrider⟩ := hfirst.rules_on_lines report hreport
  obtain ⟨hoverridden', hoverrider'⟩ := hsecond.rules_on_lines other hother
  rw [hindex] at hnearest' hoverridden'
  rw [hnearest'.unique hnearest] at hoverrider'
  have heq : other = report := by
    cases other
    cases report
    exact congr (congrArg Collision.mk (hoverridden'.unique hoverridden))
      (hoverrider'.unique hoverrider)
  exact heq ▸ hother

private theorem Accounts.unique {text : Text} {first second : List Collision} (hfirst : Accounts text first)
    (hsecond : Accounts text second) : first = second :=
  hfirst.ascending.eq_of_mem_iff hsecond.ascending fun _ =>
    ⟨hfirst.mem_of_mem hsecond, hsecond.mem_of_mem hfirst⟩

end Document

open Document

/-- The outcome that is prescribed for a file, given what reading it gave. -/
inductive Prescribed (path : Path) : Except SystemError Bytes → Outcome → Prop
  | unreadable (cause : SystemError) :
    Prescribed path (.error cause) ⟨path, .unreadable (ReadError.message ⟨path, cause⟩)⟩
  | passed (content : Bytes) (hnone : ∀ number, overriders (Utf8.decode content) number = ∅) :
    Prescribed path (.ok content) ⟨path, .passed (ruleLines (Utf8.decode content)).ncard⟩
  /-- If some are, the file has the collisions that account for them. -/
  | collisions (content : Bytes) (number : Nat) (reports : List Collision)
    (hsome : (overriders (Utf8.decode content) number).Nonempty)
    (hreports : Accounts (Utf8.decode content) reports) :
    Prescribed path (.ok content)
      ⟨path, .collisions (ruleLines (Utf8.decode content)).ncard reports⟩

theorem Validation.outcome_ok (path : Path) (content : Bytes) :
    Validation.outcome path (.ok content) =
      ⟨path, if collisions (rulesOfBytes content) = [] then .passed (rulesOfBytes content).length
        else .collisions (rulesOfBytes content).length (collisions (rulesOfBytes content))⟩ := by
  rw [Validation.outcome, Validation.verdict]
  simp only [check]
  by_cases hnone : collisions (rulesOfBytes content) = []
  · rw [if_pos hnone, if_pos hnone]
    rfl
  · rw [if_neg hnone, if_neg hnone]
    rfl

private theorem Document.collisions_rules_eq_nil_iff (text : Text) :
    collisions (rules text) = [] ↔ ∀ number, overriders text number = ∅ := by
  have haccounts := accounts_collisions text
  constructor
  · intro hnil number
    refine Set.not_nonempty_iff_eq_empty.1 fun hsome => ?_
    obtain ⟨report, hreport, _⟩ := haccounts.complete number hsome
    rw [hnil] at hreport
    cases hreport
  · intro hnone
    refine List.eq_nil_iff_forall_not_mem.2 fun report hreport => ?_
    have hmem := (haccounts.nearest report hreport).1
    rw [hnone] at hmem
    exact hmem

/-- Validation gives exactly the outcome that the lines of a file prescribe. -/
theorem outcome_eq_iff_prescribed (path : Path) (content : Except SystemError Bytes)
    (outcome : Outcome) :
    Validation.outcome path content = outcome ↔ Prescribed path content outcome := by
  constructor
  · rintro rfl
    cases content with
    | error cause => exact .unreadable cause
    | ok content =>
      rw [Validation.outcome_ok, rulesOfBytes, ← ncard_ruleLines]
      by_cases hnil : collisions (rules (Utf8.decode content)) = []
      · rw [if_pos hnil]
        exact .passed content ((collisions_rules_eq_nil_iff _).1 hnil)
      · rw [if_neg hnil]
        obtain ⟨report, hreport⟩ := List.exists_mem_of_ne_nil _ hnil
        have haccounts := accounts_collisions (Utf8.decode content)
        exact .collisions content _ _ ⟨_, (haccounts.nearest report hreport).1⟩ haccounts
  · intro hprescribed
    cases hprescribed with
    | unreadable cause => rfl
    | passed content hnone =>
      rw [Validation.outcome_ok, rulesOfBytes, if_pos ((collisions_rules_eq_nil_iff _).2 hnone),
        ncard_ruleLines]
    | collisions content number reports hsome hreports =>
      have hne : collisions (rules (Utf8.decode content)) ≠ [] := by
        intro hnil
        rw [(collisions_rules_eq_nil_iff _).1 hnil] at hsome
        exact Set.not_nonempty_empty hsome
      rw [Validation.outcome_ok, rulesOfBytes, if_neg hne, ncard_ruleLines,
        hreports.unique (accounts_collisions _)]

end Overrule
