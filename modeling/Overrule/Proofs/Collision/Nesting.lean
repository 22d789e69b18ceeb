import Mathlib.Order.Interval.Set.Basic
import Overrule.Proofs.Collision.Order
import Overrule.Proofs.Document.Rules

namespace Overrule

namespace Collision

/-- The lines from the overridden rule down to its overrider, which is left out. -/
def span (collision : Collision) : Set Nat :=
  Set.Ico collision.overridden.index collision.overrider.index

/-- How the lower of two collisions lies to the upper one. If the lower source begins with the upper one, the upper
collision ends before the lower one begins. If not, the lower collision may also lie inside the upper one. -/
structure Nests (upper lower : Collision) : Prop where
  ends_before : upper.overridden.source <+: lower.overridden.source →
    upper.overrider.index ≤ lower.overridden.index
  ends_inside_or_before : ¬ upper.overridden.source <+: lower.overridden.source →
    lower.overrider.index ≤ upper.overrider.index ∨ upper.overrider.index ≤ lower.overridden.index
  spans : (∀ number ∈ upper.span, number ∉ lower.span) ∨ lower.span ⊆ upper.span

private theorem not_mem_span_of_le {upper lower : Collision} (hle : upper.overrider.index ≤ lower.overridden.index) :
    ∀ number ∈ upper.span, number ∉ lower.span := by
  intro number hupper hlower
  have hlt : number < lower.overridden.index := Nat.lt_of_lt_of_le hupper.2 hle
  exact Nat.not_le_of_lt hlt hlower.1

private theorem span_subset_span {upper lower : Collision} (hbegin : upper.overridden.index ≤ lower.overridden.index)
    (hend : lower.overrider.index ≤ upper.overrider.index) : lower.span ⊆ upper.span :=
  Set.Ico_subset_Ico hbegin hend

end Collision

section Related

variable {rules : List Rule} (hrules : Ascending Rule.index rules) {upper lower : Collision}
  (hupper : upper ∈ collisions rules) (hlower : lower ∈ collisions rules)
  (hbelow : upper.overridden.index < lower.overridden.index)

include hrules hupper hlower

include hbelow in
private theorem overrider_le_overridden (hsource : upper.overridden.source <+: lower.overridden.source) :
    upper.overrider.index ≤ lower.overridden.index := by
  obtain ⟨_, _, hover, hnearest⟩ := (mem_collisions_iff_of_ascending hrules).1 hupper
  obtain ⟨hpart, _, _⟩ := overrides_of_mem_collisions hlower
  obtain ⟨_, hlast, _⟩ := Rule.overrides_iff.1 hover
  exact hnearest _ hpart (Rule.overrides_iff.2 ⟨hbelow, hlast, hsource⟩)

private theorem overrider_le_overrider (hsource : lower.overridden.source <+: upper.overridden.source)
    (hinside : lower.overridden.index < upper.overrider.index) :
    lower.overrider.index ≤ upper.overrider.index := by
  obtain ⟨_, hpart, hover⟩ := overrides_of_mem_collisions hupper
  obtain ⟨_, _, hlower', hnearest⟩ := (mem_collisions_iff_of_ascending hrules).1 hlower
  obtain ⟨_, _, hlonger⟩ := Rule.overrides_iff.1 hover
  obtain ⟨_, hlast, _⟩ := Rule.overrides_iff.1 hlower'
  exact hnearest _ hpart (Rule.overrides_iff.2 ⟨hinside, hlast, hsource.trans hlonger⟩)

include hbelow in
private theorem nests_of_related (hrelated : upper.overridden.source <+: lower.overridden.source ∨
    lower.overridden.source <+: upper.overridden.source) : upper.Nests lower := by
  by_cases hsource : upper.overridden.source <+: lower.overridden.source
  · have hle := overrider_le_overridden hrules hupper hlower hbelow hsource
    exact ⟨fun _ => hle, fun hnot => absurd hsource hnot, Or.inl (Collision.not_mem_span_of_le hle)⟩
  · have hshorter := hrelated.resolve_left hsource
    by_cases hinside : lower.overridden.index < upper.overrider.index
    · have hle := overrider_le_overrider hrules hupper hlower hshorter hinside
      exact ⟨fun hnot => absurd hnot hsource, fun _ => Or.inl hle,
        Or.inr (Collision.span_subset_span (Nat.le_of_lt hbelow) hle)⟩
    · have hle := Nat.le_of_not_lt hinside
      exact ⟨fun hnot => absurd hnot hsource, fun _ => Or.inr hle,
        Or.inl (Collision.not_mem_span_of_le hle)⟩

end Related

/-- Following reports from a rule, each to the overrider it names, passes some rules, from the rule itself to the
last one, which no report says is overridden. -/
inductive Follows (reports : List Collision) : Rule → List Rule → Rule → Prop
  | arrive (rule : Rule) (hend : ∀ report ∈ reports, report.overridden ≠ rule) :
    Follows reports rule [rule] rule
  | step (report : Collision) (hreport : report ∈ reports) {way : List Rule} {last : Rule}
    (hrest : Follows reports report.overrider way last) :
    Follows reports report.overridden (report.overridden :: way) last

namespace Follows

variable {rules : List Rule} {rule last : Rule} {way : List Rule}

private theorem not_overridden {reports : List Collision} (hway : Follows reports rule way last) :
    ∀ report ∈ reports, report.overridden ≠ last := by
  induction hway with
  | arrive rule hend => exact hend
  | step report hreport hrest ih => exact ih

private theorem mem_eligible (hway : Follows (collisions rules) rule way last) (hrule : rule ∈ eligible rules) :
    last ∈ eligible rules := by
  induction hway with
  | arrive rule hend => exact hrule
  | step report hreport hrest ih => exact ih (overrides_of_mem_collisions hreport).2.1

private theorem source_prefix (hway : Follows (collisions rules) rule way last) :
    rule.source <+: last.source ∧ ∀ passed ∈ way, passed.source <+: last.source := by
  induction hway with
  | arrive rule hend =>
    refine ⟨List.prefix_refl _, fun passed hpassed => ?_⟩
    rw [List.mem_singleton.1 hpassed]
  | step report hreport hrest ih =>
    obtain ⟨hlast, hpassed⟩ := ih
    have hfirst := (Collision.later_of_mem hreport).2.1.trans hlast
    exact ⟨hfirst, List.forall_mem_cons.2 ⟨hfirst, hpassed⟩⟩

private theorem unique (hway : Follows (collisions rules) rule way last) {other : List Rule} {end' : Rule}
    (hother : Follows (collisions rules) rule other end') : other = way ∧ end' = last := by
  induction hway generalizing other end' with
  | arrive rule hend =>
    cases hother with
    | arrive => exact ⟨rfl, rfl⟩
    | step report hreport hrest => exact absurd rfl (hend report hreport)
  | step report hreport hrest ih =>
    generalize hfrom : report.overridden = start at hother
    cases hother with
    | arrive _ hend => exact absurd hfrom (hend report hreport)
    | step second hsecond hrest' =>
      have hfound := (mem_collisions_iff.1 hreport).2
      rw [hfrom, (mem_collisions_iff.1 hsecond).2] at hfound
      obtain ⟨rfl, rfl⟩ := ih (Option.some.inj hfound ▸ hrest')
      exact ⟨rfl, rfl⟩

end Follows

private theorem exists_follows {rules : List Rule} {bound : Nat} (hbound : ∀ rule ∈ eligible rules, rule.index ≤ bound)
    {rule : Rule} (hrule : rule ∈ eligible rules) :
    ∃ way last, Follows (collisions rules) rule way last := by
  induction hleft : bound - rule.index using Nat.strong_induction_on generalizing rule with
  | _ left ih =>
    by_cases hend : ∀ report ∈ collisions rules, report.overridden ≠ rule
    · exact ⟨[rule], rule, .arrive rule hend⟩
    · push Not at hend
      obtain ⟨report, hreport, rfl⟩ := hend
      obtain ⟨_, hoverrider, _⟩ := overrides_of_mem_collisions hreport
      have hlater := (Collision.later_of_mem hreport).1
      have hle := hbound _ hoverrider
      obtain ⟨way, last, hway⟩ := ih _ (by omega) hoverrider rfl
      exact ⟨_, last, .step report hreport hway⟩

/-- One rule that takes part and has no report is enough for there to be fewer reports than such rules. -/
theorem length_collisions_lt {rules : List Rule} {rule : Rule} (hrule : rule ∈ eligible rules)
    (hnone : ∀ report ∈ collisions rules, report.overridden ≠ rule) :
    (collisions rules).length < (eligible rules).length := by
  have hoverridden := map_overridden_collisions rules
  rw [← List.length_map Collision.overridden, hoverridden, List.length_filter_lt_length_iff_exists]
  refine ⟨rule, hrule, fun hany => ?_⟩
  have hmem : rule ∈ (collisions rules).map Collision.overridden := by
    rw [hoverridden]
    exact List.mem_filter.2 ⟨hrule, hany⟩
  obtain ⟨report, hreport, heq⟩ := List.mem_map.1 hmem
  exact hnone report hreport heq

namespace Document

private theorem exists_follows_of_mem_eligible {text : Text} {rule : Rule} (hrule : rule ∈ eligible (rules text)) :
    ∃ way last, Follows (collisions (rules text)) rule way last := by
  have hbound : ∀ other ∈ eligible (rules text), other.index ≤ text.lines.length := fun other hother =>
    (mem_rules_iff.1 (mem_eligible.1 hother).1).isLine.number_bounds.2
  exact exists_follows hbound hrule

/-- Collisions of related rules do not cross: their lines are apart, or the lower ones lie within the upper. Going from
an overridden rule to its overrider and on from there, there is one way, and it ends at a rule that takes part, is not
overridden, and has a source that begins with that of each rule on the way. So where any rule takes part, not all that
do are overridden. -/
theorem reports_nest_and_end (text : Text) :
    (∀ upper ∈ collisions (rules text), ∀ lower ∈ collisions (rules text),
      upper.overridden.index < lower.overridden.index →
      (upper.overridden.source <+: lower.overridden.source ∨
        lower.overridden.source <+: upper.overridden.source) → upper.Nests lower) ∧
    (∀ report ∈ collisions (rules text), ∃ way last, Follows (collisions (rules text)) report.overridden way last ∧
      last ∈ eligible (rules text) ∧ (∀ other ∈ collisions (rules text), other.overridden ≠ last) ∧
      (∀ passed ∈ way, passed.source <+: last.source) ∧
      ∀ way' last', Follows (collisions (rules text)) report.overridden way' last' → way' = way ∧ last' = last) ∧
    (eligible (rules text) ≠ [] → (collisions (rules text)).length < (eligible (rules text)).length) := by
  refine ⟨?_, ?_, ?_⟩
  · intro upper hupper lower hlower hbelow hrelated
    exact nests_of_related (ascending_rules text) hupper hlower hbelow hrelated
  · intro report hreport
    have hpart := (overrides_of_mem_collisions hreport).1
    obtain ⟨way, last, hway⟩ := exists_follows_of_mem_eligible hpart
    exact ⟨way, last, hway, hway.mem_eligible hpart, hway.not_overridden, hway.source_prefix.2,
      fun _ _ hother => hway.unique hother⟩
  · intro hsome
    obtain ⟨rule, hrule⟩ := List.exists_mem_of_ne_nil _ hsome
    obtain ⟨_, last, hway⟩ := exists_follows_of_mem_eligible hrule
    exact length_collisions_lt (hway.mem_eligible hrule) hway.not_overridden

/-- The second collision lies within the first, whose source is the longer one, and ends where the third begins. From
the second line the way leads through the third to the fourth. -/
theorem nesting_of_four_rules :
    let text : Text :=
      "RewriteRule /ab /x [L]\nRewriteRule /a /y [L]\nRewriteRule /a /z [L]\nRewriteRule /abc /w".toList
    let reports := collisions (rules text)
    reports.map (fun report => (report.overridden.index, report.overrider.index)) = [(1, 4), (2, 3), (3, 4)] ∧
      (∃ upper ∈ reports, ∃ lower ∈ reports, upper.overridden.index = 1 ∧ lower.overridden.index = 2 ∧
        upper.Nests lower) ∧
      (∃ report ∈ reports, report.overridden.index = 2 ∧ ∃ way last,
        Follows reports report.overridden way last ∧ last.index = 4) ∧
      reports.length < (eligible (rules text)).length := by
  intro text reports
  have hpairs : reports.map (fun report => (report.overridden.index, report.overrider.index)) =
      [(1, 4), (2, 3), (3, 4)] := by decide
  obtain ⟨hnest, hchains, hfewer⟩ := reports_nest_and_end text
  have hrelated : ∃ upper ∈ reports, ∃ lower ∈ reports, upper.overridden.index = 1 ∧ lower.overridden.index = 2 ∧
      lower.overridden.source <+: upper.overridden.source := by decide
  obtain ⟨upper, hupper, lower, hlower, hfirst, hsecond, hsource⟩ := hrelated
  have hends : ∀ rule ∈ eligible (rules text), (∀ report ∈ reports, report.overridden ≠ rule) →
      rule.index = 4 := by decide
  obtain ⟨way, last, hway, hlast, hnone, _⟩ := hchains lower hlower
  exact ⟨hpairs, ⟨upper, hupper, lower, hlower, hfirst, hsecond,
      hnest upper hupper lower hlower (by omega) (Or.inr hsource)⟩,
    ⟨lower, hlower, hsecond, way, last, hway, hends last hlast hnone⟩, hfewer (by decide)⟩

end Document
end Overrule
