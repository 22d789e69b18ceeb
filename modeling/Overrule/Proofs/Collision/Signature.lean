import Mathlib.Data.List.Basic
import Mathlib.Data.List.Forall2
import Mathlib.Data.List.GetD
import Mathlib.Logic.Relation
import Overrule.Proofs.Collision.Nearest
import Overrule.Proofs.Document.Rules

namespace Overrule

/-- What the search for collisions sees of a rule: its source, and whether it has the flag `L`. -/
def Rule.signature (rule : Rule) : Text × Bool := (rule.source, rule.flags.isLast)

def Rule.signature? (rule : Rule) : Option (Text × Bool) :=
  if rule.isAnchored then none else some rule.signature

private theorem map_signature_eligible (rules : List Rule) :
    (eligible rules).map Rule.signature = rules.filterMap Rule.signature? := by
  induction rules with
  | nil => rfl
  | cons rule rest ih =>
    cases hanchored : rule.isAnchored with
    | true => simpa [eligible, Rule.signature?, hanchored] using ih
    | false => simpa [eligible, Rule.signature?, hanchored] using ih

/-- Two collisions, each in a list of its own, are between the rules at the same places. -/
def SamePlaces (first second : List Rule) (one other : Collision) : Prop :=
  ∃ earlier later : Nat,
    first[earlier]? = some one.overridden ∧ second[earlier]? = some other.overridden ∧
      first[later]? = some one.overrider ∧ second[later]? = some other.overrider

section Signatures

variable {first second : List Rule} (hfirst : Ascending Rule.index first)
  (hsecond : Ascending Rule.index second)
  (hsignatures : first.map Rule.signature = second.map Rule.signature)

include hfirst hsecond hsignatures

private theorem overrides_getElem_eq {i j : Nat} (hi : i < first.length) (hj : j < first.length)
    (hi' : i < second.length) (hj' : j < second.length) :
    second[j].overrides second[i] = first[j].overrides first[i] := by
  have hsight {place : Nat} (hplace : place < first.length) (hplace' : place < second.length) :
      second[place].signature = first[place].signature := by
    have hget := congrArg (·[place]?) hsignatures
    simpa [hplace, hplace'] using hget.symm
  obtain ⟨hsource, hlast⟩ := Prod.mk.inj (hsight hi hi')
  obtain ⟨hsource', _⟩ := Prod.mk.inj (hsight hj hj')
  have hindex : second[i].index < second[j].index ↔ first[i].index < first[j].index := by
    rw [hsecond.key_lt_key_iff hi' hj', hfirst.key_lt_key_iff hi hj]
  simp only [Rule.overrides, hsource, hlast, hsource', hindex]

/-- One list is the other one with its rules changed one by one, and the change keeps what overrides what. -/
private theorem exists_change_of_signatures_eq :
    ∃ change : Rule → Rule, second = first.map change ∧
      ∀ later ∈ first, ∀ earlier ∈ first,
        (change later).overrides (change earlier) = later.overrides earlier := by
  have hlength : first.length = second.length := by simpa using congrArg List.length hsignatures
  let change (rule : Rule) : Rule := second.getD (first.idxOf rule) rule
  have hchange (place : Nat) (hplace : place < first.length) (hplace' : place < second.length) :
      change first[place] = second[place] := by
    simp only [change]
    rw [hfirst.nodup.idxOf_getElem, List.getD_eq_getElem _ _ hplace']
  refine ⟨change, ?_, ?_⟩
  · refine List.ext_getElem (by simp [hlength]) fun place hplace hplace' => ?_
    rw [List.getElem_map, hchange]
  · intro later hlater earlier hearlier
    obtain ⟨j, hj, rfl⟩ := List.mem_iff_getElem.1 hlater
    obtain ⟨i, hi, rfl⟩ := List.mem_iff_getElem.1 hearlier
    have hi' : i < second.length := hlength ▸ hi
    have hj' : j < second.length := hlength ▸ hj
    rw [hchange j hj hj', hchange i hi hi']
    exact overrides_getElem_eq hfirst hsecond hsignatures hi hj hi' hj'

end Signatures

private theorem forall₂_samePlaces_of_signatures_eq {first second : List Rule}
    (hfirst : Ascending Rule.index first) (hsecond : Ascending Rule.index second)
    (hsignatures : (eligible first).map Rule.signature = (eligible second).map Rule.signature) :
    List.Forall₂ (SamePlaces (eligible first) (eligible second)) (collisions first)
      (collisions second) := by
  obtain ⟨change, hchange, hoverrides⟩ := exists_change_of_signatures_eq
    (ascending_eligible hfirst) (ascending_eligible hsecond) hsignatures
  have hanchored (rule : Rule) (hrule : rule ∈ eligible first) :
      (change rule).isAnchored = rule.isAnchored := by
    have hmem : change rule ∈ eligible second := hchange ▸ List.mem_map_of_mem hrule
    rw [(mem_eligible.1 hmem).2, (mem_eligible.1 hrule).2]
  have hcollisions : collisions second = (collisions first).map (Collision.map change) := by
    rw [← collisions_eligible second, hchange, collisions_map hanchored hoverrides,
      collisions_eligible]
  rw [hcollisions, List.forall₂_map_right_iff, List.forall₂_same]
  intro collision hcollision
  obtain ⟨hoverridden, hoverrider, _⟩ := overrides_of_mem_collisions hcollision
  obtain ⟨earlier, hearlier⟩ := List.mem_iff_getElem?.1 hoverridden
  obtain ⟨later, hlater⟩ := List.mem_iff_getElem?.1 hoverrider
  refine ⟨earlier, later, hearlier, ?_, hlater, ?_⟩
  · rw [hchange, List.getElem?_map, hearlier]
    rfl
  · rw [hchange, List.getElem?_map, hlater]
    rfl

namespace Document

/-- What the search for collisions sees of a document. -/
def signatures (text : Text) : List (Text × Bool) := (eligible (rules text)).map Rule.signature

/-- Two documents have the same verdict, and their reports name the same places among the rules that take
part, one report after the other. -/
structure SameCollisions (first second : Text) : Prop where
  verdict : check (rules first) = .ok () ↔ check (rules second) = .ok ()
  reports : List.Forall₂ (SamePlaces (eligible (rules first)) (eligible (rules second)))
    (reported (check (rules first))) (reported (check (rules second)))

private theorem sameCollisions_of_signatures_eq {first second : Text}
    (hsignatures : signatures first = signatures second) : SameCollisions first second := by
  have hplaces := forall₂_samePlaces_of_signatures_eq (ascending_rules first) (ascending_rules second)
    hsignatures
  refine ⟨?_, ?_⟩
  · rw [check_eq_ok_iff, check_eq_ok_iff, ← List.length_eq_zero_iff, hplaces.length_eq,
      List.length_eq_zero_iff]
  · rw [reported_check, reported_check]
    exact hplaces

/-- What a line adds to that: something only if it gives a rule that takes part. -/
private def lineSignature? (line : Text) : Option (Text × Bool) :=
  (Rule.ofLine? 1 line).bind Rule.signature?

private theorem signatures_eq_filterMap_lines (text : Text) :
    signatures text = text.lines.filterMap lineSignature? := by
  have hlines : text.lines = (numberedLines text).map Prod.fst := by
    rw [numberedLines, List.zipIdx_map_fst]
  rw [signatures, map_signature_eligible, rules_eq_filterMap_numberedLines, hlines,
    List.filterMap_filterMap, List.filterMap_map]
  refine List.filterMap_congr fun entry _ => ?_
  -- The number that a line has in the document shows in its rule and nowhere in the signature.
  simp only [Function.comp_apply, lineSignature?]
  rw [Rule.ofLine?_renumber 1 entry.2]
  cases Rule.ofLine? 1 entry.1 with
  | none => rfl
  | some rule => rfl

/-- A line without a rule that takes part: a comment, an empty line, another directive, one without source
or destination, or a rule with an anchored destination. -/
def Unseen (line : Text) : Prop :=
  ∀ rule, Rule.ofLine? 1 line = some rule → rule.isAnchored = true

private theorem lineSignature?_eq_none_of_unseen {line : Text} (hline : Unseen line) :
    lineSignature? line = none := by
  rw [lineSignature?]
  cases hrule : Rule.ofLine? 1 line with
  | none => rfl
  | some rule => simp [Rule.signature?, hline rule hrule]

/-- One change of the lines of a document that the search does not see: such lines come and go, and a rule
is written anew in any way that leaves its source, whether it has the flag `L`, and whether it takes part. -/
inductive Edit : List Text → List Text → Prop
  | add (upper lower : List Text) (line : Text) (hline : Unseen line) :
    Edit (upper ++ lower) (upper ++ line :: lower)
  | delete (upper lower : List Text) (line : Text) (hline : Unseen line) :
    Edit (upper ++ line :: lower) (upper ++ lower)
  | rewrite (upper lower : List Text) (old new : Text) (before after : Rule)
    (hold : Rule.ofLine? 1 old = some before) (hnew : Rule.ofLine? 1 new = some after)
    (hanchored : after.isAnchored = before.isAnchored)
    (hsignature : after.signature = before.signature) :
    Edit (upper ++ old :: lower) (upper ++ new :: lower)

private theorem Edit.filterMap_eq {before after : List Text} (hedit : Edit before after) :
    before.filterMap lineSignature? = after.filterMap lineSignature? := by
  cases hedit with
  | add upper lower line hline => simp [lineSignature?_eq_none_of_unseen hline]
  | delete upper lower line hline => simp [lineSignature?_eq_none_of_unseen hline]
  | rewrite upper lower old new before after hold hnew hanchored hsignature =>
    have hsame : lineSignature? new = lineSignature? old := by
      simp [lineSignature?, hold, hnew, Rule.signature?, hanchored, hsignature]
    simp [List.filterMap_cons, hsame]

private theorem filterMap_eq_of_edits {before after : List Text}
    (hedits : Relation.ReflTransGen Edit before after) :
    before.filterMap lineSignature? = after.filterMap lineSignature? := by
  induction hedits with
  | refl => rfl
  | tail _ hedit ih => exact ih.trans hedit.filterMap_eq

/-- The collisions of a document depend on nothing but what the search sees of it, and so no edit that is
beyond its sight does more than move them to other lines. -/
theorem collisions_depend_on_signatures (first second : Text) :
    (signatures first = signatures second → SameCollisions first second) ∧
      (Relation.ReflTransGen Edit first.lines second.lines → SameCollisions first second) := by
  refine ⟨sameCollisions_of_signatures_eq, fun hedits => sameCollisions_of_signatures_eq ?_⟩
  rw [signatures_eq_filterMap_lines, signatures_eq_filterMap_lines, filterMap_eq_of_edits hedits]

/-- A comment is put in front, and the rule that is overridden gets other flags and another destination. -/
theorem sameCollisions_commented :
    let first : Text := "RewriteRule /a /x [L]\nRewriteRule /ab /y".toList
    let second : Text := "# old\nRewriteRule /a /z [R=301,l]\nRewriteRule /ab /y".toList
    signatures first = signatures second ∧ Relation.ReflTransGen Edit first.lines second.lines ∧
      SameCollisions first second := by
  intro first second
  have hsignatures : signatures first = signatures second := by decide
  have hcomment : Unseen "# old".toList := by
    intro rule hrule
    have hnone : Rule.ofLine? 1 "# old".toList = none := rfl
    rw [hnone] at hrule
    cases hrule
  have hadd : Edit first.lines ("# old".toList :: first.lines) := .add [] first.lines _ hcomment
  have hrewrite : Edit ("# old".toList :: first.lines) second.lines :=
    .rewrite ["# old".toList] ["RewriteRule /ab /y".toList] "RewriteRule /a /x [L]".toList
      "RewriteRule /a /z [R=301,l]".toList _ _ rfl rfl (by decide) (by decide)
  have hedits : Relation.ReflTransGen Edit first.lines second.lines := .tail (.single hadd) hrewrite
  exact ⟨hsignatures, hedits, (collisions_depend_on_signatures first second).2 hedits⟩

end Document
end Overrule
