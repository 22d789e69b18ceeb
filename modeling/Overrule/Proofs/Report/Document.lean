import Overrule.Proofs.Text.Encoding
import Overrule.Report.Document

namespace Overrule

@[simp] private theorem Draft.complete_piece (text : Text) : (Draft.piece text).complete = true := rfl

@[simp] theorem Draft.complete_append (first second : Draft) :
    (first ++ second).complete = (first.complete && second.complete) := by
  change (if first.complete then _ else first).complete = _
  cases h : first.complete with
  | true => rfl
  | false => exact h

namespace Json

variable (layout : Layout) (depth : Nat)

@[simp] private theorem complete_draft_number (value : Nat) : ((number value).draft layout depth).complete = true := by
  rw [draft, Draft.complete_piece]

@[simp] private theorem complete_draft_string (text : Text) : ((string text).draft layout depth).complete = true := by
  rw [draft, Draft.complete_piece]

theorem complete_draft_utf8_iff {bytes : Bytes} :
    ((utf8 bytes).draft layout depth).complete = true ↔ Utf8.IsText bytes := by
  rw [Utf8.isText_iff_isSome_decode?, draft]
  cases Utf8.decode? bytes <;> simp [Draft.broken]

theorem complete_draftItems_iff {first : Bool} {items : List Json} :
    (draftItems layout depth first items).complete = true ↔
      ∀ item ∈ items, (item.draft layout depth).complete = true := by
  induction items generalizing first with
  | nil => simp [draftItems]
  | cons item items ih => simp [draftItems, ih]

theorem complete_draftMembers_iff {first : Bool} {members : List (Text × Json)} :
    (draftMembers layout depth first members).complete = true ↔
      ∀ member ∈ members, (member.2.draft layout depth).complete = true := by
  induction members generalizing first with
  | nil => simp [draftMembers]
  | cons member members ih =>
    obtain ⟨name, value⟩ := member
    simp [draftMembers, ih]

theorem complete_draft_array_iff {items : List Json} :
    ((array items).draft layout depth).complete = true ↔
      ∀ item ∈ items, (item.draft layout (depth + 1)).complete = true := by
  cases items with
  | nil => simp [draft]
  | cons item items =>
    simp only [draft, Draft.complete_append, Draft.complete_piece, Bool.true_and, Bool.and_true,
      complete_draftItems_iff]

theorem complete_draft_object_iff {members : List (Text × Json)} :
    ((object members).draft layout depth).complete = true ↔
      ∀ member ∈ members, (member.2.draft layout (depth + 1)).complete = true := by
  cases members with
  | nil => simp [draft]
  | cons member members =>
    simp only [draft, Draft.complete_append, Draft.complete_piece, Bool.true_and, Bool.and_true,
      complete_draftMembers_iff]

end Json

open Json

variable (layout : Layout) (depth : Nat)

private theorem Rule.complete_draft_toJson (rule : Rule) : (rule.toJson.draft layout depth).complete = true := by
  simp [toJson, complete_draft_object_iff, complete_draft_array_iff]

private theorem Collision.complete_draft_toJson (collision : Collision) :
    (collision.toJson.draft layout depth).complete = true := by
  simp [toJson, complete_draft_object_iff, Rule.complete_draft_toJson]

private theorem Status.complete_draft_members (status : Status) :
    ∀ member ∈ status.members, (member.2.draft layout depth).complete = true := by
  cases status with
  | passed ruleCount => simp [members]
  | collisions ruleCount reports => simp [members, complete_draft_array_iff, Collision.complete_draft_toJson]
  | unreadable message => simp [members]

private theorem Outcome.complete_draft_toJson_iff {outcome : Outcome} :
    (outcome.toJson.draft layout depth).complete = true ↔ Utf8.IsText outcome.path := by
  rw [toJson, complete_draft_object_iff, List.forall_mem_cons, complete_draft_utf8_iff]
  exact and_iff_left (outcome.status.complete_draft_members layout (depth + 1))

theorem Outcome.complete_document_iff {outcomes : List Outcome} :
    (document outcomes).complete = true ↔ ∀ outcome ∈ outcomes, Utf8.IsText outcome.path := by
  rw [document, complete_draft_array_iff, List.forall_mem_map]
  exact forall₂_congr fun outcome _ => outcome.complete_draft_toJson_iff .indented 1

end Overrule
