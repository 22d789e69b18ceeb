import Mathlib.Data.List.Sort

namespace Overrule

variable {α : Type} {key : α → Nat}

/-- Each item of a list has a greater key than those in front of it. -/
def Ascending (key : α → Nat) (items : List α) : Prop :=
  items.Pairwise fun first second => key first < key second

namespace Ascending

theorem filter {items : List α} (hitems : Ascending key items) (condition : α → Bool) :
    Ascending key (items.filter condition) :=
  List.Pairwise.filter condition hitems

/-- What is made of some of the items one by one is in ascending order too, if their keys are kept. -/
theorem filterMap {β : Type} {key' : β → Nat} {items : List α} (hitems : Ascending key items)
    {make : α → Option β} (hkey : ∀ item made, make item = some made → key' made = key item) :
    Ascending key' (items.filterMap make) := by
  refine List.Pairwise.filterMap make ?_ hitems
  intro first second hlt made hmade other hother
  rw [hkey first made hmade, hkey second other hother]
  exact hlt

theorem key_lt_key_iff {items : List α} (hitems : Ascending key items) {i j : Nat}
    (hi : i < items.length) (hj : j < items.length) :
    key items[i] < key items[j] ↔ i < j := by
  have hmono {i j : Nat} (hi : i < items.length) (hj : j < items.length) (hlt : i < j) :
      key items[i] < key items[j] := List.pairwise_iff_getElem.1 hitems i j hi hj hlt
  constructor
  · intro hkey
    by_contra hnot
    rcases Nat.lt_or_eq_of_le (Nat.le_of_not_lt hnot) with hlt | heq
    · have hback := hmono hj hi hlt
      omega
    · subst heq
      exact Nat.lt_irrefl _ hkey
  · exact hmono hi hj

theorem nodup {items : List α} (hitems : Ascending key items) : items.Nodup :=
  List.Pairwise.imp (fun hlt heq => Nat.ne_of_lt hlt (congrArg key heq)) hitems

theorem eq_of_mem_iff {first second : List α} (hfirst : Ascending key first)
    (hsecond : Ascending key second) (hmem : ∀ item, item ∈ first ↔ item ∈ second) :
    first = second := by
  have hantisymm : Std.Antisymm fun one other : α => key one < key other :=
    ⟨fun _ _ hlt hgt => absurd hlt (Nat.lt_asymm hgt)⟩
  have hirrefl : Std.Irrefl fun one other : α => key one < key other :=
    ⟨fun item => Nat.lt_irrefl (key item)⟩
  exact List.Pairwise.eq_of_mem_iff hfirst hsecond hmem

theorem find?_eq_some_iff {items : List α} (hitems : Ascending key items)
    {condition : α → Bool} {found : α} :
    items.find? condition = some found ↔
      found ∈ items ∧ condition found = true ∧
        ∀ other ∈ items, condition other = true → key found ≤ key other := by
  induction items with
  | nil => simp
  | cons first rest ih =>
    obtain ⟨hfirst, hrest⟩ := List.pairwise_cons.1 hitems
    by_cases hmeets : condition first = true
    · rw [List.find?_cons_of_pos hmeets]
      constructor
      · intro h
        cases h
        refine ⟨List.mem_cons_self, hmeets, fun other hother _ => ?_⟩
        rcases List.mem_cons.1 hother with rfl | hlater
        · exact Nat.le_refl _
        · exact Nat.le_of_lt (hfirst other hlater)
      · rintro ⟨hfound, _, hleast⟩
        rcases List.mem_cons.1 hfound with rfl | hlater
        · rfl
        · have hle := hleast first List.mem_cons_self hmeets
          have hlt := hfirst found hlater
          omega
    · rw [List.find?_cons_of_neg hmeets, ih hrest]
      constructor
      · rintro ⟨hfound, hcondition, hleast⟩
        refine ⟨List.mem_cons_of_mem _ hfound, hcondition, fun other hother hmeets' => ?_⟩
        rcases List.mem_cons.1 hother with rfl | hlater
        · exact absurd hmeets' hmeets
        · exact hleast other hlater hmeets'
      · rintro ⟨hfound, hcondition, hleast⟩
        rcases List.mem_cons.1 hfound with rfl | hlater
        · exact absurd hcondition hmeets
        · exact ⟨hlater, hcondition, fun other hother => hleast other (List.mem_cons_of_mem _ hother)⟩

end Ascending
end Overrule
