import Overrule.Validation
import Mathlib.Data.List.Basic

namespace Overrule.FileTree

structure SameBut (place : Place) (tree other : FileTree) : Prop where
  home : tree.home = other.home
  entries : ∀ spot, tree.entry? spot = other.entry? spot ∨
    spot = place ∧ ∃ old new, tree.entry? spot = some (.file old) ∧ other.entry? spot = some (.file new)

theorem SameBut.refl (place : Place) (tree : FileTree) : SameBut place tree tree :=
  ⟨rfl, fun _ => .inl rfl⟩

theorem SameBut.trans {place : Place} {first second third : FileTree} (h : SameBut place first second)
    (h' : SameBut place second third) : SameBut place first third := by
  refine ⟨h.home.trans h'.home, fun spot => ?_⟩
  rcases h.entries spot with hsame | ⟨hspot, old, between, hold, hbetween⟩ <;>
    rcases h'.entries spot with hsame' | ⟨hspot', between', new, hbetween', hnew⟩
  · exact .inl (hsame.trans hsame')
  · exact .inr ⟨hspot', between', new, hsame.trans hbetween', hnew⟩
  · exact .inr ⟨hspot, old, between, hold, hsame'.symm.trans hbetween⟩
  · exact .inr ⟨hspot, old, new, hold, hnew⟩

private theorem SameBut.walk_eq {place : Place} {tree other : FileTree} (h : SameBut place tree other)
    (spot : Place) (names : List Name) : tree.walk spot names = other.walk spot names := by
  induction names generalizing spot with
  | nil => rfl
  | cons name names ih =>
    rcases h.entries spot with hsame | ⟨_, old, new, hold, hnew⟩
    · rcases h.entries (spot ++ [name]) with hsame' | ⟨_, old, new, hold, hnew⟩
      · simp only [walk, hsame, hsame', ih]
      · simp only [walk, hsame, hold, hnew, ih]
    · simp only [walk, hold, hnew]

private theorem SameBut.follow_eq {place : Place} {tree other : FileTree} (h : SameBut place tree other)
    (links : Nat) (spot : Place) (names : List Name) :
    tree.follow links spot names = other.follow links spot names := by
  induction links generalizing spot names with
  | zero => rw [follow, follow, h.walk_eq]
  | succ links ih =>
    rw [follow, follow, h.walk_eq]
    cases other.walk spot names with
    | arrived spot => rfl
    | failed error => rfl
    | link directory target rest => exact ih _ _

private theorem SameBut.locate_eq {place : Place} {tree other : FileTree} (h : SameBut place tree other)
    (path : Path) : tree.locate path = other.locate path := by
  rw [locate, locate, h.home]
  simp only [h.follow_eq]

theorem SameBut.read_eq {place : Place} {tree other : FileTree} (h : SameBut place tree other)
    {path : Path} (hpath : tree.locate path ≠ .ok place) : tree.read path = other.read path := by
  rw [read, read, ← h.locate_eq path]
  cases hlocate : tree.locate path with
  | error cause => rfl
  | ok spot =>
    rcases h.entries spot with hsame | ⟨rfl, _⟩
    · simp only [bind, Except.bind, hsame]
    · exact absurd hlocate hpath

private theorem lookup_map_replace (place spot : Place) (entry : Entry) (entries : List (Place × Entry)) :
    (entries.map fun old => if old.1 == place then (place, entry) else old).lookup spot =
      if spot = place then (entries.lookup place).map fun _ => entry else entries.lookup spot := by
  induction entries with
  | nil => simp
  | cons old entries ih =>
    obtain ⟨name, held⟩ := old
    by_cases hname : name = place
    · subst hname
      by_cases hspot : spot = name
      · simp [hspot]
      · simpa [hspot, List.lookup_cons, beq_eq_false_iff_ne.2 hspot] using ih
    · by_cases hspot : spot = place
      · subst hspot
        simpa [hname, List.lookup_cons, beq_eq_false_iff_ne.2 (Ne.symm hname)] using ih
      · simp only [List.map_cons, hname, beq_iff_eq, if_false, hspot, List.lookup_cons] at ih ⊢
        rw [ih]

theorem entry?_set (tree : FileTree) {place : Place} (hplace : place ≠ []) (entry : Entry) (spot : Place) :
    FileTree.entry? (tree.set place entry) spot = if spot = place then some entry else tree.entry? spot := by
  by_cases hroot : spot = []
  · subst hroot
    simp [ entry?, Ne.symm hplace]
  have hany : tree.entries.any (·.1 == place) = true ↔ (tree.entries.lookup place).isSome = true := by
    rw [List.any_eq_true, List.lookup_isSome_iff]
    exact exists_congr fun old => and_congr_right fun _ => by rw [BEq.comm]
  rw [set]
  split
  next hthere =>
    obtain ⟨held, hheld⟩ := Option.isSome_iff_exists.1 (hany.1 hthere)
    simp only [ entry?, hroot, if_false, lookup_map_replace, hheld, Option.map_some]
  next hnew =>
    have hnone : tree.entries.lookup place = none :=
      Option.not_isSome_iff_eq_none.1 fun hsome => hnew (hany.2 hsome)
    simp only [ entry?, hroot, if_false, List.lookup_append]
    by_cases hspot : spot = place
    · subst hspot
      simp [hnone]
    · simp [hspot, List.lookup_cons, beq_eq_false_iff_ne.2 hspot]

theorem sameBut_append (tree : FileTree) (place : Place) (bytes : Bytes) :
    SameBut place tree (tree.append place bytes) := by
  rw [append]
  split
  next content hfile =>
    have hplace : place ≠ [] := by
      rintro rfl
      simp [ entry?] at hfile
    refine ⟨by rw [set]; split <;> rfl, fun spot => ?_⟩
    rw [ entry?_set tree hplace]
    by_cases hspot : spot = place
    · exact .inr ⟨hspot, content, _, hspot ▸ hfile, if_pos hspot⟩
    · exact .inl (if_neg hspot).symm
  next => exact .refl place tree

end Overrule.FileTree
