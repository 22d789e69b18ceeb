import Mathlib.Data.List.TakeWhile
import Overrule.Text.Basic

namespace Overrule.Text

theorem not_mem_of_mem_splitOn {α : Type} [BEq α] [LawfulBEq α] {separator : α} {text piece : List α}
    (hpiece : piece ∈ text.splitOn separator) : separator ∉ piece := by
  induction text generalizing piece with
  | nil => simp_all
  | cons c rest ih =>
    rw [List.splitOn_cons_eq_if_modifyHead] at hpiece
    split at hpiece
    · rcases List.mem_cons.1 hpiece with rfl | hrest
      · exact List.not_mem_nil
      · exact ih hrest
    · -- The character joins the first piece of the rest.
      rename_i hne
      have hc : separator ≠ c := fun h => hne (beq_iff_eq.2 h.symm)
      obtain ⟨first, pieces, hsplit⟩ := List.exists_cons_of_ne_nil (List.splitOn_ne_nil separator rest)
      rw [hsplit, List.modifyHead_cons] at hpiece
      rcases List.mem_cons.1 hpiece with rfl | hlater
      · have hfirst : separator ∉ first := ih (hsplit ▸ List.mem_cons_self)
        exact List.not_mem_cons_of_ne_of_not_mem hc hfirst
      · exact ih (hsplit ▸ List.mem_cons_of_mem _ hlater)

theorem length_splitOn {α : Type} [BEq α] [LawfulBEq α] (separator : α) (text : List α) :
    (text.splitOn separator).length = text.count separator + 1 := by
  induction text with
  | nil => rfl
  | cons c rest ih =>
    rw [List.splitOn_cons_eq_if_modifyHead, List.count_cons]
    split
    · rw [List.length_cons, ih]
    · rw [List.length_modifyHead, ih, Nat.add_zero]

theorem mem_iff_exists_mem_splitOn {α : Type} [BEq α] [LawfulBEq α] {separator c : α} {text : List α}
    (hc : c ≠ separator) : c ∈ text ↔ ∃ piece ∈ text.splitOn separator, c ∈ piece := by
  induction text with
  | nil => simp
  | cons d rest ih =>
    rw [List.splitOn_cons_eq_if_modifyHead, List.mem_cons, ih]
    split
    · rename_i hd
      have hne : c ≠ d := fun h => hc (h.trans (beq_iff_eq.1 hd))
      simp [hne]
    · obtain ⟨first, pieces, hsplit⟩ := List.exists_cons_of_ne_nil (List.splitOn_ne_nil separator rest)
      simp [hsplit, or_assoc]

theorem lines_ne_nil (text : Text) : text.lines ≠ [] := List.splitOn_ne_nil _ _

theorem lines_append_lineFeed (first second : Text) :
    (first ++ '\n' :: second).lines = first.lines ++ second.lines :=
  List.splitOn_append_cons_self first second

theorem span_append {condition : Char → Bool} {front rest : Text} (hfront : ∀ c ∈ front, condition c = true)
    (hrest : ∀ c ∈ rest.head?, condition c = false) :
    (front ++ rest).takeWhile condition = front ∧ (front ++ rest).dropWhile condition = rest := by
  rw [List.takeWhile_append_of_pos hfront, List.dropWhile_append_of_pos hfront]
  cases rest with
  | nil => exact ⟨List.append_nil _, rfl⟩
  | cons c rest =>
    have hc : ¬ condition c = true := by simp [hrest c rfl]
    rw [List.takeWhile_cons_of_neg hc, List.dropWhile_cons_of_neg hc, List.append_nil]
    exact ⟨rfl, rfl⟩

def word (text : Text) : Text := text.takeWhile (· != ' ')

def afterWord (text : Text) : Text := text.dropWhile (· != ' ')

@[simp] theorem word_append_afterWord (text : Text) : text.word ++ text.afterWord = text :=
  List.takeWhile_append_dropWhile

theorem blank_not_mem_word (text : Text) : ' ' ∉ text.word := by
  intro hmem
  simpa using List.mem_takeWhile_imp hmem

theorem afterWord_eq_nil_or_cons (text : Text) :
    text.afterWord = [] ∨ text.afterWord = ' ' :: text.afterWord.tail := by
  cases hafter : text.afterWord with
  | nil => exact Or.inl rfl
  | cons c rest =>
    have hhead := List.head?_dropWhile_not (· != ' ') text
    rw [show text.dropWhile (· != ' ') = c :: rest from hafter] at hhead
    have hc : c = ' ' := by simpa using hhead
    exact Or.inr (by rw [hc, List.tail_cons])

theorem word_append {first rest : Text} (hblank : ' ' ∉ first)
    (hrest : rest = [] ∨ rest = ' ' :: rest.tail) : (first ++ rest).word = first := by
  have hkeep : ∀ c ∈ first, (c != ' ') = true := fun c hc =>
    bne_iff_ne.2 fun h => hblank (h ▸ hc)
  rw [word, List.takeWhile_append_of_pos hkeep]
  rcases hrest with hnil | hcons
  · rw [hnil, List.takeWhile_nil, List.append_nil]
  · rw [hcons, List.takeWhile_cons_of_neg (by simp), List.append_nil]

theorem word_eq_self {text : Text} (hblank : ' ' ∉ text) : text.word = text := by
  have hword := word_append hblank (Or.inl (rfl : ([] : Text) = []))
  rwa [List.append_nil] at hword

theorem afterWord_append {first rest : Text} (hblank : ' ' ∉ first)
    (hrest : rest = [] ∨ rest = ' ' :: rest.tail) : (first ++ rest).afterWord = rest := by
  have hwhole := word_append_afterWord (first ++ rest)
  rw [word_append hblank hrest] at hwhole
  exact List.append_cancel_left hwhole

/-- A split at blanks begins with the first word; its other pieces are those of the text behind the blank
that ends the word, if there is one. -/
private theorem splitOn_blank_eq (text : Text) :
    text.splitOn ' ' =
      text.word :: if text.afterWord = [] then [] else text.afterWord.tail.splitOn ' ' := by
  have hwhole : text.splitOn ' ' = (text.word ++ text.afterWord).splitOn ' ' := by
    rw [word_append_afterWord]
  rcases afterWord_eq_nil_or_cons text with hnil | hcons
  · rw [hwhole, hnil, List.append_nil, if_pos rfl]
    exact List.splitOn_eq_singleton (blank_not_mem_word text)
  · rw [hwhole, if_neg (fun hnil => by rw [hnil] at hcons; cases hcons), hcons, List.tail_cons]
    exact List.splitOn_append_cons_self_of_not_mem (blank_not_mem_word text) _

theorem getD_zero_splitOn_blank (text : Text) : (text.splitOn ' ').getD 0 [] = text.word := by
  rw [splitOn_blank_eq, List.getD_cons_zero]

/-- Later arguments are those of the text behind the first blank. Where there is no blank, both sides are
empty. -/
theorem getD_succ_splitOn_blank (text : Text) (n : Nat) :
    (text.splitOn ' ').getD (n + 1) [] = (text.afterWord.tail.splitOn ' ').getD n [] := by
  rw [splitOn_blank_eq, List.getD_cons_succ]
  split
  · -- No blank is left, so nothing follows the word and a split of it has no later piece either.
    rename_i hnil
    cases n <;> simp [hnil]
  · rfl

/-- What a token stands for: a double quote at its front is left out and then, of what remains, one at
its back. Quotes further in stay. -/
def Encloses (token inner : Text) : Prop :=
  ∃ opened : Text,
    (token = '"' :: opened ∨ token = opened ∧ ¬ ['"'] <+: token) ∧
      (opened = inner ++ ['"'] ∨ opened = inner ∧ ¬ ['"'] <:+ opened)

private theorem opened_eq_iff {token opened : Text} :
    (match token with | '"' :: rest => rest | _ => token) = opened ↔
      token = '"' :: opened ∨ token = opened ∧ ¬ ['"'] <+: token := by
  split
  · rename_i rest
    constructor
    · rintro rfl
      exact Or.inl rfl
    · rintro (hcons | ⟨_, hfront⟩)
      · exact List.tail_eq_of_cons_eq hcons
      · exact absurd (List.prefix_append ['"'] rest) hfront
  · rename_i hfront
    have hnone : ¬ ['"'] <+: token := by
      rintro ⟨rest, rfl⟩
      exact hfront rest rfl
    constructor
    · exact fun heq => Or.inr ⟨heq, hnone⟩
    · rintro (rfl | ⟨heq, _⟩)
      · exact absurd rfl (hfront opened)
      · exact heq

private theorem closed_eq_iff {opened inner : Text} :
    (if opened.getLast? = some '"' then opened.dropLast else opened) = inner ↔
      opened = inner ++ ['"'] ∨ opened = inner ∧ ¬ ['"'] <:+ opened := by
  split
  · rename_i hlast
    obtain ⟨front, rfl⟩ := List.getLast?_eq_some_iff.1 hlast
    simp
  · rename_i hlast
    have hnone : ¬ ['"'] <:+ opened := by
      rintro ⟨front, rfl⟩
      exact hlast (by simp)
    constructor
    · exact fun heq => Or.inr ⟨heq, hnone⟩
    · rintro (rfl | ⟨heq, _⟩)
      · exact absurd (List.suffix_append inner ['"']) hnone
      · exact heq

theorem encloses_iff {token inner : Text} : token.Encloses inner ↔ token.unquote = inner := by
  unfold unquote
  rw [closed_eq_iff]
  constructor
  · rintro ⟨opened, hfront, hback⟩
    obtain rfl := opened_eq_iff.2 hfront
    exact hback
  · exact fun hback => ⟨_, opened_eq_iff.1 rfl, hback⟩

theorem unquote_quoted (inner : Text) : unquote ('"' :: (inner ++ ['"'])) = inner :=
  encloses_iff.1 ⟨inner ++ ['"'], Or.inl rfl, Or.inl rfl⟩

theorem mem_of_mem_unquote {token : Text} {c : Char} (hc : c ∈ token.unquote) : c ∈ token := by
  obtain ⟨opened, hfront, hback⟩ := encloses_iff.2 (rfl : token.unquote = token.unquote)
  have hopened : c ∈ opened := by
    rcases hback with hback | ⟨hback, _⟩
    · rw [hback]
      exact List.mem_append_left _ hc
    · rwa [hback]
  rcases hfront with rfl | ⟨rfl, _⟩
  · exact List.mem_cons_of_mem _ hopened
  · exact hopened

end Overrule.Text
