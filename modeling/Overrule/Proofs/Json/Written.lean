import Mathlib.Data.List.TakeWhile
import Overrule.Proofs.Json.Grammar
import Overrule.Proofs.Report.Document
import Overrule.Proofs.Text.Decimal

namespace Overrule

private theorem Draft.text_piece (text : Text) : (Draft.piece text).text = text := by
  simp [Draft.text, Draft.piece]

private theorem Draft.text_append {first : Draft} (hfirst : first.complete = true) (second : Draft) :
    (first ++ second).text = first.text ++ second.text := by
  change (if first.complete then _ else first : Draft).text = _
  rw [if_pos hfirst]
  simp [Draft.text]

namespace Json

mutual

def toValue : Json → Value
  | .number value => .number (Text.decimal value)
  | .truth value => .truth value
  | .string text => .string text
  | .utf8 bytes => .string (Utf8.decode bytes)
  | .array items => .array (toValues items)
  | .object members => .object (toMembers members)

def toValues : List Json → List Value
  | [] => []
  | item :: items => item.toValue :: toValues items

def toMembers : List (Text × Json) → List (Text × Value)
  | [] => []
  | (name, value) :: members => (name, value.toValue) :: toMembers members

end

theorem toValues_eq_map (items : List Json) : toValues items = items.map toValue := by
  induction items with
  | nil => rfl
  | cons item items ih => rw [toValues, ih, List.map_cons]

private theorem hexValue?_hexDigit {digit : Nat} (hdigit : digit < 16) : hexValue? (hexDigit digit) = some digit := by
  revert digit
  decide

private def element (c : Char) : Element :=
  if c.toNat < 0x20 ∧ c.toNat ∉ [0x08, 0x09, 0x0A, 0x0C, 0x0D] then .unit c.toNat else .char c

private theorem elements?_letter {letter c : Char} (hletter : escaped? letter = some c) (rest : Text) :
    elements? ('\\' :: letter :: rest) = (elements? rest).map (.char c :: ·) := by
  have hcode : letter ≠ 'u' := by
    rintro rfl
    cases hletter
  rw [elements?]
  · rw [hletter]
    cases elements? rest <;> rfl
  · intro a b c d rest hu
    exact absurd hu hcode

private theorem elements?_code {code : Nat} (hcode : code < 0x100) (rest : Text) :
    elements? ('\\' :: 'u' :: '0' :: '0' :: hexDigit (code / 16) :: hexDigit (code % 16) :: rest) =
      (elements? rest).map (.unit code :: ·) := by
  have hzero : hexValue? '0' = some 0 := rfl
  have hvalue : code / 16 * 16 + code % 16 = code := by omega
  rw [elements?, hzero, hexValue?_hexDigit (by omega), hexValue?_hexDigit (by omega)]
  cases elements? rest with
  | none => rfl
  | some elements => simp [hvalue]

private theorem elements?_plain {c : Char} (hc : standsForItself c = true) (rest : Text) :
    elements? (c :: rest) = (elements? rest).map (.char c :: ·) := by
  have hbackslash : c ≠ '\\' := by
    rintro rfl
    cases hc
  rw [elements?, if_pos hc]
  · intro a b c d rest hc
    exact absurd hc hbackslash
  · intro letter rest hc
    exact absurd hc hbackslash

private theorem elements?_escape (c : Char) (rest : Text) :
    elements? (escape c ++ rest) = (elements? rest).map (element c :: ·) := by
  have hcontrol {code : Nat} (hcode : c.toNat = code) : c = Char.ofNat code := by rw [← hcode, Char.ofNat_toNat]
  unfold escape
  split
  · subst c
    exact elements?_letter rfl rest
  split
  · subst c
    exact elements?_letter rfl rest
  split
  · obtain rfl := hcontrol ‹_›
    exact elements?_letter rfl rest
  split
  · obtain rfl := hcontrol ‹_›
    exact elements?_letter rfl rest
  split
  · obtain rfl := hcontrol ‹_›
    exact elements?_letter rfl rest
  split
  · obtain rfl := hcontrol ‹_›
    exact elements?_letter rfl rest
  split
  · obtain rfl := hcontrol ‹_›
    exact elements?_letter rfl rest
  split
  · rename_i h8 h9 hA hC hD hsmall
    have helement : element c = .unit c.toNat := if_pos ⟨hsmall, by simp [h8, h9, hA, hC, hD]⟩
    rw [helement]
    exact elements?_code (by omega) rest
  · rename_i hquote hbackslash _ _ _ _ _ hlarge
    have helement : element c = .char c := if_neg fun h => hlarge h.1
    rw [helement]
    exact elements?_plain (by simp [standsForItself, hquote, hbackslash]; omega) rest

private theorem joined?_element (c : Char) (rest : List Element) :
    joined? (element c :: rest) = (joined? rest).map (c :: ·) := by
  unfold element
  split
  · rename_i hsmall
    have hwhole : isWholeUnit c.toNat = true := by
      simp only [isWholeUnit, Bool.or_eq_true, decide_eq_true_eq]
      omega
    rw [joined?.eq_def]
    simp [hwhole, Char.ofNat_toNat]
  · rw [joined?]

private theorem unescape?_escape (text : Text) : unescape? (text.flatMap escape) = some text := by
  have helements : elements? (text.flatMap escape) = some (text.map element) := by
    induction text with
    | nil => rfl
    | cons c text ih =>
      rw [List.flatMap_cons, elements?_escape, ih]
      rfl
  have hjoined : joined? (text.map element) = some text := by
    clear helements
    induction text with
    | nil => rfl
    | cons c text ih =>
      rw [List.map_cons, joined?_element, ih]
      rfl
  rw [unescape?, helements, Option.bind_some, hjoined]

private theorem denotes_quote (text : Text) : Denotes (quote text) (.value (.string text)) :=
  .string (unescape?_escape text)

private theorem head?_decimal_ne_zero {n : Nat} (hn : n ≠ 0) : (Text.decimal n).head? ≠ some '0' := by
  unfold Text.decimal
  induction n using Nat.strongRecOn with
  | ind n ih =>
    by_cases hsmall : n < 10
    · rw [Nat.toDigits_of_lt_base hsmall]
      simpa using hn
    · have hfront := ih (n / 10) (by omega) (by omega)
      rw [Nat.toDigits_of_base_le (by decide) (by omega), List.head?_append]
      cases hdigits : Nat.toDigits 10 (n / 10) with
      | nil => exact absurd hdigits Nat.toDigits_ne_nil
      | cons digit digits =>
        rw [hdigits] at hfront
        simpa using hfront

private theorem isWhole_decimal (n : Nat) : isWhole (Text.decimal n) = true := by
  by_cases hn : n = 0
  · subst hn
    rfl
  · have hhead := head?_decimal_ne_zero hn
    have hdigits := @Text.isDigit_of_mem_decimal n
    cases hdecimal : Text.decimal n with
    | nil => exact absurd hdecimal Nat.toDigits_ne_nil
    | cons first digits =>
      rw [hdecimal] at hhead hdigits
      obtain ⟨hfirst, hdigits⟩ := List.forall_mem_cons.1 hdigits
      have hzero : first ≠ '0' := by simpa using hhead
      simp [isWhole, hfirst, hzero, List.all_eq_true.2 hdigits]

private theorem isNumber_decimal (n : Nat) : isNumber (Text.decimal n) = true := by
  have hunsigned : dropSign ['-'] (Text.decimal n) = Text.decimal n := by
    have hdigits := @Text.isDigit_of_mem_decimal n
    cases hdecimal : Text.decimal n with
    | nil => rfl
    | cons first digits =>
      rw [hdecimal] at hdigits
      have hfirst : first ≠ '-' := by
        rintro rfl
        cases hdigits '-' (List.mem_cons_self ..)
      simp [dropSign, hfirst]
  have hwhole : (Text.decimal n).takeWhile Char.isDigit = Text.decimal n :=
    List.takeWhile_eq_self_iff.2 Text.isDigit_of_mem_decimal
  have hrest : (Text.decimal n).dropWhile Char.isDigit = [] := List.dropWhile_eq_nil_iff.2 Text.isDigit_of_mem_decimal
  rw [isNumber, hunsigned, hwhole, hrest, isWhole_decimal]
  rfl

theorem isBlank_nil : IsBlank [] := by simp [IsBlank]

theorem isBlank_lineFeed : IsBlank ['\n'] := by simp [IsBlank, isBlank]

private theorem isBlank_lineBreak (layout : Layout) (depth : Nat) : IsBlank (layout.lineBreak depth) := by
  intro c hc
  cases layout with
  | compact => cases hc
  | indented =>
    rcases List.mem_cons.1 hc with rfl | hc
    · rfl
    · obtain ⟨_, rfl⟩ := List.mem_replicate.1 hc
      rfl

private theorem exists_colon_eq (layout : Layout) : ∃ blanks, layout.colon = ':' :: blanks ∧ IsBlank blanks := by
  cases layout with
  | compact => exact ⟨[], rfl, isBlank_nil⟩
  | indented => exact ⟨[' '], rfl, by simp [IsBlank, isBlank]⟩

section Layout

variable {layout : Layout} {depth : Nat}

private theorem text_draftItems_cons {first : Bool} {item : Json} (hitem : (item.draft layout depth).complete = true)
    (items : List Json) : (draftItems layout depth first (item :: items)).text =
      (if first then [] else [',']) ++ (layout.lineBreak depth ++ (item.draft layout depth).text) ++
        (draftItems layout depth false items).text := by
  rw [draftItems, Draft.text_append (by simp [hitem]), Draft.text_append (by simp), Draft.text_append (by simp),
    Draft.text_piece, Draft.text_piece]
  simp only [List.append_assoc]

private theorem text_draftMembers_cons {first : Bool} {name : Text} {value : Json}
    (hvalue : (value.draft layout depth).complete = true) (members : List (Text × Json)) :
    (draftMembers layout depth first ((name, value) :: members)).text =
      (if first then [] else [',']) ++
        (layout.lineBreak depth ++ quote name ++ layout.colon ++ (value.draft layout depth).text) ++
        (draftMembers layout depth false members).text := by
  rw [draftMembers, Draft.text_append (by simp [hvalue]), Draft.text_append (by simp), Draft.text_append (by simp),
    Draft.text_append (by simp), Draft.text_append (by simp), Draft.text_piece, Draft.text_piece, Draft.text_piece,
    Draft.text_piece]
  simp only [List.append_assoc]

/-- Items that are written as JSON one by one are so together, in front of the line break that closes the array. -/
private theorem denotes_draftItems {item : Json} {items : List Json}
    (hitems : ∀ item' ∈ item :: items, (item'.draft layout depth).complete = true ∧
      Denotes (item'.draft layout depth).text (.value item'.toValue)) {back : Text} (hback : IsBlank back) :
    Denotes ((draftItems layout depth true (item :: items)).text ++ back) (.items (toValues (item :: items))) := by
  induction items generalizing item with
  | nil =>
    obtain ⟨hcomplete, hitem⟩ := hitems item (List.mem_cons_self ..)
    have hpadded := Denotes.padded (isBlank_lineBreak layout depth) hitem hback
    rw [text_draftItems_cons hcomplete]
    simpa [draftItems, Draft.text, toValues] using hpadded.item
  | cons next items ih =>
    obtain ⟨⟨hcomplete, hitem⟩, hothers⟩ := List.forall_mem_cons.1 hitems
    -- The next item has its line break in front, so there is no blank behind this one.
    have hpadded := Denotes.padded (isBlank_lineBreak layout depth) hitem isBlank_nil
    have hrest := ih hothers
    have hnext := (hothers next (List.mem_cons_self ..)).1
    rw [text_draftItems_cons hcomplete, text_draftItems_cons hnext]
    rw [text_draftItems_cons hnext] at hrest
    simpa [toValues] using hpadded.moreItems hrest

private theorem denotes_pair (layout : Layout) (depth : Nat) (name : Text) {text back : Text} {value : Value}
    (hvalue : Denotes text (.value value)) (hback : IsBlank back) :
    Denotes (layout.lineBreak depth ++ quote name ++ layout.colon ++ text ++ back) (.pair name value) := by
  obtain ⟨blanks, hcolon, hblanks⟩ := exists_colon_eq layout
  have hpair := Denotes.pair (isBlank_lineBreak layout depth) (unescape?_escape name) isBlank_nil
    (.padded hblanks hvalue hback)
  rw [hcolon]
  simpa [quote] using hpair

/-- Members whose values are written as JSON one by one are so together, in front of the line break that closes the
object. -/
private theorem denotes_draftMembers {member : Text × Json} {members : List (Text × Json)}
    (hmembers : ∀ member' ∈ member :: members, (member'.2.draft layout depth).complete = true ∧
      Denotes (member'.2.draft layout depth).text (.value member'.2.toValue)) {back : Text} (hback : IsBlank back) :
    Denotes ((draftMembers layout depth true (member :: members)).text ++ back)
      (.members (toMembers (member :: members))) := by
  induction members generalizing member with
  | nil =>
    obtain ⟨hcomplete, hvalue⟩ := hmembers member (List.mem_cons_self ..)
    have hpair := denotes_pair layout depth member.1 hvalue hback
    rw [text_draftMembers_cons hcomplete]
    simpa [draftMembers, Draft.text, toMembers] using hpair.member
  | cons next members ih =>
    obtain ⟨⟨hcomplete, hvalue⟩, hothers⟩ := List.forall_mem_cons.1 hmembers
    have hpair := denotes_pair layout depth member.1 hvalue isBlank_nil
    have hrest := ih hothers
    have hnext := (hothers next (List.mem_cons_self ..)).1
    rw [text_draftMembers_cons hcomplete, text_draftMembers_cons hnext]
    rw [text_draftMembers_cons hnext] at hrest
    simpa [toMembers] using hpair.moreMembers hrest

end Layout

private theorem text_draft_array {layout : Layout} {depth : Nat} {item : Json} {items : List Json}
    (hitems : (draftItems layout (depth + 1) true (item :: items)).complete = true) :
    ((array (item :: items)).draft layout depth).text =
      '[' :: ((draftItems layout (depth + 1) true (item :: items)).text ++ layout.lineBreak depth) ++ [']'] := by
  rw [draft, Draft.text_append (by simp [hitems]), Draft.text_append (by simp [hitems]), Draft.text_append (by simp)]
  simp [Draft.text_piece]

private theorem text_draft_object {layout : Layout} {depth : Nat} {member : Text × Json} {members : List (Text × Json)}
    (hmembers : (draftMembers layout (depth + 1) true (member :: members)).complete = true) :
    ((object (member :: members)).draft layout depth).text =
      '\x7b' :: ((draftMembers layout (depth + 1) true (member :: members)).text ++ layout.lineBreak depth) ++
        ['\x7d'] := by
  rw [draft, Draft.text_append (by simp [hmembers]), Draft.text_append (by simp [hmembers]),
    Draft.text_append (by simp)]
  simp [Draft.text_piece]

mutual

theorem denotes_draft (layout : Layout) : ∀ (value : Json) (depth : Nat),
    (value.draft layout depth).complete = true →
      Denotes (value.draft layout depth).text (.value value.toValue)
  | .number value, depth, _ => by
    rw [draft, Draft.text_piece, toValue]
    exact .number (isNumber_decimal value)
  | .truth value, depth, _ => by
    rw [draft, Draft.text_piece, toValue]
    exact .truth value
  | .string text, depth, _ => by
    rw [draft, Draft.text_piece, toValue]
    exact denotes_quote text
  | .utf8 bytes, depth, hcomplete => by
    obtain ⟨text, rfl⟩ := (complete_draft_utf8_iff layout depth).1 hcomplete
    rw [draft, Utf8.decode?_encode, toValue, Utf8.decode_encode]
    simpa [Draft.text_piece] using denotes_quote text
  | .array [], depth, _ => by
    rw [draft, Draft.text_piece, toValue]
    exact Denotes.emptyArray isBlank_nil
  | .array (item :: items), depth, hcomplete => by
    rw [complete_draft_array_iff] at hcomplete
    have hitems : (draftItems layout (depth + 1) true (item :: items)).complete = true :=
      (complete_draftItems_iff layout (depth + 1)).2 hcomplete
    rw [text_draft_array hitems, toValue]
    refine .array (denotes_draftItems (fun item' hitem' => ?_) (isBlank_lineBreak layout depth))
    exact ⟨hcomplete item' hitem', denotes_each layout (item :: items) (depth + 1) hcomplete item' hitem'⟩
  | .object [], depth, _ => by
    rw [draft, Draft.text_piece, toValue]
    exact Denotes.emptyObject isBlank_nil
  | .object (member :: members), depth, hcomplete => by
    rw [complete_draft_object_iff] at hcomplete
    have hmembers : (draftMembers layout (depth + 1) true (member :: members)).complete = true :=
      (complete_draftMembers_iff layout (depth + 1)).2 hcomplete
    rw [text_draft_object hmembers, toValue]
    refine .object (denotes_draftMembers (fun member' hmember' => ?_) (isBlank_lineBreak layout depth))
    exact ⟨hcomplete member' hmember',
      denotes_eachMember layout (member :: members) (depth + 1) hcomplete member' hmember'⟩

private theorem denotes_each (layout : Layout) : ∀ (items : List Json) (depth : Nat),
    (∀ item ∈ items, (item.draft layout depth).complete = true) →
      ∀ item ∈ items, Denotes (item.draft layout depth).text (.value item.toValue)
  | [], _, _ => by simp
  | item :: items, depth, hcomplete => by
    obtain ⟨hitem, hitems⟩ := List.forall_mem_cons.1 hcomplete
    exact List.forall_mem_cons.2 ⟨denotes_draft layout item depth hitem, denotes_each layout items depth hitems⟩

private theorem denotes_eachMember (layout : Layout) : ∀ (members : List (Text × Json)) (depth : Nat),
    (∀ member ∈ members, (member.2.draft layout depth).complete = true) →
      ∀ member ∈ members, Denotes (member.2.draft layout depth).text (.value member.2.toValue)
  | [], _, _ => by simp
  | (name, value) :: members, depth, hcomplete => by
    obtain ⟨hvalue, hmembers⟩ := List.forall_mem_cons.1 hcomplete
    exact List.forall_mem_cons.2
      ⟨denotes_draft layout value depth hvalue, denotes_eachMember layout members depth hmembers⟩

end

end Json
end Overrule
