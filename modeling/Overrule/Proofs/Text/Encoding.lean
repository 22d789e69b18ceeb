import Mathlib.Data.List.Infix
import Mathlib.Tactic.Ring
import Overrule.Text.Utf8

namespace Overrule.Utf8

open String (utf8EncodeChar)

def tailBytes : Nat → Nat → Bytes
  | 0, _ => []
  | count + 1, n => UInt8.ofNat (n / 64 ^ count % 64 + 128) :: tailBytes count n

/-- The first byte of a character beyond ASCII, and where the reader stands behind it. -/
inductive Lead : Nat → State → Prop
  | two (byte : Nat) (hlow : 0xC2 ≤ byte) (hhigh : byte ≤ 0xDF) :
    Lead byte (.partway 0 0 0x3F (byte - 0xC0))
  | three (byte : Nat) (hlow : 0xE0 ≤ byte) (hhigh : byte ≤ 0xEF) :
    Lead byte (.partway 1 (if byte = 0xE0 then 0x20 else 0) (if byte = 0xED then 0x1F else 0x3F)
      (byte - 0xE0))
  | four (byte : Nat) (hlow : 0xF0 ≤ byte) (hhigh : byte ≤ 0xF4) :
    Lead byte (.partway 2 (if byte = 0xF0 then 0x10 else 0) (if byte = 0xF4 then 0xF else 0x3F)
      (byte - 0xF0))

private theorem Lead.start_eq {byte : Nat} {state : State} (hlead : Lead byte state) :
    start byte = ([], state) := by
  cases hlead with
  | two hlow hhigh =>
    rw [start, if_neg (by omega), if_pos ⟨hlow, hhigh⟩]
  | three hlow hhigh =>
    unfold start
    split_ifs <;> simp_all <;> omega
  | four hlow hhigh =>
    unfold start
    split_ifs <;> simp_all <;> omega

theorem start_cases (byte : Nat) :
    (byte < 0x80 ∧ start byte = ([Char.ofNat byte], .ready)) ∨ (∃ state, Lead byte state) ∨
      start byte = ([replacement], .ready) := by
  by_cases hascii : byte < 0x80
  · exact Or.inl ⟨hascii, by rw [start, if_pos hascii]⟩
  · by_cases htwo : 0xC2 ≤ byte ∧ byte ≤ 0xDF
    · exact Or.inr (Or.inl ⟨_, .two byte htwo.1 htwo.2⟩)
    · by_cases hthree : 0xE0 ≤ byte ∧ byte ≤ 0xEF
      · exact Or.inr (Or.inl ⟨_, .three byte hthree.1 hthree.2⟩)
      · by_cases hfour : 0xF0 ≤ byte ∧ byte ≤ 0xF4
        · exact Or.inr (Or.inl ⟨_, .four byte hfour.1 hfour.2⟩)
        · refine Or.inr (Or.inr ?_)
          unfold start
          split_ifs <;> first | rfl | omega

def State.Admits : State → Nat → Prop
  | .ready, _ => False
  | .partway missing low high value, n =>
    (value * 64 + low) * 64 ^ missing ≤ n ∧ n < (value * 64 + high + 1) * 64 ^ missing

def State.due : State → Nat
  | .ready => 0
  | .partway missing .. => missing + 1

theorem utf8EncodeChar_one {c : Char} (hhigh : c.toNat < 0x80) :
    utf8EncodeChar c = [UInt8.ofNat c.toNat] := by
  have hle : c.toNat ≤ 127 := by omega
  simp [utf8EncodeChar, hle]

private theorem utf8EncodeChar_two {c : Char} (hlow : 0x80 ≤ c.toNat) (hhigh : c.toNat < 0x800) :
    utf8EncodeChar c = UInt8.ofNat (c.toNat / 64 + 0xC0) :: tailBytes 1 c.toNat := by
  have h1 : ¬ c.toNat ≤ 127 := by omega
  have h2 : c.toNat ≤ 2047 := by omega
  have hlead : c.toNat / 64 % 32 = c.toNat / 64 := by omega
  simp [utf8EncodeChar, tailBytes, h1, h2, hlead]

private theorem utf8EncodeChar_three {c : Char} (hlow : 0x800 ≤ c.toNat) (hhigh : c.toNat < 0x10000) :
    utf8EncodeChar c = UInt8.ofNat (c.toNat / 4096 + 0xE0) :: tailBytes 2 c.toNat := by
  have h1 : ¬ c.toNat ≤ 127 := by omega
  have h2 : ¬ c.toNat ≤ 2047 := by omega
  have h3 : c.toNat ≤ 65535 := by omega
  have hlead : c.toNat / 4096 % 16 = c.toNat / 4096 := by omega
  simp [utf8EncodeChar, tailBytes, h1, h2, h3, hlead]

private theorem utf8EncodeChar_four {c : Char} (hlow : 0x10000 ≤ c.toNat) :
    utf8EncodeChar c = UInt8.ofNat (c.toNat / 262144 + 0xF0) :: tailBytes 3 c.toNat := by
  have hvalid : c.toNat.isValidChar := c.valid
  have h1 : ¬ c.toNat ≤ 127 := by omega
  have h2 : ¬ c.toNat ≤ 2047 := by omega
  have h3 : ¬ c.toNat ≤ 65535 := by omega
  have hlead : c.toNat / 262144 % 8 = c.toNat / 262144 := by omega
  simp [utf8EncodeChar, tailBytes, h1, h2, h3, hlead]

theorem utf8EncodeChar_ne_nil (c : Char) : utf8EncodeChar c ≠ [] := by
  have hpositive := c.utf8Size_pos
  rw [← String.length_utf8EncodeChar] at hpositive
  exact List.length_pos_iff.1 hpositive

theorem exists_lead_of_char (c : Char) (hc : 0x80 ≤ c.toNat) :
    ∃ (lead : UInt8) (state : State), Lead lead.toNat state ∧ state.Admits c.toNat ∧
      utf8EncodeChar c = lead :: tailBytes state.due c.toNat := by
  have hvalid : c.toNat.isValidChar := c.valid
  by_cases htwo : c.toNat < 0x800
  · have hbyte := UInt8.toNat_ofNat_of_lt' (show c.toNat / 64 + 0xC0 < 0x100 by omega)
    have hlead : Lead (c.toNat / 64 + 0xC0) _ := .two _ (by omega) (by omega)
    refine ⟨_, _, hbyte.symm ▸ hlead, ?_, utf8EncodeChar_two hc htwo⟩
    simp only [State.Admits]
    omega
  · by_cases hthree : c.toNat < 0x10000
    · have hbyte := UInt8.toNat_ofNat_of_lt' (show c.toNat / 4096 + 0xE0 < 0x100 by omega)
      have hlead : Lead (c.toNat / 4096 + 0xE0) _ := .three _ (by omega) (by omega)
      refine ⟨_, _, hbyte.symm ▸ hlead, ?_, utf8EncodeChar_three (by omega) hthree⟩
      simp only [State.Admits]
      split_ifs <;> omega
    · have hbyte := UInt8.toNat_ofNat_of_lt' (show c.toNat / 262144 + 0xF0 < 0x100 by omega)
      have hlead : Lead (c.toNat / 262144 + 0xF0) _ := .four _ (by omega) (by omega)
      refine ⟨_, _, hbyte.symm ▸ hlead, ?_, utf8EncodeChar_four (by omega)⟩
      simp only [State.Admits]
      split_ifs <;> omega

/-- A reader that is in the middle of a character has seen the front of the encodings of all characters that it
can still find. -/
structure Within (part : Bytes) (missing low high value : Nat) : Prop where
  low_le_high : low ≤ high
  high_lt : high < 64
  encoded : ∀ n, (State.partway missing low high value).Admits n →
    n.isValidChar ∧ utf8EncodeChar (Char.ofNat n) = part ++ tailBytes (missing + 1) n

private theorem eq_ofNat_of_toNat_eq {byte : UInt8} {n : Nat} (hbyte : byte.toNat = n) : byte = UInt8.ofNat n := by
  rw [← hbyte, UInt8.ofNat_toNat]

theorem toNat_ofNat_of_isValidChar {n : Nat} (hvalid : n.isValidChar) : (Char.ofNat n).toNat = n := by
  rw [Char.ofNat, dif_pos hvalid]
  rfl

theorem Within.of_lead {lead : UInt8} {missing low high value : Nat}
    (hlead : Lead lead.toNat (.partway missing low high value)) : Within [lead] missing low high value := by
  generalize hbyte : lead.toNat = byte at hlead
  have hchar {n : Nat} (hvalid : n.isValidChar) := toNat_ofNat_of_isValidChar hvalid
  cases hlead with
  | two hlow hhigh =>
    refine ⟨by omega, by omega, fun n hn => ?_⟩
    simp only [State.Admits] at hn
    have hvalid : n.isValidChar := Or.inl (by omega)
    have hencoded := utf8EncodeChar_two (c := Char.ofNat n) (by rw [hchar hvalid]; omega)
      (by rw [hchar hvalid]; omega)
    rw [hchar hvalid] at hencoded
    rw [hencoded, eq_ofNat_of_toNat_eq (show lead.toNat = n / 64 + 0xC0 by omega)]
    exact ⟨hvalid, rfl⟩
  | three hlow hhigh =>
    refine ⟨by split_ifs <;> omega, by split_ifs <;> omega, fun n hn => ?_⟩
    simp only [State.Admits] at hn
    have hrange : 0x800 ≤ n ∧ n < 0x10000 ∧ n / 4096 + 0xE0 = byte ∧ n.isValidChar := by
      unfold Nat.isValidChar
      split_ifs at hn <;> omega
    obtain ⟨hge, hlt, hdiv, hvalid⟩ := hrange
    have hencoded := utf8EncodeChar_three (c := Char.ofNat n) (by rw [hchar hvalid]; omega)
      (by rw [hchar hvalid]; omega)
    rw [hchar hvalid] at hencoded
    rw [hencoded, eq_ofNat_of_toNat_eq (show lead.toNat = n / 4096 + 0xE0 by omega)]
    exact ⟨hvalid, rfl⟩
  | four hlow hhigh =>
    refine ⟨by split_ifs <;> omega, by split_ifs <;> omega, fun n hn => ?_⟩
    simp only [State.Admits] at hn
    have hrange : 0x10000 ≤ n ∧ n / 262144 + 0xF0 = byte ∧ n.isValidChar := by
      unfold Nat.isValidChar
      split_ifs at hn <;> omega
    obtain ⟨hge, hdiv, hvalid⟩ := hrange
    have hencoded := utf8EncodeChar_four (c := Char.ofNat n) (by rw [hchar hvalid]; omega)
    rw [hchar hvalid] at hencoded
    rw [hencoded, eq_ofNat_of_toNat_eq (show lead.toNat = n / 262144 + 0xF0 by omega)]
    exact ⟨hvalid, rfl⟩

def Begins (part : Bytes) : Prop := ∃ c : Char, part <+: utf8EncodeChar c

theorem Within.begins {part : Bytes} {missing low high value : Nat}
    (hwithin : Within part missing low high value) : Begins part := by
  have hle := hwithin.low_le_high
  have hpositive : 0 < 64 ^ missing := Nat.pow_pos (by decide)
  have hadmits : (State.partway missing low high value).Admits ((value * 64 + low) * 64 ^ missing) :=
    ⟨Nat.le_refl _, Nat.mul_lt_mul_of_pos_right (by omega) hpositive⟩
  exact ⟨_, _, (hwithin.encoded _ hadmits).2.symm⟩

def Due (low high : Nat) (byte : UInt8) : Prop := 0x80 + low ≤ byte.toNat ∧ byte.toNat ≤ 0x80 + high

private theorem Within.admits_of_due {part : Bytes} {missing low high value : Nat}
    (hwithin : Within part missing low high value) {byte : UInt8} (hbyte : Due low high byte) {n : Nat}
    (hge : (value * 64 + (byte.toNat - 0x80)) * 64 ^ missing ≤ n)
    (hlt : n < (value * 64 + (byte.toNat - 0x80) + 1) * 64 ^ missing) :
    (State.partway missing low high value).Admits n ∧ UInt8.ofNat (n / 64 ^ missing % 64 + 128) = byte := by
  obtain ⟨hlow, hhigh⟩ := hbyte
  have hhigh64 := hwithin.high_lt
  have hpositive : 0 < 64 ^ missing := Nat.pow_pos (by decide)
  have hdiv : n / 64 ^ missing = value * 64 + (byte.toNat - 0x80) := by
    rw [Nat.div_eq_iff hpositive]
    rw [Nat.add_mul] at hlt
    omega
  refine ⟨⟨?_, ?_⟩, ?_⟩
  · exact Nat.le_trans (Nat.mul_le_mul_right _ (by omega)) hge
  · exact Nat.lt_of_lt_of_le hlt (Nat.mul_le_mul_right _ (by omega))
  · rw [hdiv]
    refine (eq_ofNat_of_toNat_eq ?_).symm
    omega

private theorem Within.next {part : Bytes} {missing low high value : Nat}
    (hwithin : Within part (missing + 1) low high value) {byte : UInt8} (hbyte : Due low high byte) :
    Within (part ++ [byte]) missing 0 0x3F (value * 64 + (byte.toNat - 0x80)) := by
  refine ⟨by omega, by omega, fun n hn => ?_⟩
  obtain ⟨hge, hlt⟩ := hn
  have hpow : 64 ^ (missing + 1) = 64 * 64 ^ missing := Nat.pow_succ'
  obtain ⟨hadmits, hlead⟩ := hwithin.admits_of_due hbyte (n := n)
    (by rw [hpow, ← Nat.mul_assoc]; simpa using hge)
    (by rw [hpow, ← Nat.mul_assoc]; simpa [Nat.add_mul, Nat.add_assoc] using hlt)
  obtain ⟨hvalid, hencoded⟩ := hwithin.encoded n hadmits
  rw [tailBytes, hlead] at hencoded
  exact ⟨hvalid, by rw [hencoded, List.append_assoc]; rfl⟩

theorem Within.begins_append {part : Bytes} {missing low high value : Nat}
    (hwithin : Within part missing low high value) {byte : UInt8} (hbyte : Due low high byte) :
    Begins (part ++ [byte]) := by
  have hpositive : 0 < 64 ^ missing := Nat.pow_pos (by decide)
  obtain ⟨hadmits, hlead⟩ := hwithin.admits_of_due hbyte (Nat.le_refl _)
    (Nat.mul_lt_mul_of_pos_right (Nat.lt_succ_self _) hpositive)
  have hencoded := (hwithin.encoded _ hadmits).2
  rw [tailBytes, hlead] at hencoded
  exact ⟨_, _, by rw [hencoded, List.append_assoc]; rfl⟩

private theorem due_of_admits {missing low high value n : Nat} (hhigh : high < 64)
    (hadmits : (State.partway missing low high value).Admits n) :
    Due low high (UInt8.ofNat (n / 64 ^ missing % 64 + 128)) ∧
      value * 64 + ((UInt8.ofNat (n / 64 ^ missing % 64 + 128)).toNat - 0x80) = n / 64 ^ missing := by
  obtain ⟨hge, hlt⟩ := hadmits
  have hpositive : 0 < 64 ^ missing := Nat.pow_pos (by decide)
  have hlow : value * 64 + low ≤ n / 64 ^ missing := (Nat.le_div_iff_mul_le hpositive).2 hge
  have hup : n / 64 ^ missing < value * 64 + high + 1 := (Nat.div_lt_iff_lt_mul hpositive).2 hlt
  have hbyte := UInt8.toNat_ofNat_of_lt' (show n / 64 ^ missing % 64 + 128 < 0x100 by omega)
  rw [Due, hbyte]
  omega

private theorem decodeFrom_partway_of_due {missing low high value : Nat} {byte : UInt8}
    (hbyte : Due low high byte) (rest : Bytes) :
    decodeFrom (.partway (missing + 1) low high value) (byte :: rest) =
      decodeFrom (.partway missing 0 0x3F (value * 64 + (byte.toNat - 0x80))) rest := by
  unfold Due at hbyte
  rw [decodeFrom, step, if_pos hbyte]
  rfl

private theorem decodeFrom_partway_zero_of_due {low high value : Nat} {byte : UInt8}
    (hbyte : Due low high byte) (rest : Bytes) :
    decodeFrom (.partway 0 low high value) (byte :: rest) =
      Char.ofNat (value * 64 + (byte.toNat - 0x80)) :: decode rest := by
  unfold Due at hbyte
  rw [decodeFrom, step, if_pos hbyte]
  rfl

theorem decodeFrom_partway_of_not_due {missing low high value : Nat} {byte : UInt8}
    (hbyte : ¬ Due low high byte) (rest : Bytes) :
    decodeFrom (.partway missing low high value) (byte :: rest) =
      replacement :: decode (byte :: rest) := by
  unfold Due at hbyte
  rw [decodeFrom, step, if_neg hbyte]
  rfl

theorem decode_cons_of_lead {byte : UInt8} {state : State} (hlead : Lead byte.toNat state) (rest : Bytes) :
    decode (byte :: rest) = decodeFrom state rest := by
  rw [decode, decodeFrom, step, hlead.start_eq]
  rfl

private theorem admits_quotient (missing n : Nat) :
    (State.partway missing 0 0x3F (n / 64 ^ (missing + 1))).Admits n := by
  have hpositive : 0 < 64 ^ (missing + 1) := Nat.pow_pos (by decide)
  have hge := Nat.div_mul_le_self n (64 ^ (missing + 1))
  have hlt := Nat.lt_div_mul_add (a := n) hpositive
  generalize n / 64 ^ (missing + 1) = quotient at hge hlt
  have hlow : (quotient * 64 + 0) * 64 ^ missing = quotient * 64 ^ (missing + 1) := by ring
  have hup : (quotient * 64 + 63 + 1) * 64 ^ missing =
      quotient * 64 ^ (missing + 1) + 64 ^ (missing + 1) := by ring
  exact ⟨hlow ▸ hge, hup ▸ hlt⟩

private theorem decodeFrom_tailBytes {missing low high value n : Nat} (hhigh : high < 64)
    (hadmits : (State.partway missing low high value).Admits n) (rest : Bytes) :
    decodeFrom (.partway missing low high value) (tailBytes (missing + 1) n ++ rest) =
      Char.ofNat n :: decode rest := by
  induction missing generalizing low high value with
  | zero =>
    obtain ⟨hdue, hvalue⟩ := due_of_admits hhigh hadmits
    rw [tailBytes, List.cons_append, decodeFrom_partway_zero_of_due hdue, hvalue]
    simp [tailBytes]
  | succ missing ih =>
    obtain ⟨hdue, hvalue⟩ := due_of_admits hhigh hadmits
    rw [tailBytes, List.cons_append, decodeFrom_partway_of_due hdue, hvalue]
    exact ih (by decide) (admits_quotient missing n)

theorem decode_utf8EncodeChar_append (c : Char) (rest : Bytes) :
    decode (utf8EncodeChar c ++ rest) = c :: decode rest := by
  by_cases hascii : c.toNat < 0x80
  · have hbyte := UInt8.toNat_ofNat_of_lt' (show c.toNat < 0x100 by omega)
    rw [utf8EncodeChar_one hascii, decode, List.cons_append, decodeFrom, step, hbyte, start,
      if_pos hascii]
    simp [decode]
  · obtain ⟨lead, state, hlead, hadmits, hencoded⟩ := exists_lead_of_char c (by omega)
    rw [hencoded, List.cons_append, decode_cons_of_lead hlead]
    cases state with
    | ready => exact absurd hadmits id
    | partway missing low high value =>
      have hwithin := Within.of_lead hlead
      rw [State.due, decodeFrom_tailBytes hwithin.high_lt hadmits, Char.ofNat_toNat]

/-- Bytes that a character begins with, but that are not all of it, leave the reader in its middle. -/
theorem exists_within_of_front {part front back : Bytes} {missing low high value n : Nat}
    (hwithin : Within part missing low high value)
    (hadmits : (State.partway missing low high value).Admits n)
    (htail : tailBytes (missing + 1) n = front ++ back) (hback : back ≠ []) :
    ∃ missing' low' high' value', Within (part ++ front) missing' low' high' value' ∧
      ∀ rest, decodeFrom (.partway missing low high value) (front ++ rest) =
        decodeFrom (.partway missing' low' high' value') rest := by
  induction front generalizing part missing low high value with
  | nil => exact ⟨_, _, _, _, by simpa using hwithin, fun rest => rfl⟩
  | cons byte front ih =>
    obtain ⟨hdue, hvalue⟩ := due_of_admits hwithin.high_lt hadmits
    rw [tailBytes, List.cons_append, List.cons.injEq] at htail
    obtain ⟨rfl, htail⟩ := htail
    cases missing with
    | zero =>
      have hnil : front ++ back = [] := htail.symm
      exact absurd (List.append_eq_nil_iff.1 hnil).2 hback
    | succ missing =>
      have hnext := hwithin.next hdue
      rw [hvalue] at hnext
      obtain ⟨missing', low', high', value', hwithin', hreading⟩ :=
        ih hnext (admits_quotient missing n) htail
      refine ⟨missing', low', high', value', by simpa using hwithin', fun rest => ?_⟩
      rw [List.cons_append, decodeFrom_partway_of_due hdue, hvalue, hreading]

private theorem decode_encode_append (text : Text) (rest : Bytes) :
    decode (encode text ++ rest) = text ++ decode rest := by
  induction text with
  | nil => rfl
  | cons c text ih =>
    rw [encode, List.flatMap_cons, List.append_assoc, decode_utf8EncodeChar_append]
    exact congrArg (c :: ·) ih

/-- Bytes that encode a text. -/
def IsText (bytes : Bytes) : Prop := ∃ text, encode text = bytes

theorem decode_encode (text : Text) : decode (encode text) = text := by
  have h := decode_encode_append text []
  rwa [List.append_nil, show decode [] = [] from rfl, List.append_nil] at h

theorem decode?_encode (text : Text) : decode? (encode text) = some text := by
  rw [decode?, decode_encode]
  exact if_pos rfl

theorem isText_iff_isSome_decode? {bytes : Bytes} : IsText bytes ↔ (decode? bytes).isSome = true := by
  rw [Option.isSome_iff_exists]
  constructor
  · rintro ⟨text, rfl⟩
    exact ⟨text, decode?_encode text⟩
  · rintro ⟨text, htext⟩
    exact ⟨text, encode_of_decode? htext⟩

instance (bytes : Bytes) : Decidable (IsText bytes) := decidable_of_iff' _ isText_iff_isSome_decode?

theorem decode_append_lineFeed (first second : Bytes) :
    decode (first ++ 0x0A :: second) = decode first ++ '\n' :: decode second := by
  suffices hfrom : ∀ state, decodeFrom state (first ++ 0x0A :: second) =
      decodeFrom state first ++ '\n' :: decode second from hfrom .ready
  intro state
  induction first generalizing state with
  | nil =>
    cases state with
    | ready => rfl
    | partway missing low high value =>
      have hnot : ¬ Due low high 0x0A := by
        intro hdue
        have hge : 0x80 + low ≤ 0x0A := hdue.1
        omega
      rw [List.nil_append, decodeFrom_partway_of_not_due hnot]
      rfl
  | cons byte first ih => simp only [List.cons_append, decodeFrom, ih, List.append_assoc]

end Overrule.Utf8
