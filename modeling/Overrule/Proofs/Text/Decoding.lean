import Mathlib.Data.Nat.Find
import Overrule.Proofs.Text.Encoding

namespace Overrule.Utf8

open String (utf8EncodeChar)

/-- Bytes that may be replaced as a whole: a character begins with them, or there is only one. -/
def Replaceable (part : Bytes) : Prop := part ≠ [] ∧ (Begins part ∨ part.length = 1)

/-- The part at the front of some bytes that is replaced, because no character is encoded there: the longest
that may be replaced. -/
structure MaximalSubpart (part rest : Bytes) : Prop where
  no_char : ∀ c : Char, ¬ utf8EncodeChar c <+: part ++ rest
  replaceable : Replaceable part
  longest : ∀ longer, longer <+: part ++ rest → Replaceable longer → longer.length ≤ part.length

/-- The text that some bytes are read as: an encoding as its character, and in between one replacement for each
maximal part. -/
inductive Reads : Bytes → Text → Prop
  | nil : Reads [] []
  | char (c : Char) {rest : Bytes} {text : Text} (hrest : Reads rest text) :
    Reads (utf8EncodeChar c ++ rest) (c :: text)
  | invalid {part rest : Bytes} {text : Text} (hpart : MaximalSubpart part rest)
    (hrest : Reads rest text) : Reads (part ++ rest) (replacement :: text)

private theorem start_eq_replacement_of_not_begins {byte : UInt8} (hbyte : ¬ Begins [byte]) :
    start byte.toNat = ([replacement], .ready) := by
  rcases start_cases byte.toNat with ⟨hascii, _⟩ | ⟨state, hlead⟩ | hstart
  · refine absurd ⟨Char.ofNat byte.toNat, ?_⟩ hbyte
    have hcode := toNat_ofNat_of_isValidChar (n := byte.toNat) (Or.inl (by omega))
    rw [utf8EncodeChar_one (by omega), hcode, UInt8.ofNat_toNat]
  · cases state with
    | ready => cases hlead
    | partway missing low high value =>
      exact absurd (Within.of_lead hlead).begins hbyte
  · exact hstart

/-- The front of an encoding that is not there as a whole leaves the reader in the middle of a character. -/
private theorem MaximalSubpart.exists_within {part rest : Bytes} (hpart : MaximalSubpart part rest)
    (hbegins : Begins part) :
    ∃ missing low high value, Within part missing low high value ∧
      ∀ more, decode (part ++ more) = decodeFrom (.partway missing low high value) more := by
  obtain ⟨c, back, hencoded⟩ := hbegins
  obtain ⟨byte, front, rfl⟩ := List.exists_cons_of_ne_nil hpart.replaceable.1
  have hback : back ≠ [] := by
    rintro rfl
    refine hpart.no_char c ⟨rest, ?_⟩
    rw [← hencoded, List.append_nil]
  have hbeyond : 0x80 ≤ c.toNat := by
    by_contra hascii
    rw [utf8EncodeChar_one (by omega)] at hencoded
    have hlength := congrArg List.length hencoded
    simp [hback] at hlength
  obtain ⟨lead, state, hlead, hadmits, hlead'⟩ := exists_lead_of_char c hbeyond
  rw [hlead', List.cons_append, List.cons.injEq] at hencoded
  obtain ⟨rfl, htail⟩ := hencoded
  cases state with
  | ready => cases hlead
  | partway missing low high value =>
    obtain ⟨missing', low', high', value', hwithin, hreading⟩ :=
      exists_within_of_front (Within.of_lead hlead) hadmits htail.symm hback
    refine ⟨missing', low', high', value', hwithin, fun more => ?_⟩
    rw [List.cons_append, decode_cons_of_lead hlead, hreading]

private theorem MaximalSubpart.decode_append {part rest : Bytes} (hpart : MaximalSubpart part rest) :
    decode (part ++ rest) = replacement :: decode rest := by
  by_cases hbegins : Begins part
  · obtain ⟨missing, low, high, value, hwithin, hreading⟩ := hpart.exists_within hbegins
    rw [hreading]
    cases rest with
    | nil => rfl
    | cons byte rest =>
      have hnot : ¬ Due low high byte := by
        intro hdue
        have hle := hpart.longest (part ++ [byte]) (by simp)
          ⟨by simp, Or.inl (hwithin.begins_append hdue)⟩
        simp at hle
      exact decodeFrom_partway_of_not_due hnot rest
  · obtain ⟨byte, rfl⟩ := List.length_eq_one_iff.1 (hpart.replaceable.2.resolve_left hbegins)
    rw [decode, List.cons_append, decodeFrom, step, start_eq_replacement_of_not_begins hbegins]
    rfl

private theorem Reads.decode_eq {bytes : Bytes} {text : Text} (hreads : Reads bytes text) : decode bytes = text := by
  induction hreads with
  | nil => rfl
  | char c _ ih => rw [decode_utf8EncodeChar_append, ih]
  | invalid hpart _ ih => rw [hpart.decode_append, ih]

private theorem exists_maximalSubpart {bytes : Bytes} (hne : bytes ≠ [])
    (hnone : ∀ c : Char, ¬ utf8EncodeChar c <+: bytes) :
    ∃ part rest, bytes = part ++ rest ∧ MaximalSubpart part rest := by
  classical
  let count := Nat.findGreatest (fun count => Replaceable (bytes.take count)) bytes.length
  have hpositive : 1 ≤ bytes.length := List.length_pos_iff.2 hne
  have hone : Replaceable (bytes.take 1) := by
    have hlength : (bytes.take 1).length = 1 := by simpa using hpositive
    exact ⟨List.ne_nil_of_length_eq_add_one hlength, Or.inr hlength⟩
  have hcount : Replaceable (bytes.take count) :=
    Nat.findGreatest_spec (P := fun count => Replaceable (bytes.take count)) hpositive hone
  have hwhole : bytes.take count ++ bytes.drop count = bytes := List.take_append_drop _ _
  refine ⟨bytes.take count, bytes.drop count, hwhole.symm, ⟨hwhole.symm ▸ hnone, hcount, ?_⟩⟩
  rw [hwhole]
  intro longer hlonger hreplaceable
  have htake : longer = bytes.take longer.length := List.prefix_iff_eq_take.1 hlonger
  have hle : longer.length ≤ count :=
    Nat.le_findGreatest (P := fun count => Replaceable (bytes.take count)) hlonger.length_le
      (htake ▸ hreplaceable)
  have hbound : count ≤ bytes.length := Nat.findGreatest_le _
  rw [List.length_take]
  omega

private theorem exists_reads (bytes : Bytes) : ∃ text, Reads bytes text := by
  induction hlength : bytes.length using Nat.strong_induction_on generalizing bytes with
  | _ length ih =>
    subst hlength
    have hread {part rest : Bytes} (hpart : part ≠ []) (hwhole : bytes = part ++ rest) :
        ∃ text, Reads rest text := by
      have hpositive := List.length_pos_iff.2 hpart
      refine ih rest.length ?_ rest rfl
      rw [hwhole, List.length_append]
      omega
    by_cases hnil : bytes = []
    · exact ⟨[], hnil ▸ .nil⟩
    · by_cases hchar : ∃ c : Char, utf8EncodeChar c <+: bytes
      · obtain ⟨c, rest, hwhole⟩ := hchar
        obtain ⟨text, htext⟩ := hread (utf8EncodeChar_ne_nil c) hwhole.symm
        exact ⟨c :: text, hwhole ▸ .char c htext⟩
      · obtain ⟨part, rest, hwhole, hpart⟩ := exists_maximalSubpart hnil (not_exists.1 hchar)
        obtain ⟨text, htext⟩ := hread hpart.replaceable.1 hwhole
        exact ⟨replacement :: text, hwhole ▸ .invalid hpart htext⟩

theorem decode_eq_iff_reads {bytes : Bytes} {text : Text} : decode bytes = text ↔ Reads bytes text := by
  constructor
  · rintro rfl
    obtain ⟨text, hreads⟩ := exists_reads bytes
    rwa [hreads.decode_eq]
  · exact Reads.decode_eq

theorem lineFeed_not_mem_decode {bytes : Bytes} (hbytes : 0x0A ∉ bytes) : '\n' ∉ decode bytes := by
  have hreads : Reads bytes (decode bytes) := decode_eq_iff_reads.1 rfl
  generalize decode bytes = text at hreads
  induction hreads with
  | nil => exact List.not_mem_nil
  | char c hrest ih =>
    rw [List.mem_append, not_or] at hbytes
    refine List.not_mem_cons_of_ne_of_not_mem ?_ (ih hbytes.2)
    rintro rfl
    exact hbytes.1 (by decide)
  | invalid hpart hrest ih =>
    rw [List.mem_append, not_or] at hbytes
    exact List.not_mem_cons_of_ne_of_not_mem (by decide) (ih hbytes.2)

end Overrule.Utf8
