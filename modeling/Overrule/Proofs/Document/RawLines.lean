import Overrule.Proofs.Document.Rules
import Overrule.Proofs.Text.Decoding
import Overrule.Validation

namespace Overrule

open Document

def lineFeed : UInt8 := 0x0A

/-- The lines of a file, as bytes. -/
def rawLines (content : Bytes) : List Bytes := content.splitOn lineFeed

/-- A file with one of its lines written anew. The first line is at place 0. -/
def replaceRawLine (content : Bytes) (place : Nat) (line : Bytes) : Bytes :=
  [lineFeed].intercalate ((rawLines content).set place line)

private theorem decode_intercalate (line : Bytes) (lines : List Bytes) :
    Utf8.decode ([lineFeed].intercalate (line :: lines)) =
      ['\n'].intercalate ((line :: lines).map Utf8.decode) := by
  induction lines generalizing line with
  | nil => simp
  | cons next lines ih =>
    have hbytes : [lineFeed].intercalate (line :: next :: lines) =
        line ++ lineFeed :: [lineFeed].intercalate (next :: lines) := by
      simp [List.intercalate_cons_cons]
    have htext : ['\n'].intercalate ((line :: next :: lines).map Utf8.decode) =
        Utf8.decode line ++ '\n' :: ['\n'].intercalate ((next :: lines).map Utf8.decode) := by
      simp [List.intercalate_cons_cons]
    rw [hbytes, htext, lineFeed, Utf8.decode_append_lineFeed]
    exact congrArg (fun below => Utf8.decode line ++ '\n' :: below) (ih next)

private theorem lines_decode (content : Bytes) :
    (Utf8.decode content).lines = (rawLines content).map Utf8.decode := by
  obtain ⟨line, lines, hlines⟩ := List.exists_cons_of_ne_nil (List.splitOn_ne_nil lineFeed content)
  have hwhole : [lineFeed].intercalate (line :: lines) = content := by
    rw [← hlines, List.intercalate_splitOn]
  rw [rawLines, hlines, ← hwhole, decode_intercalate, Text.lines]
  refine List.splitOn_intercalate '\n' ?_ (by simp)
  intro text htext
  obtain ⟨raw, hraw, rfl⟩ := List.mem_map.1 htext
  exact Utf8.lineFeed_not_mem_decode (Text.not_mem_of_mem_splitOn (hlines ▸ hraw))

private theorem isLine_decode_iff {content : Bytes} {number : Nat} {line : Text} :
    IsLine (Utf8.decode content) number line ↔
      ∃ place raw, number = place + 1 ∧ (rawLines content)[place]? = some raw ∧ Utf8.decode raw = line := by
  rw [IsLine, lines_decode]
  constructor
  · rintro ⟨place, rfl, hget⟩
    rw [List.getElem?_map, Option.map_eq_some_iff] at hget
    obtain ⟨raw, hraw, hline⟩ := hget
    exact ⟨place, raw, rfl, hraw, hline⟩
  · rintro ⟨place, raw, rfl, hraw, rfl⟩
    exact ⟨place, rfl, by rw [List.getElem?_map, hraw, Option.map_some]⟩

private theorem rulesOfBytes_eq_filterMap_rawLines (content : Bytes) :
    rulesOfBytes content = ((rawLines content).zipIdx 1).filterMap fun (line, number) =>
      Rule.ofLine? number (Utf8.decode line) := by
  rw [rulesOfBytes, rules_eq_filterMap_numberedLines, numberedLines, lines_decode, List.zipIdx_map,
    List.filterMap_map]
  rfl

private theorem rawLines_replaceRawLine (content : Bytes) (place : Nat) {line : Bytes} (hline : lineFeed ∉ line) :
    rawLines (replaceRawLine content place line) = (rawLines content).set place line := by
  refine List.splitOn_intercalate lineFeed ?_ ?_
  · intro other hother
    rcases List.mem_or_eq_of_mem_set hother with hother | rfl
    · exact Text.not_mem_of_mem_splitOn hother
    · exact hline
  · intro hnil
    have hlength := congrArg List.length hnil
    rw [List.length_set, List.length_nil, List.length_eq_zero_iff] at hlength
    exact List.splitOn_ne_nil lineFeed content hlength

private theorem hasRule_replaceRawLine_iff {content line : Bytes} {place : Nat} (hline : lineFeed ∉ line)
    {rule : Rule} (hother : rule.index ≠ place + 1) :
    HasRule (Utf8.decode (replaceRawLine content place line)) rule.index rule ↔
      HasRule (Utf8.decode content) rule.index rule := by
  have hsame (text : Text) : IsLine (Utf8.decode (replaceRawLine content place line)) rule.index text ↔
      IsLine (Utf8.decode content) rule.index text := by
    rw [isLine_decode_iff, isLine_decode_iff, rawLines_replaceRawLine content place hline]
    refine exists_congr fun other => exists_congr fun raw => and_congr_right fun hindex => ?_
    rw [List.getElem?_set_ne (by omega)]
  exact exists_congr fun text => and_congr_left fun _ => hsame text

private theorem mem_rulesOfBytes_iff {content : Bytes} {rule : Rule} :
    rule ∈ rulesOfBytes content ↔ HasRule (Utf8.decode content) rule.index rule :=
  mem_rules_iff

private theorem filter_rulesOfBytes_replaceRawLine {content line : Bytes} {place : Nat} (hline : lineFeed ∉ line) :
    (rulesOfBytes (replaceRawLine content place line)).filter (·.index ≠ place + 1) =
      (rulesOfBytes content).filter (·.index ≠ place + 1) := by
  refine ((ascending_rules _).filter _).eq_of_mem_iff ((ascending_rules _).filter _) fun rule => ?_
  rw [List.mem_filter, List.mem_filter]
  refine and_congr_left fun hother => ?_
  have hsame : HasRule (Utf8.decode (replaceRawLine content place line)) rule.index rule ↔
      HasRule (Utf8.decode content) rule.index rule :=
    hasRule_replaceRawLine_iff hline (by simpa using hother)
  exact (mem_rulesOfBytes_iff.trans hsame).trans mem_rulesOfBytes_iff.symm

/-- Bytes that are no text stay in their own line. The rules of a file are those that its lines give when each is
decoded by itself, as the standard reads it; so whatever is written on one line instead, all rules of the other
lines and their numbers remain. -/
theorem readRules_line_by_line (tree : FileTree) (path : Path) (content : Bytes)
    (hcontent : tree.read path = .ok content) :
    tree.readRules path = .ok (((rawLines content).zipIdx 1).filterMap fun (line, number) =>
        Rule.ofLine? number (Utf8.decode line)) ∧
      (∀ (place : Nat) (line : Bytes), lineFeed ∉ line →
        (rulesOfBytes (replaceRawLine content place line)).filter (·.index ≠ place + 1) =
          (rulesOfBytes content).filter (·.index ≠ place + 1)) ∧
      ∀ (bytes : Bytes) (text : Text), Utf8.decode bytes = text ↔ Utf8.Reads bytes text := by
  refine ⟨?_, fun place line hline => filter_rulesOfBytes_replaceRawLine hline,
    fun bytes text => Utf8.decode_eq_iff_reads⟩
  rw [FileTree.readRules, hcontent, ← rulesOfBytes_eq_filterMap_rawLines]

/-- A letter of Latin-1 in a comment, and then a broken character in the source of the rule below it. -/
theorem readRules_latin_comment :
    let comment : Bytes := [0x23, 0x20, 0x63, 0x61, 0x66, 0xE9]
    let rule : Bytes := Utf8.encode "RewriteRule /a /b [L]".toList
    let broken : Bytes := Utf8.encode "RewriteRule /".toList ++ [0xE2, 0x82] ++ Utf8.encode " /b".toList
    let content : Bytes := comment ++ lineFeed :: rule
    let path : Path := Utf8.encode "a".toList
    let tree : FileTree := ⟨[([path], .file content)], []⟩
    tree.read path = .ok content ∧ lineFeed ∉ broken ∧
      tree.readRules path = .ok [⟨2, "/a".toList, "/b".toList, ⟨[['L']]⟩, "RewriteRule /a /b [L]".toList⟩] ∧
      (rulesOfBytes (replaceRawLine content 1 broken)).filter (·.index ≠ 2) =
        (rulesOfBytes content).filter (·.index ≠ 2) := by
  intro comment rule broken content path tree
  have hcontent : tree.read path = .ok content := by rfl
  have hbroken : lineFeed ∉ broken := by decide
  obtain ⟨hrules, hothers, _⟩ := readRules_line_by_line tree path content hcontent
  exact ⟨hcontent, hbroken, hrules, hothers 1 broken hbroken⟩

end Overrule
