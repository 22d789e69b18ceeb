import Overrule.Proofs.Report.ReadBack
import Overrule.Proofs.Text.Escape

namespace Overrule

open Escape

namespace Paint

private theorem exists_code_eq (paint : Paint) :
    ∃ parameters, (∀ c ∈ parameters, isParameter c = true) ∧ paint.code = colourCode parameters := by
  cases paint with
  | green => exact ⟨['3', '2'], List.all_eq_true.1 rfl, rfl⟩
  | red => exact ⟨['3', '1'], List.all_eq_true.1 rfl, rfl⟩
  | bold => exact ⟨['1'], List.all_eq_true.1 rfl, rfl⟩

private def reopenPiece (code : Text) (piece : Piece) : Text :=
  if piece = .code ['0'] then piece.text ++ code else piece.text

private def reopenedPieces (parameters : Text) (piece : Piece) : List Piece :=
  if piece = .code ['0'] then [piece, .code parameters] else [piece]

private theorem reopen_eq (code text : Text) : reopen code text = (pieces text).flatMap (reopenPiece code) := rfl

private theorem prefix_of_prefix_reopened {text front code : Text} {found : List Piece} (hfound : Reads text found)
    (hfront : ∀ c ∈ front, c ≠ esc) (hbegins : front <+: found.flatMap (reopenPiece code)) : front <+: text := by
  induction hfound generalizing front with
  | nil => exact hbegins
  | @code parameters rest found _ _ _ =>
    have hopens : ∃ behind, (Piece.code parameters :: found).flatMap (reopenPiece code) = esc :: behind := by
      rw [List.flatMap_cons, reopenPiece]
      split
      · exact ⟨_, rfl⟩
      · exact ⟨_, rfl⟩
    obtain ⟨behind, hopens⟩ := hopens
    rw [hopens] at hbegins
    cases front with
    | nil => exact List.nil_prefix
    | cons c front => exact absurd (List.cons_prefix_cons.1 hbegins).1 (hfront c List.mem_cons_self)
  | @char c rest found _ _ ih =>
    have hchar : (Piece.char c :: found).flatMap (reopenPiece code) = c :: found.flatMap (reopenPiece code) := rfl
    rw [hchar] at hbegins
    cases front with
    | nil => exact List.nil_prefix
    | cons d front =>
      obtain ⟨hhead, hmore⟩ := List.cons_prefix_cons.1 hbegins
      obtain ⟨_, hfront⟩ := List.forall_mem_cons.1 hfront
      exact List.cons_prefix_cons.2 ⟨hhead, ih hfront hmore⟩

private theorem beginsCode_of_reopened {c : Char} {text code : Text} {found : List Piece} (hfound : Reads text found)
    (hcode : BeginsCode (c :: found.flatMap (reopenPiece code))) : BeginsCode (c :: text) := by
  obtain ⟨parameters, hparameters, hbegins⟩ := hcode
  obtain ⟨hhead, hmore⟩ := List.cons_prefix_cons.1 hbegins
  refine ⟨parameters, hparameters, List.cons_prefix_cons.2 ⟨hhead, prefix_of_prefix_reopened hfound ?_ hmore⟩⟩
  rintro d hd rfl
  rcases List.mem_cons.1 hd with hbracket | hd
  · cases hbracket
  · rcases List.mem_append.1 hd with hparameter | hend
    · cases hparameters esc hparameter
    · cases List.mem_singleton.1 hend

/-- Where a code is repeated, the pieces of the text are found again, and the code after each reset. -/
private theorem reads_reopened {text parameters : Text} {found : List Piece} (hfound : Reads text found)
    (hparameters : ∀ c ∈ parameters, isParameter c = true) :
    Reads (found.flatMap (reopenPiece (colourCode parameters))) (found.flatMap (reopenedPieces parameters)) := by
  induction hfound with
  | nil => exact .nil
  | @code others rest found hothers _ ih =>
    rw [List.flatMap_cons, List.flatMap_cons, reopenPiece, reopenedPieces]
    by_cases hreset : Piece.code others = .code ['0']
    · rw [if_pos hreset, if_pos hreset, List.append_assoc]
      exact .code hothers (.code hparameters ih)
    · rw [if_neg hreset, if_neg hreset]
      exact .code hothers ih
  | char hnone hrest ih => exact .char (fun hcode => hnone (beginsCode_of_reopened hrest hcode)) ih

private theorem strip_reopen {parameters : Text} (hparameters : ∀ c ∈ parameters, isParameter c = true) (text : Text) :
    strip (reopen (colourCode parameters) text) = strip text := by
  have hshown (piece : Piece) : (reopenedPieces parameters piece).flatMap Piece.shown = piece.shown := by
    rw [reopenedPieces]
    split
    · rename_i hreset
      rw [hreset]
      rfl
    · exact List.append_nil _
  rw [reopen_eq, strip_eq_of_reads (reads_reopened (reads_pieces text) hparameters), List.flatMap_assoc]
  simp only [hshown]
  exact (strip_eq_of_reads (reads_pieces text)).symm

/-- A text is shown the same whether it is painted or not, if a character follows that no code goes on with. -/
theorem strip_apply_append (paint : Paint) (colour : Bool) (text : Text) {rest : Text}
    (hstart : ∀ c ∈ rest.head?, continuesCode c = false) :
    strip (paint.apply colour text ++ rest) = strip text ++ strip rest := by
  cases colour with
  | false => exact strip_append hstart
  | true =>
    obtain ⟨parameters, hparameters, hcode⟩ := paint.exists_code_eq
    have hreset : ∀ c ∈ (resetCode ++ rest).head?, continuesCode c = false := by
      intro c hc
      obtain rfl : esc = c := Option.some.inj hc
      rfl
    calc strip (paint.apply true text ++ rest)
        = strip (colourCode parameters ++ (reopen (colourCode parameters) text ++ (resetCode ++ rest))) := by
          rw [apply, if_pos rfl, hcode, List.append_assoc, List.append_assoc]
      _ = strip (reopen (colourCode parameters) text) ++ strip (resetCode ++ rest) := by
          rw [strip_colourCode_append hparameters, strip_append hreset]
      _ = strip text ++ strip rest := by
          rw [strip_reopen hparameters, resetCode, strip_colourCode_append (List.all_eq_true.1 rfl)]

private theorem strip_apply (paint : Paint) (colour : Bool) (text : Text) :
    strip (paint.apply colour text) = strip text := by
  have hnothing : ∀ c ∈ ([] : Text).head?, continuesCode c = false := by simp
  have happlied := paint.strip_apply_append colour text hnothing
  rwa [List.append_nil, show strip [] = [] from rfl, List.append_nil] at happlied

end Paint

private theorem Collision.strip_line (collision : Collision) (colour : Bool) :
    strip (collision.line colour) = strip (collision.line false) := by
  have hshown (colour : Bool) : strip (collision.line colour) =
      strip ("Redirect ".toList ++ Text.decimal collision.overridden.index) ++ ':' ::
        (strip collision.overridden.source ++
          (strip (" overrides ".toList ++ Text.decimal collision.overrider.index) ++
            ':' :: strip collision.overrider.source)) := by
    have hparts : collision.line colour =
        ("Redirect ".toList ++ Text.decimal collision.overridden.index) ++ ':' ::
          (Paint.bold.apply colour collision.overridden.source ++
            ((" overrides ".toList ++ Text.decimal collision.overrider.index) ++
              ':' :: Paint.bold.apply colour collision.overrider.source)) := by
      have hline : collision.line colour = "Redirect ".toList ++ Text.decimal collision.overridden.index ++ [':'] ++
          Paint.bold.apply colour collision.overridden.source ++ " overrides ".toList ++
          Text.decimal collision.overrider.index ++ [':'] ++
          Paint.bold.apply colour collision.overrider.source := rfl
      rw [hline]
      simp only [List.append_assoc, List.cons_append, List.nil_append]
    have hblank : ∀ c ∈ ((" overrides ".toList ++ Text.decimal collision.overrider.index) ++
        ':' :: Paint.bold.apply colour collision.overrider.source).head?, continuesCode c = false := by
      intro c hc
      obtain rfl : ' ' = c := Option.some.inj hc
      rfl
    rw [hparts, strip_append_cons (by decide) rfl, Paint.strip_apply_append _ _ _ hblank,
      strip_append_cons (by decide) rfl, Paint.strip_apply]
  rw [hshown colour, hshown false]

namespace Outcome

private theorem strip_passedLine (path : Path) (colour : Bool) :
    strip (passedLine path colour) = strip (passedLine path false) := by
  have hshown (colour : Bool) : strip (passedLine path colour) =
      strip path.display ++ ':' :: ' ' :: strip "OK".toList := by
    have hparts : passedLine path colour =
        path.display ++ ':' :: ([] ++ ' ' :: Paint.green.apply colour "OK".toList) := by
      simp [passedLine]
    rw [hparts, strip_append_cons (by decide) rfl, strip_append_cons (by decide) rfl, Paint.strip_apply]
    rfl
  rw [hshown colour, hshown false]

private theorem strip_failedLine (path : Path) (count : Nat) (colour : Bool) :
    strip (failedLine path count colour) = strip (failedLine path count false) := by
  have hshown (colour : Bool) : strip (failedLine path count colour) =
      strip "Failed rules:".toList ++ strip (' ' :: (Text.decimal count ++ " in ".toList ++ path.display)) := by
    have hparts : failedLine path count colour = Paint.red.apply colour "Failed rules:".toList ++
        ' ' :: (Text.decimal count ++ " in ".toList ++ path.display) := by
      simp [failedLine]
    have hblank : ∀ c ∈ (' ' :: (Text.decimal count ++ " in ".toList ++ path.display)).head?,
        continuesCode c = false := by
      intro c hc
      obtain rfl : ' ' = c := Option.some.inj hc
      rfl
    rw [hparts, Paint.strip_apply_append _ _ _ hblank]
  rw [hshown colour, hshown false]

end Outcome

private theorem strip_flatMap_lines {α : Type} (things : List α) (line : α → Text) :
    strip (things.flatMap fun thing => line thing ++ ['\n']) =
      things.flatMap fun thing => strip (line thing) ++ ['\n'] := by
  induction things with
  | nil => rfl
  | cons thing things ih =>
    rw [List.flatMap_cons, List.flatMap_cons, List.append_assoc, List.singleton_append,
      strip_append_cons (by decide) rfl, ih, List.append_assoc, List.singleton_append]

namespace Outcome

/-- The texts in the report on a file that the program has from elsewhere. -/
def texts (outcome : Outcome) : List Text :=
  outcome.path.display ::
    match outcome.status with
    | .passed _ => []
    | .collisions _ reports => reports.flatMap fun report => [report.overridden.source, report.overrider.source]
    | .unreadable message => [message]

/-- The lines of the report on a file for one of the streams, without their ends. -/
private def bareLines (outcome : Outcome) (colour : Bool) (channel : Channel) : List Text :=
  match outcome.status, channel with
  | .passed _, .out => [passedLine outcome.path colour]
  | .passed _, .err => []
  | .collisions _ reports, .out => reports.map (·.line colour)
  | .collisions _ reports, .err => [failedLine outcome.path reports.length colour]
  | .unreadable _, .out => []
  | .unreadable message, .err => [message]

private theorem textsFor_lines_eq (outcome : Outcome) (colour : Bool) (channel : Channel) :
    textsFor channel (outcome.lines colour) =
      (outcome.bareLines colour channel).flatMap fun line => line ++ ['\n'] := by
  obtain ⟨path, status⟩ := outcome
  cases status with
  | passed ruleCount => cases channel <;> simp [textsFor, lines, bareLines]
  | collisions ruleCount reports =>
    cases channel with
    | out => exact textsFor_out_of_collisions rfl colour
    | err => simp [textsFor, lines, bareLines, List.filter_map, Function.comp_def]
  | unreadable message => cases channel <;> simp [textsFor, lines, bareLines]

private theorem map_strip_bareLines (outcome : Outcome) (colour : Bool) (channel : Channel) :
    (outcome.bareLines colour channel).map strip = (outcome.bareLines false channel).map strip := by
  obtain ⟨path, status⟩ := outcome
  cases status with
  | passed ruleCount =>
    cases channel with
    | out => exact congrArg (fun shown => [shown]) (strip_passedLine path colour)
    | err => rfl
  | collisions ruleCount reports =>
    cases channel with
    | out =>
      simp only [bareLines, List.map_map]
      exact List.map_congr_left fun report _ => report.strip_line colour
    | err => exact congrArg (fun shown => [shown]) (strip_failedLine path reports.length colour)
  | unreadable message =>
    cases channel with
    | out => rfl
    | err => rfl

private theorem strip_textsFor_lines (outcome : Outcome) (colour : Bool) (channel : Channel) :
    strip (textsFor channel (outcome.lines colour)) = strip (textsFor channel (outcome.lines false)) := by
  have hshown (colour : Bool) : strip (textsFor channel (outcome.lines colour)) =
      ((outcome.bareLines colour channel).map strip).flatMap fun shown => shown ++ ['\n'] := by
    rw [textsFor_lines_eq, strip_flatMap_lines, List.flatMap_map]
  rw [hshown colour, hshown false, map_strip_bareLines]

end Outcome

private theorem esc_not_mem_decimal (n : Nat) : esc ∉ Text.decimal n := Text.not_mem_decimal rfl

/-- Without colours a line about a collision holds nothing that a code begins with, unless one of the sources does. -/
theorem Collision.esc_not_mem_line {collision : Collision} (hoverridden : esc ∉ collision.overridden.source)
    (hoverrider : esc ∉ collision.overrider.source) : esc ∉ collision.line false := by
  have hline : collision.line false = "Redirect ".toList ++ Text.decimal collision.overridden.index ++ [':'] ++
      collision.overridden.source ++ " overrides ".toList ++ Text.decimal collision.overrider.index ++ [':'] ++
      collision.overrider.source := rfl
  have hwords : esc ∉ "Redirect ".toList ∧ esc ∉ " overrides ".toList ∧ esc ∉ [':'] := by decide
  rw [hline]
  simp only [List.mem_append, not_or]
  exact ⟨⟨⟨⟨⟨⟨⟨hwords.1, esc_not_mem_decimal _⟩, hwords.2.2⟩, hoverridden⟩, hwords.2.1⟩, esc_not_mem_decimal _⟩,
    hwords.2.2⟩, hoverrider⟩

namespace Outcome

private theorem esc_not_mem_bareLines {outcome : Outcome} (htexts : ∀ text ∈ outcome.texts, esc ∉ text)
    {channel : Channel} {line : Text} (hline : line ∈ outcome.bareLines false channel) : esc ∉ line := by
  obtain ⟨path, status⟩ := outcome
  have hpath : esc ∉ path.display := htexts _ List.mem_cons_self
  cases status with
  | passed ruleCount =>
    have hwords : esc ∉ ": ".toList ∧ esc ∉ "OK".toList := by decide
    cases channel with
    | out =>
      obtain rfl := List.mem_singleton.1 hline
      simp only [passedLine, Paint.apply, List.mem_append, not_or]
      exact ⟨⟨hpath, hwords.1⟩, hwords.2⟩
    | err => cases hline
  | collisions ruleCount reports =>
    cases channel with
    | out =>
      obtain ⟨report, hreport, rfl⟩ := List.mem_map.1 hline
      have hsource {source : Text} (hmem : source ∈ [report.overridden.source, report.overrider.source]) :
          esc ∉ source := htexts _ (List.mem_cons_of_mem _ (List.mem_flatMap.2 ⟨report, hreport, hmem⟩))
      exact Collision.esc_not_mem_line (hsource List.mem_cons_self)
        (hsource (List.mem_cons_of_mem _ List.mem_cons_self))
    | err =>
      have hwords : esc ∉ "Failed rules:".toList ∧ esc ∉ [' '] ∧ esc ∉ " in ".toList := by decide
      obtain rfl := List.mem_singleton.1 hline
      simp only [failedLine, Paint.apply, List.mem_append, not_or]
      exact ⟨⟨⟨⟨hwords.1, hwords.2.1⟩, esc_not_mem_decimal _⟩, hwords.2.2⟩, hpath⟩
  | unreadable message =>
    cases channel with
    | out => cases hline
    | err =>
      obtain rfl := List.mem_singleton.1 hline
      exact htexts _ (List.mem_cons_of_mem _ List.mem_cons_self)

private theorem esc_not_mem_textsFor_lines {outcome : Outcome} (htexts : ∀ text ∈ outcome.texts, esc ∉ text)
    (channel : Channel) : esc ∉ textsFor channel (outcome.lines false) := by
  have hend : esc ∉ ['\n'] := by decide
  rw [textsFor_lines_eq]
  intro hmem
  obtain ⟨line, hline, hmem⟩ := List.mem_flatMap.1 hmem
  rcases List.mem_append.1 hmem with hwithin | hbehind
  · exact esc_not_mem_bareLines htexts hline hwithin
  · exact hend hbehind

end Outcome

/-- What the report on a file shows on a stream does not depend on colours, whatever texts stand in it: the same is left
with and without them once all codes are taken out, which are found in one pass from left to right. If none of these
texts holds the character that codes begin with, what is left is the report without colours. -/
theorem colours_show_the_same (outcome : Outcome) (channel : Channel) :
    let written (colour : Bool) : Bytes :=
      ((outcome.write colour Streams.write).run ⟨.unlimited, .unlimited⟩).2.taken channel
    (∃ plain coloured : Text,
      Utf8.decode? (written false) = some plain ∧ Utf8.decode? (written true) = some coloured ∧
        strip coloured = strip plain ∧ ((∀ text ∈ outcome.texts, esc ∉ text) → strip coloured = plain)) ∧
      ∀ text, ∃ found, Reads text found ∧ strip text = found.flatMap Piece.shown := by
  intro written
  have hwritten (colour : Bool) : Utf8.decode? (written colour) = some (textsFor channel (outcome.lines colour)) := by
    have hbytes : written colour = outcome.bytesFor colour channel := by
      simp only [written, outcome.write_run_of_endless colour]
      cases channel with
      | out => rfl
      | err => rfl
    rw [hbytes, Outcome.bytesFor, Utf8.decode?_encode]
  have hsame := outcome.strip_textsFor_lines true channel
  refine ⟨⟨_, _, hwritten false, hwritten true, hsame, fun htexts => ?_⟩,
    fun text => ⟨pieces text, reads_pieces text, rfl⟩⟩
  rw [hsame, strip_eq_self (Outcome.esc_not_mem_textsFor_lines htexts channel)]

/-- Two sources of which one has all of a code but its first character. -/
theorem colours_of_half_a_code :
    let rule (index : Nat) (source : Text) : Rule := ⟨index, source, ['x'], ⟨[['L']]⟩, []⟩
    let outcome : Outcome := ⟨[0x61], .collisions 2 [⟨rule 1 "[1".toList, rule 2 "[1m".toList⟩]⟩
    let painted : Text := "Redirect 1:".toList ++ (colourCode ['1'] ++ "[1".toList ++ resetCode) ++
      " overrides 2:".toList ++ (colourCode ['1'] ++ "[1m".toList ++ resetCode) ++ ['\n']
    (∀ text ∈ outcome.texts, esc ∉ text) ∧
      Utf8.decode? ((outcome.write true Streams.write).run ⟨.unlimited, .unlimited⟩).2.out.taken = some painted ∧
      strip painted = "Redirect 1:[1 overrides 2:[1m\n".toList := by
  intro rule outcome painted
  have htexts : ∀ text ∈ outcome.texts, esc ∉ text := by decide
  have hpainted : Utf8.decode? ((outcome.write true Streams.write).run ⟨.unlimited, .unlimited⟩).2.out.taken =
      some painted := by decide +kernel
  have hplain : Utf8.decode? ((outcome.write false Streams.write).run ⟨.unlimited, .unlimited⟩).2.out.taken =
      some "Redirect 1:[1 overrides 2:[1m\n".toList := by decide +kernel
  obtain ⟨⟨plain, coloured, hwritten, hcoloured, _, hshown⟩, _⟩ := colours_show_the_same outcome .out
  obtain rfl : painted = coloured := Option.some.inj (hpainted.symm.trans hcoloured)
  obtain rfl : "Redirect 1:[1 overrides 2:[1m\n".toList = plain := Option.some.inj (hplain.symm.trans hwritten)
  exact ⟨htexts, hpainted, hshown htexts⟩

-- A code in the text itself is taken out of both, and one that is only begun is left in both.
example : strip (Paint.bold.apply true ('a' :: resetCode ++ [esc, '[', '3'])) = ['a', esc, '[', '3'] := by decide

end Overrule
