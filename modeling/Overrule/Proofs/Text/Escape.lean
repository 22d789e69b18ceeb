import Overrule.Proofs.Text.Pieces
import Overrule.Text.Escape

namespace Overrule.Escape

def BeginsCode (text : Text) : Prop :=
  ∃ parameters, (∀ c ∈ parameters, isParameter c = true) ∧ colourCode parameters <+: text

/-- The codes and characters of a text, found in one pass from left to right: a code is taken as a whole wherever one
begins, and a character where none does. -/
inductive Reads : Text → List Piece → Prop
  | nil : Reads [] []
  | code {parameters rest : Text} {found : List Piece} (hparameters : ∀ c ∈ parameters, isParameter c = true)
    (hrest : Reads rest found) : Reads (colourCode parameters ++ rest) (.code parameters :: found)
  | char {c : Char} {rest : Text} {found : List Piece} (hnone : ¬ BeginsCode (c :: rest)) (hrest : Reads rest found) :
    Reads (c :: rest) (.char c :: found)

def continuesCode (c : Char) : Bool := c == '[' || isParameter c || c == 'm'

private theorem colourCode_append (parameters rest : Text) :
    colourCode parameters ++ rest = esc :: '[' :: (parameters ++ 'm' :: rest) := by
  simp [colourCode, Piece.text]

private theorem beginsCode_colourCode_append {parameters : Text} (hparameters : ∀ c ∈ parameters, isParameter c = true)
    (rest : Text) : BeginsCode (colourCode parameters ++ rest) :=
  ⟨parameters, hparameters, List.prefix_append _ _⟩

private theorem not_beginsCode_of_ne_esc {c : Char} (hc : c ≠ esc) (rest : Text) : ¬ BeginsCode (c :: rest) := by
  rintro ⟨parameters, _, hcode⟩
  exact hc (List.cons_prefix_cons.1 hcode).1.symm

private theorem BeginsCode.bracket {rest : Text} (hcode : BeginsCode (esc :: rest)) : rest.head? = some '[' := by
  obtain ⟨parameters, _, behind, heq⟩ := hcode
  rw [colourCode_append] at heq
  rw [← List.tail_eq_of_cons_eq heq]
  rfl

private theorem isParameter_of_head?_end {rest : Text} : ∀ c ∈ ('m' :: rest).head?, isParameter c = false := by
  intro c hc
  obtain rfl := Option.mem_some_iff.1 hc
  rfl

private theorem BeginsCode.head?_eq {parameters rest : Text} (hparameters : ∀ c ∈ parameters, isParameter c = true)
    (hrest : ∀ c ∈ rest.head?, isParameter c = false)
    (hcode : BeginsCode (esc :: '[' :: (parameters ++ rest))) : rest.head? = some 'm' := by
  obtain ⟨others, hothers, behind, heq⟩ := hcode
  rw [colourCode_append] at heq
  have hbehind : others ++ 'm' :: behind = parameters ++ rest :=
    List.tail_eq_of_cons_eq (List.tail_eq_of_cons_eq heq)
  rw [← (Text.span_append hparameters hrest).2, ← hbehind, (Text.span_append hothers isParameter_of_head?_end).2]
  rfl

private theorem colourCode_append_inj {first second rest behind : Text} (hfirst : ∀ c ∈ first, isParameter c = true)
    (hsecond : ∀ c ∈ second, isParameter c = true)
    (heq : colourCode first ++ rest = colourCode second ++ behind) : first = second ∧ rest = behind := by
  rw [colourCode_append, colourCode_append] at heq
  have hbehind : first ++ 'm' :: rest = second ++ 'm' :: behind :=
    List.tail_eq_of_cons_eq (List.tail_eq_of_cons_eq heq)
  have hparameters : first = second := by
    rw [← (Text.span_append hfirst (@isParameter_of_head?_end rest)).1, hbehind,
      (Text.span_append hsecond isParameter_of_head?_end).1]
  subst hparameters
  exact ⟨rfl, List.tail_eq_of_cons_eq (List.append_cancel_left hbehind)⟩

/-- No code begins in one text and ends in another one that begins with a character no code goes on with. -/
private theorem BeginsCode.of_append {c : Char} {first second : Text}
    (hsecond : ∀ d ∈ second.head?, continuesCode d = false) (hcode : BeginsCode (c :: first ++ second)) :
    BeginsCode (c :: first) := by
  obtain ⟨parameters, hparameters, behind, heq⟩ := hcode
  rcases List.append_eq_append_iff.1 heq with ⟨more, hmore, _⟩ | ⟨more, hmore, hbehind⟩
  · exact ⟨parameters, hparameters, more, hmore.symm⟩
  · cases more with
    | nil =>
      rw [List.append_nil] at hmore
      exact ⟨parameters, hparameters, hmore ▸ List.prefix_rfl⟩
    | cons d more =>
      -- The character that no code goes on with would stand within the code.
      have hwithin : d ∈ '[' :: (parameters ++ ['m']) := by
        have htail : '[' :: (parameters ++ ['m']) = first ++ d :: more := List.tail_eq_of_cons_eq hmore
        rw [htail]
        exact List.mem_append_right _ List.mem_cons_self
      have hd : continuesCode d = false := hsecond d (by rw [hbehind]; rfl)
      rcases List.mem_cons.1 hwithin with rfl | hwithin
      · cases hd
      · rcases List.mem_append.1 hwithin with hparameter | hend
        · simp [continuesCode, hparameters d hparameter] at hd
        · obtain rfl := List.mem_singleton.1 hend
          cases hd

private theorem Reads.unique {text : Text} {first second : List Piece} (hfirst : Reads text first)
    (hsecond : Reads text second) : first = second := by
  induction hfirst generalizing second with
  | nil =>
    cases hsecond with
    | nil => rfl
  | @code parameters rest found hparameters hrest ih =>
    generalize htext : colourCode parameters ++ rest = text at hsecond
    cases hsecond with
    | nil => cases htext
    | code hothers hbehind =>
      obtain ⟨rfl, rfl⟩ := colourCode_append_inj hparameters hothers htext
      rw [ih hbehind]
    | char hnone _ => exact absurd (htext ▸ beginsCode_colourCode_append hparameters rest) hnone
  | @char c rest found hnone hrest ih =>
    generalize htext : c :: rest = text at hsecond
    cases hsecond with
    | nil => cases htext
    | code hothers _ => exact absurd (htext ▸ beginsCode_colourCode_append hothers _) hnone
    | char _ hbehind =>
      cases htext
      rw [ih hbehind]

private def Held.text (held : Held) : Text := held.release.flatMap Piece.text

private def Held.Sound : Held → Prop
  | .parameters read => ∀ c ∈ read, isParameter c = true
  | _ => True

private theorem Held.text_parameters (read : Text) : (Held.parameters read).text = esc :: '[' :: read := by
  simp [text, release, Piece.text, List.flatMap_map]

private theorem Reads.append_plain {plain rest : Text} {found : List Piece} (hplain : ∀ c ∈ plain, c ≠ esc)
    (hrest : Reads rest found) : Reads (plain ++ rest) (plain.map .char ++ found) := by
  induction plain with
  | nil => exact hrest
  | cons c plain ih =>
    obtain ⟨hc, hplain⟩ := List.forall_mem_cons.1 hplain
    exact .char (not_beginsCode_of_ne_esc hc _) (ih hplain)

private theorem Reads.release {read rest : Text} {found : List Piece} (hread : ∀ c ∈ read, isParameter c = true)
    (hstart : ∀ c ∈ rest.head?, isParameter c = false ∧ c ≠ 'm') (hrest : Reads rest found) :
    Reads ((Held.parameters read).text ++ rest) (Held.release (.parameters read) ++ found) := by
  have hnone : ¬ BeginsCode (esc :: '[' :: (read ++ rest)) := fun hcode =>
    (hstart 'm' (hcode.head?_eq hread fun c hc => (hstart c hc).1)).2 rfl
  have hplain : ∀ c ∈ '[' :: read, c ≠ esc := by
    rintro c hc rfl
    rcases List.mem_cons.1 hc with hbracket | hparameter
    · cases hbracket
    · cases hread esc hparameter
  rw [Held.text_parameters]
  exact .char hnone (Reads.append_plain hplain hrest)

private theorem reads_piecesFrom {held : Held} (hheld : held.Sound) (text : Text) :
    Reads (held.text ++ text) (piecesFrom held text) := by
  fun_induction piecesFrom held text with
  | case1 held =>
    cases held with
    | nothing => exact .nil
    | opened => exact .char (fun hcode => Option.some_ne_none '[' hcode.bracket.symm) .nil
    | parameters read =>
      rw [← List.append_nil (Held.release _)]
      exact Reads.release hheld (by simp) .nil
  | case2 rest ih => exact ih trivial
  | case3 c rest hc ih => exact .char (not_beginsCode_of_ne_esc hc rest) (ih trivial)
  | case4 rest ih => exact ih fun c hc => absurd hc List.not_mem_nil
  | case5 rest hc ih => exact .char (fun hcode => hc (Option.some.inj hcode.bracket)) (ih trivial)
  | case6 c rest hbracket hc ih =>
    exact .char (fun hcode => hbracket (Option.some.inj hcode.bracket))
      (.char (not_beginsCode_of_ne_esc hc rest) (ih trivial))
  | case7 read c rest hc ih =>
    have hmore : ∀ d ∈ read ++ [c], isParameter d = true := by
      intro d hd
      rcases List.mem_append.1 hd with hd | hd
      · exact hheld d hd
      · rwa [List.mem_singleton.1 hd]
    have hread := ih hmore
    rw [Held.text_parameters] at hread ⊢
    simpa using hread
  | case8 read rest hend ih =>
    have hread := Reads.code hheld (ih trivial)
    rw [Held.text_parameters]
    rwa [colourCode_append] at hread
  | case9 read rest hc hend ih => exact Reads.release hheld (by simp [hc, hend]) (ih trivial)
  | case10 read c rest hparameter hend hc ih =>
    exact Reads.release hheld (by simp [hparameter, hend]) (.char (not_beginsCode_of_ne_esc hc rest) (ih trivial))

private theorem pieces_eq_iff_reads {text : Text} {found : List Piece} : pieces text = found ↔ Reads text found := by
  have hnothing : Held.Sound .nothing := trivial
  have hpieces : Reads text (pieces text) := reads_piecesFrom hnothing text
  exact ⟨fun heq => heq ▸ hpieces, fun hfound => hpieces.unique hfound⟩

theorem reads_pieces (text : Text) : Reads text (pieces text) := pieces_eq_iff_reads.1 rfl

/-- A text behind another one is read by itself if it begins with a character that no code goes on with. -/
private theorem Reads.append {first second : Text} {found more : List Piece} (hfirst : Reads first found)
    (hsecond : Reads second more) (hstart : ∀ c ∈ second.head?, continuesCode c = false) :
    Reads (first ++ second) (found ++ more) := by
  induction hfirst with
  | nil => exact hsecond
  | code hparameters _ ih =>
    rw [List.append_assoc]
    exact .code hparameters ih
  | char hnone _ ih => exact .char (fun hcode => hnone (hcode.of_append hstart)) ih

/-- What a text shows of a piece. -/
def Piece.shown : Piece → Text
  | .char c => [c]
  | .code _ => []

theorem strip_eq_of_reads {text : Text} {found : List Piece} (hfound : Reads text found) :
    strip text = found.flatMap Piece.shown := by
  rw [← pieces_eq_iff_reads.2 hfound]
  rfl

theorem strip_append {first second : Text} (hstart : ∀ c ∈ second.head?, continuesCode c = false) :
    strip (first ++ second) = strip first ++ strip second := by
  rw [strip_eq_of_reads ((reads_pieces first).append (reads_pieces second) hstart), List.flatMap_append]
  rfl

theorem strip_append_cons {c : Char} (hesc : c ≠ esc) (hc : continuesCode c = false) (first rest : Text) :
    strip (first ++ c :: rest) = strip first ++ c :: strip rest := by
  have hcons : Reads (c :: rest) (.char c :: pieces rest) :=
    .char (not_beginsCode_of_ne_esc hesc rest) (reads_pieces rest)
  rw [strip_append (by simpa using hc), strip_eq_of_reads hcons]
  rfl

theorem strip_colourCode_append {parameters : Text} (hparameters : ∀ c ∈ parameters, isParameter c = true)
    (rest : Text) : strip (colourCode parameters ++ rest) = strip rest := by
  rw [strip_eq_of_reads (.code hparameters (reads_pieces rest))]
  rfl

theorem strip_eq_self {text : Text} (htext : esc ∉ text) : strip text = text := by
  have hplain : Reads (text ++ []) (text.map .char ++ []) :=
    Reads.append_plain (fun c hc hesc => htext (hesc ▸ hc)) .nil
  rw [List.append_nil, List.append_nil] at hplain
  rw [strip_eq_of_reads hplain, List.flatMap_map]
  exact List.flatMap_singleton' text

end Overrule.Escape
