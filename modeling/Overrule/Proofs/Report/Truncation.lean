import Overrule.Proofs.Report.Document
import Overrule.Proofs.Report.Sinks

namespace Overrule

namespace Outcome

private def documentBytes (outcomes : List Outcome) : Bytes :=
  Utf8.encode ((document outcomes).text ++ if (document outcomes).complete then ['\n'] else [])

private def breakOff? (outcomes : List Outcome) : Option DocumentError :=
  if (document outcomes).complete then none else some (.serialize .pathNotText)

private theorem breakOff?_eq_none_iff {outcomes : List Outcome} :
    breakOff? outcomes = none ↔ ∀ outcome ∈ outcomes, Utf8.IsText outcome.path := by
  rw [← complete_document_iff, breakOff?]
  split
  · exact iff_of_true rfl ‹_›
  · exact iff_of_false (Option.some_ne_none _) ‹_›

private theorem writeDocument_run_of_unlimited (outcomes : List Outcome) :
    (writeDocument outcomes Sink.write).run .unlimited =
      (breakOff? outcomes, { Sink.unlimited with taken := documentBytes outcomes }) := by
  rw [writeDocument_run_of_endless rfl, breakOff?, documentBytes]
  split
  · rfl
  · rw [List.append_nil]
    rfl

private theorem writeDocument_run_of_limited (outcomes : List Outcome) (room : Nat) (fault : SystemError) :
    (writeDocument outcomes Sink.write).run (.limited room fault) =
      (if (documentBytes outcomes).length ≤ room then breakOff? outcomes
        else if (document outcomes).complete = true ∧ room + 1 = (documentBytes outcomes).length then
          some (.finish fault)
        else some (.serialize (.stream fault)),
        ⟨(documentBytes outcomes).take room, some (room - (documentBytes outcomes).length), fault⟩) := by
  rw [writeDocument_run, Sink.limited, Sink.take_of_room rfl, List.nil_append, documentBytes, breakOff?]
  cases hcomplete : (document outcomes).complete with
  | false =>
    rw [if_neg Bool.false_ne_true, if_neg Bool.false_ne_true, List.append_nil]
    generalize Utf8.encode (document outcomes).text = body
    by_cases hfits : body.length ≤ room
    · rw [if_pos hfits, if_pos hfits]
      rfl
    · rw [if_neg hfits, if_neg hfits, if_neg fun h => Bool.false_ne_true h.1]
  | true =>
    have hlineFeed : (Utf8.encode ['\n']).length = 1 := rfl
    rw [if_pos rfl, if_pos rfl, Utf8.encode_append, List.length_append, hlineFeed, List.take_append]
    generalize Utf8.encode (document outcomes).text = body
    by_cases hfits : body.length ≤ room
    · -- The line feed is a second write, to a sink of which the document has used up its part.
      rw [if_pos hfits]
      dsimp only
      rw [if_pos rfl, Sink.take_of_room rfl, hlineFeed, Nat.sub_sub]
      by_cases hroom : body.length + 1 ≤ room
      · rw [if_pos (by omega), if_pos hroom]
        rfl
      · rw [if_neg (by omega), if_neg hroom, if_pos ⟨rfl, by omega⟩]
        rfl
    · have hnone : room - body.length = 0 := by omega
      have hless : room - (body.length + 1) = 0 := by omega
      have hmore : ¬ (true = true ∧ room + 1 = body.length + 1) := fun h => hfits (by omega)
      rw [if_neg hfits, if_neg (by omega), if_neg hmore, hnone, hless, List.take_zero, List.append_nil]

end Outcome

/-- A sink that takes some number of bytes and then fails is left with as many bytes of the document as it would have
taken otherwise. If that is all of them, nothing else is different. If not, its failure is the cause: of a report that
was not finished if the line feed behind a document of paths that are text was all that is missing, and of one that was
not put together in all other cases. -/
theorem document_is_cut_off (outcomes : List Outcome) (n : Nat) (fault : SystemError) :
    let whole := (Outcome.writeDocument outcomes Sink.write).run .unlimited
    let cut := (Outcome.writeDocument outcomes Sink.write).run (.limited n fault)
    let document := whole.2.taken
    let onlyLineFeed := (∀ outcome ∈ outcomes, Utf8.IsText outcome.path) ∧ n + 1 = document.length
    (whole.1 = none ↔ ∀ outcome ∈ outcomes, Utf8.IsText outcome.path) ∧
      cut.2.taken = document.take n ∧
      (document.length ≤ n → cut.1 = whole.1) ∧
      (n < document.length → ∃ error, cut.1 = some error ∧
        (onlyLineFeed → error = .finish fault ∧ error.message = "write report: ".toList ++ fault.message) ∧
        (¬ onlyLineFeed → error = .serialize (.stream fault) ∧
          error.message = "serialize report: ".toList ++ fault.message)) := by
  intro whole cut document onlyLineFeed
  have hwhole : whole = _ := Outcome.writeDocument_run_of_unlimited outcomes
  have hcut : cut = _ := Outcome.writeDocument_run_of_limited outcomes n fault
  have hdocument : document = Outcome.documentBytes outcomes := congrArg (·.2.taken) hwhole
  have hlast : onlyLineFeed ↔
      (Outcome.document outcomes).complete = true ∧ n + 1 = (Outcome.documentBytes outcomes).length := by
    rw [← hdocument, Outcome.complete_document_iff]
  have hresult := congrArg Prod.fst hcut
  dsimp only at hresult
  refine ⟨?_, ?_, fun hfits => ?_, fun hless => ?_⟩
  · rw [hwhole]
    exact Outcome.breakOff?_eq_none_iff
  · rw [hcut, hdocument]
  · rw [hdocument] at hfits
    rw [hresult, if_pos hfits, hwhole]
  · rw [hdocument, ← Nat.not_le] at hless
    rw [if_neg hless] at hresult
    by_cases honly : onlyLineFeed
    · rw [if_pos (hlast.1 honly)] at hresult
      exact ⟨_, hresult, fun _ => ⟨rfl, rfl⟩, fun hnot => absurd honly hnot⟩
    · rw [if_neg fun h => honly (hlast.2 h)] at hresult
      exact ⟨_, hresult, fun h => absurd h honly, fun _ => ⟨rfl, rfl⟩⟩

/-- A document that is cut within an escape, one of which only the line feed is missing, and one that is cut before the
path at which it breaks off. -/
theorem documents_cut_off_in_three_places :
    let file : Outcome := ⟨[0x61], .unreadable ['\t']⟩
    let latin : Outcome := ⟨[0xFF], .passed 0⟩
    ((Outcome.writeDocument [file] Sink.write).run .unlimited).2.taken.length = 77 ∧
      ((Outcome.writeDocument [file, latin] Sink.write).run .unlimited).2.taken.length = 92 ∧
      ((Outcome.writeDocument [file] Sink.write).run (.limited 68 .deviceFull)).1 =
        some (.serialize (.stream .deviceFull)) ∧
      ((Outcome.writeDocument [file] Sink.write).run (.limited 76 .deviceFull)).1 = some (.finish .deviceFull) ∧
      ((Outcome.writeDocument [file, latin] Sink.write).run (.limited 91 .deviceFull)).1 =
        some (.serialize (.stream .deviceFull)) := by
  intro file latin
  have hfile : ((Outcome.writeDocument [file] Sink.write).run .unlimited).2.taken.length = 77 := by decide +kernel
  have hlatin : ((Outcome.writeDocument [file, latin] Sink.write).run .unlimited).2.taken.length = 92 := by
    decide +kernel
  have htext : ∀ outcome ∈ [file], Utf8.IsText outcome.path := by decide
  have hnotText : ¬ ∀ outcome ∈ [file, latin], Utf8.IsText outcome.path := by decide
  refine ⟨hfile, hlatin, ?_, ?_, ?_⟩
  · obtain ⟨error, hcut, _, hserialize⟩ :=
      (document_is_cut_off [file] 68 .deviceFull).2.2.2 (by rw [hfile]; decide)
    rw [hcut, (hserialize fun honly => absurd (honly.2.trans hfile) (by decide)).1]
  · obtain ⟨error, hcut, hfinish, _⟩ :=
      (document_is_cut_off [file] 76 .deviceFull).2.2.2 (by rw [hfile]; decide)
    rw [hcut, (hfinish ⟨htext, hfile.symm⟩).1]
  · obtain ⟨error, hcut, _, hserialize⟩ :=
      (document_is_cut_off [file, latin] 91 .deviceFull).2.2.2 (by rw [hlatin]; decide)
    rw [hcut, (hserialize fun honly => absurd honly.1 hnotText).1]

namespace Outcome

/-- Whether a file was read and found to have collisions. -/
def Collides (outcome : Outcome) : Prop :=
  ∃ ruleCount reports, outcome.status = .collisions ruleCount reports

variable (outcome : Outcome) (colour : Bool)

private theorem collides_of_bytesFor_ne_nil (herr : outcome.bytesFor colour .err ≠ [])
    (hout : outcome.bytesFor colour .out ≠ []) : outcome.Collides := by
  obtain ⟨path, status⟩ := outcome
  cases status with
  | passed ruleCount => exact absurd rfl herr
  | collisions ruleCount reports => exact ⟨ruleCount, reports, rfl⟩
  | unreadable message => exact absurd rfl hout

variable {n m : Nat} (outFault errFault : SystemError)

private theorem write_run_of_le (hfits : (outcome.bytesFor colour .err).length ≤ m) :
    (outcome.write colour Streams.write).run ⟨.limited n outFault, .limited m errFault⟩ =
      (if (outcome.bytesFor colour .out).length ≤ n then none else some outFault,
        ⟨⟨(outcome.bytesFor colour .out).take n, some (n - (outcome.bytesFor colour .out).length), outFault⟩,
          ⟨outcome.bytesFor colour .err, some (m - (outcome.bytesFor colour .err).length), errFault⟩⟩) := by
  rw [write_run, Sink.limited, Sink.limited, Sink.take_of_room rfl, Sink.take_of_room rfl, if_pos hfits,
    List.take_of_length_le hfits]
  rfl

private theorem write_run_of_lt (hcut : m < (outcome.bytesFor colour .err).length) :
    (outcome.write colour Streams.write).run ⟨.limited n outFault, .limited m errFault⟩ =
      (some errFault, ⟨.limited n outFault, ⟨(outcome.bytesFor colour .err).take m, some 0, errFault⟩⟩) := by
  have hnone : m - (outcome.bytesFor colour .err).length = 0 := by omega
  rw [write_run, Sink.limited, Sink.limited, Sink.take_of_room rfl, if_neg (by omega), hnone]
  rfl

private theorem writeEach_pieces {pieces : Put → List Text} (hpieces : ∀ put, (pieces put).flatten = put.text) :
    writeEach Streams.write ((outcome.lines colour).flatMap fun put => (pieces put).map (Put.mk put.channel)) =
      outcome.write colour Streams.write := by
  refine writeEach_flatMap (fun put => ?_) (outcome.lines colour)
  rw [Streams.writeEach_texts, hpieces]

end Outcome

/-- Each stream is left with the beginning of what is for it, as far as there is room. If the headline of a file with
collisions does not fit, none of them is written. The report on a file is written if and only if all of it fits. It
makes no difference in which pieces the lines are written. -/
theorem lines_are_cut_off (outcome : Outcome) (colour : Bool) (n m : Nat) (outFault errFault : SystemError) :
    let whole := ((outcome.write colour Streams.write).run ⟨.unlimited, .unlimited⟩).2
    let cut := (outcome.write colour Streams.write).run ⟨.limited n outFault, .limited m errFault⟩
    (cut.2.out.taken <+: whole.out.taken ∧ cut.2.err.taken <+: whole.err.taken) ∧
      (outcome.Collides ∧ m < whole.err.taken.length →
        cut.1 = some errFault ∧ cut.2.err.taken = whole.err.taken.take m ∧ cut.2.out.taken = []) ∧
      (¬ (outcome.Collides ∧ m < whole.err.taken.length) →
        cut.2.err.taken = whole.err.taken.take m ∧ cut.2.out.taken = whole.out.taken.take n) ∧
      (cut.1 = none ↔ whole.out.taken.length ≤ n ∧ whole.err.taken.length ≤ m) ∧
      ∀ pieces : Put → List Text, (∀ put, (pieces put).flatten = put.text) →
        (writeEach Streams.write
            ((outcome.lines colour).flatMap fun put => (pieces put).map (Put.mk put.channel))).run
          ⟨.limited n outFault, .limited m errFault⟩ = cut := by
  intro whole cut
  have hout : whole.out.taken = outcome.bytesFor colour .out :=
    congrArg (·.2.out.taken) (outcome.write_run_of_endless colour)
  have herr : whole.err.taken = outcome.bytesFor colour .err :=
    congrArg (·.2.err.taken) (outcome.write_run_of_endless colour)
  have hpieces (pieces : Put → List Text) (hflatten : ∀ put, (pieces put).flatten = put.text) :=
    congrFun (outcome.writeEach_pieces colour hflatten) ⟨.limited n outFault, .limited m errFault⟩
  rw [hout, herr]
  by_cases hfits : (outcome.bytesFor colour .err).length ≤ m
  · have hcut : cut = _ := outcome.write_run_of_le colour outFault errFault hfits
    have hnot : ¬ m < (outcome.bytesFor colour .err).length := by omega
    rw [hcut]
    dsimp only
    refine ⟨⟨List.take_prefix _ _, List.prefix_rfl⟩, fun h => absurd h.2 hnot, fun _ => ⟨?_, rfl⟩, ?_,
      fun pieces hflatten => (hpieces pieces hflatten).trans hcut⟩
    · rw [List.take_of_length_le hfits]
    · rw [and_iff_left hfits]
      split
      · exact iff_of_true rfl ‹_›
      · exact iff_of_false (Option.some_ne_none _) ‹_›
  · have hless : m < (outcome.bytesFor colour .err).length := by omega
    have hcut : cut = _ := outcome.write_run_of_lt colour outFault errFault hless
    rw [hcut]
    dsimp only
    refine ⟨⟨List.nil_prefix, List.take_prefix _ _⟩, fun _ => ⟨rfl, rfl, rfl⟩, fun h => ⟨rfl, ?_⟩, ?_,
      fun pieces hflatten => (hpieces pieces hflatten).trans hcut⟩
    · -- Nothing is for the other stream, since there are no collisions.
      have hnil : outcome.bytesFor colour .out = [] := by
        by_contra hne
        have hfilled : outcome.bytesFor colour .err ≠ [] := List.ne_nil_of_length_pos (by omega)
        exact h ⟨outcome.collides_of_bytesFor_ne_nil colour hfilled hne, hless⟩
      rw [hnil, List.take_nil]
      rfl
    · exact iff_of_false (Option.some_ne_none _) (fun h => hfits h.2)

/-- There is no room for the line feed of a headline, and then there is nothing of the collision. -/
theorem collision_without_its_headline :
    let earlier : Rule := ⟨1, "/a".toList, "/x".toList, ⟨["L".toList]⟩, []⟩
    let later : Rule := ⟨2, "/ab".toList, "/y".toList, ⟨[[]]⟩, []⟩
    let outcome : Outcome := ⟨[0x61], .collisions 2 [⟨earlier, later⟩]⟩
    outcome.Collides ∧
      29 < ((outcome.write true Streams.write).run ⟨.unlimited, .unlimited⟩).2.err.taken.length ∧
      ((outcome.write true Streams.write).run ⟨.limited 46 .deviceFull, .limited 29 .deviceFull⟩).1 =
        some .deviceFull ∧
      ((outcome.write true Streams.write).run ⟨.limited 46 .deviceFull, .limited 29 .deviceFull⟩).2.err.taken =
        ((outcome.write true Streams.write).run ⟨.unlimited, .unlimited⟩).2.err.taken.take 29 ∧
      ((outcome.write true Streams.write).run ⟨.limited 46 .deviceFull, .limited 29 .deviceFull⟩).2.out.taken = [] := by
  intro earlier later outcome
  have hcollides : outcome.Collides := ⟨2, _, rfl⟩
  have hless : 29 < ((outcome.write true Streams.write).run ⟨.unlimited, .unlimited⟩).2.err.taken.length := by
    decide +kernel
  have hcut := (lines_are_cut_off outcome true 46 29 .deviceFull .deviceFull).2.1 ⟨hcollides, hless⟩
  exact ⟨hcollides, hless, hcut⟩

end Overrule
