import Overrule.Report.Document
import Overrule.Report.Lines

namespace Overrule

section Pieces

variable {m : Type → Type} [Monad m] {α β : Type}

def unlessFailed (more : m (Option SystemError)) : Option SystemError → m (Option SystemError)
  | none => more
  | some fault => pure (some fault)

private theorem writeEach_cons (write : α → m (Option SystemError)) (thing : α) (things : List α) :
    writeEach write (thing :: things) = write thing >>= unlessFailed (writeEach write things) := rfl

private theorem writeEach_append [LawfulMonad m] (write : α → m (Option SystemError)) (first second : List α) :
    writeEach write (first ++ second) = writeEach write first >>= unlessFailed (writeEach write second) := by
  induction first with
  | nil => rw [List.nil_append, writeEach, pure_bind, unlessFailed]
  | cons thing first ih =>
    rw [List.cons_append, writeEach_cons, writeEach_cons, ih, bind_assoc]
    congr 1
    funext fault
    cases fault with
    | none => rfl
    | some fault => rw [unlessFailed, unlessFailed, pure_bind, unlessFailed]

private theorem writeEach_map (write : β → m (Option SystemError)) (form : α → β) (things : List α) :
    writeEach write (things.map form) = writeEach (fun thing => write (form thing)) things := by
  induction things with
  | nil => rfl
  | cons thing things ih => rw [List.map_cons, writeEach_cons, writeEach_cons, ih]

theorem writeEach_flatMap [LawfulMonad m] {write : β → m (Option SystemError)} {whole : α → m (Option SystemError)}
    {parts : α → List β} (hparts : ∀ thing, writeEach write (parts thing) = whole thing) (things : List α) :
    writeEach write (things.flatMap parts) = writeEach whole things := by
  induction things with
  | nil => rfl
  | cons thing things ih => rw [List.flatMap_cons, writeEach_append, hparts, ih, writeEach_cons]

/-- A writer to which it makes no difference in which pieces it is given a text. -/
private structure Gathers (write : Text → m (Option SystemError)) : Prop where
  nil : write [] = pure none
  append (first second : Text) : write (first ++ second) = write first >>= unlessFailed (write second)

private theorem Gathers.writeEach_eq {write : Text → m (Option SystemError)} (hwrite : Gathers write)
    (pieces : List Text) : writeEach write pieces = write pieces.flatten := by
  induction pieces with
  | nil => rw [writeEach, List.flatten_nil, hwrite.nil]
  | cons piece pieces ih => rw [writeEach_cons, ih, List.flatten_cons, hwrite.append]

end Pieces

namespace Sink

theorem take_of_endless {sink : Sink} (hroom : sink.room = none) (bytes : Bytes) :
    sink.take bytes = (none, { sink with taken := sink.taken ++ bytes }) := by
  rw [take, hroom]

theorem take_of_room {sink : Sink} {room : Nat} (hroom : sink.room = some room) (bytes : Bytes) :
    sink.take bytes = (if bytes.length ≤ room then none else some sink.fault,
      { sink with taken := sink.taken ++ bytes.take room, room := some (room - bytes.length) }) := by
  rw [take, hroom]
  dsimp only
  split
  · rename_i hfits
    rw [List.take_of_length_le hfits]
  · rename_i hfull
    have hnone : room - bytes.length = 0 := by omega
    rw [hnone]

theorem taken_take {sink after : Sink} {bytes : Bytes} (htake : sink.take bytes = (none, after)) :
    after.taken = sink.taken ++ bytes := by
  cases hroom : sink.room with
  | none =>
    rw [take_of_endless hroom] at htake
    cases htake
    rfl
  | some room =>
    rw [take_of_room hroom] at htake
    by_cases hfits : bytes.length ≤ room
    · rw [if_pos hfits, List.take_of_length_le hfits] at htake
      cases htake
      rfl
    · rw [if_neg hfits] at htake
      cases htake

private theorem take_nil (sink : Sink) : sink.take [] = (none, sink) := by
  cases hroom : sink.room with
  | none => rw [take_of_endless hroom, List.append_nil]
  | some room =>
    rw [take_of_room hroom, List.take_nil, List.append_nil, List.length_nil, if_pos (Nat.zero_le _), Nat.sub_zero,
      ← hroom]

private theorem take_append (sink : Sink) (first second : Bytes) :
    sink.take (first ++ second) =
      match sink.take first with
      | (none, between) => between.take second
      | (some fault, between) => (some fault, between) := by
  cases hroom : sink.room with
  | none => simp only [take_of_endless, hroom, List.append_assoc]
  | some room =>
    rw [take_of_room hroom, take_of_room hroom, List.take_append, List.length_append]
    by_cases hfirst : first.length ≤ room
    · rw [if_pos hfirst]
      dsimp only
      rw [take_of_room rfl, List.append_assoc, Nat.sub_sub]
      by_cases hsecond : second.length ≤ room - first.length
      · rw [if_pos hsecond, if_pos (by omega)]
      · rw [if_neg hsecond, if_neg (by omega)]
    · -- Nothing of the second part fits, and no room is left in either case.
      have hnone : room - first.length = 0 := by omega
      have hmore : room - (first.length + second.length) = 0 := by omega
      rw [if_neg hfirst, if_neg (by omega), hnone, hmore, List.take_zero, List.append_nil]

private theorem gathers_write : Gathers write := by
  refine ⟨?_, fun first second => ?_⟩
  · funext sink
    exact take_nil sink
  · funext sink
    change sink.take (Utf8.encode (first ++ second)) = (write first >>= unlessFailed (write second)).run sink
    rw [Utf8.encode_append, take_append, run_bind]
    change _ = (unlessFailed (write second) (sink.take (Utf8.encode first)).1).run (sink.take (Utf8.encode first)).2
    rcases sink.take (Utf8.encode first) with ⟨fault, between⟩
    cases fault with
    | none => rfl
    | some fault => rfl

private theorem writeEach_run (texts : List Text) (sink : Sink) :
    (writeEach write texts).run sink = sink.take (Utf8.encode texts.flatten) :=
  congrFun (gathers_write.writeEach_eq texts) sink

end Sink

/-- A document is taken as far as it can be written, and then the line feed behind it if it is complete. -/
theorem Outcome.writeDocument_run (outcomes : List Outcome) (sink : Sink) :
    (writeDocument outcomes Sink.write).run sink =
      match sink.take (Utf8.encode (document outcomes).text) with
      | (some fault, after) => (some (.serialize (.stream fault)), after)
      | (none, after) =>
        if (document outcomes).complete then
          ((after.take (Utf8.encode ['\n'])).1.map .finish, (after.take (Utf8.encode ['\n'])).2)
        else (some (.serialize .pathNotText), after) := by
  rw [writeDocument, run_bind, Sink.writeEach_run, Draft.text]
  rcases sink.take (Utf8.encode (document outcomes).pieces.flatten) with ⟨fault, after⟩
  cases fault with
  | some fault => rfl
  | none =>
    dsimp only
    cases (document outcomes).complete with
    | true => rfl
    | false => rfl

/-- A sink that takes everything takes a document as far as it can be written, and the line feed behind it if it is
complete. -/
theorem Outcome.writeDocument_run_of_endless {sink : Sink} (hroom : sink.room = none) (outcomes : List Outcome) :
    (writeDocument outcomes Sink.write).run sink =
      if (document outcomes).complete then
        (none, { sink with taken := sink.taken ++ Utf8.encode ((document outcomes).text ++ ['\n']) })
      else
        (some (.serialize .pathNotText),
          { sink with taken := sink.taken ++ Utf8.encode (document outcomes).text }) := by
  rw [writeDocument_run, Sink.take_of_endless hroom]
  dsimp only
  split
  · simp only [Sink.take_of_endless, hroom, Option.map_none, Utf8.encode_append, List.append_assoc]
  · rfl

def textsFor (channel : Channel) (puts : List Put) : Text :=
  (puts.filter (·.channel = channel)).flatMap Put.text

theorem textsFor_append (channel : Channel) (first second : List Put) :
    textsFor channel (first ++ second) = textsFor channel first ++ textsFor channel second := by
  simp [textsFor, List.filter_append]

theorem textsFor_flatMap {α : Type} (channel : Channel) (things : List α) (puts : α → List Put) :
    textsFor channel (things.flatMap puts) = things.flatMap fun thing => textsFor channel (puts thing) := by
  simp only [textsFor, List.filter_flatMap, List.flatMap_assoc]

namespace Streams

/-- What a stream has taken. -/
def taken (streams : Streams) : Channel → Bytes
  | .out => streams.out.taken
  | .err => streams.err.taken

def sink (streams : Streams) : Channel → Sink
  | .out => streams.out
  | .err => streams.err

def withSink (streams : Streams) (channel : Channel) (sink : Sink) : Streams :=
  match channel with
  | .out => { streams with out := sink }
  | .err => { streams with err := sink }

private def onSink {α : Type} (channel : Channel) (step : StateM Sink α) : StateM Streams α := fun streams =>
  ((step.run (streams.sink channel)).1, streams.withSink channel (step.run (streams.sink channel)).2)

private theorem onSink_pure {α : Type} (channel : Channel) (value : α) : onSink channel (pure value) = pure value := by
  funext streams
  cases channel with
  | out => rfl
  | err => rfl

private theorem onSink_bind {α β : Type} (channel : Channel) (step : StateM Sink α) (next : α → StateM Sink β) :
    onSink channel (step >>= next) = onSink channel step >>= fun value => onSink channel (next value) := by
  funext streams
  cases channel with
  | out => rfl
  | err => rfl

private theorem write_eq_onSink (channel : Channel) (text : Text) :
    write ⟨channel, text⟩ = onSink channel (Sink.write text) := by
  funext streams
  cases channel with
  | out => rfl
  | err => rfl

private theorem gathers_write (channel : Channel) : Gathers fun text => write ⟨channel, text⟩ := by
  refine ⟨?_, fun first second => ?_⟩
  · rw [write_eq_onSink, Sink.gathers_write.nil, onSink_pure]
  · rw [write_eq_onSink, Sink.gathers_write.append, onSink_bind, write_eq_onSink]
    congr 1
    funext fault
    cases fault with
    | none => exact (write_eq_onSink channel second).symm
    | some fault => exact onSink_pure channel (some fault)

theorem writeEach_texts (channel : Channel) (texts : List Text) :
    writeEach write (texts.map (Put.mk channel)) = write ⟨channel, texts.flatten⟩ := by
  rw [writeEach_map, (gathers_write channel).writeEach_eq]

end Streams

namespace Outcome

private def linesFor (outcome : Outcome) (colour : Bool) (channel : Channel) : List Text :=
  ((outcome.lines colour).filter (·.channel = channel)).map Put.text

private theorem flatten_linesFor (outcome : Outcome) (colour : Bool) (channel : Channel) :
    (outcome.linesFor colour channel).flatten = textsFor channel (outcome.lines colour) := by
  rw [linesFor, textsFor, List.flatMap_def]

private theorem lines_eq_append (outcome : Outcome) (colour : Bool) :
    outcome.lines colour =
      (outcome.linesFor colour .err).map (Put.mk .err) ++ (outcome.linesFor colour .out).map (Put.mk .out) := by
  obtain ⟨path, status⟩ := outcome
  cases status with
  | passed ruleCount => rfl
  | collisions ruleCount reports =>
    simp [linesFor, lines, Function.comp_def, List.filter_eq_self.2, List.filter_eq_nil_iff.2]
  | unreadable message => rfl

/-- The report on a file is two writes: what it has for errors, and then, unless that failed, all else. -/
private theorem write_eq (outcome : Outcome) (colour : Bool) :
    outcome.write colour Streams.write =
      Streams.write ⟨.err, textsFor .err (outcome.lines colour)⟩ >>=
        unlessFailed (Streams.write ⟨.out, textsFor .out (outcome.lines colour)⟩) := by
  rw [write, lines_eq_append, writeEach_append, Streams.writeEach_texts, Streams.writeEach_texts, flatten_linesFor,
    flatten_linesFor, ← lines_eq_append]

def bytesFor (outcome : Outcome) (colour : Bool) (channel : Channel) : Bytes :=
  Utf8.encode (textsFor channel (outcome.lines colour))

theorem write_run (outcome : Outcome) (colour : Bool) (streams : Streams) :
    (outcome.write colour Streams.write).run streams =
      match streams.err.take (outcome.bytesFor colour .err) with
      | (some fault, err) => (some fault, ⟨streams.out, err⟩)
      | (none, err) =>
        ((streams.out.take (outcome.bytesFor colour .out)).1,
          ⟨(streams.out.take (outcome.bytesFor colour .out)).2, err⟩) := by
  rw [write_eq, run_bind, Streams.write_eq_onSink]
  change (unlessFailed _ (streams.err.take (outcome.bytesFor colour .err)).1 : StateM Streams _).run
    ⟨streams.out, (streams.err.take (outcome.bytesFor colour .err)).2⟩ = _
  rcases streams.err.take (outcome.bytesFor colour .err) with ⟨fault, err⟩
  cases fault with
  | some fault => rfl
  | none => rfl

theorem write_run_of_endless (outcome : Outcome) (colour : Bool) :
    (outcome.write colour Streams.write).run ⟨.unlimited, .unlimited⟩ =
      (none, ⟨{ Sink.unlimited with taken := outcome.bytesFor colour .out },
        { Sink.unlimited with taken := outcome.bytesFor colour .err }⟩) := by
  rw [write_run, Sink.take_of_endless rfl, Sink.take_of_endless rfl]
  rfl

end Outcome

end Overrule
