import Overrule.Proofs.Json.Grammar

namespace Overrule.Json

def signs : List Char := ['[', ']', '\x7b', '\x7d', ',', ':', '"']

/-- Whether a character can be part of a literal: it is neither a blank nor a sign. -/
def isBare (c : Char) : Bool := !isBlank c && !signs.contains c

def ofLiteral? (literal : Text) : Option Value :=
  if literal = "null".toList then some .null
  else if literal = "true".toList then some (.truth true)
  else if literal = "false".toList then some (.truth false)
  else if isNumber literal then some (.number literal)
  else none

namespace Reader

/-- An array or an object that is open, with what was read of it before the value that is due now. -/
inductive Frame where
  | item (items : List Value)
  | member (members : List (Text × Value)) (name : Text)
  deriving Repr

inductive Stage where
  /-- A value is due, or the bracket that closes an array without items. -/
  | due (closable : Bool)
  /-- The name of a member is due, or the brace that closes an object without members. -/
  | name (members : List (Text × Value)) (closable : Bool)
  /-- Inside a string, which is the name of a member if there are members given; possibly behind a backslash. -/
  | quoted (members? : Option (List (Text × Value))) (body : Text) (escaped : Bool)
  | colon (members : List (Text × Value)) (name : Text)
  | bare (literal : Text)
  | done (value : Value)
  deriving Repr

structure State where
  frames : List Frame
  stage : Stage
  deriving Repr

def follow (frames : List Frame) (value : Value) (c : Char) : Option State :=
  if isBlank c then some ⟨frames, .done value⟩
  else
    match c, frames with
    | ',', .item items :: frames => some ⟨.item (items ++ [value]) :: frames, .due false⟩
    | ',', .member members name :: frames => some ⟨frames, .name (members ++ [(name, value)]) false⟩
    | ']', .item items :: frames => some ⟨frames, .done (.array (items ++ [value]))⟩
    | '\x7d', .member members name :: frames => some ⟨frames, .done (.object (members ++ [(name, value)]))⟩
    | _, _ => none

def begin (frames : List Frame) (closable : Bool) (c : Char) : Option State :=
  if isBlank c then some ⟨frames, .due closable⟩
  else if isBare c then some ⟨frames, .bare [c]⟩
  else
    match c, frames, closable with
    | '"', _, _ => some ⟨frames, .quoted none [] false⟩
    | '[', _, _ => some ⟨.item [] :: frames, .due true⟩
    | '\x7b', _, _ => some ⟨frames, .name [] true⟩
    | ']', .item items :: frames, true => some ⟨frames, .done (.array items)⟩
    | _, _, _ => none

def beginName (frames : List Frame) (members : List (Text × Value)) (closable : Bool) (c : Char) : Option State :=
  if isBlank c then some ⟨frames, .name members closable⟩
  else
    match c, closable with
    | '"', _ => some ⟨frames, .quoted (some members) [] false⟩
    | '\x7d', true => some ⟨frames, .done (.object members)⟩
    | _, _ => none

def unquote (frames : List Frame) (members? : Option (List (Text × Value))) (body : Text) : Option State :=
  (unescape? body).map fun text =>
    match members? with
    | none => ⟨frames, .done (.string text)⟩
    | some members => ⟨frames, .colon members text⟩

def step (state : State) (c : Char) : Option State :=
  match state.stage with
  | .due closable => begin state.frames closable c
  | .name members closable => beginName state.frames members closable c
  | .quoted members? body true => some ⟨state.frames, .quoted members? (body ++ [c]) false⟩
  | .quoted members? body false =>
    if c = '"' then unquote state.frames members? body
    else some ⟨state.frames, .quoted members? (body ++ [c]) (c = '\\')⟩
  | .colon members name =>
    if isBlank c then some state
    else if c = ':' then some ⟨.member members name :: state.frames, .due false⟩
    else none
  | .bare literal =>
    if isBare c then some ⟨state.frames, .bare (literal ++ [c])⟩
    else (ofLiteral? literal).bind fun value => follow state.frames value c
  | .done value => follow state.frames value c

def Stage.value? : Stage → Option Value
  | .bare literal => ofLiteral? literal
  | .done value => some value
  | _ => none

def finish (state : State) : Option Value := if state.frames.isEmpty then state.stage.value? else none

end Reader

def read? (text : Text) : Option Value :=
  (text.foldlM Reader.step ⟨[], .due false⟩).bind Reader.finish

namespace Reader

def Leads (state : State) (text : Text) (after : State) : Prop := text.foldlM step state = some after

private theorem Leads.refl (state : State) : Leads state [] state := rfl

private theorem Leads.single {state after : State} {c : Char} (hstep : step state c = some after) :
    Leads state [c] after := by
  simp [Leads, hstep]

private theorem Leads.trans {state between after : State} {first second : Text} (hfirst : Leads state first between)
    (hsecond : Leads between second after) : Leads state (first ++ second) after := by
  rw [Leads, List.foldlM_append, hfirst]
  exact hsecond

private theorem Leads.cons {state between after : State} {c : Char} {text : Text} (hstep : step state c = some between)
    (htext : Leads between text after) : Leads state (c :: text) after :=
  (Leads.single hstep).trans htext

private theorem Leads.blanks {state : State} (hblank : ∀ c, isBlank c = true → step state c = some state) {text : Text}
    (htext : IsBlank text) : Leads state text state := by
  induction text with
  | nil => exact .refl state
  | cons c text ih =>
    obtain ⟨hc, htext⟩ := List.forall_mem_cons.1 htext
    exact .cons (hblank c hc) (ih htext)

private theorem leads_blanks_due (frames : List Frame) (closable : Bool) {text : Text} (htext : IsBlank text) :
    Leads ⟨frames, .due closable⟩ text ⟨frames, .due closable⟩ := by
  apply Leads.blanks _ htext
  intro c hc
  simp [step, begin, hc]

private theorem leads_blanks_name (frames : List Frame) (members : List (Text × Value)) (closable : Bool) {text : Text}
    (htext : IsBlank text) : Leads ⟨frames, .name members closable⟩ text ⟨frames, .name members closable⟩ := by
  apply Leads.blanks _ htext
  intro c hc
  simp [step, beginName, hc]

structure Holds (frames : List Frame) (value : Value) (state : State) : Prop where
  frames_eq : state.frames = frames
  value_eq : state.stage.value? = some value

private theorem Holds.done (frames : List Frame) (value : Value) :
    Holds frames value ⟨frames, .done value⟩ := ⟨rfl, rfl⟩

private theorem Holds.step_eq {frames : List Frame} {value : Value} {state : State} (hholds : Holds frames value state)
    {c : Char} (hc : isBare c = false) : step state c = follow frames value c := by
  obtain ⟨_, stage⟩ := state
  obtain ⟨rfl, hvalue⟩ := hholds
  cases stage with
  | done found =>
    obtain rfl := Option.some.inj hvalue
    rfl
  | bare literal =>
    have hliteral : ofLiteral? literal = some value := hvalue
    simp [step, hc, hliteral]
  | due | name | quoted | colon => cases hvalue

private theorem follow_blank (frames : List Frame) (value : Value) {c : Char} (hc : isBlank c = true) :
    follow frames value c = some ⟨frames, .done value⟩ := by
  unfold follow
  exact if_pos hc

private theorem Holds.blanks {frames : List Frame} {value : Value} {state : State} (hholds : Holds frames value state)
    {text : Text} (htext : IsBlank text) : ∃ after, Leads state text after ∧ Holds frames value after := by
  cases text with
  | nil => exact ⟨state, .refl state, hholds⟩
  | cons c text =>
    obtain ⟨hc, htext⟩ := List.forall_mem_cons.1 htext
    have hfirst : step state c = some ⟨frames, .done value⟩ := by
      rw [hholds.step_eq (by simp [isBare, hc]), follow_blank frames value hc]
    have hrest : Leads ⟨frames, .done value⟩ text ⟨frames, .done value⟩ := by
      apply Leads.blanks _ htext
      intro c hblank
      exact follow_blank frames value hblank
    exact ⟨_, .cons hfirst hrest, .done frames value⟩

private theorem leads_bare {frames : List Frame} {literal text : Text} (htext : ∀ c ∈ text, isBare c = true) :
    Leads ⟨frames, .bare literal⟩ text ⟨frames, .bare (literal ++ text)⟩ := by
  induction text generalizing literal with
  | nil => simpa using Leads.refl _
  | cons c text ih =>
    obtain ⟨hc, htext⟩ := List.forall_mem_cons.1 htext
    have hfirst : step ⟨frames, .bare literal⟩ c = some ⟨frames, .bare (literal ++ [c])⟩ := by simp [step, hc]
    simpa using (Leads.single hfirst).trans (ih htext)

private theorem leads_literal {literal : Text} (hbare : ∀ c ∈ literal, isBare c = true) {value : Value}
    (hvalue : ofLiteral? literal = some value) (frames : List Frame) (closable : Bool) :
    ∃ after, Leads ⟨frames, .due closable⟩ literal after ∧ Holds frames value after := by
  cases literal with
  | nil => cases hvalue
  | cons c literal =>
    obtain ⟨hc, hbare⟩ := List.forall_mem_cons.1 hbare
    have hblank : isBlank c = false := by
      simp only [isBare, Bool.and_eq_true, Bool.not_eq_true'] at hc
      exact hc.1
    have hfirst : step ⟨frames, .due closable⟩ c = some ⟨frames, .bare [c]⟩ := by simp [step, begin, hblank, hc]
    exact ⟨_, .cons hfirst (leads_bare hbare), rfl, hvalue⟩

private def isNumeric (c : Char) : Bool := c.isDigit || ['-', '+', '.', 'e', 'E'].contains c

private theorem isBare_of_isNumeric {c : Char} (hc : isNumeric c = true) : isBare c = true := by
  have hblanks : ∀ blank ∈ [' ', '\t', '\n', '\r'], (!isNumeric blank) = true := List.all_eq_true.1 rfl
  have hsigns : ∀ sign ∈ signs, (!isNumeric sign) = true := List.all_eq_true.1 rfl
  cases hbare : isBare c with
  | true => rfl
  | false =>
    simp only [isBare, Bool.and_eq_false_iff, Bool.not_eq_false', List.contains_iff_mem] at hbare
    have hnot : (!isNumeric c) = true := by
      rcases hbare with hblank | hsign
      · exact hblanks c (by simpa [isBlank, or_assoc] using hblank)
      · exact hsigns c hsign
    rw [hc] at hnot
    cases hnot

private theorem isNumeric_of_isDigit {c : Char} (hc : c.isDigit = true) : isNumeric c = true := by
  simp [isNumeric, hc]

private theorem isNumeric_of_dropSign {signs : List Char} (hsigns : ∀ sign ∈ signs, isNumeric sign = true) {text : Text}
    (htext : ∀ c ∈ dropSign signs text, isNumeric c = true) : ∀ c ∈ text, isNumeric c = true := by
  cases text with
  | nil => simp
  | cons first rest =>
    rw [dropSign] at htext
    split at htext
    · rename_i hfirst
      exact List.forall_mem_cons.2 ⟨hsigns first (List.contains_iff_mem.1 hfirst), htext⟩
    · exact htext

private theorem isNumeric_of_isExponent {text : Text} (htext : isExponent text = true) :
    ∀ c ∈ text, isNumeric c = true := by
  cases text with
  | nil => simp
  | cons letter rest =>
    simp only [isExponent, Bool.and_eq_true, Bool.or_eq_true, beq_iff_eq, List.all_eq_true] at htext
    obtain ⟨⟨hletter, _⟩, hdigits⟩ := htext
    have hrest : ∀ c ∈ rest, isNumeric c = true :=
      isNumeric_of_dropSign (List.all_eq_true.1 rfl) fun c hc => isNumeric_of_isDigit (hdigits c hc)
    rcases hletter with rfl | rfl
    · exact List.forall_mem_cons.2 ⟨rfl, hrest⟩
    · exact List.forall_mem_cons.2 ⟨rfl, hrest⟩

private theorem isNumeric_of_dropWhile {text : Text} (htext : ∀ c ∈ text.dropWhile Char.isDigit, isNumeric c = true) :
    ∀ c ∈ text, isNumeric c = true := by
  intro c hc
  rw [← @List.takeWhile_append_dropWhile _ Char.isDigit text, List.mem_append] at hc
  rcases hc with hdigit | hrest
  · exact isNumeric_of_isDigit (List.all_eq_true.1 List.all_takeWhile c hdigit)
  · exact htext c hrest

private theorem isNumeric_of_isFraction {text : Text} (htext : isFraction text = true) :
    ∀ c ∈ text, isNumeric c = true := by
  unfold isFraction at htext
  split at htext
  · rename_i rest
    rw [Bool.and_eq_true] at htext
    exact List.forall_mem_cons.2 ⟨rfl, isNumeric_of_dropWhile (isNumeric_of_isExponent htext.2)⟩
  · exact isNumeric_of_isExponent htext

private theorem isNumeric_of_isNumber {literal : Text} (hnumber : isNumber literal = true) :
    ∀ c ∈ literal, isNumeric c = true := by
  simp only [isNumber, Bool.and_eq_true] at hnumber
  exact isNumeric_of_dropSign (List.all_eq_true.1 rfl) (isNumeric_of_dropWhile (isNumeric_of_isFraction hnumber.2))

private theorem ofLiteral?_of_isNumber {literal : Text} (hnumber : isNumber literal = true) :
    ofLiteral? literal = some (.number literal) := by
  have hword {word : Text} (hword : isNumber word = false) : literal ≠ word := by
    rintro rfl
    rw [hnumber] at hword
    cases hword
  rw [ofLiteral?, if_neg (hword (by decide)), if_neg (hword (by decide)), if_neg (hword (by decide)), if_pos hnumber]

section Strings

variable (frames : List Frame) (members? : Option (List (Text × Value))) (body : Text)

private theorem leads_plain {text : Text} (htext : ∀ c ∈ text, c ≠ '"' ∧ c ≠ '\\') :
    Leads ⟨frames, .quoted members? body false⟩ text ⟨frames, .quoted members? (body ++ text) false⟩ := by
  induction text generalizing body with
  | nil => simpa using Leads.refl _
  | cons c text ih =>
    obtain ⟨⟨hquote, hbackslash⟩, htext⟩ := List.forall_mem_cons.1 htext
    have hfirst : step ⟨frames, .quoted members? body false⟩ c =
        some ⟨frames, .quoted members? (body ++ [c]) false⟩ := by simp [step, hquote, hbackslash]
    simpa using (Leads.single hfirst).trans (ih _ htext)

private theorem leads_escape (letter : Char) :
    Leads ⟨frames, .quoted members? body false⟩ ['\\', letter]
      ⟨frames, .quoted members? (body ++ ['\\', letter]) false⟩ := by
  simp [Leads, step]

private theorem plain_of_hexValue? {c : Char} {digit : Nat} (hdigit : hexValue? c = some digit) :
    c ≠ '"' ∧ c ≠ '\\' := by
  constructor <;> rintro rfl <;> cases hdigit

/-- What stands between the quotes of a string is read to its end: each quote in it is behind a backslash. -/
private theorem leads_body {text : Text} {elements : List Element} (htext : elements? text = some elements) :
    Leads ⟨frames, .quoted members? body false⟩ text ⟨frames, .quoted members? (body ++ text) false⟩ := by
  fun_induction elements? text generalizing body elements with
  | case1 => simpa using Leads.refl _
  | case2 a b c d rest ih =>
    simp only [Option.pure_def, Option.bind_eq_bind, Option.bind_eq_some_iff] at htext
    obtain ⟨_, ha, _, hb, _, hc, _, hd, _, hrest, _⟩ := htext
    have hdigits : ∀ digit ∈ [a, b, c, d], digit ≠ '"' ∧ digit ≠ '\\' := by
      simp only [List.forall_mem_cons]
      exact ⟨plain_of_hexValue? ha, plain_of_hexValue? hb, plain_of_hexValue? hc, plain_of_hexValue? hd, by simp⟩
    have hfirst := (leads_escape frames members? body 'u').trans (leads_plain frames members? _ hdigits)
    simpa using hfirst.trans (ih _ hrest)
  | case3 letter rest hcode ih =>
    simp only [Option.pure_def, Option.bind_eq_bind, Option.bind_eq_some_iff] at htext
    obtain ⟨_, _, _, hrest, _⟩ := htext
    simpa using (leads_escape frames members? body letter).trans (ih _ hrest)
  | case4 c rest hcode hletter hplain ih =>
    obtain ⟨_, hrest, _⟩ := Option.map_eq_some_iff.1 htext
    simp only [standsForItself, Bool.and_eq_true, bne_iff_ne] at hplain
    have hc : ∀ d ∈ [c], d ≠ '"' ∧ d ≠ '\\' := List.forall_mem_singleton.2 ⟨hplain.1.2, hplain.2⟩
    simpa using (leads_plain frames members? body hc).trans (ih _ hrest)
  | case5 => cases htext

private theorem leads_quoted {text : Text} {after : State} (htext : unescape? body = some text)
    (hafter : unquote frames members? body = some after) :
    Leads ⟨frames, .quoted members? [] false⟩ (body ++ ['"']) after := by
  obtain ⟨elements, helements, _⟩ := Option.bind_eq_some_iff.1 htext
  refine (leads_body frames members? [] helements).trans (.single ?_)
  simpa [step] using hafter

end Strings

/-- A phrase is read wherever it can stand: up to a point where its last value is held, inside of the frame that it
belongs to. -/
private def Takes (text : Text) : Phrase → Prop
  | .value value | .padded value => ∀ frames closable,
    ∃ after, Leads ⟨frames, .due closable⟩ text after ∧ Holds frames value after
  | .items items => ∀ frames before closable,
    ∃ init last after, items = init ++ [last] ∧ Leads ⟨.item before :: frames, .due closable⟩ text after ∧
      Holds (.item (before ++ init) :: frames) last after
  | .pair name value => ∀ frames before closable,
    ∃ after, Leads ⟨frames, .name before closable⟩ text after ∧ Holds (.member before name :: frames) value after
  | .members members => ∀ frames before closable,
    ∃ init name last after, members = init ++ [(name, last)] ∧ Leads ⟨frames, .name before closable⟩ text after ∧
      Holds (.member (before ++ init) name :: frames) last after

private theorem takes_literal {literal : Text} (hbare : ∀ c ∈ literal, isBare c = true) {value : Value}
    (hvalue : ofLiteral? literal = some value) : Takes literal (.value value) :=
  leads_literal hbare hvalue

private theorem takes_string {body text : Text} (hbody : unescape? body = some text) :
    Takes ('"' :: body ++ ['"']) (.value (.string text)) := by
  intro frames closable
  have hafter : unquote frames none body = some ⟨frames, .done (.string text)⟩ := by rw [unquote, hbody]; rfl
  refine ⟨_, .cons ?_ (leads_quoted frames none body hbody hafter), .done frames _⟩
  rfl

private theorem takes_emptyArray {blanks : Text} (hblanks : IsBlank blanks) :
    Takes ('[' :: blanks ++ [']']) (.value (.array [])) := by
  intro frames closable
  have hinside := leads_blanks_due (.item [] :: frames) true hblanks
  exact ⟨_, (Leads.cons rfl hinside).trans (.single rfl), .done frames _⟩

private theorem takes_array {text : Text} {items : List Value} (hitems : Takes text (.items items)) :
    Takes ('[' :: text ++ [']']) (.value (.array items)) := by
  intro frames closable
  obtain ⟨init, last, after, rfl, hleads, hholds⟩ := hitems frames [] true
  have hclose : step after ']' = some ⟨frames, .done (.array (init ++ [last]))⟩ := hholds.step_eq rfl
  exact ⟨_, (Leads.cons rfl hleads).trans (.single hclose), .done frames _⟩

private theorem takes_emptyObject {blanks : Text} (hblanks : IsBlank blanks) :
    Takes ('\x7b' :: blanks ++ ['\x7d']) (.value (.object [])) := by
  intro frames closable
  have hinside := leads_blanks_name frames [] true hblanks
  exact ⟨_, (Leads.cons rfl hinside).trans (.single rfl), .done frames _⟩

private theorem takes_object {text : Text} {members : List (Text × Value)} (hmembers : Takes text (.members members)) :
    Takes ('\x7b' :: text ++ ['\x7d']) (.value (.object members)) := by
  intro frames closable
  obtain ⟨init, name, last, after, rfl, hleads, hholds⟩ := hmembers frames [] true
  have hclose : step after '\x7d' = some ⟨frames, .done (.object (init ++ [(name, last)]))⟩ := hholds.step_eq rfl
  exact ⟨_, (Leads.cons rfl hleads).trans (.single hclose), .done frames _⟩

private theorem takes_padded {before text behind : Text} {value : Value} (hbefore : IsBlank before)
    (hvalue : Takes text (.value value)) (hbehind : IsBlank behind) :
    Takes (before ++ text ++ behind) (.padded value) := by
  intro frames closable
  have hfront := leads_blanks_due frames closable hbefore
  obtain ⟨read, hread, hholds⟩ := hvalue frames closable
  obtain ⟨after, hback, hholds⟩ := hholds.blanks hbehind
  exact ⟨after, (hfront.trans hread).trans hback, hholds⟩

private theorem takes_item {text : Text} {value : Value} (hvalue : Takes text (.padded value)) :
    Takes text (.items [value]) := by
  intro frames before closable
  obtain ⟨after, hleads, hholds⟩ := hvalue (.item before :: frames) closable
  exact ⟨[], value, after, rfl, hleads, by simpa using hholds⟩

private theorem takes_moreItems {text rest : Text} {value : Value} {items : List Value}
    (hvalue : Takes text (.padded value)) (hitems : Takes rest (.items items)) :
    Takes (text ++ ',' :: rest) (.items (value :: items)) := by
  intro frames before closable
  obtain ⟨read, hread, hholds⟩ := hvalue (.item before :: frames) closable
  have hcomma : step read ',' = some ⟨.item (before ++ [value]) :: frames, .due false⟩ := hholds.step_eq rfl
  -- The value goes over into the frame, and what follows the comma is read behind it.
  obtain ⟨init, last, after, rfl, hleads, hholds⟩ := hitems frames (before ++ [value]) false
  exact ⟨value :: init, last, after, rfl, hread.trans (.cons hcomma hleads), by simpa using hholds⟩

private theorem takes_pair {before body between text : Text} {name : Text} {value : Value} (hbefore : IsBlank before)
    (hbody : unescape? body = some name) (hbetween : IsBlank between) (hvalue : Takes text (.padded value)) :
    Takes (before ++ '"' :: body ++ '"' :: between ++ ':' :: text) (.pair name value) := by
  intro frames members closable
  have hfront := leads_blanks_name frames members closable hbefore
  have hafter : unquote frames (some members) body = some ⟨frames, .colon members name⟩ := by rw [unquote, hbody]; rfl
  have hname : Leads ⟨frames, .name members closable⟩ ('"' :: (body ++ ['"'])) ⟨frames, .colon members name⟩ :=
    .cons rfl (leads_quoted frames (some members) body hbody hafter)
  have hmiddle : Leads ⟨frames, .colon members name⟩ between ⟨frames, .colon members name⟩ := by
    apply Leads.blanks _ hbetween
    intro c hc
    simp [step, hc]
  obtain ⟨after, hleads, hholds⟩ := hvalue (.member members name :: frames) false
  have hcolon : step ⟨frames, .colon members name⟩ ':' = some ⟨.member members name :: frames, .due false⟩ := rfl
  have hall := ((hfront.trans hname).trans hmiddle).trans (.cons hcolon hleads)
  exact ⟨after, by simpa using hall, hholds⟩

private theorem takes_member {text : Text} {name : Text} {value : Value} (hpair : Takes text (.pair name value)) :
    Takes text (.members [(name, value)]) := by
  intro frames before closable
  obtain ⟨after, hleads, hholds⟩ := hpair frames before closable
  exact ⟨[], name, value, after, rfl, hleads, by simpa using hholds⟩

private theorem takes_moreMembers {text rest : Text} {name : Text} {value : Value} {members : List (Text × Value)}
    (hpair : Takes text (.pair name value)) (hmembers : Takes rest (.members members)) :
    Takes (text ++ ',' :: rest) (.members ((name, value) :: members)) := by
  intro frames before closable
  obtain ⟨read, hread, hholds⟩ := hpair frames before closable
  have hcomma : step read ',' = some ⟨frames, .name (before ++ [(name, value)]) false⟩ := hholds.step_eq rfl
  obtain ⟨init, other, last, after, rfl, hleads, hholds⟩ := hmembers frames (before ++ [(name, value)]) false
  exact ⟨(name, value) :: init, other, last, after, rfl, hread.trans (.cons hcomma hleads), by simpa using hholds⟩

private theorem takes_of_denotes {text : Text} {phrase : Phrase} (h : Denotes text phrase) : Takes text phrase := by
  -- By induction on how the text is built, with the frames and what was read in them left open.
  induction h with
  | null => exact takes_literal (List.all_eq_true.1 rfl) rfl
  | truth value => cases value <;> exact takes_literal (List.all_eq_true.1 rfl) rfl
  | number hnumber =>
    exact takes_literal (fun c hc => isBare_of_isNumeric (isNumeric_of_isNumber hnumber c hc))
      (ofLiteral?_of_isNumber hnumber)
  | string hbody => exact takes_string hbody
  | emptyArray hblanks => exact takes_emptyArray hblanks
  | array _ hitems => exact takes_array hitems
  | emptyObject hblanks => exact takes_emptyObject hblanks
  | object _ hmembers => exact takes_object hmembers
  | padded hbefore _ hafter hvalue => exact takes_padded hbefore hvalue hafter
  | item _ hvalue => exact takes_item hvalue
  | moreItems _ _ hvalue hitems => exact takes_moreItems hvalue hitems
  | pair hbefore hbody hbetween _ hvalue => exact takes_pair hbefore hbody hbetween hvalue
  | member _ hpair => exact takes_member hpair
  | moreMembers _ _ hpair hmembers => exact takes_moreMembers hpair hmembers

end Reader

theorem read?_of_denotes {text : Text} {value : Value} (h : Denotes text (.padded value)) :
    read? text = some value := by
  obtain ⟨after, hleads, hframes, hvalue⟩ := Reader.takes_of_denotes h [] false
  rw [read?, hleads]
  simp [Reader.finish, hframes, hvalue]

theorem Denotes.unique {text : Text} {first second : Value} (hfirst : Denotes text (.padded first))
    (hsecond : Denotes text (.padded second)) : first = second := by
  rw [← Option.some_inj, ← read?_of_denotes hfirst, read?_of_denotes hsecond]

end Overrule.Json
