/-
This file compares what the front of a body reads as with what the whole body reads as. The
front of a frame is all that the decoder has of it when a sentinel comes too early.

Fields have their places counted from the start of a body, and they are read in the order of
those places. So a field that the front has is the same in the whole body, and a byte that
selects nothing refuses both. Only texts and lists of bytes run to the end, and they go on in
the whole body. A front that lacks a field is refused for it, and so is every longer body
that lacks it still. The one field that a body may lack is the count of a graphic line.
-/

import PanelLink.Proofs.Feeding

namespace PanelLink

/-! ### Payloads that go on -/

/-- The text of a message goes on. -/
inductive Message.Grows : Message → Message → Prop where
  | text (content rest : String) (severity : Severity) :
    Grows (.text content severity) (.text (content ++ rest) severity)
  | number (label rest : String) (value : UInt32) (format : NumberFormat) :
    Grows (.number label value format) (.number (label ++ rest) value format)

/-- The text or the bytes of an order go on, if it has any. The first order was read from a body of
the given length. -/
inductive Order.Grows (length : Nat) : Order → Order → Prop where
  | same (order : Order) : Grows length order order
  | write (content rest : String) (mode : TextMode) :
    Grows length (.write content mode) (.write (content ++ rest) mode)
  | writeAt (content rest : String) (row column : UInt8) (mode : TextMode) :
    Grows length (.writeAt content row column mode) (.writeAt (content ++ rest) row column mode)
  | columnsAt (row column : UInt8) (bytes more : List UInt8) :
    Grows length (.columnsAt row column bytes) (.columnsAt row column (bytes ++ more))
  | graphicLine (count : UInt8) (bytes more : List UInt8) :
    Grows length (.graphicLine count bytes) (.graphicLine count (bytes ++ more))
  /-- The body was too short for a count, which is zero then. -/
  | uncounted (short : length ≤ 3) (count : UInt8) (bytes : List UInt8) :
    Grows length (.graphicLine 0 []) (.graphicLine count bytes)

inductive Payload.Grows (length : Nat) : Payload → Payload → Prop where
  | message {first second : Message} (grows : first.Grows second) :
    Grows length (.message first) (.message second)
  | order {first second : Order} (grows : first.Grows length second) :
    Grows length (.order first) (.order second)

theorem Payload.Grows.kind {length : Nat} {first second : Payload}
    (grows : first.Grows length second) : second.kind = first.kind := by
  cases grows with
  | message grows => cases grows <;> rfl
  | order grows => cases grows <;> rfl

namespace Frame

/-! ### Readers -/

/-- A body is refused for this reason whatever it goes on with. -/
def Reason.isLasting : Reason → Bool
  | .unknownCommand .. | .badLookup .. => true
  | .truncated .. | .emptyFrame | .oversized _ => false

/-- How the readings of a front and of the whole body are related, if the values that were read
are related in a given way. -/
inductive Lasts (front more : List UInt8) {Value : Type} (grows : Value → Value → Prop) :
    Except Reason Value → Except Reason Value → Prop where
  | read {value other : Value} (grown : grows value other) :
    Lasts front more grows (.ok value) (.ok other)
  | refused {reason : Reason} (lasting : reason.isLasting = true) :
    Lasts front more grows (.error reason) (.error reason)
  /-- The front lacks a field, and the whole body is read somehow or lacks it still. -/
  | missing {needed : Nat} {whole : Except Reason Value} (short : front.length < needed)
    (still : (front ++ more).length < needed →
      whole = .error (.truncated needed (front ++ more).length)) :
    Lasts front more grows (.error (.truncated needed front.length)) whole

section Readers

variable {front more : List UInt8} {First Second : Type} {grows : First → First → Prop}
  {grown : Second → Second → Prop} {step whole : Except Reason First}

theorem Lasts.bind {next later : First → Except Reason Second}
    (lasts : Lasts front more grows step whole)
    (rest : ∀ value other, grows value other → Lasts front more grown (next value) (later other)) :
    Lasts front more grown (step >>= next) (whole >>= later) := by
  cases lasts with
  | read related => exact rest _ _ related
  | refused lasting => exact .refused lasting
  | missing short still =>
    refine .missing short fun lacks => ?_
    rw [still lacks]
    rfl

theorem Lasts.map {change : First → Second} (lasts : Lasts front more grows step whole)
    (keeps : ∀ value other, grows value other → grown (change value) (change other)) :
    Lasts front more grown (change <$> step) (change <$> whole) := by
  rw [← bind_pure_comp, ← bind_pure_comp]
  exact lasts.bind fun value other related => .read (keeps value other related)

variable (front more)

theorem lasts_byteAt (position : Nat) :
    Lasts front more Eq (byteAt front position) (byteAt (front ++ more) position) := by
  by_cases inside : position < front.length
  · rw [byteAt, byteAt, List.getElem?_append_left inside, List.getElem?_eq_getElem inside]
    exact .read rfl
  · rw [byteAt, List.getElem?_eq_none (Nat.not_lt.mp inside)]
    refine .missing (Nat.lt_succ_of_le (Nat.not_lt.mp inside)) fun lacks => ?_
    rw [byteAt, List.getElem?_eq_none (Nat.le_of_lt_succ lacks)]

theorem numberAt_of_short {body : List UInt8} {position : Nat}
    (short : body.length < position + 4) :
    numberAt body position = .error (.truncated (position + 4) body.length) := by
  unfold numberAt
  split
  · rename_i found
    have length := congrArg List.length found
    rw [List.length_drop] at length
    simp only [List.length_cons] at length
    omega
  · rfl

theorem lasts_numberAt (position : Nat) :
    Lasts front more Eq (numberAt front position) (numberAt (front ++ more) position) := by
  by_cases short : front.length < position + 4
  · rw [numberAt_of_short short]
    exact .missing short numberAt_of_short
  · have long : position + 4 ≤ front.length := Nat.not_lt.mp short
    have fields : 4 ≤ (front.drop position).length := by
      rw [List.length_drop]
      exact Nat.le_sub_of_add_le' long
    rw [numberAt, numberAt, List.drop_append_of_le_length (Nat.le_of_add_right_le long)]
    generalize front.drop position = rest at fields
    match rest, fields with
    | first :: second :: third :: fourth :: _, _ => exact .read rfl

/-- A byte that selects nothing is refused, whatever comes behind it. -/
theorem lasts_choice {Entry : Type} {choose : UInt8 → Except Reason Entry}
    (lasting : ∀ byte reason, choose byte = .error reason → reason.isLasting = true)
    (position : Nat) :
    Lasts front more Eq (byteAt front position >>= choose)
      (byteAt (front ++ more) position >>= choose) := by
  refine (lasts_byteAt front more position).bind fun byte _ same => ?_
  cases same
  cases chosen : choose byte with
  | ok entry => exact .read rfl
  | error reason => exact .refused (lasting byte reason chosen)

theorem lasts_severityAt (position : Nat) :
    Lasts front more Eq (severityAt front position) (severityAt (front ++ more) position) := by
  refine lasts_choice front more (fun byte reason refused => ?_) position
  split at refused <;> cases refused
  rfl

theorem lasts_formatAt (position : Nat) :
    Lasts front more Eq (formatAt front position) (formatAt (front ++ more) position) := by
  refine lasts_choice front more (fun byte reason refused => ?_) position
  split at refused <;> cases refused
  rfl

variable {front more}

/-- A payload with one byte of the body in it, and possibly with more of it. -/
theorem lasts_single {make later : UInt8 → First} (position : Nat)
    (keeps : ∀ byte, grows (make byte) (later byte)) :
    Lasts front more grows (do let byte ← byteAt front position; return make byte)
      (do let byte ← byteAt (front ++ more) position; return later byte) := by
  refine (lasts_byteAt front more position).bind fun byte _ same => ?_
  cases same
  exact .read (keeps byte)

theorem lasts_pair {make later : UInt8 → UInt8 → First} (first second : Nat)
    (keeps : ∀ row column, grows (make row column) (later row column)) :
    Lasts front more grows
      (do
        let row ← byteAt front first
        let column ← byteAt front second
        return make row column)
      (do
        let row ← byteAt (front ++ more) first
        let column ← byteAt (front ++ more) second
        return later row column) := by
  refine (lasts_byteAt front more first).bind fun row _ same => ?_
  cases same
  exact lasts_single second (keeps row)

end Readers

/-! ### Texts -/

section Texts

variable (front more : List UInt8) (position : Nat)

theorem decode_append (first second : List UInt8) :
    SingleByte.decode (first ++ second) = SingleByte.decode first ++ SingleByte.decode second := by
  rw [SingleByte.decode, List.map_append, String.ofList_append]
  rfl

theorem exists_textFrom :
    ∃ rest, textFrom (front ++ more) position = textFrom front position ++ rest := by
  rw [textFrom, List.drop_append, decode_append]
  exact ⟨_, rfl⟩

/-- A label does not go on behind its end. -/
theorem exists_labelFrom :
    ∃ rest, labelFrom (front ++ more) position = labelFrom front position ++ rest := by
  have shared : (front.drop position).takeWhile (· ≠ 0) <+:
      ((front ++ more).drop position).takeWhile (· ≠ 0) := by
    rw [List.drop_append, List.takeWhile_append]
    split
    · exact (List.takeWhile_prefix _).trans (List.prefix_append _ _)
    · exact List.prefix_rfl
  obtain ⟨rest, same⟩ := shared
  rw [labelFrom, ← same, decode_append]
  exact ⟨_, rfl⟩

end Texts

/-! ### Payloads -/

section Payloads

variable (front more : List UInt8)

theorem lasts_message :
    Lasts front more Message.Grows (readMessage front) (readMessage (front ++ more)) := by
  refine (lasts_severityAt front more 3).bind fun severity _ same => ?_
  cases same
  obtain ⟨rest, whole⟩ := exists_textFrom front more 4
  rw [whole]
  exact .read (.text _ rest severity)

theorem lasts_number :
    Lasts front more Message.Grows (readNumber front) (readNumber (front ++ more)) := by
  refine (lasts_formatAt front more 3).bind fun format _ same => ?_
  cases same
  refine (lasts_numberAt front more 4).bind fun value _ same => ?_
  cases same
  obtain ⟨rest, whole⟩ := exists_labelFrom front more 8
  rw [whole]
  exact .read (.number _ rest value format)

theorem lasts_textAt (mode : TextMode) :
    Lasts front more (Order.Grows front.length) (readTextAt mode front)
      (readTextAt mode (front ++ more)) := by
  obtain ⟨rest, whole⟩ := exists_textFrom front more 5
  refine lasts_pair 3 4 fun row column => ?_
  rw [whole]
  exact .writeAt _ rest row column mode

/-- The count of a graphic line is the byte before its other bytes, if there is one. -/
theorem grows_graphicLine :
    Order.Grows front.length (.graphicLine (front[3]?.getD 0) (front.drop 4))
      (.graphicLine ((front ++ more)[3]?.getD 0) ((front ++ more).drop 4)) := by
  by_cases counted : 3 < front.length
  · rw [List.getElem?_append_left counted, List.drop_append_of_le_length counted]
    exact .graphicLine _ _ more
  · have short : front.length ≤ 3 := Nat.not_lt.mp counted
    rw [List.getElem?_eq_none short, List.drop_of_length_le (Nat.le_succ_of_le short)]
    exact .uncounted short _ _

theorem lasts_form (form : Form) :
    Lasts front more (Payload.Grows front.length) (form.read front)
      (form.read (front ++ more)) := by
  have same (order : Order) : Payload.Grows front.length (.order order) (.order order) :=
    .order (.same order)
  cases form with
  | message => exact (lasts_message front more).map fun _ _ grows => .message grows
  | number => exact (lasts_number front more).map fun _ _ grows => .message grows
  | text =>
    obtain ⟨rest, whole⟩ := exists_textFrom front more 3
    rw [Form.read, Form.read, whole]
    exact .read (.order (.write _ rest .normal))
  | cursor => exact lasts_pair 3 4 fun row column => same _
  | cursorRow | cursorColumn | column | clearRow => exact lasts_single 3 fun byte => same _
  | columnsAt =>
    refine lasts_pair 3 4 fun row column => .order ?_
    rw [List.drop_append]
    exact .columnsAt row column _ _
  | textAtNormal | textAtInverse =>
    exact (lasts_textAt front more _).map fun _ _ grows => .order grows
  | characterNormal | characterInverse =>
    exact (lasts_single 3 fun byte => .same _).map fun _ _ grows => .order grows
  | graphicLine => exact .read (.order (grows_graphicLine front more))
  | clearAll => exact .read (same .clearAll)

/-- The form of a body is settled by its first two bytes. -/
theorem lasts_readPayload (nonempty : front ≠ []) :
    Lasts front more (Payload.Grows front.length) (readPayload front)
      (readPayload (front ++ more)) := by
  cases front with
  | nil => exact absurd rfl nonempty
  | cons category rest =>
    refine (lasts_byteAt (category :: rest) more 1).bind fun opcode _ same => ?_
    cases same
    cases Form.ofBytes? category opcode with
    | some form => exact lasts_form _ more form
    | none => exact .refused rfl

end Payloads

/-! ### Frames -/

/-- Why a frame was refused, if it was. -/
def Outcome.reason? : Outcome → Option Reason
  | .ok _ => none
  | .error rejection => some rejection.reason

theorem reason?_read_eq_some_iff {frameId : Nat} {body : List UInt8} {reason : Reason} :
    Outcome.reason? (read frameId body) = some reason ↔ readPayload body = .error reason := by
  unfold read
  cases readPayload body with
  | ok payload => exact iff_of_false nofun nofun
  | error other =>
    rw [Outcome.reason?, Option.some_inj]
    exact ⟨congrArg _, Except.error.inj⟩

theorem read_eq_ok_iff {frameId : Nat} {body : List UInt8} {command : Command} :
    read frameId body = .ok command ↔
      readPayload body = .ok command.payload ∧ frameId = command.frameId := by
  unfold read
  cases readPayload body with
  | ok payload =>
    obtain ⟨number, content⟩ := command
    simp [and_comm]
  | error reason => exact iff_of_false nofun fun both => nomatch both.1

section Frames

variable {front : List UInt8} (more : List UInt8)

/-- An accepted front goes on as the same kind of command. -/
theorem exists_read_append {frameId : Nat} {command : Command}
    (accepted : read frameId front = .ok command) (otherId : Nat) :
    ∃ full, read otherId (front ++ more) = .ok full ∧
      command.payload.Grows front.length full.payload := by
  obtain ⟨there, -⟩ := read_eq_ok_iff.mp accepted
  have nonempty : front ≠ [] := by
    rintro rfl
    cases there
  have lasts := lasts_readPayload front more nonempty
  rw [there] at lasts
  generalize taken : readPayload (front ++ more) = whole at lasts
  cases lasts with
  | read grown => exact ⟨⟨otherId, _⟩, read_eq_ok_iff.mpr ⟨taken, rfl⟩, grown⟩

-- A graphic line that is cut before its count has a count of zero.
example : read 0 [76, 12, 2] = .ok ⟨0, .order (.graphicLine 0 [])⟩ ∧
    read 0 [76, 12, 2, 5, 9] = .ok ⟨0, .order (.graphicLine 5 [9])⟩ := ⟨rfl, rfl⟩

theorem readPayload_append_of_refused {reason : Reason}
    (refused : readPayload front = .error reason) (lasting : reason.isLasting = true) :
    readPayload (front ++ more) = .error reason := by
  have nonempty : front ≠ [] := by
    rintro rfl
    cases refused
    cases lasting
  have lasts := lasts_readPayload front more nonempty
  rw [refused] at lasts
  generalize readPayload (front ++ more) = whole at lasts
  cases lasts with
  | refused _ => rfl
  | missing _ _ => cases lasting

/-- A front that lacks a field reads like every longer body that lacks it still. -/
theorem readPayload_append_of_truncated {needed got : Nat}
    (refused : readPayload front = .error (.truncated needed got)) :
    got = front.length ∧ front.length < needed ∧
      ((front ++ more).length < needed →
        readPayload (front ++ more) = .error (.truncated needed (front ++ more).length)) := by
  have nonempty : front ≠ [] := by
    rintro rfl
    cases refused
  have lasts := lasts_readPayload front more nonempty
  rw [refused] at lasts
  generalize readPayload (front ++ more) = whole at lasts
  cases lasts with
  | refused lasting => cases lasting
  | missing short still => exact ⟨rfl, short, still⟩

end Frames

namespace Decoder

/-- The next command that a decoder with an open frame hands out is that of a longer body. -/
theorem head_feed_opened (decoder : Decoder) {front more : List UInt8} (nonempty : front ≠ [])
    {command : Command} (first : ((decoder.opened front).feed more).2.head? = some (.ok command)) :
    ∃ part, read decoder.nextId (front ++ part) = .ok command := by
  induction more generalizing front with
  | nil => cases first
  | cons byte rest inductionHypothesis =>
    rw [feed_cons] at first
    by_cases mark : byte = sentinel
    · rw [mark, feedByte_sentinel, flush_opened decoder front nonempty] at first
      refine ⟨[], ?_⟩
      rw [List.append_nil]
      exact Option.some.inj first
    · rw [feedByte_opened decoder front byte mark, extend_opened] at first
      split at first
      · exact ⟨[byte], Option.some.inj first⟩
      · split at first
        · cases Option.some.inj first
        · have longer : front ++ [byte] ≠ [] := List.append_ne_nil_of_left_ne_nil nonempty _
          obtain ⟨part, whole⟩ := inductionHypothesis longer first
          rw [List.append_assoc] at whole
          exact ⟨_, whole⟩

end Decoder

/-- What is known of the front of a body is known of the body. A command that the front reads as
goes on with the same kind and the same fields, but for a count that the front lacks. An unknown
command or a byte that selects nothing refuses the body for the same reason. A front that lacks a
field is refused for it with its length. So is the body if it lacks that field still, and otherwise
it is not refused for that field. So if a sentinel cuts an open frame short, the command is of the
same kind as the one that the frame would have been, whatever it went on with. -/
theorem read_append (front more : List UInt8) (frameId otherId : Nat) :
    let cut := read frameId front
    let whole := read otherId (front ++ more)
    (∀ command, cut = .ok command → ∃ full, whole = .ok full ∧ full.kind = command.kind ∧
      command.payload.Grows front.length full.payload) ∧
    (∀ category opcode, Outcome.reason? cut = some (.unknownCommand category opcode) →
      Outcome.reason? whole = some (.unknownCommand category opcode)) ∧
    (∀ field value, Outcome.reason? cut = some (.badLookup field value) →
      Outcome.reason? whole = some (.badLookup field value)) ∧
    (∀ needed got, Outcome.reason? cut = some (.truncated needed got) →
      got = front.length ∧ front.length < needed ∧
        ((front ++ more).length < needed →
          Outcome.reason? whole = some (.truncated needed (front ++ more).length)) ∧
        (needed ≤ (front ++ more).length →
          ∀ seen, Outcome.reason? whole ≠ some (.truncated needed seen))) ∧
    ∀ (decoder : Decoder) (command full : Command),
      ((decoder.opened front).feedByte sentinel).2 = some (.ok command) →
        ((decoder.opened front).feed more).2.head? = some (.ok full) →
          full.kind = command.kind := by
  intro cut whole
  refine ⟨fun command accepted => ?_, fun category opcode refused => ?_,
    fun field value refused => ?_, fun needed got refused => ?_,
    fun decoder command full cut other => ?_⟩
  · obtain ⟨full, read, grows⟩ := exists_read_append more accepted otherId
    exact ⟨full, read, grows.kind, grows⟩
  · rw [reason?_read_eq_some_iff] at refused ⊢
    exact readPayload_append_of_refused more refused rfl
  · rw [reason?_read_eq_some_iff] at refused ⊢
    exact readPayload_append_of_refused more refused rfl
  · rw [reason?_read_eq_some_iff] at refused
    obtain ⟨same, short, still⟩ := readPayload_append_of_truncated more refused
    refine ⟨same, short, fun lacks => reason?_read_eq_some_iff.mpr (still lacks),
      fun reaches seen again => ?_⟩
    obtain ⟨-, lacks, -⟩ :=
      readPayload_append_of_truncated [] (reason?_read_eq_some_iff.mp again)
    exact absurd reaches (Nat.not_le.mpr lacks)
  · have nonempty : front ≠ [] := by
      rintro rfl
      cases cut
    rw [Decoder.feedByte_sentinel, Decoder.flush_opened decoder front nonempty] at cut
    obtain ⟨part, rest⟩ := decoder.head_feed_opened nonempty other
    obtain ⟨longer, same, grows⟩ := exists_read_append part (Option.some.inj cut) decoder.nextId
    cases same.symm.trans rest
    exact grows.kind

end Frame

end PanelLink
