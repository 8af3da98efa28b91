/-
This file writes again what was read. Reading forgets what a body declares, the bytes past
the last field, how a label ended, and the form of a text of one character, so the frame
that is written of a payload can differ from the one that it came in. It means the same all
the same: what was read from a quiet body has letters of one byte, a shape that some form
has, no sentinel in it, and a label without a zero character. All that can stand in the way
of writing it is its length, when the length byte would be a sentinel, or when a label came
without the byte that ends it and this byte is one too many.
-/

import PanelLink.Proofs.Bookkeeping
import PanelLink.Proofs.Writability

namespace PanelLink

/-- A result that was changed on the way had a first form. -/
theorem ok_of_map {Problem First Second : Type} {change : First → Second}
    {step : Except Problem First} {result : Second} (ran : change <$> step = .ok result) :
    ∃ value, step = .ok value ∧ change value = result := by
  cases step with
  | error problem => cases ran
  | ok value => exact ⟨value, rfl, Except.ok.inj ran⟩

namespace Frame

/-! ### Fields that were read -/

section Fields

variable {body : List UInt8} {position : Nat}

theorem getElem?_of_byteAt {byte : UInt8} (there : byteAt body position = .ok byte) :
    body[position]? = some byte := by
  unfold byteAt at there
  split at there
  · rename_i found
    cases there
    exact found
  · cases there

theorem numberField_littleEndian (first second third fourth : UInt8) :
    numberField (littleEndian first second third fourth) = [first, second, third, fourth] := by
  have bounds := And.intro first.toNat_lt (And.intro second.toNat_lt
    (And.intro third.toNat_lt fourth.toNat_lt))
  have digit (byte : UInt8) (value : Nat) (same : value = byte.toNat) :
      UInt8.ofNat value = byte := by
    rw [same, UInt8.ofNat_toNat]
  simp only [numberField, littleEndian, UInt32.toNat_ofNat']
  rw [digit first _ (by omega), digit second _ (by omega), digit third _ (by omega),
    digit fourth _ (by omega)]

theorem numberField_of_numberAt {value : UInt32} (there : numberAt body position = .ok value) :
    numberField value = (body.drop position).take 4 ∧ position + 4 ≤ body.length := by
  unfold numberAt at there
  split at there
  · rename_i first second third fourth rest found
    cases there
    have length := congrArg List.length found
    rw [List.length_drop] at length
    simp only [List.length_cons] at length
    rw [found, numberField_littleEndian]
    exact ⟨rfl, by omega⟩
  · cases there

theorem lt_length_of_byteAt {byte : UInt8} (there : byteAt body position = .ok byte) :
    position < body.length :=
  (List.getElem?_eq_some_iff.mp (getElem?_of_byteAt there)).1

/-- A byte that was read from a quiet body is no sentinel. -/
theorem ne_sentinel_of_byteAt (quiet : sentinel ∉ body) {byte : UInt8}
    (there : byteAt body position = .ok byte) : sentinel ≠ byte := by
  rintro rfl
  exact quiet (List.mem_of_getElem? (getElem?_of_byteAt there))

end Fields

/-! ### Payloads that were read -/

/-- What is known of a payload that was read from a quiet body. -/
structure Heard (body : List UInt8) (payload : Payload) : Prop where
  letters : ∃ text : List UInt8, sentinel ∉ text ∧ payload.letters = text.map SingleByte.character
  plain : sentinel ∉ payload.plainBytes
  shaped : ¬ payload.Misshapen
  received : payload.received = payload
  /-- Only the count of a line of graphics and the end of a label can come from nowhere. -/
  short : payload.fieldLength + headerLength ≤
    max (body.length + payload.ending.length) (headerLength + 1)

theorem length_textFrom (body : List UInt8) (position : Nat) :
    (textFrom body position).toList.length = body.length - position := by
  rw [textFrom, SingleByte.decode, String.toList_ofList, List.length_map, List.length_drop]

section Payloads

variable {body : List UInt8} (quiet : sentinel ∉ body)

include quiet

theorem letters_textFrom (position : Nat) :
    ∃ text : List UInt8, sentinel ∉ text ∧
      (textFrom body position).toList = text.map SingleByte.character :=
  ⟨body.drop position, fun member => quiet (List.mem_of_mem_drop member), String.toList_ofList⟩

theorem heard_of_message {content : Message} (accepted : readMessage body = .ok content) :
    Heard body (.message content) := by
  obtain ⟨severity, found, result⟩ := ok_of_bind accepted
  obtain ⟨byte, there, -⟩ := ok_of_bind found
  cases result
  have inside := lt_length_of_byteAt there
  refine ⟨letters_textFrom quiet 4, ?_, (fun shape => nomatch shape), rfl, ?_⟩
  · show sentinel ∉ [severity.code]
    cases severity <;> decide
  · show 1 + (textFrom body 4).toList.length + 0 + 3 ≤ max (body.length + 0) 4
    rw [length_textFrom]
    omega

theorem heard_of_number {content : Message} (accepted : readNumber body = .ok content) :
    Heard body (.message content) := by
  obtain ⟨format, found, rest⟩ := ok_of_bind accepted
  obtain ⟨value, there, result⟩ := ok_of_bind rest
  cases result
  obtain ⟨number, inside⟩ := numberField_of_numberAt there
  have letters : (labelFrom body 8).toList =
      ((body.drop 8).takeWhile (· ≠ 0)).map SingleByte.character := String.toList_ofList
  refine ⟨⟨(body.drop 8).takeWhile (· ≠ 0), fun member => ?_, letters⟩, ?_,
    (fun shape => nomatch shape), ?_, ?_⟩
  · exact quiet (List.mem_of_mem_drop ((List.takeWhile_prefix _).subset member))
  · show sentinel ∉ format.code :: numberField value
    rw [number, List.mem_cons, not_or]
    refine ⟨?_, fun member => quiet (List.mem_of_mem_drop (List.mem_of_mem_take member))⟩
    cases format <;> decide
  · refine (Payload.received_eq_self_iff _).mpr fun label same => ?_
    cases same
    rw [letters, List.mem_map]
    rintro ⟨byte, member, zero⟩
    have ended := List.mem_takeWhile_imp member
    rw [SingleByte.character_eq_zero_iff] at zero
    exact absurd zero (by simpa using ended)
  · -- A label that runs to the end of the body gets an end that was not there before.
    have length : ((body.drop 8).takeWhile (· ≠ 0)).length ≤ (body.drop 8).length :=
      (List.takeWhile_prefix _).length_le
    show (1 + 4) + (labelFrom body 8).toList.length + 1 + 3 ≤ max (body.length + 1) 4
    rw [letters, List.length_map]
    rw [List.length_drop] at length
    omega

theorem heard_of_textAt {mode : TextMode} {content : Order}
    (accepted : readTextAt mode body = .ok content) : Heard body (.order content) := by
  obtain ⟨row, first, rest⟩ := ok_of_bind accepted
  obtain ⟨column, second, result⟩ := ok_of_bind rest
  cases result
  have inside := lt_length_of_byteAt second
  refine ⟨letters_textFrom quiet 5, ?_, (fun shape => nomatch shape), rfl, ?_⟩
  · simp [Payload.plainBytes, ne_sentinel_of_byteAt quiet first, ne_sentinel_of_byteAt quiet second]
  · show 2 + (textFrom body 5).toList.length + 0 + 3 ≤ max (body.length + 0) 4
    rw [length_textFrom]
    omega

theorem heard_of_character {mode : TextMode} {content : Order}
    (accepted : readCharacter mode body = .ok content) : Heard body (.order content) := by
  obtain ⟨byte, there, result⟩ := ok_of_bind accepted
  cases result
  have letters : (SingleByte.decode [byte]).toList = [SingleByte.character byte] :=
    String.toList_ofList
  refine ⟨⟨[byte], ?_, letters⟩, List.not_mem_nil, ?_, rfl, ?_⟩
  · simp [ne_sentinel_of_byteAt quiet there]
  · rintro (⟨_, several⟩ | _ | _)
    exact several (by rw [letters]; rfl)
  · show 0 + (SingleByte.decode [byte]).toList.length + 0 + 3 ≤ max (body.length + 0) 4
    rw [letters]
    exact Nat.le_max_right _ _

omit quiet in
theorem heard_of_bytes {content : Order} (letters : (Payload.order content).letters = [])
    (plain : sentinel ∉ (Payload.order content).plainBytes)
    (shaped : ¬ (Payload.order content).Misshapen)
    (short : (Payload.order content).plainBytes.length + 3 ≤ max body.length 4) :
    Heard body (.order content) := by
  refine ⟨⟨[], List.not_mem_nil, letters⟩, plain, shaped, rfl, ?_⟩
  rw [Payload.fieldLength, letters]
  exact short

/-- What was read from a quiet body can be laid out again, and is hardly longer. -/
theorem heard_of_read {form : Form} {payload : Payload} (accepted : form.read body = .ok payload) :
    Heard body payload := by
  cases form with
  | message =>
    obtain ⟨content, taken, rfl⟩ := ok_of_map accepted
    exact heard_of_message quiet taken
  | number =>
    obtain ⟨content, taken, rfl⟩ := ok_of_map accepted
    exact heard_of_number quiet taken
  | text =>
    cases accepted
    refine ⟨letters_textFrom quiet 3, List.not_mem_nil, (fun shape => nomatch shape), rfl, ?_⟩
    show 0 + (textFrom body 3).toList.length + 0 + 3 ≤ max (body.length + 0) 4
    rw [length_textFrom]
    omega
  | cursor =>
    obtain ⟨row, first, rest⟩ := ok_of_bind accepted
    obtain ⟨column, second, result⟩ := ok_of_bind rest
    cases result
    refine heard_of_bytes rfl ?_ (fun shape => nomatch shape) ?_
    · simp [Payload.plainBytes, ne_sentinel_of_byteAt quiet first,
        ne_sentinel_of_byteAt quiet second]
    · exact Nat.le_trans (lt_length_of_byteAt second) (Nat.le_max_left _ _)
  | cursorRow | cursorColumn | clearRow =>
    obtain ⟨byte, there, result⟩ := ok_of_bind accepted
    cases result
    refine heard_of_bytes rfl ?_ (fun shape => nomatch shape) (Nat.le_max_right _ _)
    simp [Payload.plainBytes, ne_sentinel_of_byteAt quiet there]
  | column =>
    obtain ⟨byte, there, result⟩ := ok_of_bind accepted
    cases result
    refine heard_of_bytes rfl ?_ ?_ (Nat.le_max_right _ _)
    · simp [Payload.plainBytes, ne_sentinel_of_byteAt quiet there]
    · rintro (_ | ⟨_, several⟩ | _)
      exact several rfl
  | columnsAt =>
    obtain ⟨row, first, rest⟩ := ok_of_bind accepted
    obtain ⟨column, second, result⟩ := ok_of_bind rest
    cases result
    have inside := lt_length_of_byteAt second
    refine heard_of_bytes rfl ?_ (fun shape => nomatch shape) ?_
    · simp [Payload.plainBytes, ne_sentinel_of_byteAt quiet first,
        ne_sentinel_of_byteAt quiet second, mt List.mem_of_mem_drop quiet]
    · simp only [Payload.plainBytes, List.length_cons, List.length_drop]
      omega
  | textAtNormal | textAtInverse =>
    obtain ⟨content, taken, rfl⟩ := ok_of_map accepted
    exact heard_of_textAt quiet taken
  | characterNormal | characterInverse =>
    obtain ⟨content, taken, rfl⟩ := ok_of_map accepted
    exact heard_of_character quiet taken
  | graphicLine =>
    cases accepted
    refine heard_of_bytes rfl ?_ (fun shape => nomatch shape) ?_
    · show sentinel ∉ body[3]?.getD 0 :: body.drop 4
      rw [List.mem_cons, not_or]
      refine ⟨?_, mt List.mem_of_mem_drop quiet⟩
      -- A missing count is read as zero, which is no sentinel.
      cases found : body[3]? with
      | none => decide
      | some byte =>
        rintro rfl
        exact quiet (List.mem_of_getElem? found)
    · simp only [Payload.plainBytes, List.length_cons, List.length_drop]
      omega
  | clearAll =>
    cases accepted
    exact heard_of_bytes rfl List.not_mem_nil (fun shape => nomatch shape)
      (Nat.le_trans (by decide) (Nat.le_max_right _ _))

/-- A command that was read was read in some form. -/
theorem heard_of_accepted {frameId : Nat} {command : Command}
    (accepted : read frameId body = .ok command) :
    command.frameId = frameId ∧ Heard body command.payload := by
  unfold read at accepted
  split at accepted
  · rename_i payload taken
    cases accepted
    refine ⟨rfl, ?_⟩
    unfold readPayload at taken
    split at taken
    · cases taken
    · obtain ⟨opcode, -, found⟩ := ok_of_bind taken
      split at found
      · exact heard_of_read quiet found
      · cases found
  · cases accepted

end Payloads

/-! ### Lengths -/

theorem fieldLength_of_label {payload : Payload} {label : String}
    (labelled : payload.label? = some label) : payload.fieldLength = label.length + 6 := by
  cases payload with
  | message content =>
    cases content with
    | text content severity => cases labelled
    | number label value format =>
      cases labelled
      show 5 + label.toList.length + 1 = _
      rw [String.length_toList]
      omega
  | order content => cases labelled

/-- The fields of a payload that was read can only be too long if a label fills the body. -/
theorem Heard.fieldLength_le {body : List UInt8} {payload : Payload} (heard : Heard body payload)
    (short : body.length ≤ bodyLimit) :
    payload.fieldLength ≤ 256 ∧
      (payload.fieldLength = 256 ↔ ∃ label, payload.label? = some label ∧ label.length = 250) := by
  have limit : body.length ≤ 258 := short
  have bound : payload.fieldLength + 3 ≤ max (body.length + payload.ending.length) 4 := heard.short
  cases labelled : payload.label? with
  | none =>
    have ending : payload.ending.length = 0 := by rw [Payload.ending, labelled]; rfl
    refine ⟨by omega, iff_of_false (by omega) ?_⟩
    rintro ⟨label, same, -⟩
    cases same
  | some label =>
    have ending : payload.ending.length = 1 := by rw [Payload.ending, labelled]; rfl
    have length := fieldLength_of_label labelled
    refine ⟨by omega, fun same => ⟨label, rfl, by omega⟩, ?_⟩
    rintro ⟨_, found, size⟩
    cases found
    omega

/-! ### Writing again -/

/-- What writing does with a payload that came from a device: it has fields to be framed, and is
refused only where the length of these is 35 or 256. That takes a label of 250 characters.
Otherwise the frame has its only sentinel in front, declares its own length, and is read as the
same payload. -/
structure Rewritten (payload : Payload) : Prop where
  laid : ∃ form fields, layOut payload = .ok (form, fields) ∧
    write payload = ofForm form fields ∧ fields.length = payload.fieldLength
  refused : (∃ error, write payload = .error error) ↔
    payload.fieldLength = 35 ∨ payload.fieldLength = 256
  longest : payload.fieldLength = 256 ↔
    ∃ label, payload.label? = some label ∧ label.length = 250
  framed : ∀ frame, write payload = .ok frame →
    (∀ place, frame[place]? = some sentinel ↔ place = 0) ∧
      frame[3]?.map UInt8.toNat = some (frame.length - 4) ∧
      ∀ frameId, read frameId frame.tail = .ok ⟨frameId, payload⟩

theorem Written.sentinel_iff {payload : Payload} {frame body : List UInt8}
    (wire : Written payload frame body) (place : Nat) :
    frame[place]? = some sentinel ↔ place = 0 := by
  rw [wire.starts]
  cases place with
  | zero => exact iff_of_true rfl rfl
  | succ place =>
    refine iff_of_false (fun found => ?_) (Nat.succ_ne_zero place)
    exact wire.quiet (List.mem_of_getElem? found)

theorem Written.declares {payload : Payload} {frame body : List UInt8}
    (wire : Written payload frame body) : frame[3]?.map UInt8.toNat = some (frame.length - 4) := by
  have inside : 2 < body.length := by
    rw [wire.reaches]
    exact Nat.le_add_left _ _
  have length : body.length - 3 = (body[2]?.getD 0).toNat := by
    rw [wire.reaches]
    exact Nat.add_sub_cancel _ _
  rw [wire.starts, List.getElem?_cons_succ, List.length_cons, Nat.add_sub_add_right, length,
    List.getElem?_eq_getElem inside]
  rfl

theorem Heard.rewritten {body : List UInt8} {payload : Payload} (heard : Heard body payload)
    (short : body.length ≤ bodyLimit) : Rewritten payload := by
  obtain ⟨text, quiet, letters⟩ := heard.letters
  have narrow : ∀ letter ∈ payload.letters, letter.toNat ≤ 255 :=
    (SingleByte.exists_map_character_iff _).mp ⟨text, letters.symm⟩
  obtain ⟨⟨form, fields⟩, laid⟩ := (exists_layOut_iff payload).mpr ⟨narrow, heard.shaped⟩
  obtain ⟨length, refused⟩ := exists_error_write_of_layOut laid
  obtain ⟨bound, longest⟩ := heard.fieldLength_le short
  refine ⟨⟨form, fields, laid, by rw [write, laid]; rfl, length⟩, ?_, longest, ?_⟩
  · have noLetter : '#' ∉ payload.letters := by
      rw [letters, ← SingleByte.sentinel_mem_iff]
      exact quiet
    have sentinelLength : sentinel.toNat = 35 := rfl
    rw [refused, or_iff_left (not_or.mpr ⟨heard.plain, noLetter⟩), sentinelLength]
    omega
  · intro frame done
    obtain ⟨body, wire⟩ := written_of_write done
    refine ⟨wire.sentinel_iff, wire.declares, fun frameId => ?_⟩
    have reads := wire.reads frameId
    rw [heard.received] at reads
    rw [wire.starts]
    exact reads

/-- A command that a decoder tells was read from a quiet body within the limit. -/
theorem Ends.of_ok {command : Command} {body : List UInt8} (ended : Ends (.ok command) body) :
    sentinel ∉ body ∧ body.length ≤ bodyLimit ∧
      ∃ frameId, Frame.read frameId body = .ok command := by
  generalize told : Except.ok command = outcome at ended
  cases ended with
  | read frameId quiet short => exact ⟨quiet, short, frameId, rfl⟩
  | outgrown frameId long => cases told

theorem exists_ends_of_mem {outcomes : List Outcome} {bodies : List (List UInt8)}
    (ended : List.Forall₂ Ends outcomes bodies) {outcome : Outcome} (member : outcome ∈ outcomes) :
    ∃ body, Ends outcome body := by
  induction ended with
  | nil => cases member
  | cons first _ inductionHypothesis =>
    rcases List.mem_cons.mp member with rfl | later
    · exact ⟨_, first⟩
    · exact inductionHypothesis later

/-- Every payload that was read from a quiet body within the limit is written again or refused
as said, under any frame number; and so is every payload that a decoder can tell its host,
whatever it is fed and asked to do. -/
theorem rewritten_of_read :
    (∀ (body : List UInt8) (frameId : Nat) (command : Command), sentinel ∉ body →
      body.length ≤ bodyLimit → read frameId body = .ok command →
        command.frameId = frameId ∧ Rewritten command.payload) ∧
    ∀ (requests : List Decoder.Request) (command : Command),
      .ok command ∈ (Decoder.fresh.handleAll requests).2 → Rewritten command.payload := by
  have each (body : List UInt8) (frameId : Nat) (command : Command) (quiet : sentinel ∉ body)
      (short : body.length ≤ bodyLimit) (accepted : read frameId body = .ok command) :
      command.frameId = frameId ∧ Rewritten command.payload := by
    obtain ⟨same, heard⟩ := heard_of_accepted quiet accepted
    exact ⟨same, heard.rewritten short⟩
  refine ⟨each, fun requests command member => ?_⟩
  have intact : Decoder.fresh.Intact := Decoder.intact_of_idle rfl
  have account := Decoder.accounts_handleAll intact requests
  obtain ⟨body, ended⟩ := exists_ends_of_mem account.ended member
  obtain ⟨quiet, short, frameId, accepted⟩ := ended.of_ok
  exact (each body frameId command quiet short accepted).2

/-- The body of a number that declares nothing, and whose label ends with the body, is written
again with its length and the end of its label. -/
theorem rewritten_unended_number :
    let body : List UInt8 := [68, 2, 0, 5, 2, 1, 0, 0, 97, 98]
    let payload : Payload := .message (.number (String.ofList ['a', 'b']) 258 .dec16)
    sentinel ∉ body ∧ body.length ≤ bodyLimit ∧ read 7 body = .ok ⟨7, payload⟩ ∧
      Rewritten payload ∧ write payload = .ok [0x23, 68, 2, 8, 5, 2, 1, 0, 0, 97, 98, 0] := by
  intro body payload
  refine ⟨by decide, by decide, rfl, ?_, ?_⟩
  · exact (rewritten_of_read.1 body 7 ⟨7, payload⟩ (by decide) (by decide) rfl).2
  · simp only [payload, write, layOut, layMessage, textField, SingleByte.encode,
      String.toList_ofList]
    rfl

end Frame

end PanelLink
