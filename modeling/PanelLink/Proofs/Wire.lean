/-
This file proves that a payload that can be written as a frame is read back from it.
A written frame is a sentinel and a quiet body whose length byte counts the fields;
reading the body gives the payload again, whatever the frame number. One thing does
not survive: the label of a number ends at its first zero character, because that is
what ends a label on the wire.
-/

import PanelLink.Frame.Decoder
import PanelLink.Frame.Writing

namespace PanelLink

/-- A computation that succeeded went through its first step. -/
theorem ok_of_bind {Problem First Second : Type} {step : Except Problem First}
    {next : First → Except Problem Second} {result : Second}
    (ran : (step >>= next) = .ok result) :
    ∃ value, step = .ok value ∧ next value = .ok result := by
  cases step with
  | error problem => cases ran
  | ok value => exact ⟨value, rfl, ran⟩

/-! ### Texts of single bytes -/

namespace SingleByte

theorem toNat_character (byte : UInt8) : (character byte).toNat = byte.toNat := by
  have bound := byte.toNat_lt
  rw [character, Char.ofNat, dif_pos (Or.inl (by omega))]
  rfl

theorem character_eq_zero_iff (byte : UInt8) : character byte = '\x00' ↔ byte = 0 := by
  constructor
  · intro same
    have number : byte.toNat = 0 := by rw [← toNat_character, same]; rfl
    exact UInt8.toNat_inj.mp number
  · rintro rfl
    rfl

theorem character_of_byte? {letter : Char} {byte : UInt8} (fits : byte? letter = some byte) :
    character byte = letter := by
  unfold byte? at fits
  split at fits
  · rename_i small
    cases fits
    rw [character, UInt8.toNat_ofNat', Nat.mod_eq_of_lt small, Char.ofNat_toNat]
  · cases fits

theorem map_character_of_encodeChars {letters : List Char} {bytes : List UInt8}
    (encoded : encodeChars letters = .ok bytes) : bytes.map character = letters := by
  induction letters generalizing bytes with
  | nil =>
    cases encoded
    rfl
  | cons letter rest inductionHypothesis =>
    unfold encodeChars at encoded
    split at encoded
    · cases encoded
    · rename_i byte fits
      cases tail : encodeChars rest with
      | error wide =>
        rw [tail] at encoded
        cases encoded
      | ok more =>
        rw [tail] at encoded
        cases encoded
        rw [List.map_cons, character_of_byte? fits, inductionHypothesis tail]

theorem map_character_of_encode {content : String} {bytes : List UInt8}
    (encoded : encode content = .ok bytes) : bytes.map character = content.toList :=
  map_character_of_encodeChars encoded

theorem decode_of_encode {content : String} {bytes : List UInt8}
    (encoded : encode content = .ok bytes) : decode bytes = content := by
  rw [decode, map_character_of_encode encoded, String.ofList_toList]

end SingleByte

namespace Frame

/-! ### Fields -/

theorem encode_of_textField {content : String} {bytes : List UInt8}
    (laid : textField content = .ok bytes) : SingleByte.encode content = .ok bytes := by
  unfold textField at laid
  cases encoded : SingleByte.encode content with
  | error wide =>
    rw [encoded] at laid
    cases laid
  | ok more =>
    rw [encoded] at laid
    cases laid
    rfl

theorem decode_of_textField {content : String} {bytes : List UInt8}
    (laid : textField content = .ok bytes) : SingleByte.decode bytes = content :=
  SingleByte.decode_of_encode (encode_of_textField laid)

theorem littleEndian_numberField (value : UInt32) :
    littleEndian (UInt8.ofNat (value.toNat % 256)) (UInt8.ofNat (value.toNat / 256 % 256))
      (UInt8.ofNat (value.toNat / 65536 % 256)) (UInt8.ofNat (value.toNat / 16777216 % 256)) =
      value := by
  have bound := value.toNat_lt
  apply UInt32.toNat_inj.mp
  simp only [littleEndian, UInt32.toNat_ofNat', UInt8.toNat_ofNat']
  omega

end Frame

/-! ### What arrives of a payload -/

/-- The part of a label in front of its first zero character. -/
def labelCut (label : String) : String :=
  String.ofList (label.toList.takeWhile (· ≠ '\x00'))

/-- The payload that arrives when a payload is sent: a label is cut at its first zero
character, and everything else arrives as it is. -/
def Payload.received : Payload → Payload
  | .message (.number label value format) => .message (.number (labelCut label) value format)
  | payload => payload

namespace Frame

/-- A label field is read up to its first zero byte, which is its end at the latest. -/
theorem decode_label {label : String} {bytes : List UInt8}
    (laid : textField label = .ok bytes) :
    SingleByte.decode ((bytes ++ [0]).takeWhile (· ≠ 0)) = labelCut label := by
  have ended : (bytes ++ [0]).takeWhile (· ≠ 0) = bytes.takeWhile (· ≠ 0) := by
    rw [List.takeWhile_append]
    split
    · rename_i all
      show bytes ++ [] = _
      rw [List.append_nil, (List.takeWhile_prefix _).eq_of_length all]
    · rfl
  have same : (fun letter : Char => decide (letter ≠ '\x00')) ∘ SingleByte.character =
      fun byte : UInt8 => decide (byte ≠ 0) := by
    funext byte
    simp only [Function.comp_apply, ne_eq, SingleByte.character_eq_zero_iff]
  rw [ended, labelCut, ← SingleByte.map_character_of_encode (encode_of_textField laid),
    List.takeWhile_map, same]
  rfl

/-! ### Forms -/

theorem ofBytes?_of_form (form : Form) :
    Form.ofBytes? form.category.code form.opcode = some form := by
  cases form <;> rfl

/-- A message is read back from its fields, whatever the three bytes in front of them. -/
theorem read_of_layMessage {content : Message} {form : Form} {fields : List UInt8}
    (laid : layMessage content = .ok (form, fields)) (first second third : UInt8) :
    form.read (first :: second :: third :: fields) =
      .ok (Payload.message content).received := by
  cases content with
  | text content severity =>
    obtain ⟨text, field, result⟩ := ok_of_bind laid
    cases result
    have taken : Form.message.read (first :: second :: third :: severity.code :: text) =
        .ok (.message (.text (SingleByte.decode text) severity)) := by
      cases severity <;> rfl
    rw [taken, decode_of_textField field]
    rfl
  | number label value format =>
    obtain ⟨text, field, result⟩ := ok_of_bind laid
    cases result
    have taken : Form.number.read
          (first :: second :: third :: (format.code :: numberField value ++ text ++ [0])) =
        .ok (.message (.number (SingleByte.decode ((text ++ [0]).takeWhile (· ≠ 0)))
          (littleEndian (UInt8.ofNat (value.toNat % 256)) (UInt8.ofNat (value.toNat / 256 % 256))
            (UInt8.ofNat (value.toNat / 65536 % 256))
            (UInt8.ofNat (value.toNat / 16777216 % 256))) format)) := by
      cases format <;> rfl
    rw [taken, decode_label field, littleEndian_numberField]
    rfl

/-- The form of a text at a cell reads the cell, the rest and its own mode. -/
theorem read_formTextAt (mode : TextMode) (first second third row column : UInt8)
    (text : List UInt8) :
    (formTextAt mode).read (first :: second :: third :: row :: column :: text) =
      .ok (.order (.writeAt (SingleByte.decode text) row column mode)) := by
  cases mode <;> rfl

/-- The form of a character reads one byte and its own mode. -/
theorem read_formCharacter (mode : TextMode) (first second third byte : UInt8) :
    (formCharacter mode).read [first, second, third, byte] =
      .ok (.order (.write (SingleByte.decode [byte]) mode)) := by
  cases mode <;> rfl

/-- A text at the cursor is read back, also where one character makes it another form. -/
theorem read_of_layWrite {content : String} {mode : TextMode} {form : Form}
    {fields : List UInt8} (laid : layWrite content mode = .ok (form, fields))
    (first second third : UInt8) :
    form.read (first :: second :: third :: fields) = .ok (.order (.write content mode)) := by
  unfold layWrite at laid
  split at laid
  · rename_i letter mode single
    obtain ⟨text, field, result⟩ := ok_of_bind laid
    cases result
    have letters := SingleByte.map_character_of_encode (encode_of_textField field)
    obtain ⟨byte, rfl⟩ : ∃ byte, fields = [byte] := by
      rw [single] at letters
      exact List.length_eq_one_iff.mp (by simpa using congrArg List.length letters)
    rw [read_formCharacter, decode_of_textField field]
  · obtain ⟨text, field, result⟩ := ok_of_bind laid
    cases result
    show Except.ok (Payload.order (.write (SingleByte.decode fields) .normal)) = _
    rw [decode_of_textField field]
  · cases laid

/-- An order is read back from its fields, whatever the three bytes in front of them. -/
theorem read_of_layOrder {content : Order} {form : Form} {fields : List UInt8}
    (laid : layOrder content = .ok (form, fields)) (first second third : UInt8) :
    form.read (first :: second :: third :: fields) = .ok (.order content) := by
  unfold layOrder at laid
  split at laid
  · exact read_of_layWrite laid first second third
  · obtain ⟨text, field, result⟩ := ok_of_bind laid
    cases result
    rw [read_formTextAt, decode_of_textField field]
  all_goals
    cases laid <;> rfl

/-- The fields of a payload are read back as what arrives of it. -/
theorem read_of_layOut {payload : Payload} {form : Form} {fields : List UInt8}
    (laid : layOut payload = .ok (form, fields)) (first second third : UInt8) :
    form.read (first :: second :: third :: fields) = .ok payload.received := by
  cases payload with
  | message content => exact read_of_layMessage laid first second third
  | order content => exact read_of_layOrder laid first second third

/-! ### Frames -/

/-- A frame is a sentinel and a quiet body with its header and a true length byte. -/
theorem body_of_frame {category : Category} {opcode : UInt8} {fields bytes : List UInt8}
    (framed : frame category opcode fields = .ok bytes) :
    bytes = sentinel :: category.code :: opcode :: UInt8.ofNat fields.length :: fields ∧
      sentinel ∉ category.code :: opcode :: UInt8.ofNat fields.length :: fields ∧
      fields.length ≤ 255 := by
  unfold frame at framed
  split at framed
  · cases framed
  · rename_i short
    simp only at framed
    split at framed
    · cases framed
    · rename_i quiet
      cases framed
      refine ⟨rfl, fun member => ?_, Nat.not_lt.mp short⟩
      have other := List.findIdx?_eq_none_iff.mp quiet sentinel member
      exact absurd other (by decide)

/-- A body whose header names a form is read in that form. -/
theorem readPayload_of_form (form : Form) (length : UInt8) (fields : List UInt8) :
    readPayload (form.category.code :: form.opcode :: length :: fields) =
      form.read (form.category.code :: form.opcode :: length :: fields) := by
  have opcode : byteAt (form.category.code :: form.opcode :: length :: fields) 1 =
      .ok form.opcode := rfl
  simp only [readPayload, opcode, bind, Except.bind, ofBytes?_of_form]

/-- What the frame of a payload is: a sentinel and a quiet body that reaches exactly as far as
it declares and reads as what arrives of the payload. -/
structure Written (payload : Payload) (bytes body : List UInt8) : Prop where
  starts : bytes = sentinel :: body
  quiet : sentinel ∉ body
  reaches : body.length = Decoder.declared body + headerLength
  reads : ∀ frameId, read frameId body = .ok ⟨frameId, payload.received⟩

theorem written_of_write {payload : Payload} {bytes : List UInt8}
    (done : write payload = .ok bytes) : ∃ body, Written payload bytes body := by
  obtain ⟨⟨form, fields⟩, laid, framed⟩ := ok_of_bind done
  obtain ⟨starts, quiet, short⟩ := body_of_frame framed
  refine ⟨_, starts, quiet, ?_, fun frameId => ?_⟩
  · show fields.length + 3 = (UInt8.ofNat fields.length).toNat + 3
    rw [UInt8.toNat_ofNat', Nat.mod_eq_of_lt (Nat.lt_succ_of_le short)]
  · rw [read, readPayload_of_form, read_of_layOut laid]

end Frame

end PanelLink
