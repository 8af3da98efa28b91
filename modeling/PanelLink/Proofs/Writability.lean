/-
This file says which payloads can be written as frames. Every payload is laid out in the
same way: the bytes that it carries as they are, then the bytes of its text, then the byte
that ends a label. So whether it is refused can be told from the payload itself: by a
character that takes more than a byte, a shape that no form has, a sentinel among its bytes,
letters or in the place of its length, or more bytes than a length byte can count.

Whatever is written is read back unchanged, but for one thing that nobody looks at: a zero
character in a label. Writing does not refuse it, and on the wire it ends the label.
-/

import Mathlib.Data.List.Basic
import Mathlib.Data.List.TakeWhile
import PanelLink.Proofs.Wire

namespace PanelLink

/-! ### What a payload consists of -/

namespace Payload

def label? : Payload → Option String
  | .message (.number label _ _) => some label
  | _ => none

def letters : Payload → List Char
  | .message (.text content _) => content.toList
  | .message (.number label _ _) => label.toList
  | .order (.write content _) | .order (.writeAt content _ _ _) => content.toList
  | .order _ => []

/-- The bytes that a payload carries besides its text. -/
def plainBytes : Payload → List UInt8
  | .message (.text _ severity) => [severity.code]
  | .message (.number _ value format) => format.code :: Frame.numberField value
  | .order (.write ..) | .order .clearAll => []
  | .order (.writeAt _ row column _) => [row, column]
  | .order (.columns bytes) => bytes
  | .order (.moveCursor row column) => row.toList ++ column.toList
  | .order (.clearRow row) => [row]
  | .order (.columnsAt row column bytes) => row :: column :: bytes
  | .order (.graphicLine columnCount bytes) => columnCount :: bytes

/-- The byte behind a label that ends it. -/
def ending (payload : Payload) : List UInt8 :=
  payload.label?.toList.map fun _ => 0

/-- The number of bytes that a payload takes behind the header of its frame. -/
def fieldLength (payload : Payload) : Nat :=
  payload.plainBytes.length + payload.letters.length + payload.ending.length

/-- The shapes that no form has. -/
inductive Misshapen : Payload → Prop where
  /-- Inverse text at the cursor that is not one character. -/
  | inverse (content : String) (several : content.toList.length ≠ 1) :
    Misshapen (.order (.write content .inverse))
  /-- Pixel columns at the cursor that are not one column. -/
  | columns (bytes : List UInt8) (several : bytes.length ≠ 1) : Misshapen (.order (.columns bytes))
  /-- A cursor order without an axis. -/
  | cursor : Misshapen (.order (.moveCursor none none))

/-- The reasons for which a payload cannot be written. -/
inductive Unwritable (payload : Payload) : Prop where
  /-- A character takes more than one byte. -/
  | wide (letter : Char) (member : letter ∈ payload.letters) (large : 255 < letter.toNat)
  | misshapen (shape : payload.Misshapen)
  | sentinelByte (member : Frame.sentinel ∈ payload.plainBytes)
  | sentinelLetter (member : '#' ∈ payload.letters)
  /-- The length byte itself would be a sentinel. -/
  | sentinelLength (same : payload.fieldLength = Frame.sentinel.toNat)
  | long (large : 255 < payload.fieldLength)

end Payload

/-! ### Texts of single bytes -/

namespace SingleByte

theorem character_injective : Function.Injective character := by
  intro first second same
  apply UInt8.toNat_inj.mp
  rw [← toNat_character, same, toNat_character]

theorem byte?_character (byte : UInt8) : byte? (character byte) = some byte := by
  rw [byte?, toNat_character, if_pos byte.toNat_lt, UInt8.ofNat_toNat]

theorem encodeChars_map_character (bytes : List UInt8) :
    encodeChars (bytes.map character) = .ok bytes := by
  induction bytes with
  | nil => rfl
  | cons byte rest inductionHypothesis =>
    rw [List.map_cons, encodeChars, byte?_character]
    simp only
    rw [inductionHypothesis]
    rfl

/-- Exactly the characters up to U+00FF stand for bytes. -/
theorem exists_map_character_iff (letters : List Char) :
    (∃ bytes : List UInt8, bytes.map character = letters) ↔
      ∀ letter ∈ letters, letter.toNat ≤ 255 := by
  constructor
  · rintro ⟨bytes, rfl⟩ letter member
    obtain ⟨byte, -, rfl⟩ := List.mem_map.mp member
    rw [toNat_character]
    exact Nat.le_of_lt_succ byte.toNat_lt
  · intro narrow
    refine ⟨letters.map fun letter => UInt8.ofNat letter.toNat, ?_⟩
    rw [List.map_map]
    refine (List.map_congr_left fun letter member => ?_).trans (List.map_id letters)
    have fits : byte? letter = some (UInt8.ofNat letter.toNat) := by
      rw [byte?, if_pos (Nat.lt_succ_of_le (narrow letter member))]
    exact character_of_byte? fits

theorem sentinel_mem_iff (bytes : List UInt8) :
    Frame.sentinel ∈ bytes ↔ '#' ∈ bytes.map character :=
  (List.mem_map_of_injective character_injective (a := Frame.sentinel)).symm

end SingleByte

namespace Frame

/-! ### Laying out -/

theorem textField_eq_ok_iff (content : String) (bytes : List UInt8) :
    textField content = .ok bytes ↔ bytes.map SingleByte.character = content.toList := by
  constructor
  · intro laid
    exact SingleByte.map_character_of_encode (encode_of_textField laid)
  · intro letters
    rw [textField, SingleByte.encode, ← letters, SingleByte.encodeChars_map_character]
    rfl

/-- The bytes of a text that can be a field, for any computation that goes on with them. -/
theorem exists_bind_textField_iff (content : String)
    (next : List UInt8 → Form × List UInt8) :
    (∃ laid, (do let text ← textField content; return next text) = Except.ok laid) ↔
      ∀ letter ∈ content.toList, letter.toNat ≤ 255 := by
  rw [← SingleByte.exists_map_character_iff]
  constructor
  · rintro ⟨laid, done⟩
    obtain ⟨text, field, -⟩ := ok_of_bind done
    exact ⟨text, (textField_eq_ok_iff content text).mp field⟩
  · rintro ⟨text, letters⟩
    rw [(textField_eq_ok_iff content text).mpr letters]
    exact ⟨next text, rfl⟩

theorem exists_bind_textField_iff_shaped (content : String) (next : List UInt8 → Form × List UInt8)
    {payload : Payload} (shaped : ¬ payload.Misshapen) :
    (∃ laid, (do let text ← textField content; return next text) = Except.ok laid) ↔
      (∀ letter ∈ content.toList, letter.toNat ≤ 255) ∧ ¬ payload.Misshapen := by
  rw [exists_bind_textField_iff, and_iff_left shaped]

/-- A text at the cursor is laid out unless it is inverse and not one character. -/
theorem exists_layWrite_iff (content : String) (mode : TextMode) :
    (∃ laid, layWrite content mode = .ok laid) ↔
      (∀ letter ∈ content.toList, letter.toNat ≤ 255) ∧
        ¬ (Payload.order (.write content mode)).Misshapen := by
  unfold layWrite
  split
  · rename_i letter mode single
    refine exists_bind_textField_iff_shaped content _ ?_
    rintro ⟨_, several⟩
    exact several (by rw [single]; rfl)
  · exact exists_bind_textField_iff_shaped content _ (fun shape => nomatch shape)
  · rename_i several
    refine iff_of_false (fun ⟨laid, done⟩ => nomatch done) fun both => both.2 (.inverse content ?_)
    intro single
    obtain ⟨letter, only⟩ := List.length_eq_one_iff.mp single
    exact several letter only

theorem exists_layOrder_iff (content : Order) :
    (∃ laid, layOrder content = .ok laid) ↔
      (∀ letter ∈ (Payload.order content).letters, letter.toNat ≤ 255) ∧
        ¬ (Payload.order content).Misshapen := by
  have noLetters : ∀ letter ∈ ([] : List Char), letter.toNat ≤ 255 :=
    fun _ member => nomatch member
  cases content with
  | write content mode => exact exists_layWrite_iff content mode
  | writeAt content row column mode =>
    exact exists_bind_textField_iff_shaped content _ (fun shape => nomatch shape)
  | columns bytes =>
    match bytes with
    | [byte] =>
      refine iff_of_true ⟨_, rfl⟩ ⟨noLetters, ?_⟩
      rintro (_ | ⟨_, several⟩)
      exact several rfl
    | [] | _ :: _ :: _ =>
      exact iff_of_false (fun ⟨_, done⟩ => nomatch done) fun both => both.2 (.columns _ (by simp))
  | moveCursor row column =>
    match row, column with
    | none, none => exact iff_of_false (fun ⟨_, done⟩ => nomatch done) fun both => both.2 .cursor
    | some _, some _ | some _, none | none, some _ =>
      exact iff_of_true ⟨_, rfl⟩ ⟨noLetters, fun shape => nomatch shape⟩
  | clearAll | clearRow _ | columnsAt _ _ _ | graphicLine _ _ =>
    exact iff_of_true ⟨_, rfl⟩ ⟨noLetters, fun shape => nomatch shape⟩

/-- Laying out fails only for a wide character or a shape that no form has. -/
theorem exists_layOut_iff (payload : Payload) :
    (∃ laid, layOut payload = .ok laid) ↔
      (∀ letter ∈ payload.letters, letter.toNat ≤ 255) ∧ ¬ payload.Misshapen := by
  cases payload with
  | message content =>
    cases content with
    | text content severity =>
      exact exists_bind_textField_iff_shaped content _ (fun shape => nomatch shape)
    | number label value format =>
      exact exists_bind_textField_iff_shaped label _ (fun shape => nomatch shape)
  | order content => exact exists_layOrder_iff content

theorem fields_of_layWrite {content : String} {mode : TextMode} {form : Form}
    {fields : List UInt8} (laid : layWrite content mode = .ok (form, fields)) :
    fields.map SingleByte.character = content.toList := by
  unfold layWrite at laid
  split at laid
  · obtain ⟨text, field, result⟩ := ok_of_bind laid
    cases result
    exact (textField_eq_ok_iff content _).mp field
  · obtain ⟨text, field, result⟩ := ok_of_bind laid
    cases result
    exact (textField_eq_ok_iff content _).mp field
  · cases laid

theorem fields_of_layOrder {content : Order} {form : Form} {fields : List UInt8}
    (laid : layOrder content = .ok (form, fields)) :
    ∃ text : List UInt8, text.map SingleByte.character = (Payload.order content).letters ∧
      fields = (Payload.order content).plainBytes ++ text := by
  unfold layOrder at laid
  split at laid
  · exact ⟨fields, fields_of_layWrite laid, rfl⟩
  · obtain ⟨text, field, result⟩ := ok_of_bind laid
    cases result
    exact ⟨text, (textField_eq_ok_iff _ text).mp field, rfl⟩
  all_goals
    cases laid <;> exact ⟨[], rfl, (List.append_nil _).symm⟩

/-- Whatever is laid out consists of the plain bytes, the bytes of the text, and the byte that
ends a label. -/
theorem fields_of_layOut {payload : Payload} {form : Form} {fields : List UInt8}
    (laid : layOut payload = .ok (form, fields)) :
    ∃ text : List UInt8, text.map SingleByte.character = payload.letters ∧
      fields = payload.plainBytes ++ text ++ payload.ending := by
  cases payload with
  | message content =>
    cases content with
    | text content severity =>
      obtain ⟨text, field, result⟩ := ok_of_bind laid
      cases result
      exact ⟨text, (textField_eq_ok_iff content text).mp field, (List.append_nil _).symm⟩
    | number label value format =>
      obtain ⟨text, field, result⟩ := ok_of_bind laid
      cases result
      exact ⟨text, (textField_eq_ok_iff label text).mp field, rfl⟩
  | order content =>
    obtain ⟨text, letters, same⟩ := fields_of_layOrder laid
    exact ⟨text, letters, same.trans (List.append_nil _).symm⟩

/-- A frame is refused for its length, for its length byte, or for a sentinel in its fields. -/
theorem exists_error_ofForm_iff (form : Form) (fields : List UInt8) :
    (∃ error, ofForm form fields = .error error) ↔
      255 < fields.length ∨ fields.length = sentinel.toNat ∨ sentinel ∈ fields := by
  unfold ofForm frame
  by_cases long : 255 < fields.length
  · rw [if_pos long]
    exact iff_of_true ⟨_, rfl⟩ (.inl long)
  · rw [if_neg long, or_iff_right long]
    have category : form.category.code ≠ sentinel := by cases form <;> decide
    have opcode : form.opcode ≠ sentinel := by cases form <;> decide
    -- The fields are short enough for the length byte to be their number itself.
    have length : UInt8.ofNat fields.length = sentinel ↔ fields.length = sentinel.toNat := by
      rw [← UInt8.toNat_inj, UInt8.toNat_ofNat', Nat.mod_eq_of_lt (by omega)]
    have inside :
        sentinel ∈ form.category.code :: form.opcode :: UInt8.ofNat fields.length :: fields ↔
          fields.length = sentinel.toNat ∨ sentinel ∈ fields := by
      rw [List.mem_cons, or_iff_right category.symm, List.mem_cons, or_iff_right opcode.symm,
        List.mem_cons, eq_comm, length]
    rw [← inside]
    simp only
    split
    · rename_i index found
      have present := congrArg Option.isSome found
      rw [List.findIdx?_isSome, Option.isSome_some, List.any_eq_true] at present
      obtain ⟨byte, member, same⟩ := present
      exact iff_of_true ⟨_, rfl⟩ (beq_iff_eq.mp same ▸ member)
    · rename_i quiet
      refine iff_of_false (fun ⟨_, refused⟩ => nomatch refused) fun member => ?_
      exact absurd (List.findIdx?_eq_none_iff.mp quiet sentinel member) (by decide)

/-! ### Refusals -/

/-- Laid-out fields have the length of the payload, and hold a sentinel if the payload does. -/
theorem exists_error_write_of_layOut {payload : Payload} {form : Form} {fields : List UInt8}
    (laid : layOut payload = .ok (form, fields)) :
    fields.length = payload.fieldLength ∧
      ((∃ error, write payload = .error error) ↔
        255 < payload.fieldLength ∨ payload.fieldLength = sentinel.toNat ∨
          sentinel ∈ payload.plainBytes ∨ '#' ∈ payload.letters) := by
  obtain ⟨text, letters, same⟩ := fields_of_layOut laid
  have framed : write payload = ofForm form fields := by
    rw [write, laid]
    rfl
  have length : fields.length = payload.fieldLength := by
    rw [same, List.length_append, List.length_append, Payload.fieldLength, ← letters,
      List.length_map]
  have ending : sentinel ∉ payload.ending := by
    rw [Payload.ending, List.mem_map]
    rintro ⟨_, _, zero⟩
    cases zero
  have inside : sentinel ∈ fields ↔ sentinel ∈ payload.plainBytes ∨ '#' ∈ payload.letters := by
    rw [same, List.mem_append, or_iff_left ending, List.mem_append,
      SingleByte.sentinel_mem_iff text, letters]
  refine ⟨length, ?_⟩
  rw [framed, exists_error_ofForm_iff, length, inside]

/-- Writing refuses a payload for one of the known reasons, and for no other. -/
theorem exists_error_write_iff (payload : Payload) :
    (∃ error, write payload = .error error) ↔ payload.Unwritable := by
  cases laid : layOut payload with
  | error problem =>
    have failed : ¬ ∃ laid, layOut payload = .ok laid := by
      rw [laid]
      rintro ⟨_, done⟩
      cases done
    rw [exists_layOut_iff, not_and_or] at failed
    refine iff_of_true ⟨problem, by rw [write, laid]; rfl⟩ ?_
    rcases failed with wide | shape
    · simp only [not_forall, Nat.not_le] at wide
      obtain ⟨letter, member, large⟩ := wide
      exact .wide letter member large
    · exact .misshapen (not_not.mp shape)
  | ok fields =>
    obtain ⟨narrow, shaped⟩ := (exists_layOut_iff payload).mp ⟨fields, laid⟩
    rw [(exists_error_write_of_layOut laid).2]
    constructor
    · rintro (large | same | byte | letter)
      · exact .long large
      · exact .sentinelLength same
      · exact .sentinelByte byte
      · exact .sentinelLetter letter
    · rintro (⟨letter, member, large⟩ | shape | byte | letter | same | large)
      · exact absurd (narrow letter member) (Nat.not_le.mpr large)
      · exact absurd shape shaped
      · exact .inr (.inr (.inl byte))
      · exact .inr (.inr (.inr letter))
      · exact .inr (.inl same)
      · exact .inl large

end Frame

/-! ### What arrives -/

/-- A label arrives as it is unless it holds a zero character. -/
theorem labelCut_eq_self_iff (label : String) :
    labelCut label = label ↔ '\x00' ∉ label.toList := by
  rw [labelCut, ← String.toList_inj, String.toList_ofList, List.takeWhile_eq_self_iff]
  constructor
  · intro others member
    exact absurd (others _ member) (by decide)
  · intro absent letter member
    exact decide_eq_true fun same => absent (same ▸ member)

theorem Payload.received_eq_self_iff (payload : Payload) :
    payload.received = payload ↔ ∀ label, payload.label? = some label → '\x00' ∉ label.toList := by
  cases payload with
  | message content =>
    cases content with
    | text content severity => exact iff_of_true rfl (fun _ same => nomatch same)
    | number label value format =>
      have same : (Payload.message (.number label value format)).received =
          .message (.number label value format) ↔ labelCut label = label := by
        simp only [received, Payload.message.injEq, Message.number.injEq, and_self, and_true]
      rw [same, labelCut_eq_self_iff]
      refine ⟨?_, fun absent => absent label rfl⟩
      rintro absent _ found
      cases found
      exact absent
  | order content => exact iff_of_true rfl (fun _ same => nomatch same)

namespace Frame

/-- A payload is either refused, for one of the known reasons and for no other, or its frame
is read back as the same payload. The only exception is a label with a zero character: this is
no reason to refuse it, and what is read back is the label cut at that character. -/
theorem write_returns_or_refuses (payload : Payload) :
    ((∃ error, write payload = .error error) ↔ payload.Unwritable) ∧
      (∀ frame, write payload = .ok frame →
        ∀ frameId, read frameId frame.tail = .ok ⟨frameId, payload.received⟩) ∧
      (payload.received = payload ↔
        ∀ label, payload.label? = some label → '\x00' ∉ label.toList) := by
  refine ⟨exists_error_write_iff payload, fun frame done frameId => ?_,
    payload.received_eq_self_iff⟩
  obtain ⟨body, wire⟩ := written_of_write done
  rw [wire.starts]
  exact wire.reads frameId

/-- A label with a zero character is written without complaint and read back as another one. -/
theorem write_cuts_label :
    let label := String.ofList ['a', '\x00', 'b']
    let sent : Payload := .message (.number label 1 .hex8)
    let arrived : Payload := .message (.number (String.ofList ['a']) 1 .hex8)
    let frame : List UInt8 := [0x23, 68, 2, 9, 1, 1, 0, 0, 0, 97, 0, 98, 0]
    write sent = .ok frame ∧ (∀ frameId, read frameId frame.tail = .ok ⟨frameId, arrived⟩) ∧
      arrived ≠ sent := by
  intro label sent arrived frame
  refine ⟨?_, fun frameId => rfl, ?_⟩
  · simp only [sent, label, write, layOut, layMessage, textField, SingleByte.encode,
      String.toList_ofList]
    rfl
  · intro same
    injection same with same
    injection same with same
    have letters := congrArg String.toList same
    rw [String.toList_ofList, String.toList_ofList] at letters
    cases letters

end Frame

end PanelLink
