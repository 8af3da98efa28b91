/-
This file says what a body means without saying how it is read. The first two bytes name a
form, and each form has a layout: how long a body has to be, which fields it must have at
which places, and where its fields end. A body that reaches over these fields, and whose
lookup byte selects an entry, says one payload; the relation that says which is spelled out
byte by byte, so that it can be seen what does not matter. Any other body is refused for its
first defect, and the fields are looked at in the order of their places.
-/

import Mathlib.Data.List.Basic
import PanelLink.Proofs.Rewriting

namespace PanelLink.Frame

/-! ### Layouts -/

/-- A field that a body must have. Its place counts from the category byte. -/
inductive Slot where
  | byte (place : Nat)
  /-- A byte that selects one of some entries, counting from one. -/
  | entry (place : Nat) (list : LookupField) (entries : Nat)
  /-- A number of four bytes. -/
  | number (place : Nat)
  deriving DecidableEq, Repr

/-- What follows the fields that a body must have. -/
inductive Tail where
  | nothing
  /-- Bytes up to the end of the body. -/
  | toEnd
  /-- Bytes from a place on, up to the first zero byte or else to the end. -/
  | toZero (place : Nat)
  deriving DecidableEq, Repr

/-- What the bytes of a body are. -/
structure Layout where
  category : UInt8
  opcode : UInt8
  /-- The length of the shortest body that has all fields that it must have. -/
  least : Nat
  slots : List Slot
  tail : Tail
  deriving DecidableEq, Repr

/-- The layouts of the wire. -/
def Form.layout : Form → Layout
  | message => ⟨68, 1, 4, [.entry 3 .severity 3], .toEnd⟩
  | number => ⟨68, 2, 8, [.entry 3 .numberFormat 8, .number 4], .toZero 8⟩
  | text => ⟨76, 1, 2, [], .toEnd⟩
  | cursor => ⟨76, 2, 5, [.byte 3, .byte 4], .nothing⟩
  | cursorRow => ⟨76, 3, 4, [.byte 3], .nothing⟩
  | cursorColumn => ⟨76, 4, 4, [.byte 3], .nothing⟩
  | column => ⟨76, 5, 4, [.byte 3], .nothing⟩
  | columnsAt => ⟨76, 6, 5, [.byte 3, .byte 4], .toEnd⟩
  | textAtNormal => ⟨76, 7, 5, [.byte 3, .byte 4], .toEnd⟩
  | textAtInverse => ⟨76, 8, 5, [.byte 3, .byte 4], .toEnd⟩
  | characterNormal => ⟨76, 9, 4, [.byte 3], .nothing⟩
  | characterInverse => ⟨76, 10, 4, [.byte 3], .nothing⟩
  | graphicLine => ⟨76, 12, 2, [], .toEnd⟩
  | clearRow => ⟨76, 13, 4, [.byte 3], .nothing⟩
  | clearAll => ⟨76, 14, 2, [], .nothing⟩

/-- The length of the shortest body that has a field. -/
def Slot.stop : Slot → Nat
  | .byte place | .entry place _ _ => place + 1
  | .number place => place + 4

/-- What is wrong with a field of a body, if anything is. -/
def Slot.defect? (body : List UInt8) : Slot → Option Reason
  | .byte place =>
    if place < body.length then none else some (.truncated (place + 1) body.length)
  | .entry place list entries =>
    match body[place]? with
    | some value =>
      if 1 ≤ value.toNat ∧ value.toNat ≤ entries then none else some (.badLookup list value)
    | none => some (.truncated (place + 1) body.length)
  | .number place =>
    if place + 4 ≤ body.length then none else some (.truncated (place + 4) body.length)

namespace Layout

/-- The first two bytes of a body are those of a layout. -/
def Names (layout : Layout) (body : List UInt8) : Prop :=
  body[0]? = some layout.category ∧ body[1]? = some layout.opcode

/-- A body is long enough for a layout that it names, and its lookup byte selects an entry. -/
structure Fits (layout : Layout) (body : List UInt8) : Prop where
  names : layout.Names body
  reaches : layout.least ≤ body.length
  selects : ∀ place list entries, .entry place list entries ∈ layout.slots →
    ∀ byte, body[place]? = some byte → 1 ≤ byte.toNat ∧ byte.toNat ≤ entries

/-- The place behind the last byte that a layout looks at, if it is not the end of the body. -/
def stop? (layout : Layout) (body : List UInt8) : Option Nat :=
  match layout.tail with
  | .nothing => some layout.least
  | .toEnd => none
  | .toZero place =>
    if 0 ∈ body.drop place then
      some (place + ((body.drop place).takeWhile (· ≠ 0)).length + 1)
    else none

end Layout

/-! ### Meaning -/

/-- Each character of a text has the code point of a byte. -/
def Spells (bytes : List UInt8) (content : String) : Prop :=
  content.toList.map Char.toNat = bytes.map UInt8.toNat

/-- What a body of each form says. The third byte is the declared length, which says nothing, and
neither do the bytes that are called the rest. -/
inductive Means : Form → List UInt8 → Payload → Prop where
  | message (length : UInt8) (severity : Severity) (bytes : List UInt8) (content : String)
      (spelled : Spells bytes content) :
    Means .message (68 :: 1 :: length :: severity.code :: bytes)
      (.message (.text content severity))
  | number (length : UInt8) (format : NumberFormat) (first second third fourth : UInt8)
      (label rest : List UInt8) (content : String) (value : UInt32)
      (summed : value.toNat = first.toNat + 256 * second.toNat + 65536 * third.toNat +
        16777216 * fourth.toNat)
      (whole : 0 ∉ label) (ended : rest = [] ∨ ∃ more, rest = 0 :: more)
      (spelled : Spells label content) :
    Means .number
      (68 :: 2 :: length :: format.code :: first :: second :: third :: fourth :: (label ++ rest))
      (.message (.number content value format))
  | text (length : UInt8) (bytes : List UInt8) (content : String)
      (spelled : Spells bytes content) :
    Means .text (76 :: 1 :: length :: bytes) (.order (.write content .normal))
  /-- A text of which not even the declared length is there. -/
  | noText : Means .text [76, 1] (.order (.write "" .normal))
  | cursor (length row column : UInt8) (rest : List UInt8) :
    Means .cursor (76 :: 2 :: length :: row :: column :: rest)
      (.order (.moveCursor (some row) (some column)))
  | cursorRow (length row : UInt8) (rest : List UInt8) :
    Means .cursorRow (76 :: 3 :: length :: row :: rest) (.order (.moveCursor (some row) none))
  | cursorColumn (length column : UInt8) (rest : List UInt8) :
    Means .cursorColumn (76 :: 4 :: length :: column :: rest)
      (.order (.moveCursor none (some column)))
  | column (length byte : UInt8) (rest : List UInt8) :
    Means .column (76 :: 5 :: length :: byte :: rest) (.order (.columns [byte]))
  | columnsAt (length row column : UInt8) (bytes : List UInt8) :
    Means .columnsAt (76 :: 6 :: length :: row :: column :: bytes)
      (.order (.columnsAt row column bytes))
  | textAtNormal (length row column : UInt8) (bytes : List UInt8) (content : String)
      (spelled : Spells bytes content) :
    Means .textAtNormal (76 :: 7 :: length :: row :: column :: bytes)
      (.order (.writeAt content row column .normal))
  | textAtInverse (length row column : UInt8) (bytes : List UInt8) (content : String)
      (spelled : Spells bytes content) :
    Means .textAtInverse (76 :: 8 :: length :: row :: column :: bytes)
      (.order (.writeAt content row column .inverse))
  | characterNormal (length byte : UInt8) (rest : List UInt8) (content : String)
      (spelled : Spells [byte] content) :
    Means .characterNormal (76 :: 9 :: length :: byte :: rest) (.order (.write content .normal))
  | characterInverse (length byte : UInt8) (rest : List UInt8) (content : String)
      (spelled : Spells [byte] content) :
    Means .characterInverse (76 :: 10 :: length :: byte :: rest) (.order (.write content .inverse))
  | graphicLine (length count : UInt8) (bytes : List UInt8) :
    Means .graphicLine (76 :: 12 :: length :: count :: bytes) (.order (.graphicLine count bytes))
  /-- A line of graphics of which not even the count is there. -/
  | noCount (front : List UInt8) (short : front.length ≤ 1) :
    Means .graphicLine (76 :: 12 :: front) (.order (.graphicLine 0 []))
  | clearRow (length row : UInt8) (rest : List UInt8) :
    Means .clearRow (76 :: 13 :: length :: row :: rest) (.order (.clearRow row))
  | clearAll (rest : List UInt8) : Means .clearAll (76 :: 14 :: rest) (.order .clearAll)

/-- The first defect of a body. The fields of a form that is known are looked at in their order. -/
inductive FirstDefect (body : List UInt8) : Reason → Prop where
  | empty (nothing : body = []) : FirstDefect body .emptyFrame
  | noOpcode (alone : body.length = 1) : FirstDefect body (.truncated 2 1)
  | unknown (category opcode : UInt8) (first : body[0]? = some category)
      (second : body[1]? = some opcode) (unnamed : ∀ form : Form, ¬ form.layout.Names body) :
    FirstDefect body (.unknownCommand category opcode)
  | field (form : Form) (reason : Reason) (named : form.layout.Names body)
      (first : form.layout.slots.findSome? (Slot.defect? body) = some reason) :
    FirstDefect body reason

/-! ### Texts -/

theorem spells_decode (bytes : List UInt8) : Spells bytes (SingleByte.decode bytes) := by
  rw [Spells, SingleByte.decode, String.toList_ofList, List.map_map]
  exact List.map_congr_left fun byte _ => SingleByte.toNat_character byte

theorem decode_of_spells {bytes : List UInt8} {content : String}
    (spelled : Spells bytes content) : SingleByte.decode bytes = content := by
  have injective : Function.Injective Char.toNat := fun first second same => Char.toNat_inj.mp same
  have same : (SingleByte.decode bytes).toList.map Char.toNat = content.toList.map Char.toNat :=
    (spells_decode bytes).trans spelled.symm
  exact String.toList_inj.mp (List.map_injective_iff.mpr injective same)

/-- Up to the first zero byte there is the label. -/
theorem takeWhile_label {label rest : List UInt8} (whole : 0 ∉ label)
    (ended : rest = [] ∨ ∃ more, rest = 0 :: more) :
    (label ++ rest).takeWhile (· ≠ 0) = label := by
  have others : ∀ byte ∈ label, decide (byte ≠ 0) = true := fun byte member =>
    decide_eq_true fun zero => whole (zero ▸ member)
  rw [List.takeWhile_append_of_pos others]
  rcases ended with rfl | ⟨more, rfl⟩
  · exact List.append_nil _
  · exact List.append_nil _

/-! ### Forms -/

theorem layout_eq (form : Form) :
    form.layout.category = form.category.code ∧ form.layout.opcode = form.opcode ∧
      form.layout.least = form.leastBody := by
  cases form <;> exact ⟨rfl, rfl, rfl⟩

theorem code_of_ofCode? {byte : UInt8} {category : Category}
    (known : Category.ofCode? byte = some category) : category.code = byte := by
  unfold Category.ofCode? at known
  split at known
  · rename_i same
    cases known
    exact same.symm
  · split at known
    · rename_i same
      cases known
      exact same.symm
    · cases known

theorem category_of_mem {known : Category} {form : Form} (member : form ∈ Form.ofCategory known) :
    form.category = known := by
  have debug : ∀ form ∈ Form.debugForms, form.category = .debug := by decide
  have display : ∀ form ∈ Form.displayForms, form.category = .display := by decide
  cases known with
  | debug => exact debug form member
  | display => exact display form member

/-- Two bytes name at most one form. -/
theorem ofBytes?_eq_some_iff (category opcode : UInt8) (form : Form) :
    Form.ofBytes? category opcode = some form ↔
      form.layout.category = category ∧ form.layout.opcode = opcode := by
  obtain ⟨sameCategory, sameOpcode, -⟩ := layout_eq form
  rw [sameCategory, sameOpcode]
  constructor
  · intro found
    obtain ⟨known, code, listed⟩ := Option.bind_eq_some_iff.mp found
    have opcodes : form.opcode = opcode := by simpa using List.find?_some listed
    have category := category_of_mem (List.mem_of_find?_eq_some listed)
    exact ⟨by rw [category, code_of_ofCode? code], opcodes⟩
  · rintro ⟨rfl, rfl⟩
    exact ofBytes?_of_form form

theorem names_cons_cons (layout : Layout) (category opcode : UInt8) (rest : List UInt8) :
    layout.Names (category :: opcode :: rest) ↔
      layout.category = category ∧ layout.opcode = opcode := by
  show some category = some layout.category ∧ some opcode = some layout.opcode ↔ _
  rw [Option.some_inj, Option.some_inj, eq_comm, @eq_comm _ opcode]

theorem exists_of_names {layout : Layout} {body : List UInt8} (named : layout.Names body) :
    ∃ rest, body = layout.category :: layout.opcode :: rest := by
  obtain ⟨first, second⟩ := named
  match body, first, second with
  | category :: opcode :: rest, rfl, rfl => exact ⟨rest, rfl⟩

/-- A body that names a form is read in that form. -/
theorem readPayload_of_names {form : Form} {body : List UInt8} (named : form.layout.Names body) :
    readPayload body = form.read body := by
  obtain ⟨rest, rfl⟩ := exists_of_names named
  have opcode : byteAt (form.layout.category :: form.layout.opcode :: rest) 1 =
      .ok form.layout.opcode := rfl
  have known := (ofBytes?_eq_some_iff _ _ form).mpr ⟨rfl, rfl⟩
  simp only [readPayload, opcode, known, bind, Except.bind]

theorem readPayload_of_unnamed {category opcode : UInt8} {rest : List UInt8}
    (unnamed : ∀ form : Form, ¬ form.layout.Names (category :: opcode :: rest)) :
    readPayload (category :: opcode :: rest) = .error (.unknownCommand category opcode) := by
  have unknown : Form.ofBytes? category opcode = none := by
    refine Option.eq_none_iff_forall_ne_some.mpr fun form found => unnamed form ?_
    rw [names_cons_cons]
    exact (ofBytes?_eq_some_iff category opcode form).mp found
  have second : byteAt (category :: opcode :: rest) 1 = .ok opcode := rfl
  simp only [readPayload, second, unknown, bind, Except.bind]

/-! ### Defects -/

/-- Why a reading failed, if it did. -/
def refusal? {Value : Type} : Except Reason Value → Option Reason
  | .ok _ => none
  | .error reason => some reason

section Refusals

variable {First Second : Type} (body : List UInt8) (place : Nat)

/-- A first step refuses before everything behind it. -/
theorem refusal?_bind {step : Except Reason First} {next : First → Except Reason Second}
    {later : Option Reason} (rest : ∀ value, refusal? (next value) = later) :
    refusal? (step >>= next) = (refusal? step).or later := by
  cases step with
  | ok value => exact rest value
  | error reason => rfl

theorem refusal?_map (change : First → Second) (step : Except Reason First) :
    refusal? (change <$> step) = refusal? step := by
  cases step <;> rfl

theorem findSome?_defect? (slot : Slot) (rest : List Slot) :
    (slot :: rest).findSome? (Slot.defect? body) =
      (slot.defect? body).or (rest.findSome? (Slot.defect? body)) := by
  rw [List.findSome?_cons]
  cases slot.defect? body <;> rfl

theorem refusal?_byteAt : refusal? (byteAt body place) = (Slot.byte place).defect? body := by
  rw [byteAt, Slot.defect?]
  by_cases inside : place < body.length
  · rw [List.getElem?_eq_getElem inside, if_pos inside]
    rfl
  · rw [List.getElem?_eq_none (Nat.not_lt.mp inside), if_neg inside]
    rfl

theorem refusal?_numberAt : refusal? (numberAt body place) = (Slot.number place).defect? body := by
  rw [Slot.defect?]
  by_cases long : place + 4 ≤ body.length
  · rw [if_pos long]
    have fields : 4 ≤ (body.drop place).length := by
      rw [List.length_drop]
      exact Nat.le_sub_of_add_le' long
    rw [numberAt]
    generalize body.drop place = rest at fields
    rcases rest with _ | ⟨first, _ | ⟨second, _ | ⟨third, _ | ⟨fourth, more⟩⟩⟩⟩
    · simp at fields
    · simp at fields
    · simp at fields
    · simp at fields
    · rfl
  · rw [if_neg long, numberAt_of_short (Nat.not_le.mp long)]
    rfl

/-- A lookup among entries that count from one refuses a byte that is not the number of one. -/
theorem refusal?_lookup {Entry : Type} {choose : UInt8 → Except Reason Entry}
    (ofCode? : UInt8 → Option Entry) (list : LookupField) (entries : Nat)
    (chosen : ∀ byte, refusal? (choose byte) =
      if (ofCode? byte).isSome then none else some (.badLookup list byte))
    (numbered : ∀ number < 256, (ofCode? (UInt8.ofNat number)).isSome =
      decide (1 ≤ number ∧ number ≤ entries)) :
    refusal? (byteAt body place >>= choose) = (Slot.entry place list entries).defect? body := by
  rw [byteAt, Slot.defect?]
  cases body[place]? with
  | none => rfl
  | some byte =>
    have entry := numbered byte.toNat byte.toNat_lt
    rw [UInt8.ofNat_toNat] at entry
    show refusal? (choose byte) = _
    rw [chosen, entry]
    exact if_congr decide_eq_true_iff rfl rfl

theorem refusal?_severityAt :
    refusal? (severityAt body place) = (Slot.entry place .severity 3).defect? body := by
  refine refusal?_lookup body place Severity.ofCode? .severity 3 (fun byte => ?_)
    (by decide +kernel)
  cases Severity.ofCode? byte <;> rfl

theorem refusal?_formatAt :
    refusal? (formatAt body place) = (Slot.entry place .numberFormat 8).defect? body := by
  refine refusal?_lookup body place NumberFormat.ofCode? .numberFormat 8 (fun byte => ?_)
    (by decide +kernel)
  cases NumberFormat.ofCode? byte <;> rfl

omit place in
/-- A form looks at its fields in the order of its layout. -/
theorem refusal?_form (form : Form) :
    refusal? (form.read body) = form.layout.slots.findSome? (Slot.defect? body) := by
  have single {Value : Type} (make : UInt8 → Value) :
      refusal? (byteAt body 3 >>= fun byte => .ok (make byte)) =
        [Slot.byte 3].findSome? (Slot.defect? body) := by
    rw [findSome?_defect?, ← refusal?_byteAt]
    exact refusal?_bind fun byte => rfl
  have pair {Value : Type} (make : UInt8 → UInt8 → Value) :
      refusal? (byteAt body 3 >>= fun row => byteAt body 4 >>= fun column => .ok (make row column)) =
        [Slot.byte 3, .byte 4].findSome? (Slot.defect? body) := by
    rw [findSome?_defect?, findSome?_defect?, ← refusal?_byteAt, ← refusal?_byteAt]
    exact refusal?_bind fun row => refusal?_bind fun column => rfl
  cases form with
  | text | graphicLine | clearAll => rfl
  | cursorRow | cursorColumn | column | clearRow => exact single _
  | cursor | columnsAt => exact pair _
  | textAtNormal | textAtInverse => exact (refusal?_map _ _).trans (pair _)
  | characterNormal | characterInverse => exact (refusal?_map _ _).trans (single _)
  | message =>
    refine (refusal?_map _ _).trans ?_
    rw [Form.layout, findSome?_defect?, ← refusal?_severityAt]
    exact refusal?_bind fun severity => rfl
  | number =>
    refine (refusal?_map _ _).trans ?_
    rw [Form.layout, findSome?_defect?, findSome?_defect?, ← refusal?_formatAt,
      ← refusal?_numberAt]
    exact refusal?_bind fun format => refusal?_bind fun value => rfl

end Refusals

theorem refusal?_eq_none_iff {Value : Type} (step : Except Reason Value) :
    refusal? step = none ↔ ∃ value, step = .ok value := by
  cases step with
  | ok value => exact iff_of_true rfl ⟨value, rfl⟩
  | error reason => exact iff_of_false nofun nofun

theorem refusal?_eq_some_iff {Value : Type} (step : Except Reason Value) (reason : Reason) :
    refusal? step = some reason ↔ step = .error reason := by
  cases step with
  | ok value => exact iff_of_false nofun nofun
  | error other => exact ⟨fun same => congrArg _ (Option.some.inj same), fun same => by cases same; rfl⟩

theorem defect?_eq_none_iff (slot : Slot) (body : List UInt8) :
    slot.defect? body = none ↔ slot.stop ≤ body.length ∧
      ∀ place list entries, slot = .entry place list entries →
        ∀ byte, body[place]? = some byte → 1 ≤ byte.toNat ∧ byte.toNat ≤ entries := by
  cases slot with
  | byte place => simp [Slot.defect?, Slot.stop, Nat.succ_le_iff]
  | number place => simp [Slot.defect?, Slot.stop]
  | entry place list entries =>
    by_cases inside : place < body.length
    · simp [Slot.defect?, Slot.stop, List.getElem?_eq_getElem inside, Nat.succ_le_of_lt inside]
    · refine iff_of_false ?_ fun sound => inside sound.1
      rw [Slot.defect?, List.getElem?_eq_none (Nat.not_lt.mp inside)]
      exact nofun

/-- The least length of a form is where the last of its fields stops. -/
theorem least_le_iff (form : Form) {length : Nat} (header : 2 ≤ length) :
    form.layout.least ≤ length ↔ ∀ slot ∈ form.layout.slots, slot.stop ≤ length := by
  cases form <;> simp [Form.layout, Slot.stop] <;> omega

/-- A body that names a form fits its layout if nothing is wrong with any field. -/
theorem fits_iff {form : Form} {body : List UInt8} (named : form.layout.Names body) :
    form.layout.Fits body ↔ ∀ slot ∈ form.layout.slots, slot.defect? body = none := by
  have header : 2 ≤ body.length := (List.getElem?_eq_some_iff.mp named.2).1
  simp only [defect?_eq_none_iff]
  constructor
  · rintro ⟨-, reaches, selects⟩ slot member
    refine ⟨(least_le_iff form header).mp reaches slot member, ?_⟩
    rintro place list entries rfl
    exact selects place list entries member
  · intro sound
    refine ⟨named, (least_le_iff form header).mpr fun slot member => (sound slot member).1, ?_⟩
    intro place list entries member
    exact (sound _ member).2 place list entries rfl

/-- A body is refused for its first defect. -/
theorem readPayload_eq_error_iff (body : List UInt8) (reason : Reason) :
    readPayload body = .error reason ↔ FirstDefect body reason := by
  constructor
  · intro refused
    match body, refused with
    | [], rfl => exact .empty rfl
    | [_], rfl => exact .noOpcode rfl
    | category :: opcode :: rest, refused =>
      by_cases known : ∃ form : Form, form.layout.Names (category :: opcode :: rest)
      · obtain ⟨form, named⟩ := known
        rw [readPayload_of_names named, ← refusal?_eq_some_iff, refusal?_form] at refused
        exact .field form reason named refused
      · have unnamed := not_exists.mp known
        rw [readPayload_of_unnamed unnamed] at refused
        cases refused
        exact .unknown category opcode rfl rfl unnamed
  · intro defect
    cases defect with
    | empty nothing =>
      rw [nothing]
      rfl
    | noOpcode alone =>
      obtain ⟨category, rfl⟩ := List.length_eq_one_iff.mp alone
      rfl
    | unknown category opcode first second unnamed =>
      match body, first, second with
      | _ :: _ :: rest, rfl, rfl => exact readPayload_of_unnamed unnamed
    | field form reason named first =>
      rw [readPayload_of_names named, ← refusal?_eq_some_iff, refusal?_form]
      exact first

-- A format that does not exist comes before a number that is not there.
example : readPayload [68, 2, 0, 9] = .error (.badLookup .numberFormat 9) := rfl

/-! ### Readings -/

theorem toNat_littleEndian (first second third fourth : UInt8) :
    (littleEndian first second third fourth).toNat =
      first.toNat + 256 * second.toNat + 65536 * third.toNat + 16777216 * fourth.toNat := by
  have bounds := And.intro first.toNat_lt (And.intro second.toNat_lt
    (And.intro third.toNat_lt fourth.toNat_lt))
  rw [littleEndian, UInt32.toNat_ofNat']
  omega

/-- A body that means a payload names its form and is read as that payload. -/
theorem read_of_means {form : Form} {body : List UInt8} {payload : Payload}
    (meant : Means form body payload) : form.layout.Names body ∧ form.read body = .ok payload := by
  cases meant with
  | message length severity bytes content spelled =>
    rw [← decode_of_spells spelled]
    refine ⟨⟨rfl, rfl⟩, ?_⟩
    cases severity <;> rfl
  | number length format first second third fourth label rest content value summed whole ended
      spelled =>
    have same : littleEndian first second third fourth = value :=
      UInt32.toNat_inj.mp ((toNat_littleEndian first second third fourth).trans summed.symm)
    have text : SingleByte.decode ((label ++ rest).takeWhile (· ≠ 0)) = content := by
      rw [takeWhile_label whole ended, decode_of_spells spelled]
    rw [← same, ← text]
    refine ⟨⟨rfl, rfl⟩, ?_⟩
    cases format <;> rfl
  | text length bytes content spelled =>
    rw [← decode_of_spells spelled]
    exact ⟨⟨rfl, rfl⟩, rfl⟩
  | textAtNormal length row column bytes content spelled
  | textAtInverse length row column bytes content spelled =>
    rw [← decode_of_spells spelled]
    exact ⟨⟨rfl, rfl⟩, rfl⟩
  | characterNormal length byte rest content spelled
  | characterInverse length byte rest content spelled =>
    rw [← decode_of_spells spelled]
    exact ⟨⟨rfl, rfl⟩, rfl⟩
  | noCount front short =>
    refine ⟨⟨rfl, rfl⟩, ?_⟩
    match front, short with
    | [], _ => rfl
    | [_], _ => rfl
  | noText | cursor | cursorRow | cursorColumn | column | columnsAt | graphicLine | clearRow
  | clearAll => exact ⟨⟨rfl, rfl⟩, rfl⟩

section Shapes

variable {category opcode : UInt8} {rest : List UInt8}

/-- A body with a byte at the place behind its declared length. -/
theorem exists_of_byteAt {byte : UInt8}
    (there : byteAt (category :: opcode :: rest) 3 = .ok byte) :
    ∃ length more, rest = length :: byte :: more := by
  match rest, there with
  | length :: _ :: more, rfl => exact ⟨length, more, rfl⟩

theorem exists_of_byteAt_pair {row column : UInt8}
    (first : byteAt (category :: opcode :: rest) 3 = .ok row)
    (second : byteAt (category :: opcode :: rest) 4 = .ok column) :
    ∃ length more, rest = length :: row :: column :: more := by
  obtain ⟨length, more, rfl⟩ := exists_of_byteAt first
  match more, second with
  | _ :: more, rfl => exact ⟨length, more, rfl⟩

end Shapes

theorem byteAt_of_severityAt {body : List UInt8} {place : Nat} {severity : Severity}
    (selected : severityAt body place = .ok severity) : byteAt body place = .ok severity.code := by
  obtain ⟨byte, there, chosen⟩ := ok_of_bind selected
  split at chosen
  · rename_i found
    cases chosen
    have code : severity.code = byte := by simpa using List.find?_some found
    rw [there, code]
  · cases chosen

theorem byteAt_of_formatAt {body : List UInt8} {place : Nat} {format : NumberFormat}
    (selected : formatAt body place = .ok format) : byteAt body place = .ok format.code := by
  obtain ⟨byte, there, chosen⟩ := ok_of_bind selected
  split at chosen
  · rename_i found
    cases chosen
    have code : format.code = byte := by simpa using List.find?_some found
    rw [there, code]
  · cases chosen

/-- A number field has four bytes, which are the number with the lowest one first. -/
theorem exists_of_numberAt {body : List UInt8} {place : Nat} {value : UInt32}
    (there : numberAt body place = .ok value) :
    ∃ first second third fourth more,
      body.drop place = first :: second :: third :: fourth :: more ∧
        value = littleEndian first second third fourth := by
  unfold numberAt at there
  split at there
  · rename_i first second third fourth more found
    exact ⟨first, second, third, fourth, more, found, (Except.ok.inj there).symm⟩
  · cases there

/-- Bytes fall into those up to the first zero byte and the rest. -/
theorem exists_label (bytes : List UInt8) :
    ∃ label rest, bytes = label ++ rest ∧ bytes.takeWhile (· ≠ 0) = label ∧ 0 ∉ label ∧
      (rest = [] ∨ ∃ more, rest = 0 :: more) := by
  refine ⟨bytes.takeWhile (· ≠ 0), bytes.dropWhile (· ≠ 0),
    List.takeWhile_append_dropWhile.symm, rfl, fun member => ?_, ?_⟩
  · exact absurd (List.mem_takeWhile_imp member) (by decide)
  · cases left : bytes.dropWhile (· ≠ 0) with
    | nil => exact .inl rfl
    | cons byte more =>
      have some : bytes.dropWhile (· ≠ 0) ≠ [] := by rw [left]; exact List.cons_ne_nil _ _
      have stops := List.head_dropWhile_not _ some
      simp only [left, List.head_cons, decide_eq_false_iff_not, not_not] at stops
      exact .inr ⟨more, by rw [stops]⟩

/-- A body that names a form and is read as a payload means that payload. -/
theorem means_of_read {form : Form} {body : List UInt8} {payload : Payload}
    (named : form.layout.Names body) (accepted : form.read body = .ok payload) :
    Means form body payload := by
  obtain ⟨rest, rfl⟩ := exists_of_names named
  cases form with
  | message =>
    obtain ⟨content, taken, rfl⟩ := ok_of_map accepted
    obtain ⟨severity, found, result⟩ := ok_of_bind taken
    cases result
    obtain ⟨length, bytes, rfl⟩ := exists_of_byteAt (byteAt_of_severityAt found)
    exact .message length severity bytes _ (spells_decode bytes)
  | number =>
    obtain ⟨content, taken, rfl⟩ := ok_of_map accepted
    obtain ⟨format, selected, more⟩ := ok_of_bind taken
    obtain ⟨value, summed, result⟩ := ok_of_bind more
    cases result
    obtain ⟨length, bytes, rfl⟩ := exists_of_byteAt (byteAt_of_formatAt selected)
    obtain ⟨first, second, third, fourth, behind, fields, rfl⟩ := exists_of_numberAt summed
    cases fields
    obtain ⟨label, rest, rfl, front, whole, ended⟩ := exists_label behind
    refine .number length format first second third fourth label rest _ _
      (toNat_littleEndian first second third fourth) whole ended ?_
    have text : labelFrom (68 :: 2 :: length :: format.code :: first :: second :: third ::
        fourth :: (label ++ rest)) 8 = SingleByte.decode label := congrArg SingleByte.decode front
    exact text ▸ spells_decode label
  | text =>
    cases accepted
    match rest with
    | [] => exact .noText
    | length :: bytes => exact .text length bytes _ (spells_decode bytes)
  | cursor | columnsAt =>
    obtain ⟨row, first, more⟩ := ok_of_bind accepted
    obtain ⟨column, second, result⟩ := ok_of_bind more
    cases result
    obtain ⟨length, bytes, rfl⟩ := exists_of_byteAt_pair first second
    constructor
  | cursorRow | cursorColumn | column | clearRow =>
    obtain ⟨byte, there, result⟩ := ok_of_bind accepted
    cases result
    obtain ⟨length, more, rfl⟩ := exists_of_byteAt there
    constructor
  | textAtNormal | textAtInverse =>
    obtain ⟨content, taken, rfl⟩ := ok_of_map accepted
    obtain ⟨row, first, more⟩ := ok_of_bind taken
    obtain ⟨column, second, result⟩ := ok_of_bind more
    cases result
    obtain ⟨length, bytes, rfl⟩ := exists_of_byteAt_pair first second
    constructor
    exact spells_decode bytes
  | characterNormal | characterInverse =>
    obtain ⟨content, taken, rfl⟩ := ok_of_map accepted
    obtain ⟨byte, there, result⟩ := ok_of_bind taken
    cases result
    obtain ⟨length, more, rfl⟩ := exists_of_byteAt there
    constructor
    exact spells_decode [byte]
  | graphicLine =>
    cases accepted
    match rest with
    | [] => exact .noCount [] (Nat.zero_le 1)
    | [length] => exact .noCount [length] (Nat.le_refl 1)
    | length :: count :: bytes => exact .graphicLine length count bytes
  | clearAll =>
    cases accepted
    exact .clearAll rest

theorem readPayload_eq_ok_iff (body : List UInt8) (payload : Payload) :
    readPayload body = .ok payload ↔ ∃ form, Means form body payload := by
  constructor
  · intro accepted
    by_cases known : ∃ form : Form, form.layout.Names body
    · obtain ⟨form, named⟩ := known
      rw [readPayload_of_names named] at accepted
      exact ⟨form, means_of_read named accepted⟩
    · match body, accepted with
      | category :: opcode :: rest, accepted =>
        rw [readPayload_of_unnamed (not_exists.mp known)] at accepted
        cases accepted
  · rintro ⟨form, meant⟩
    obtain ⟨named, accepted⟩ := read_of_means meant
    rw [readPayload_of_names named, accepted]

/-- A body is accepted if and only if it fits the layout of some form. -/
theorem exists_readPayload_iff (body : List UInt8) :
    (∃ payload, readPayload body = .ok payload) ↔ ∃ form : Form, form.layout.Fits body := by
  have accepts {form : Form} (named : form.layout.Names body) :
      (∃ payload, readPayload body = .ok payload) ↔ form.layout.Fits body := by
    rw [readPayload_of_names named, ← refusal?_eq_none_iff, refusal?_form,
      List.findSome?_eq_none_iff, fits_iff named]
  constructor
  · rintro ⟨payload, accepted⟩
    obtain ⟨form, meant⟩ := (readPayload_eq_ok_iff body payload).mp accepted
    exact ⟨form, (accepts (read_of_means meant).1).mp ⟨payload, accepted⟩⟩
  · rintro ⟨form, fits⟩
    exact (accepts fits.names).mpr fits

/-! ### What does not matter -/

/-- The declared length does not matter. -/
theorem Means.set {form : Form} {body : List UInt8} {payload : Payload}
    (meant : Means form body payload) (byte : UInt8) : Means form (body.set 2 byte) payload := by
  cases meant with
  | number _ format first second third fourth label rest content value summed whole ended spelled =>
    exact .number byte format first second third fourth label rest content value summed whole ended
      spelled
  | message _ _ _ _ spelled | text _ _ _ spelled | textAtNormal _ _ _ _ _ spelled
  | textAtInverse _ _ _ _ _ spelled | characterNormal _ _ _ _ spelled
  | characterInverse _ _ _ _ spelled =>
    constructor
    exact spelled
  | noCount front short => exact .noCount (front.set 0 byte) (by rwa [List.length_set])
  | clearAll rest => exact .clearAll (rest.set 0 byte)
  | noText | cursor | cursorRow | cursorColumn | column | columnsAt | graphicLine | clearRow =>
    constructor

/-- A number stops behind the zero byte that ends its label, so that this byte is kept. -/
theorem take_stop_number (header : List UInt8) (eight : header.length = 8)
    {label rest : List UInt8} (whole : 0 ∉ label) (ended : rest = [] ∨ ∃ more, rest = 0 :: more)
    {stop : Nat} (stops : Form.number.layout.stop? (header ++ (label ++ rest)) = some stop) :
    (header ++ (label ++ rest)).take stop = header ++ (label ++ [0]) := by
  change (if 0 ∈ (header ++ (label ++ rest)).drop 8 then
    some (8 + (((header ++ (label ++ rest)).drop 8).takeWhile (· ≠ 0)).length + 1)
    else none) = some stop at stops
  rw [List.drop_left' eight, takeWhile_label whole ended] at stops
  rcases ended with rfl | ⟨more, rfl⟩
  · rw [List.append_nil, if_neg whole] at stops
    cases stops
  · rw [if_pos (List.mem_append_right label List.mem_cons_self)] at stops
    cases stops
    rw [Nat.add_assoc, ← eight, List.take_length_add_append, List.take_length_add_append,
      List.take_succ_cons, List.take_zero]

/-- Bytes behind the place where a layout stops do not matter. -/
theorem Means.cut {form : Form} {body : List UInt8} {payload : Payload}
    (meant : Means form body payload) {stop : Nat} (stops : form.layout.stop? body = some stop)
    (more : List UInt8) : Means form (body.take stop ++ more) payload := by
  cases meant with
  | number length format first second third fourth label rest content value summed whole ended
      spelled =>
    have kept : (68 :: 2 :: length :: format.code :: first :: second :: third :: fourth ::
        (label ++ rest)).take stop = 68 :: 2 :: length :: format.code :: first :: second ::
          third :: fourth :: (label ++ [0]) :=
      take_stop_number [68, 2, length, format.code, first, second, third, fourth] rfl whole ended
        stops
    rw [kept]
    have meant := Means.number length format first second third fourth label (0 :: more) content
      value summed whole (.inr ⟨more, rfl⟩) spelled
    rwa [List.append_cons] at meant
  | characterNormal _ _ _ _ spelled | characterInverse _ _ _ _ spelled =>
    cases stops
    constructor
    exact spelled
  | cursor | cursorRow | cursorColumn | column | clearRow | clearAll =>
    cases stops
    constructor
  | message | text | noText | textAtNormal | textAtInverse | columnsAt | graphicLine | noCount =>
    cases stops

/-! ### Frames -/

theorem read_eq_error_iff {frameId : Nat} {body : List UInt8} {rejection : Rejection} :
    read frameId body = .error rejection ↔
      ∃ reason, readPayload body = .error reason ∧ rejection = ⟨frameId, reason, body⟩ := by
  unfold read
  cases readPayload body with
  | ok payload => exact iff_of_false nofun fun ⟨_, refused, _⟩ => nomatch refused
  | error reason =>
    constructor
    · intro same
      exact ⟨reason, rfl, (Except.error.inj same).symm⟩
    · rintro ⟨_, refused, rfl⟩
      cases refused
      rfl

/-- A body is read as a command if and only if it means the payload of that command in some form,
and this is so for some command if and only if it fits the layout of some form. Neither the declared
length nor what is behind the fields matters then. Any other body is refused with its number, all
its bytes and its first defect. -/
theorem read_means (frameId : Nat) (body : List UInt8) :
    (∀ command, read frameId body = .ok command ↔
      command.frameId = frameId ∧ ∃ form, Means form body command.payload) ∧
    ((∃ command, read frameId body = .ok command) ↔ ∃ form : Form, form.layout.Fits body) ∧
    (∀ rejection, read frameId body = .error rejection ↔
      ∃ reason, FirstDefect body reason ∧ rejection = ⟨frameId, reason, body⟩) ∧
    ∀ command, read frameId body = .ok command →
      (∀ byte, read frameId (body.set 2 byte) = .ok command) ∧
      ∀ form : Form, form.layout.Fits body → ∀ stop, form.layout.stop? body = some stop →
        ∀ more, read frameId (body.take stop ++ more) = .ok command := by
  have means {other : List UInt8} (command : Command) : read frameId other = .ok command ↔
      command.frameId = frameId ∧ ∃ form, Means form other command.payload := by
    rw [read_eq_ok_iff, readPayload_eq_ok_iff, and_comm, eq_comm]
  refine ⟨means, ?_, fun rejection => ?_, fun command accepted => ?_⟩
  · rw [← exists_readPayload_iff]
    constructor
    · rintro ⟨command, accepted⟩
      exact ⟨command.payload, (read_eq_ok_iff.mp accepted).1⟩
    · rintro ⟨payload, accepted⟩
      exact ⟨⟨frameId, payload⟩, read_eq_ok_iff.mpr ⟨accepted, rfl⟩⟩
  · rw [read_eq_error_iff]
    simp only [readPayload_eq_error_iff]
  · obtain ⟨number, form, meant⟩ := (means command).mp accepted
    refine ⟨fun byte => (means command).mpr ⟨number, form, meant.set byte⟩, ?_⟩
    intro other fits stop stops more
    have there := (read_eq_ok_iff.mp accepted).1
    rw [readPayload_of_names fits.names] at there
    have cut := (means_of_read fits.names there).cut stops more
    exact (means command).mpr ⟨number, other, cut⟩

end PanelLink.Frame
