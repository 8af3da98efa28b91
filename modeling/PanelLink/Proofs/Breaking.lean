/-
This file says which commands break the line they are logged on. Quotes and numerals never hold
a line break, so a summary breaks its line if and only if the letters that it takes over as they
are do so: the text of a message, and the label of a number behind its blanks. What the device
sends chooses them freely. The line for the journal breaks if and only if the summary does.
-/

import PanelLink.Proofs.Layouts
import PanelLink.Proofs.Numerals
import PanelLink.Session.ReadLoop

namespace PanelLink

/-! ### Line breaks -/

/-- No letter is a line feed or a carriage return. -/
def Unbroken (letters : List Char) : Prop :=
  ∀ letter ∈ letters, letter ≠ '\n' ∧ letter ≠ '\r'

instance (letters : List Char) : Decidable (Unbroken letters) :=
  List.decidableBAll _ letters

theorem Unbroken.nil : Unbroken [] :=
  fun _ member => nomatch member

theorem Unbroken.cons {letter : Char} {letters : List Char}
    (first : letter ≠ '\n' ∧ letter ≠ '\r') (rest : Unbroken letters) :
    Unbroken (letter :: letters) :=
  List.forall_mem_cons.mpr ⟨first, rest⟩

theorem unbroken_append {front back : List Char} :
    Unbroken (front ++ back) ↔ Unbroken front ∧ Unbroken back :=
  List.forall_mem_append

theorem Unbroken.append {front back : List Char} (first : Unbroken front) (second : Unbroken back) :
    Unbroken (front ++ back) :=
  unbroken_append.mpr ⟨first, second⟩

/-- A text that stays on its line. -/
def OneLine (content : String) : Prop :=
  Unbroken content.toList

instance (content : String) : Decidable (OneLine content) :=
  inferInstanceAs (Decidable (Unbroken content.toList))

theorem oneLine_append {front back : String} :
    OneLine (front ++ back) ↔ OneLine front ∧ OneLine back := by
  rw [OneLine, String.toList_append, unbroken_append]
  rfl

theorem oneLine_ofList {letters : List Char} : OneLine (String.ofList letters) ↔ Unbroken letters := by
  rw [OneLine, String.toList_ofList]

theorem OneLine.append {front back : String} (first : OneLine front) (second : OneLine back) :
    OneLine (front ++ back) :=
  oneLine_append.mpr ⟨first, second⟩

/-! ### Numerals -/

/-- No base that a numeral is written in has a line break for a digit. -/
theorem unbroken_digits {base : Nat} (positional : 1 < base) (small : base ≤ 16) (number : Nat) :
    Unbroken (Radix.digits base number) := by
  intro letter member
  constructor
  · rintro rfl
    exact Radix.notMem_digits positional small rfl number member
  · rintro rfl
    exact Radix.notMem_digits positional small rfl number member

theorem unbroken_padded {base : Nat} (positional : 1 < base) (small : base ≤ 16)
    (width number : Nat) : Unbroken (Radix.padded width base number) := by
  refine Unbroken.append (fun letter member => ?_) (unbroken_digits positional small number)
  rw [List.eq_of_mem_replicate member]
  decide

theorem oneLine_decimal (number : Nat) : OneLine (Radix.decimal number) :=
  oneLine_ofList.mpr (unbroken_digits (by decide) (by decide) number)

theorem oneLine_shown (format : NumberFormat) (value : UInt32) : OneLine (format.shown value) := by
  refine oneLine_ofList.mpr (.append ?_ ?_)
  · cases format <;> decide
  · refine unbroken_padded ?_ ?_ _ _ <;> cases format <;> decide

theorem unbroken_pairs (bytes : List UInt8) : Unbroken (ByteList.pairs bytes) := by
  have pair (byte : UInt8) : Unbroken (ByteList.hexPair byte) :=
    unbroken_padded (by decide) (by decide) 2 byte.toNat
  induction bytes using ByteList.pairs.induct with
  | case1 => exact .nil
  | case2 byte => exact pair byte
  | case3 byte rest _ inductionHypothesis =>
    rw [ByteList.pairs]
    · exact ((pair byte).append (by decide)).append inductionHypothesis
    · assumption

theorem oneLine_bracketed (bytes : List UInt8) : OneLine (ByteList.bracketed bytes) :=
  oneLine_ofList.mpr (.append (.cons (by decide) (unbroken_pairs bytes)) (by decide))

/-! ### Quotes -/

/-- Inside quotes a line break is written as a letter behind a backslash. -/
theorem unbroken_escape (letter : Char) : Unbroken (Quoted.escape Quoted.textMark letter) := by
  unfold Quoted.escape
  split_ifs with marked tab back feed null hidden
  · rcases marked with rfl | rfl <;> decide
  · decide
  · decide
  · decide
  · decide
  · exact (Unbroken.append (by decide) (unbroken_digits (by decide) (by decide) _)).append
      (by decide)
  · intro other member
    rw [List.mem_singleton.mp member]
    exact ⟨feed, back⟩

theorem oneLine_quoted (content : String) : OneLine (Quoted.text content) := by
  refine oneLine_ofList.mpr (.append (.cons (by decide) ?_) (by decide))
  intro letter member
  obtain ⟨source, -, written⟩ := List.mem_flatMap.mp member
  exact unbroken_escape source letter written

/-! ### Summaries -/

/-- The letters that a summary takes over as they are. -/
def Payload.bareLetters : Payload → List Char
  | .message (.text content _) => content.toList
  | .message (.number label _ _) => label.toList.dropWhile isBlank
  | .order _ => []

theorem oneLine_axisText (place : Option UInt8) : OneLine (axisText place) := by
  cases place with
  | none => decide
  | some place => exact oneLine_decimal _

theorem oneLine_cellText (row column : UInt8) : OneLine (cellText row column) :=
  ((oneLine_decimal _).append (by decide)).append (oneLine_decimal _)

theorem oneLine_modeText (mode : TextMode) : OneLine (modeText mode) := by
  cases mode <;> decide

theorem Order.oneLine_summary (order : Order) : OneLine order.summary := by
  cases order with
  | write content mode =>
    refine .append (.append (.append ?_ (oneLine_quoted content)) ?_) (oneLine_modeText mode) <;>
      decide
  | writeAt content row column mode =>
    refine .append (.append (.append (.append (.append ?_ (oneLine_quoted content)) ?_)
      (oneLine_cellText row column)) ?_) (oneLine_modeText mode) <;> decide
  | columns bytes => exact .append (by decide) (oneLine_bracketed bytes)
  | moveCursor row column =>
    exact .append (.append (.append (by decide) (oneLine_axisText row)) (by decide))
      (oneLine_axisText column)
  | clearAll => decide
  | clearRow row => exact .append (by decide) (oneLine_decimal _)
  | columnsAt row column bytes =>
    exact .append (.append (.append (by decide) (oneLine_cellText row column)) (by decide))
      (oneLine_bracketed bytes)
  | graphicLine columnCount bytes =>
    exact .append (.append (.append (.append (by decide) (oneLine_decimal _)) (by decide))
      (oneLine_decimal _)) (by decide)

/-- A summary breaks its line if and only if the letters that it takes over do. -/
theorem Payload.oneLine_summary_iff (payload : Payload) :
    OneLine payload.summary ↔ Unbroken payload.bareLetters := by
  match payload with
  | .order content => exact iff_of_true content.oneLine_summary .nil
  | .message (.text content severity) =>
    have tag : OneLine severity.tag := by cases severity <;> decide
    exact oneLine_append.trans (and_iff_right tag)
  | .message (.number label value format) =>
    have digits : Unbroken (' ' :: (format.shown value).toList) :=
      .cons (by decide) (oneLine_shown format value)
    show OneLine (String.ofList _) ↔ Unbroken (label.toList.dropWhile isBlank)
    rw [oneLine_ofList, String.toList_append, String.toList_append, List.append_assoc,
      List.dropWhile_append]
    -- Of a label that is all blank nothing stays, and the digits are next.
    split_ifs with blank
    · rw [List.isEmpty_iff.mp blank]
      refine iff_of_true (fun letter member => ?_) .nil
      exact digits letter ((List.dropWhile_sublist _).mem member)
    · exact unbroken_append.trans (and_iff_left digits)

/-! ### Journal -/

/-- The line for a message breaks if and only if its summary does. -/
theorem oneLine_messageEntry_iff (command : Command) :
    OneLine (ReadLoop.messageEntry command).line ↔ OneLine command.summary := by
  have start : OneLine "Device: " := by decide
  have number : OneLine " frame=" := by decide
  rw [ReadLoop.messageEntry, oneLine_append, oneLine_append, oneLine_append, and_iff_right start,
    and_iff_left (oneLine_decimal _), and_iff_left number]

theorem oneLine_kind (kind : Kind) : OneLine kind.name := by
  cases kind <;> decide

theorem oneLine_changeEntries (change : Change) :
    ∀ entry ∈ Panel.changeEntries change, OneLine entry.line := by
  cases change with
  | reset => decide
  | _ => exact List.forall_mem_nil _

/-- A line for a command that a panel is given breaks if and only if the summary does. -/
theorem oneLine_applyEntries_iff (panel : Panel) (command : Command) :
    (∀ entry ∈ panel.applyEntries command, OneLine entry.line) ↔ OneLine command.summary := by
  have announced : OneLine ("Applying frame " ++ Radix.decimal command.frameId ++ ": " ++
      command.summary) ↔ OneLine command.summary := by
    have start : OneLine ("Applying frame " ++ Radix.decimal command.frameId ++ ": ") :=
      .append (.append (by decide) (oneLine_decimal _)) (by decide)
    rw [oneLine_append, and_iff_right start]
  unfold Panel.applyEntries
  split
  · rw [List.cons_append, List.forall_mem_cons, announced]
    exact and_iff_left (by decide)
  · rename_i change _ _
    rw [List.forall_mem_cons, announced]
    exact and_iff_left (oneLine_changeEntries change)
  · rw [List.forall_mem_cons, announced]
    refine and_iff_left (List.forall_mem_singleton.mpr ?_)
    exact .append (.append (.append (.append (by decide) (oneLine_decimal _)) (by decide))
      (oneLine_kind _)) (by decide)

/-! ### Bodies -/

namespace Frame

/-- The bytes of a body whose letters the summary of its command takes over as they are. -/
def bareBytes (body : List UInt8) : List UInt8 :=
  if body.take 2 = [68, 1] then body.drop 4
  else if body.take 2 = [68, 2] then
    ((body.drop 8).takeWhile (· ≠ 0)).dropWhile fun byte => isBlank (SingleByte.character byte)
  else []

theorem bareLetters_of_means {form : Form} {body : List UInt8} {payload : Payload}
    (meant : Means form body payload) :
    payload.bareLetters = (bareBytes body).map SingleByte.character := by
  cases meant with
  | message length severity bytes content spelled =>
    rw [← decode_of_spells spelled]
    exact String.toList_ofList
  | number length format first second third fourth label rest content value summed whole ended
      spelled =>
    have fields : bareBytes (68 :: 2 :: length :: format.code :: first :: second :: third ::
        fourth :: (label ++ rest)) = ((label ++ rest).takeWhile (· ≠ 0)).dropWhile
          fun byte => isBlank (SingleByte.character byte) := rfl
    rw [fields, takeWhile_label whole ended, ← decode_of_spells spelled, Payload.bareLetters,
      SingleByte.decode, String.toList_ofList, List.dropWhile_map]
    rfl
  | _ => rfl

theorem unbroken_map_character (bytes : List UInt8) :
    Unbroken (bytes.map SingleByte.character) ↔ ∀ byte ∈ bytes, byte ≠ 10 ∧ byte ≠ 13 := by
  have feed (byte : UInt8) : SingleByte.character byte ≠ '\n' ↔ byte ≠ 10 :=
    SingleByte.character_injective.ne_iff' rfl
  have back (byte : UInt8) : SingleByte.character byte ≠ '\r' ↔ byte ≠ 13 :=
    SingleByte.character_injective.ne_iff' rfl
  rw [Unbroken, List.forall_mem_map]
  simp only [feed, back]

/-- A command that was read breaks its line if and only if one of the bytes that its summary takes
over is a line feed or a carriage return. -/
theorem oneLine_summary_iff_of_read {frameId : Nat} {body : List UInt8} {command : Command}
    (accepted : read frameId body = .ok command) :
    OneLine command.summary ↔ ∀ byte ∈ bareBytes body, byte ≠ 10 ∧ byte ≠ 13 := by
  obtain ⟨form, meant⟩ := (readPayload_eq_ok_iff body command.payload).mp
    (read_eq_ok_iff.mp accepted).1
  rw [← unbroken_map_character, ← bareLetters_of_means meant]
  exact command.payload.oneLine_summary_iff

/-- Whatever a decoder is fed and asked to do, each command that it tells was read from a body, and
its summary stays on its line if and only if the bytes that the summary takes over from that body
hold no line feed and no carriage return. The lines of the journal that show the summary stay whole
under the same condition, and the summary of an order always does. -/
theorem told_oneLine_iff (requests : List Decoder.Request) (command : Command)
    (told : .ok command ∈ (Decoder.fresh.handleAll requests).2) :
    (∃ body, read command.frameId body = .ok command ∧
      (OneLine command.summary ↔ ∀ byte ∈ bareBytes body, byte ≠ 10 ∧ byte ≠ 13)) ∧
    (OneLine (ReadLoop.messageEntry command).line ↔ OneLine command.summary) ∧
    (∀ panel : Panel,
      (∀ entry ∈ panel.applyEntries command, OneLine entry.line) ↔ OneLine command.summary) ∧
    (command.payload.isOrder = true → OneLine command.summary) := by
  refine ⟨?_, oneLine_messageEntry_iff command, (oneLine_applyEntries_iff · command),
    fun order => ?_⟩
  · have intact : Decoder.fresh.Intact := Decoder.intact_of_idle rfl
    have account := Decoder.accounts_handleAll intact requests
    obtain ⟨body, ended⟩ := exists_ends_of_mem account.ended told
    obtain ⟨-, -, frameId, accepted⟩ := ended.of_ok
    obtain rfl := (read_eq_ok_iff.mp accepted).2
    exact ⟨body, accepted, oneLine_summary_iff_of_read accepted⟩
  · rw [Command.summary, Payload.oneLine_summary_iff]
    cases carried : command.payload with
    | order content => exact .nil
    | message content =>
      rw [carried] at order
      cases order

/-- A line feed in front of a label is white space, and so the line of the number stays whole. -/
theorem told_oneLine_iff_leading_feed :
    let requests : List Decoder.Request := [.feed [0x23, 68, 2, 7, 4, 5, 0, 0, 0, 10, 97]]
    let command : Command := ⟨0, .message (.number (String.ofList ['\n', 'a']) 5 .dec8)⟩
    .ok command ∈ (Decoder.fresh.handleAll requests).2 ∧
      OneLine (ReadLoop.messageEntry command).line := by
  intro requests command
  have told : .ok command ∈ (Decoder.fresh.handleAll requests).2 := List.mem_singleton.mpr rfl
  have whole : OneLine command.summary := by decide
  exact ⟨told, (told_oneLine_iff requests command told).2.1.mpr whole⟩

/-- A text with a line feed in it is told, and its summary is two lines. -/
theorem told_summary_breaks :
    let command : Command := ⟨0, .message (.text (String.ofList ['a', '\n', 'b']) .normal)⟩
    (Decoder.fresh.handleAll [.feed [0x23, 68, 1, 4, 1, 97, 10, 98]]).2 = [.ok command] ∧
      ¬ OneLine command.summary ∧ ¬ OneLine (ReadLoop.messageEntry command).line := by
  intro command
  exact ⟨rfl, by decide, by decide⟩

end Frame

end PanelLink
