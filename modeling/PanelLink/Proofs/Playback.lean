/-
This file applies the account of a stream to links that exist. A script that holds chunks
and then the end supplies exactly these; a replay supplies the pieces of its capture,
whether it is paced or not. So a session over either of them comes to its end, and what it
told and shows at that point depends on the settings and on the bytes, and on nothing else:
neither on the size of the chunks nor on the pauses between them.
-/

import PanelLink.Link.Script
import PanelLink.Proofs.Handing
import PanelLink.Proofs.Supply

namespace PanelLink

/-! ### Scripts -/

namespace Script

/-- A script holds chunks and then the end, and can be written to. -/
structure Holds (script : Script) (chunks : List (List UInt8)) : Prop where
  readings : script.readings = chunks.map .chunk ++ [.finished]
  writable : script.writeFault? = none

theorem supplies : Link.Supplies Holds where
  ends script held now := by
    show script.read.answer = .finished
    rw [read, held.readings]
    rfl
  gives script chunk rest held now := by
    refine .inl ?_
    show script.read.answer = .chunk chunk ∧ ∀ byte,
      (script.read.link.write [byte]).answer = .ok () ∧
        Holds (script.read.link.write [byte]).link rest
    rw [read, held.readings]
    refine ⟨rfl, fun byte => ?_⟩
    simp only [write, held.writable]
    exact ⟨rfl, rfl, rfl⟩
  bounded script chunks held := by
    show chunks.length ≤ script.readings.length
    rw [held.readings]
    simp

end Script

/-! ### Replays -/

namespace Replay

/-- A replay still has to hand out chunks; one byte is written to it for each of them, so that the
number of written bytes will come to a total. -/
structure Holds (total : Nat) (replay : Replay) (chunks : List (List UInt8)) : Prop where
  going : replay.closed = false
  positive : 0 < replay.chunkSize
  left : pieces replay.chunkSize (replay.data.drop replay.position) = chunks
  counted : replay.written + chunks.length = total

variable {total : Nat} {replay : Replay} {chunk : List UInt8} {rest : List (List UInt8)}

/-- The ticker says when a chunk is handed out, not which one. -/
theorem Holds.with_ticker {chunks : List (List UInt8)} (held : Holds total replay chunks)
    (ticker? : Option Timing.Ticker) : Holds total { replay with ticker? } chunks :=
  ⟨held.going, held.positive, held.left, held.counted⟩

theorem Holds.eq_nil_iff {chunks : List (List UInt8)} (held : Holds total replay chunks) :
    chunks = [] ↔ replay.data.length ≤ replay.position := by
  rw [← held.left, pieces_eq_nil_iff, List.drop_eq_nil_iff]

theorem Holds.gives (held : Holds total replay (chunk :: rest)) :
    replay.handOut.answer = .chunk chunk ∧ ∀ byte,
      (replay.handOut.link.write [byte]).answer = .ok () ∧
        Holds total (replay.handOut.link.write [byte]).link rest := by
  have nonempty : replay.data.drop replay.position ≠ [] := by
    rw [ne_eq, ← pieces_eq_nil_iff, held.left]
    exact List.cons_ne_nil _ _
  have left := held.left
  rw [pieces_of_ne_nil held.positive nonempty, List.drop_drop, List.cons.injEq] at left
  obtain ⟨first, later⟩ := left
  refine ⟨congrArg Reading.chunk first, fun byte => ?_⟩
  have open' : ¬ replay.handOut.link.closed = true := by
    rw [show replay.handOut.link.closed = replay.closed from rfl, held.going]
    exact Bool.false_ne_true
  rw [write, if_neg open']
  refine ⟨rfl, held.going, held.positive, later, ?_⟩
  have counted := held.counted
  rw [List.length_cons] at counted
  show replay.written + 1 + rest.length = total
  omega

/-- A replay that has handed out everything tells so. -/
theorem Holds.read_of_nil (held : Holds total replay []) (now : Nat) :
    (replay.read now).answer = .finished ∧ (replay.read now).link = replay := by
  have past := held.eq_nil_iff.mp rfl
  have reads := replay.reads_read now
  generalize replay.read now = performed at reads
  obtain ⟨link, reading, entries⟩ := performed
  cases reads with
  | refused closed => exact absurd closed (held.going ▸ Bool.false_ne_true)
  | finished _ _ => exact ⟨rfl, rfl⟩
  | early _ more | unpaced _ more | ticked _ more => exact absurd more (Nat.not_lt.mpr past)

/-- A replay that waits is ready from the moment on that its ticker names. -/
theorem Holds.wakes (held : Holds total replay (chunk :: rest))
    (more : replay.position < replay.data.length) {period : Nat}
    (paced : replay.period? = some period) (ticker : Timing.Ticker) :
    Link.Wakes { replay with ticker? := some ticker } := by
  refine ⟨ticker.grantedFrom, rfl, fun later reached => ?_⟩
  show (Replay.read { replay with ticker? := some ticker } later).answer ≠ .waiting
  rw [answer_of_granted { replay with ticker? := some ticker } held.going more paced rfl reached]
  nofun

theorem supplies (total : Nat) : Link.Supplies (Holds total) where
  ends replay held now := (held.read_of_nil now).1
  gives replay chunk rest held now := by
    show ((replay.read now).answer = .chunk chunk ∧ ∀ byte,
        ((replay.read now).link.write [byte]).answer = .ok () ∧
          Holds total ((replay.read now).link.write [byte]).link rest) ∨
      ((replay.read now).answer = .waiting ∧ Link.Wakes (replay.read now).link ∧
        Holds total (replay.read now).link (chunk :: rest))
    have reads := replay.reads_read now
    generalize replay.read now = performed at reads
    obtain ⟨link, reading, entries⟩ := performed
    cases reads with
    | refused closed => exact absurd closed (held.going ▸ Bool.false_ne_true)
    | finished _ past => cases held.eq_nil_iff.mpr past
    | early _ more paced _ => exact .inr ⟨rfl, held.wakes more paced _, held.with_ticker _⟩
    | unpaced _ _ _ => exact .inl held.gives
    | @ticked _ next _ _ _ _ => exact .inl (held.with_ticker (some next)).gives
  bounded replay chunks held := by
    show chunks.length ≤ replay.data.length - replay.position
    rw [← held.left, ← List.length_drop]
    exact length_pieces_le _ _

/-- A new replay has to hand out the pieces of its capture, as many as it announces. -/
theorem holds_ofBytes (bytes : List UInt8) (playback : Settings.Playback) (name : String) :
    let replay := { ofBytes bytes playback with name }
    Holds replay.totalChunks replay (pieces replay.chunkSize bytes) := by
  intro replay
  have positive : 0 < replay.chunkSize := chunkSize_pos bytes playback
  refine ⟨rfl, positive, rfl, ?_⟩
  rw [length_pieces _ positive]
  exact Nat.zero_add _

/-- At the end of its stream a replay was written as many bytes as it holds chunks. -/
theorem Holds.written_close (held : Holds total replay []) (now : Nat) :
    (replay.read now).link.close.link.written = total := by
  rw [(held.read_of_nil now).2, close, held.going]
  exact held.counted

end Replay

/-! ### Sessions -/

namespace Session

/-- A session over a replay that is new gets through with its capture. -/
theorem waitForEnd_replay (settings : Settings) {replay : Replay} {bytes : List UInt8}
    (held : Replay.Holds replay.totalChunks replay (pieces replay.chunkSize bytes)) (now : Nat) :
    ∃ moments : List Nat,
      let course := (Course.start replay settings).follow (moments.map (.quiet Replay))
      ((attach replay settings).1.waitForEnd now).2.1 = course.session replay settings ∧
        course.Delivered (pieces replay.chunkSize bytes) ∧
        course.loop.link.written = replay.totalChunks := by
  obtain ⟨moments, same, through⟩ :=
    waitForEnd_through (Replay.supplies replay.totalChunks) held settings now
  refine ⟨moments, same, through.delivered, ?_⟩
  obtain ⟨last, moment, ended, link⟩ := through.link
  rw [link]
  exact ended.written_close moment

/-- Whatever link delivers a stream of bytes, in whatever chunks and with whatever pauses: a session
that is given all of it and then its end has ended with the stream, has told the account of the
bytes, shows the panel that the account leads to, and has sent one acknowledgement for each
chunk. Nothing of that depends on the delivery but the number of acknowledgements.

Every list of chunks is such a delivery for the session over a script that holds them, and every
replay is one for the session over it, which is written one byte for each of its chunks. These
sessions get through with the stream if they are waited for. -/
theorem deliveries_publish_account (settings : Settings) (bytes : List UInt8) :
    let told := settings.account bytes
    let shown := ((Panel.fresh settings).retraceAll told).snapshot
    (∀ (L : Type) [Link L] (link : L) (occasions : List (Occasion L))
        (chunks : List (List UInt8)),
      let course := (Course.start link settings).follow occasions
      chunks.flatten = bytes → course.Delivered chunks →
        course.loop.ending? = some .finished ∧ Effect.events course.effects = told ∧
          (course.session link settings).display.value = shown ∧
          Effect.sent course.effects = List.replicate chunks.length settings.ackByte) ∧
    (∀ (chunks : List (List UInt8)) (now : Nat), chunks.flatten = bytes →
      let script : Script := { readings := chunks.map .chunk ++ [.finished] }
      ∃ moments : List Nat,
        let course := (Course.start script settings).follow (moments.map (.quiet Script))
        ((attach script settings).1.waitForEnd now).2.1 = course.session script settings ∧
          course.Delivered chunks) ∧
    ∀ (playback : Settings.Playback) (name : String) (now : Nat),
      let replay := { Replay.ofBytes bytes playback with name }
      ∃ (chunks : List (List UInt8)) (moments : List Nat),
        let course := (Course.start replay settings).follow (moments.map (.quiet Replay))
        ((attach replay settings).1.waitForEnd now).2.1 = course.session replay settings ∧
          course.Delivered chunks ∧ chunks.flatten = bytes ∧ [] ∉ chunks ∧
          chunks.length = replay.totalChunks ∧
          course.loop.link.written = replay.totalChunks := by
  intro told shown
  refine ⟨?_, ?_, ?_⟩
  · rintro L _ link occasions chunks course rfl delivered
    exact Course.account_of_delivered link settings occasions delivered
  · intro chunks now _ script
    obtain ⟨moments, same, through⟩ := waitForEnd_through Script.supplies
      (show Script.Holds script chunks from ⟨rfl, rfl⟩) settings now
    exact ⟨moments, same, through.delivered⟩
  · intro playback name now replay
    have held := Replay.holds_ofBytes bytes playback name
    obtain ⟨moments, same, delivered, written⟩ := waitForEnd_replay settings held now
    exact ⟨_, moments, same, delivered, flatten_pieces _ _, nil_notMem_pieces _ _,
      (Nat.zero_add _).symm.trans held.counted, written⟩

end Session

end PanelLink
