/-
This file plays back recordings that hold nothing but written frames, one after the other.
A frame that declares a length ends by itself, and one that declares none ends at the next
sentinel, so every frame is heard that has another one behind it. The last frame is heard
only if it ends by itself. At the end of the stream nobody flushes the decoder: the read
loop resets it, and a frame that is still open is lost without a report.
-/

import PanelLink.Proofs.Playback
import PanelLink.Proofs.Transmission

namespace PanelLink

namespace Frame

/-! ### Clips -/

/-- A payload with the frame that is written of it. -/
structure Clip where
  payload : Payload
  frame : List UInt8
  written : write payload = .ok frame

namespace Clip

/-- A clip is a burst without noise. -/
def burst (clip : Clip) : Burst where
  payload := clip.payload
  frame := clip.frame
  noise := []
  written := clip.written
  quiet := List.not_mem_nil
  ended := fun _ => rfl

/-- Whether the frame of a clip declares a length, so that its last byte ends it. -/
def endsItself (clip : Clip) : Bool :=
  clip.frame[3]? != some 0

/-- Whether the last frame of a recording ends by itself, if there is a last one. -/
def allEnd (clips : List Clip) : Bool :=
  clips.getLast?.all endsItself

/-- The clips that are heard when a recording is played back. -/
def heard (clips : List Clip) : List Clip :=
  if allEnd clips then clips else clips.dropLast

/-- The commands of clips, numbered from zero on. -/
def commands (clips : List Clip) : List Command :=
  Burst.commands 0 (clips.map burst)

theorem flatMap_bytes_burst (clips : List Clip) :
    (clips.map burst).flatMap Burst.bytes = clips.flatMap frame := by
  rw [List.flatMap_map]
  exact congrArg (clips.flatMap ·) (funext fun clip => List.append_nil clip.frame)

theorem length_commands (clips : List Clip) : (commands clips).length = clips.length := by
  simp [commands, Burst.commands]

theorem commands_concat (front : List Clip) (last : Clip) :
    commands (front ++ [last]) = commands front ++ [last.burst.command front.length] := by
  simp [commands, Burst.commands, List.zipIdx_append]

end Clip

namespace Decoder

/-! ### Feeding without a flush -/

/-- A sentinel parts the input also if there is no flush at its end. -/
theorem feed_append_sentinel (decoder : Decoder) (front rest : List UInt8) :
    decoder.feed (front ++ sentinel :: rest) =
      ((((decoder.drain front).1.opened []).feed rest).1,
        (decoder.drain front).2 ++ (((decoder.drain front).1.opened []).feed rest).2) := by
  simp only [drain, feed_append, feed_cons, feedByte_sentinel, List.append_assoc]

/-- The body of a written frame is reported at its end if it declares a length, and else stays in
the buffer. -/
theorem feed_body (decoder : Decoder) {payload : Payload} {frame body : List UInt8}
    (wire : Written payload frame body) :
    ((decoder.opened []).feed body).2 =
      if frame[3]? = some 0 then [] else [.ok ⟨decoder.nextId, payload.received⟩] := by
  split
  · rename_i silent
    have declares := (declared_eq_zero_iff wire).mpr silent
    have header : body.length = headerLength := by rw [wire.reaches, declares, Nat.zero_add]
    rw [feed_of_unfinished decoder [] body ⟨wire.quiet, by rw [List.nil_append, header]; decide,
      .inl declares⟩]
  · rename_i ends
    rw [feed_of_finished decoder body wire.quiet (mt (declared_eq_zero_iff wire).mp ends)
      wire.reaches, wire.reads]

/-- A fresh decoder that takes a recording reports the clips that are heard, and nothing else. -/
theorem feed_clips (clips : List Clip) :
    (fresh.feed (clips.flatMap Clip.frame)).2 = (Clip.commands (Clip.heard clips)).map .ok := by
  rcases List.eq_nil_or_concat clips with rfl | ⟨front, last, rfl⟩
  · rfl
  · -- The sentinel of the last frame ends the frame in front of it, as a flush would.
    rw [List.concat_eq_append]
    obtain ⟨body, wire⟩ := written_of_write last.written
    have before := drain_bursts fresh (front.map Clip.burst)
    rw [show fresh.reset = fresh from rfl, Clip.flatMap_bytes_burst, recordAll_eq] at before
    have number : (fresh.drain (front.flatMap Clip.frame)).1.nextId = front.length := by
      rw [before]
      simp only [reset, dropped, fresh, List.length_map, Nat.zero_add]
      exact Clip.length_commands front
    have reported : (fresh.drain (front.flatMap Clip.frame)).2 =
        (Clip.commands front).map .ok := by
      rw [before]
      rfl
    rw [List.flatMap_append, List.flatMap_singleton, wire.starts, feed_append_sentinel,
      feed_body _ wire, number, reported]
    have verdict : Clip.allEnd (front ++ [last]) = last.endsItself := by simp [Clip.allEnd]
    by_cases silent : last.frame[3]? = some 0
    · have lost : last.endsItself = false := by simp [Clip.endsItself, silent]
      rw [if_pos silent, Clip.heard, verdict, lost, if_neg Bool.false_ne_true,
        List.dropLast_concat, List.append_nil]
    · have heard : last.endsItself = true := by simp [Clip.endsItself, silent]
      rw [if_neg silent, Clip.heard, verdict, heard, if_pos rfl, Clip.commands_concat,
        List.map_append]
      rfl

end Decoder

end Frame

/-! ### Commands in events -/

/-- The command that an event carries. -/
def Event.command? : Event → Option Command
  | .drawn command _ | .message command | .unsupported command => some command
  | .rejected _ | .reset _ => none

theorem Panel.command?_report (panel : Panel) (command : Command) :
    (panel.report (.ok command)).command? = some command := by
  simp only [report]
  split
  · split <;> rfl
  · rfl

theorem Panel.command?_reportAll (panel : Panel) (commands : List Command) :
    (panel.reportAll (commands.map .ok)).map Event.command? = commands.map some := by
  induction commands generalizing panel with
  | nil => rfl
  | cons command rest inductionHypothesis =>
    rw [List.map_cons, reportAll, List.map_cons, command?_report, inductionHypothesis,
      List.map_cons]

/-- What arrives of a payload is of the same kind. -/
theorem Payload.kind_received (payload : Payload) : payload.received.kind = payload.kind := by
  cases payload with
  | message content => cases content <;> rfl
  | order content => rfl

/-- The commands of clips have the kinds of their payloads. -/
theorem Frame.Clip.kind_commands (clips : List Frame.Clip) :
    (commands clips).map (fun command => some command.kind) =
      clips.map fun clip => some clip.payload.kind := by
  have kinds (first : Nat) :
      (Burst.commands first (clips.map burst)).map (fun command => some command.kind) =
        clips.map fun clip => some clip.payload.kind := by
    induction clips generalizing first with
    | nil => rfl
    | cons clip rest inductionHypothesis =>
      rw [List.map_cons, List.map_cons, ← clip.payload.kind_received,
        ← inductionHypothesis (first + 1)]
      rfl
  exact kinds 0

/-- The commands that are heard have the kinds of all payloads only if the last frame ends by
itself; otherwise there is one too few. -/
theorem Frame.Clip.kind_heard_iff (clips : List Frame.Clip) :
    (commands (heard clips)).map (fun command => some command.kind) =
      clips.map (fun clip => some clip.payload.kind) ↔ allEnd clips = true := by
  rw [kind_commands, heard]
  split
  · rename_i ends
    simp [ends]
  · rename_i lost
    have some : 0 < clips.length := by
      refine List.length_pos_iff.mpr ?_
      rintro rfl
      exact lost rfl
    refine iff_of_false (fun same => ?_) lost
    have lengths := congrArg List.length same
    rw [List.length_map, List.length_map, List.length_dropLast] at lengths
    omega

/-- The account of a recording carries the commands of the clips that are heard. -/
theorem Settings.command?_account (settings : Settings) (clips : List Frame.Clip) :
    (settings.account (clips.flatMap Frame.Clip.frame)).map Event.command? =
      (Frame.Clip.commands (Frame.Clip.heard clips)).map some := by
  rw [account, Frame.Decoder.feed_clips, Panel.command?_reportAll]

/-! ### Sessions -/

namespace Session

/-- A session over a replay that is new has told the account of the capture in the end. -/
theorem replay_account (settings : Settings) {replay : Replay} {bytes : List UInt8}
    (held : Replay.Holds replay.totalChunks replay (pieces replay.chunkSize bytes)) (now : Nat) :
    ∃ moments : List Nat,
      let course := (Course.start replay settings).follow (moments.map (.quiet Replay))
      ((attach replay settings).1.waitForEnd now).2.1 = course.session replay settings ∧
        course.loop.ending? = some .finished ∧
        Effect.events course.effects = settings.account bytes := by
  obtain ⟨moments, same, delivered, -⟩ := waitForEnd_replay settings held now
  have account := Course.account_of_delivered replay settings _ delivered
  rw [flatten_pieces] at account
  exact ⟨moments, same, account.1, account.2.1⟩

/-- A recording that is played back to its end gives one event for each clip that is heard, in
order and with the command of that clip, whatever the chunks, the pauses and the settings are.
So every clip is heard if and only if the last frame ends by itself. The session over a capture
file is such a playback. -/
theorem replay_tells_heard (settings : Settings) (clips : List Frame.Clip)
    (playback : Settings.Playback) (name : String) (now : Nat) :
    let bytes := clips.flatMap Frame.Clip.frame
    let replay := { Replay.ofBytes bytes playback with name }
    (∃ moments : List Nat,
      let course := (Course.start replay settings).follow (moments.map (.quiet Replay))
      let told := (Effect.events course.effects).map Event.command?
      ((attach replay settings).1.waitForEnd now).2.1 = course.session replay settings ∧
        course.loop.ending? = some .finished ∧
        told = (Frame.Clip.commands (Frame.Clip.heard clips)).map some ∧
        (told.map (Option.map Command.kind) = clips.map (fun clip => some clip.payload.kind) ↔
          Frame.Clip.allEnd clips = true)) ∧
    ∀ path session entries, ofCapture settings path (.ok bytes) = .ok (session, entries) →
      session = (attach { Replay.ofBytes bytes settings.replay with name := path } settings).1 := by
  intro bytes replay
  refine ⟨?_, fun path session entries opened => ?_⟩
  · obtain ⟨moments, same, ending, account⟩ :=
      replay_account settings (Replay.holds_ofBytes bytes playback name) now
    refine ⟨moments, same, ending, ?_, ?_⟩
    · rw [account, settings.command?_account clips]
    · rw [account, settings.command?_account clips, List.map_map]
      exact Frame.Clip.kind_heard_iff clips
  · unfold ofCapture at opened
    split at opened
    · cases opened
    · cases opened
      rfl

/-- The frame of an order to clear the panel declares no length, and a recording of it alone is
played back without any event. -/
theorem replay_clearAll_unheard :
    let bytes : List UInt8 := [0x23, 76, 14, 0]
    let replay := Replay.ofBytes bytes {}
    Frame.write (.order .clearAll) = .ok bytes ∧
      ∃ moments : List Nat,
        let course := (Course.start replay {}).follow (moments.map (.quiet Replay))
        ((attach replay {}).1.waitForEnd 0).2.1 = course.session replay {} ∧
          course.loop.ending? = some .finished ∧ Effect.events course.effects = [] := by
  intro bytes replay
  have held : Replay.Holds replay.totalChunks replay (pieces replay.chunkSize bytes) :=
    Replay.holds_ofBytes bytes {} "replay"
  exact ⟨rfl, replay_account {} held 0⟩

end Session

end PanelLink
