/-
This file relates the events of a session to what its read loop received. Every chunk
makes one event for each of its frames, every reset request that is attended to makes
one report of a reset, and the blocks of events stand in the order of the turns. So the
reports of frames, taken together, are those of one decoder that reads all chunks in
one piece, and every picture is that of a panel which knows nothing but the events.
-/

import PanelLink.Proofs.Feeding
import PanelLink.Proofs.Retracing
import PanelLink.Session.Basic

namespace PanelLink

/-! ### Blocks of events -/

/-- The chunk that a turn received. -/
def Turn.chunk? : Turn → Option (List UInt8)
  | .reading (.chunk bytes) => some bytes
  | _ => none

/-- Everything that turns received, in one piece. -/
def received (turns : List Turn) : List UInt8 :=
  (turns.filterMap Turn.chunk?).flatten

theorem Turn.reading_ne_resetRequest (reading : Reading) : Turn.reading reading ≠ .resetRequest :=
  nofun

/-- The number of the frame that an event is about. -/
def Event.frameId? : Event → Option Nat
  | .drawn command _ | .message command | .unsupported command => some command.frameId
  | .rejected rejection => some rejection.frameId
  | .reset _ => none

/-- The events of turns, block by block: a chunk reports the frames that it ends, a request
for a reset is reported once, and no other turn reports anything. -/
inductive Chronicle : Frame.Decoder → List Turn → List Event → Prop where
  | done (decoder : Frame.Decoder) : Chronicle decoder [] []
  | chunk {decoder : Frame.Decoder} {bytes : List UInt8} {turns : List Turn}
    {block events : List Event}
    (reports : List.Forall₂ ReadLoop.Reports (decoder.feed bytes).2 block)
    (rest : Chronicle (decoder.feed bytes).1 turns events) :
    Chronicle decoder (.reading (.chunk bytes) :: turns) (block ++ events)
  | reset {decoder : Frame.Decoder} {turns : List Turn} {events : List Event}
    (snapshot : Snapshot) (rest : Chronicle decoder turns events) :
    Chronicle decoder (.resetRequest :: turns) (.reset snapshot :: events)
  | other {decoder : Frame.Decoder} {turn : Turn} {turns : List Turn} {events : List Event}
    (noReset : turn ≠ .resetRequest) (noChunk : turn.chunk? = none)
    (rest : Chronicle decoder turns events) : Chronicle decoder (turn :: turns) events

theorem received_append (front back : List Turn) :
    received (front ++ back) = received front ++ received back := by
  rw [received, List.filterMap_append, List.flatten_append]
  rfl

theorem received_chunk (bytes : List UInt8) : received [.reading (.chunk bytes)] = bytes :=
  List.append_nil bytes

theorem received_cons_of_no_chunk {turn : Turn} (noChunk : turn.chunk? = none)
    (turns : List Turn) : received (turn :: turns) = received turns := by
  rw [received, List.filterMap_cons_none noChunk]
  rfl

/-! ### Reports -/

namespace ReadLoop

theorem Reports.isReset {outcome : Frame.Outcome} {event : Event}
    (reports : Reports outcome event) : event.isReset = false := by
  cases reports <;> rfl

theorem Reports.frameId? {outcome : Frame.Outcome} {event : Event}
    (reports : Reports outcome event) : event.frameId? = some outcome.frameId := by
  cases reports <;> rfl

variable {outcomes : List Frame.Outcome} {block : List Event}

theorem isReset_of_reports (reports : List.Forall₂ Reports outcomes block) :
    ∀ event ∈ block, event.isReset = false := by
  intro event member
  induction reports with
  | nil => cases member
  | cons reports _ inductionHypothesis =>
    rcases List.mem_cons.mp member with rfl | inRest
    · exact reports.isReset
    · exact inductionHypothesis inRest

theorem frameId?_of_reports (reports : List.Forall₂ Reports outcomes block) :
    block.map Event.frameId? = (outcomes.map Frame.Outcome.frameId).map some := by
  induction reports with
  | nil => rfl
  | cons reports _ inductionHypothesis =>
    simp only [List.map_cons, reports.frameId?, inductionHypothesis]

end ReadLoop

namespace Chronicle

/-- What a decoder goes on with after turns is what it goes on with after all they received. -/
theorem append {decoder : Frame.Decoder} {turns more : List Turn} {events others : List Event}
    (first : Chronicle decoder turns events)
    (second : Chronicle (decoder.feed (received turns)).1 more others) :
    Chronicle decoder (turns ++ more) (events ++ others) := by
  induction first with
  | done decoder => exact second
  | @chunk decoder bytes turns block events reports _ inductionHypothesis =>
    have parted : received (.reading (.chunk bytes) :: turns) = bytes ++ received turns := rfl
    rw [parted, Frame.Decoder.feed_append] at second
    rw [List.append_assoc]
    exact .chunk reports (inductionHypothesis second)
  | reset snapshot _ inductionHypothesis =>
    exact .reset snapshot (inductionHypothesis second)
  | other noReset noChunk _ inductionHypothesis =>
    rw [received_cons_of_no_chunk noChunk] at second
    exact .other noReset noChunk (inductionHypothesis second)

/-! ### All blocks together -/


/-- The reports of frames are those of one decoder that takes all chunks in one piece. -/
theorem reports_received {decoder : Frame.Decoder} {turns : List Turn} {events : List Event}
    (chronicle : Chronicle decoder turns events) :
    List.Forall₂ ReadLoop.Reports (decoder.feed (received turns)).2
      (events.filter fun event => !event.isReset) := by
  induction chronicle with
  | done decoder => exact .nil
  | @chunk decoder bytes turns block events reports _ inductionHypothesis =>
    have parted : received (.reading (.chunk bytes) :: turns) = bytes ++ received turns := rfl
    have kept : (block.filter fun event => !event.isReset) = block := by
      refine List.filter_eq_self.mpr fun event member => ?_
      rw [ReadLoop.isReset_of_reports reports event member]
      rfl
    rw [parted, Frame.Decoder.feed_append, List.filter_append, kept]
    exact List.rel_append reports inductionHypothesis
  | reset snapshot _ inductionHypothesis => exact inductionHypothesis
  | other noReset noChunk _ inductionHypothesis =>
    rw [received_cons_of_no_chunk noChunk]
    exact inductionHypothesis

/-- There is one report of a reset for each request that was attended to. -/
theorem countP_isReset {decoder : Frame.Decoder} {turns : List Turn} {events : List Event}
    (chronicle : Chronicle decoder turns events) :
    events.countP Event.isReset = turns.count .resetRequest := by
  induction chronicle with
  | done decoder => rfl
  | @chunk decoder bytes turns block events reports _ inductionHypothesis =>
    have none : block.countP Event.isReset = 0 := by
      refine List.countP_eq_zero.mpr fun event member => ?_
      rw [ReadLoop.isReset_of_reports reports event member]
      exact Bool.false_ne_true
    rw [List.countP_append, none, Nat.zero_add, inductionHypothesis,
      List.count_cons_of_ne (Turn.reading_ne_resetRequest _)]
  | reset snapshot _ inductionHypothesis =>
    rw [List.count_cons_self, ← inductionHypothesis]
    exact List.countP_cons_of_pos rfl
  | other noReset noChunk _ inductionHypothesis =>
    rw [inductionHypothesis, List.count_cons_of_ne noReset]

end Chronicle

/-! ### Turns that report nothing -/

namespace ReadLoop

variable {L : Type}

/-- A loop does something that subscribers and viewers do not notice, and the decoder does not
either, unless the loop ends. -/
structure Quiet (loop : ReadLoop L) (result : ReadLoop L × List Effect) : Prop where
  panels : result.1.panel = loop.panel
  pictures : result.1.shown = loop.shown
  silent : ∀ effect ∈ result.2, effect.isSilent = true
  decoder : result.1.ending? = none → result.1.decoder = loop.decoder

theorem Quiet.nothing (loop : ReadLoop L) : Quiet loop (loop, []) :=
  ⟨rfl, rfl, Effect.silent_nil, fun _ => rfl⟩

theorem Quiet.note {loop : ReadLoop L} {result : ReadLoop L × List Effect}
    (quiet : Quiet loop result) (entry : Journal.Entry) :
    Quiet loop (result.1, .note entry :: result.2) :=
  ⟨quiet.panels, quiet.pictures, List.forall_mem_cons.mpr ⟨rfl, quiet.silent⟩, quiet.decoder⟩

/-! ### Turns that report something -/

theorem draw_keeps (loop : ReadLoop L) (command : Command) :
    (loop.draw command).1.decoder = loop.decoder ∧
      (loop.draw command).1.ending? = loop.ending? := by
  unfold draw
  split
  · exact ⟨rfl, rfl⟩
  · exact ⟨rfl, rfl⟩

/-- Whatever frames do to the panel, the decoder keeps the frame that it is in. -/
theorem dispatchAll_keeps (loop : ReadLoop L) (outcomes : List Frame.Outcome) :
    (loop.dispatchAll outcomes).1.decoder = loop.decoder ∧
      (loop.dispatchAll outcomes).1.ending? = loop.ending? := by
  induction outcomes generalizing loop with
  | nil => exact ⟨rfl, rfl⟩
  | cons outcome rest inductionHypothesis =>
    have kept : (loop.dispatch outcome).1.decoder = loop.decoder ∧
        (loop.dispatch outcome).1.ending? = loop.ending? := by
      cases outcome with
      | error rejection => exact ⟨rfl, rfl⟩
      | ok command =>
        rw [dispatch_ok]
        split
        · exact draw_keeps loop command
        · exact ⟨rfl, rfl⟩
    obtain ⟨decoder, ending⟩ := inductionHypothesis (loop.dispatch outcome).1
    exact ⟨decoder.trans kept.1, ending.trans kept.2⟩

/-- What a loop did in turns is told by certain events: they follow the turns, and the decoder
has taken what the turns received, unless the loop ended. -/
structure Recounts (panel : Panel) (loop : ReadLoop L) (turns : List Turn)
    (result : ReadLoop L × List Effect) (events : List Event) : Prop where
  tells : Tells panel loop result events
  chronicle : Chronicle loop.decoder turns events
  decoder : result.1.ending? = none →
    result.1.decoder = (loop.decoder.feed (received turns)).1

theorem Recounts.trans {panel : Panel} {loop : ReadLoop L} {turns more : List Turn}
    {first second : ReadLoop L × List Effect} {events others : List Event}
    (going : first.1.ending? = none) (before : Recounts panel loop turns first events)
    (after : Recounts (panel.retraceAll events) first.1 more second others) :
    Recounts panel loop (turns ++ more) (second.1, first.2 ++ second.2) (events ++ others) := by
  have fed := before.decoder going
  refine ⟨before.tells.trans after.tells, ?_, fun still => ?_⟩
  · exact before.chronicle.append (fed ▸ after.chronicle)
  · rw [received_append, Frame.Decoder.feed_append, ← fed]
    exact after.decoder still

theorem Recounts.of_quiet {panel : Panel} {loop : ReadLoop L}
    {result : ReadLoop L × List Effect} (inStep : InStep panel loop)
    (quiet : Quiet loop result) : Recounts panel loop [] result [] :=
  ⟨.of_silent inStep quiet.panels quiet.pictures quiet.silent, .done _, quiet.decoder⟩

theorem Recounts.of_quiet_turn {panel : Panel} {loop : ReadLoop L} {turn : Turn}
    {result : ReadLoop L × List Effect} (inStep : InStep panel loop) (quiet : Quiet loop result)
    (noReset : turn ≠ .resetRequest) (noChunk : turn.chunk? = none) :
    Recounts panel loop [turn] result [] := by
  refine ⟨.of_silent inStep quiet.panels quiet.pictures quiet.silent,
    .other noReset noChunk (.done _), ?_⟩
  rw [received_cons_of_no_chunk noChunk]
  exact quiet.decoder

/-- Attending to a request for a reset is told by one report of a reset. -/
theorem recounts_resetPanel {panel : Panel} {loop : ReadLoop L} (inStep : InStep panel loop) :
    ∃ events, Recounts panel loop [.resetRequest] loop.resetPanel events := by
  have shown : (loop.redraw (loop.panel.perform .reset).1 (loop.panel.perform .reset).2).1.shown =
      (panel.perform .reset).1.snapshot := by
    rw [inStep.panels, Panel.perform_listen]
    rfl
  have told := tells_redraw inStep (Panel.changeEntries .reset) .reset
    (.reset (panel.perform .reset).1.snapshot) rfl rfl
  refine ⟨[.reset (panel.perform .reset).1.snapshot], ?_, .reset _ (.done _), fun _ => rfl⟩
  simp only [resetPanel, shown]
  exact told

/-- A chunk is told by the reports of the frames that it ends. -/
theorem recounts_decode {panel : Panel} {loop : ReadLoop L} (inStep : InStep panel loop)
    (bytes : List UInt8) :
    ∃ events, Recounts panel loop [.reading (.chunk bytes)] (loop.decode bytes) events := by
  let fed : ReadLoop L :=
    { loop with chunks := loop.chunks + 1, decoder := (loop.decoder.feed bytes).1 }
  let outcomes := (loop.decoder.feed bytes).2
  obtain ⟨entries, decoded⟩ : ∃ entries, loop.decode bytes =
      ((fed.dispatchAll outcomes).1, Effect.notes entries ++ (fed.dispatchAll outcomes).2) :=
    ⟨_, rfl⟩
  have announced : Tells panel loop (fed, Effect.notes entries) [] :=
    .of_silent inStep rfl rfl (Effect.silent_notes entries)
  obtain ⟨events, told, reports⟩ := tells_dispatchAll announced.inStep outcomes
  refine ⟨events, ?_, ?_, fun _ => ?_⟩
  · rw [decoded]
    exact announced.trans told
  · rw [← List.append_nil events]
    exact .chunk reports (.done _)
  · rw [decoded, received_chunk]
    exact (dispatchAll_keeps fed outcomes).1

/-! ### All turns -/

variable [Link L]

theorem quiet_finish (loop : ReadLoop L) (ending : Ending) : Quiet loop (loop.finish ending) := by
  refine ⟨rfl, rfl, ?_, fun going => by cases going⟩
  simp only [finish, List.forall_mem_append, List.forall_mem_cons]
  refine ⟨⟨⟨⟨?_, ?_⟩, ?_⟩, ?_⟩, ?_⟩
  · exact Effect.silent_notes _
  · exact ⟨rfl, Effect.silent_nil⟩
  · exact Effect.silent_notes _
  · exact Effect.silent_notes _
  · exact ⟨rfl, rfl, Effect.silent_nil⟩

theorem quiet_fail (loop : ReadLoop L) (fault : Fault) : Quiet loop (loop.fail fault) :=
  (quiet_finish loop _).note _

/-- Acknowledging a chunk is not noticed, even if it fails and ends the loop. -/
theorem quiet_acknowledge (loop : ReadLoop L) : Quiet loop loop.acknowledge := by
  have sent : ∀ entries, ∀ effect ∈ .send [loop.ackByte] :: Effect.notes entries,
      effect.isSilent = true :=
    fun entries => List.forall_mem_cons.mpr ⟨rfl, Effect.silent_notes entries⟩
  unfold acknowledge
  cases answer : (Link.write loop.link [loop.ackByte]).answer with
  | ok written =>
    simp only [answer]
    exact ⟨rfl, rfl, sent _, fun _ => rfl⟩
  | error fault =>
    simp only [answer]
    have failed := quiet_fail
      { loop with link := (Link.write loop.link [loop.ackByte]).link } fault
    exact ⟨failed.panels, failed.pictures, List.forall_mem_append.mpr ⟨sent _, failed.silent⟩,
      failed.decoder⟩

theorem quiet_begin (loop : ReadLoop L) : Quiet loop loop.begin := by
  have started : Quiet loop ({ loop with started := true }, []) :=
    ⟨rfl, rfl, Effect.silent_nil, fun _ => rfl⟩
  unfold begin
  split
  · exact .nothing loop
  · exact started.note _

/-- Choosing a turn is not noticed, whatever has become of the link in the meantime. -/
theorem quiet_choose (loop : ReadLoop L) (link : L) (requests : Requests) (now : Nat) :
    let choice := choose { loop with link } requests now
    Quiet loop (choice.1, choice.2.2.2) ∧ choice.1.ending? = loop.ending? := by
  intro choice
  simp only [choice, choose]
  split
  · exact ⟨⟨rfl, rfl, Effect.silent_nil, fun _ => rfl⟩, rfl⟩
  · split
    · exact ⟨⟨rfl, rfl, Effect.silent_nil, fun _ => rfl⟩, rfl⟩
    · exact ⟨⟨rfl, rfl, Effect.silent_notes _, fun _ => rfl⟩, rfl⟩

theorem recounts_receive {panel : Panel} {loop : ReadLoop L} (inStep : InStep panel loop)
    (going : loop.ending? = none) (reading : Reading) :
    ∃ events, Recounts panel loop [.reading reading] (loop.receive reading) events := by
  cases reading with
  | waiting =>
    exact ⟨[], .of_quiet_turn inStep (.nothing loop) (Turn.reading_ne_resetRequest _) rfl⟩
  | finished =>
    exact ⟨[], .of_quiet_turn inStep ((quiet_finish loop .finished).note _)
      (Turn.reading_ne_resetRequest _) rfl⟩
  | failed fault =>
    exact ⟨[], .of_quiet_turn inStep (quiet_fail loop fault) (Turn.reading_ne_resetRequest _) rfl⟩
  | chunk bytes =>
    obtain ⟨events, recounts⟩ := recounts_decode inStep bytes
    have still : (loop.decode bytes).1.ending? = none :=
      (dispatchAll_keeps _ _).2.trans going
    have acknowledged := Recounts.of_quiet recounts.tells.inStep
      (quiet_acknowledge (loop.decode bytes).1)
    refine ⟨events, ?_⟩
    rw [← List.append_nil events]
    exact recounts.trans still acknowledged

/-- Whatever a loop attends to is told by events. -/
theorem recounts_attend {panel : Panel} {loop : ReadLoop L} (inStep : InStep panel loop)
    (going : loop.ending? = none) (turn : Turn) :
    ∃ events, Recounts panel loop [turn] (loop.attend turn) events := by
  have running : ¬ loop.ending?.isSome = true := by rw [going]; exact Bool.false_ne_true
  unfold attend
  rw [if_neg running]
  cases turn with
  | cancellation =>
    exact ⟨[], .of_quiet_turn inStep ((quiet_finish loop .disconnected).note _)
      (fun same => by cases same) rfl⟩
  | resetRequest => exact recounts_resetPanel inStep
  | reading reading => exact recounts_receive inStep going reading

end ReadLoop

/-! ### Courses -/

/-- The panel of a new session, before anybody listens to it. -/
def Panel.fresh (settings : Settings) : Panel :=
  (Panel.blank settings.display.geometry).setResetOnClear settings.display.resetOnClear

/-- What a session shows to its viewers is what they see of the effects it absorbs. -/
theorem Session.absorb_display {L : Type} (session : Session L) (effects : List Effect) :
    (effects.foldl absorb session).display.value =
      Effect.seen session.display.value effects := by
  induction effects generalizing session with
  | nil => rfl
  | cons effect rest inductionHypothesis =>
    rw [List.foldl_cons, inductionHypothesis]
    cases effect <;> rfl

namespace Course

variable {L : Type} [Link L]

/-- Everything in a course since a loop is told by events. -/
def Recounted (panel : Panel) (loop : ReadLoop L) (course : Course L) : Prop :=
  ∃ events, ReadLoop.Recounts panel loop course.turns (course.loop, course.effects) events

theorem recounted_proceed {panel : Panel} {loop : ReadLoop L} {course : Course L}
    (recounted : course.Recounted panel loop) (occasion : Occasion L) :
    (course.proceed occasion).Recounted panel loop := by
  cases ended : course.loop.ending? with
  | some ending =>
    rw [proceed_of_ended course occasion (by rw [ended]; rfl)]
    exact recounted
  | none =>
    have running : ¬ course.loop.ending?.isSome = true := by rw [ended]; exact Bool.false_ne_true
    obtain ⟨events, recounts⟩ := recounted
    obtain ⟨quiet, still⟩ := ReadLoop.quiet_choose course.loop (occasion.link course.loop.link)
      (asked course.requests occasion) occasion.now
    have chosen := recounts.trans ended (.of_quiet recounts.tells.inStep quiet)
    obtain ⟨more, attended⟩ := ReadLoop.recounts_attend chosen.tells.inStep (still.trans ended) _
    rw [proceed, if_neg running]
    exact ⟨_, List.append_nil course.turns ▸ chosen.trans (still.trans ended) attended⟩

theorem recounted_follow {panel : Panel} {loop : ReadLoop L} {course : Course L}
    (recounted : course.Recounted panel loop) (occasions : List (Occasion L)) :
    (course.follow occasions).Recounted panel loop := by
  induction occasions generalizing course with
  | nil => exact recounted
  | cons occasion rest inductionHypothesis =>
    exact inductionHypothesis (recounted_proceed recounted occasion)

theorem recounted_start (link : L) (settings : Settings) :
    (start link settings).Recounted (Panel.fresh settings) (ReadLoop.start link settings) := by
  have inStep : ReadLoop.InStep (Panel.fresh settings) (ReadLoop.start link settings) :=
    ⟨rfl, rfl⟩
  exact ⟨[], .of_quiet inStep (ReadLoop.quiet_begin _)⟩

/-- However a course goes, its events report the frames of everything it received as one
decoder finds them, without a gap in the numbers, and every request for a reset that was
attended to once, between chunks. At each event, and after each turn, viewers see what the
events so far make of a fresh panel, and so does the event itself if it carries a picture. -/
theorem follow_reports (link : L) (settings : Settings) (occasions : List (Occasion L)) :
    let course := (start link settings).follow occasions
    let session := (Session.attach link settings).1
    let events := Effect.events course.effects
    let reports := events.filter fun event => !event.isReset
    List.Forall₂ ReadLoop.Reports (Frame.Decoder.fresh.feed (received course.turns)).2 reports ∧
      reports.map Event.frameId? = (List.range reports.length).map some ∧
      Chronicle .fresh course.turns events ∧
      events.countP Event.isReset = course.turns.count .resetRequest ∧
      (∀ before event after, course.effects = before ++ .publish event :: after →
        let retraced := (Panel.fresh settings).retraceAll (Effect.events before ++ [event])
        (before.foldl Session.absorb session).display.value = retraced.snapshot ∧
          ∀ carried, event.snapshot? = some carried → carried = retraced.snapshot) ∧
      (course.effects.foldl Session.absorb session).display.value =
        ((Panel.fresh settings).retraceAll events).snapshot := by
  intro course session events reports
  obtain ⟨told, recounts⟩ := recounted_follow (recounted_start link settings) occasions
  have same : events = told := recounts.tells.events
  have chronicle : Chronicle .fresh course.turns events := same ▸ recounts.chronicle
  have framed := chronicle.reports_received
  refine ⟨framed, ?_, chronicle, chronicle.countP_isReset, ?_, ?_⟩
  · have numbers := Frame.Decoder.feed_numbers .fresh (received course.turns)
    rw [framed.length_eq] at numbers
    rw [ReadLoop.frameId?_of_reports framed, numbers, List.range_eq_range']
    rfl
  · intro before event after parted
    have truthful := recounts.tells.truthful
    rw [show course.effects = _ from parted] at truthful
    rw [Session.absorb_display]
    exact Effect.truthful_publish truthful
  · rw [Session.absorb_display, same]
    exact recounts.tells.seen.trans recounts.tells.inStep.pictures

end Course

end PanelLink
