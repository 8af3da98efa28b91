/-
This file says what a session tells of a stream of bytes, and proves that it tells exactly
that however the stream reaches it. The account of a stream knows no chunks, no link and no
time: it is made of the outcomes of one decoder that takes the stream in one piece, and of
a fresh panel that draws the commands one after the other. A course that received the
stream in chunks and then its end has published the account, shows the panel that it leads
to, and has sent one acknowledgement for each chunk.
-/

import PanelLink.Proofs.Conduct

namespace PanelLink

/-! ### Accounts -/

namespace Panel

/-- The event that reports an outcome to those who see the given panel. -/
def report (panel : Panel) : Frame.Outcome → Event
  | .error rejection => .rejected rejection
  | .ok command =>
    if command.payload.isOrder then
      match panel.apply command with
      | .ok (drawn, _) => .drawn command drawn.snapshot
      | .error _ => .unsupported command
    else .message command

/-- The events that report outcomes, each about the panel that the events before it lead to. -/
def reportAll (panel : Panel) : List Frame.Outcome → List Event
  | [] => []
  | outcome :: rest => panel.report outcome :: (panel.retrace (panel.report outcome)).reportAll rest

/-- A report that carries no other picture than that of the retraced panel is determined by the
outcome. -/
theorem eq_report {panel : Panel} {outcome : Frame.Outcome} {event : Event}
    (reports : ReadLoop.Reports outcome event)
    (carries : ∀ carried, event.snapshot? = some carried →
      carried = (panel.retrace event).snapshot) : event = panel.report outcome := by
  cases reports with
  | rejected rejection => rfl
  | message command plain => simp [report, plain]
  | drawn command snapshot order applies =>
    obtain ⟨⟨drawn, notices⟩, applied⟩ := applies panel
    have picture := carries snapshot rfl
    simp only [retrace, applied] at picture
    simp [report, order, applied, picture]
  | unsupported command order refuses =>
    simp [report, order, refuses panel]

/-- Truthful effects that report outcomes publish the account of these outcomes. -/
theorem events_eq_reportAll {panel : Panel} {snapshot : Snapshot} {effects : List Effect}
    {outcomes : List Frame.Outcome} (truthful : Effect.Truthful panel snapshot effects)
    (reports : List.Forall₂ ReadLoop.Reports outcomes (Effect.events effects)) :
    Effect.events effects = panel.reportAll outcomes := by
  induction effects generalizing panel snapshot outcomes with
  | nil =>
    cases reports
    rfl
  | cons effect rest inductionHypothesis =>
    cases effect with
    | publish event =>
      obtain ⟨-, carries, later⟩ := truthful
      cases reports with
      | cons first others =>
        obtain rfl := eq_report first carries
        rw [reportAll, ← inductionHypothesis later others]
        rfl
    | display shown => exact inductionHypothesis truthful reports
    | note entry => exact inductionHypothesis truthful reports
    | send bytes => exact inductionHypothesis truthful reports
    | release => exact inductionHypothesis truthful reports
    | conclude ending => exact inductionHypothesis truthful reports

end Panel

/-- What a session tells of a stream of bytes. -/
def Settings.account (settings : Settings) (bytes : List UInt8) : List Event :=
  (Panel.fresh settings).reportAll (Frame.Decoder.fresh.feed bytes).2

/-! ### What was sent -/

namespace Effect

/-- The bytes that effects write to the link, in order. -/
def sent (effects : List Effect) : List UInt8 :=
  effects.flatMap fun effect =>
    match effect with
    | .send bytes => bytes
    | _ => []

theorem sent_append (front back : List Effect) : sent (front ++ back) = sent front ++ sent back :=
  List.flatMap_append

theorem sent_of_unsent {effects : List Effect}
    (unsent : ∀ effect ∈ effects, effect.isSend = false) : sent effects = [] := by
  refine List.flatMap_eq_nil_iff.mpr fun effect member => ?_
  have other := unsent effect member
  cases effect with
  | send bytes => cases other
  | _ => rfl

end Effect

theorem Leg.Acknowledges.sent {ack : UInt8} {decoder : Frame.Decoder} {leg : Leg}
    (acknowledges : leg.Acknowledges ack decoder) :
    Effect.sent leg.effects = List.replicate leg.turn.chunk?.toList.length ack := by
  unfold Leg.Acknowledges at acknowledges
  cases received : leg.turn.chunk? with
  | none =>
    rw [received] at acknowledges
    exact Effect.sent_of_unsent acknowledges.2
  | some bytes =>
    rw [received] at acknowledges
    obtain ⟨-, told, later, effects, -, before, after⟩ := acknowledges
    rw [effects, Effect.sent_append, Effect.sent_of_unsent before, List.nil_append]
    show [ack] ++ Effect.sent later = [ack]
    rw [Effect.sent_of_unsent fun effect member => (after effect member).1, List.append_nil]

/-- Legs send one acknowledgement for each chunk. -/
theorem Legs.sent {ack : UInt8} {legs : List Leg} {ending? : Option Ending}
    (run : Legs ack legs ending?) :
    Effect.sent (legs.flatMap Leg.effects) =
      List.replicate ((legs.map Leg.turn).filterMap Turn.chunk?).length ack := by
  induction run with
  | none => rfl
  | @next legs leg _ _ shape inductionHypothesis =>
    have last : ([leg].map Leg.turn).filterMap Turn.chunk? = leg.turn.chunk?.toList := by
      cases received : leg.turn.chunk? <;> simp [received]
    rw [List.flatMap_append, List.flatMap_singleton, Effect.sent_append, inductionHypothesis,
      shape.acknowledges.sent, List.map_append, List.filterMap_append, last, List.length_append,
      List.replicate_add]

/-- Legs in which the end of the stream was read have ended with that. -/
theorem Legs.ending_of_finished {ack : UInt8} {legs : List Leg} {ending? : Option Ending}
    (run : Legs ack legs ending?) (read : .reading .finished ∈ legs.map Leg.turn) :
    ending? = some .finished := by
  induction run with
  | none => cases read
  | next _ shape inductionHypothesis =>
    rw [List.map_append, List.mem_append] at read
    rcases read with earlier | last
    · cases inductionHypothesis earlier
    · rw [List.map_singleton, List.mem_singleton] at last
      cases shape <;> cases last
      rfl

/-! ### Deliveries -/

namespace Course

variable {L : Type}

/-- Chunks were received in order and then the end of the stream. In between there was nothing
but waiting; the host did not ask for anything. -/
def Delivered (course : Course L) (chunks : List (List UInt8)) : Prop :=
  course.turns.filter (· ≠ .reading .waiting) =
    chunks.map (fun bytes => .reading (.chunk bytes)) ++ [.reading .finished]

namespace Delivered

variable {course : Course L} {chunks : List (List UInt8)}

theorem mem_iff (delivered : course.Delivered chunks) (turn : Turn)
    (other : turn ≠ .reading .waiting) :
    turn ∈ course.turns ↔
      (∃ bytes ∈ chunks, .reading (.chunk bytes) = turn) ∨ turn = .reading .finished := by
  have filtered : turn ∈ course.turns.filter (· ≠ .reading .waiting) ↔ turn ∈ course.turns := by
    simp [other]
  rw [← filtered, delivered, List.mem_append, List.mem_map, List.mem_singleton]

theorem chunks_eq (delivered : course.Delivered chunks) :
    course.turns.filterMap Turn.chunk? = chunks := by
  have kept : (course.turns.filter (· ≠ .reading .waiting)).filterMap Turn.chunk? =
      course.turns.filterMap Turn.chunk? := by
    rw [List.filterMap_filter]
    refine List.filterMap_congr fun turn _ => ?_
    by_cases waits : turn = .reading .waiting
    · rw [waits]
      rfl
    · simp [waits]
  rw [← kept, delivered, List.filterMap_append, List.filterMap_map]
  simp [Function.comp_def, Turn.chunk?]

theorem received_eq (delivered : course.Delivered chunks) :
    received course.turns = chunks.flatten :=
  congrArg List.flatten delivered.chunks_eq

theorem no_reset (delivered : course.Delivered chunks) :
    course.turns.count .resetRequest = 0 := by
  refine List.count_eq_zero.mpr fun member => ?_
  rcases (delivered.mem_iff .resetRequest nofun).mp member with ⟨bytes, _, same⟩ | same <;> cases same

end Delivered

variable [Link L]

/-- The session that took in everything that was done in a course since it was attached. -/
def session (course : Course L) (link : L) (settings : Settings) : Session L :=
  { course.effects.foldl Session.absorb (Session.attach link settings).1 with
    loop := course.loop, requests := course.requests }

/-- Of a stream that was delivered, whatever the link and the chunks are, the account is given, and
the session ends with the end of the stream. -/
theorem account_of_delivered (link : L) (settings : Settings) (occasions : List (Occasion L))
    {chunks : List (List UInt8)}
    (delivered : ((start link settings).follow occasions).Delivered chunks) :
    let course := (start link settings).follow occasions
    let told := settings.account chunks.flatten
    course.loop.ending? = some .finished ∧ Effect.events course.effects = told ∧
      (course.session link settings).display.value =
        ((Panel.fresh settings).retraceAll told).snapshot ∧
      Effect.sent course.effects = List.replicate chunks.length settings.ackByte := by
  intro course told
  obtain ⟨events, recounts⟩ := recounted_follow (recounted_start link settings) occasions
  have reports := recounts.chronicle.reports_received
  -- Nobody asked for a reset, so the reports of frames are all events that there are.
  have noResets : events.filter (fun event => !event.isReset) = events := by
    have none := recounts.chronicle.countP_isReset.trans delivered.no_reset
    refine List.filter_eq_self.mpr fun event member => ?_
    simpa using List.countP_eq_zero.mp none event member
  rw [noResets, delivered.received_eq, ← recounts.tells.events] at reports
  have same : Effect.events course.effects = told :=
    Panel.events_eq_reportAll recounts.tells.truthful reports
  obtain ⟨legs, begun, run, turns, -, effects, -⟩ := exists_legs link settings occasions
  refine ⟨run.ending_of_finished ?_, same, ?_, ?_⟩
  · rw [← turns]
    exact (delivered.mem_iff (.reading .finished) nofun).mpr (.inr rfl)
  · have shown := recounts.tells.seen.trans recounts.tells.inStep.pictures
    rw [← recounts.tells.events, same] at shown
    rw [← shown]
    exact Session.absorb_display _ _
  · have unsent := Effect.sent_of_unsent fun effect member =>
      (Effect.inner_notes begun effect member).1
    rw [effects, Effect.sent_append, unsent, run.sent, ← turns, delivered.chunks_eq]
    rfl

end Course

end PanelLink
