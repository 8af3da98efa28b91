/-
This file lays down how a read loop deals with its link. A course falls apart into legs,
one for each turn: the turn, the calls of the link in it and the effects. There are seven
shapes that a leg can have. Three of them leave the loop going, four end it, and a leg
that ends the loop is the last one. Everything there is to say about acknowledgements,
closing and the end of a session is read off the shapes.

The calls are those that a tap on the link records, so they are calls that were made and
answers that were given.
-/

import Mathlib.Data.List.Induction
import PanelLink.Proofs.Chronicle
import PanelLink.Proofs.Tapping

namespace PanelLink

/-! ### Kinds of calls and effects -/

/-- Whether bytes go over the link in a call. -/
def Call.movesBytes : Call → Bool
  | .read (.chunk _) | .write .. => true
  | _ => false

/-- Whether a call closes. -/
def Call.isClose : Call → Bool
  | .close _ => true
  | _ => false

namespace Effect

/-- Whether an effect writes to the link. -/
def isSend : Effect → Bool
  | .send _ => true
  | _ => false

/-- Whether an effect closes the link or ends the session. -/
def isFinal : Effect → Bool
  | .release | .conclude _ => true
  | _ => false

/-- Effects that stay with the journal, the viewers and the subscribers. -/
def Inner (effects : List Effect) : Prop :=
  ∀ effect ∈ effects, effect.isSend = false ∧ effect.isFinal = false

/-- Effects of closing the link and then ending the session, and nothing else but lines for the
journal. -/
def Closing (ending : Ending) (effects : List Effect) : Prop :=
  ∃ before after, effects = notes before ++ .release :: (notes after ++ [.conclude ending])

theorem notes_append (front back : List Journal.Entry) :
    notes (front ++ back) = notes front ++ notes back := List.map_append

theorem inner_append {front back : List Effect} (first : Inner front) (second : Inner back) :
    Inner (front ++ back) :=
  List.forall_mem_append.mpr ⟨first, second⟩

theorem inner_notes (entries : List Journal.Entry) : Inner (notes entries) := by
  intro effect member
  obtain ⟨entry, _, rfl⟩ := List.mem_map.mp member
  exact ⟨rfl, rfl⟩

theorem inner_displays (notices : List Notice) :
    Inner (notices.map fun notice => .display notice.snapshot) := by
  intro effect member
  obtain ⟨notice, _, rfl⟩ := List.mem_map.mp member
  exact ⟨rfl, rfl⟩

theorem inner_publish (event : Event) : Inner [.publish event] := by
  intro effect member
  rw [List.mem_singleton.mp member]
  exact ⟨rfl, rfl⟩

theorem Closing.notes {ending : Ending} {effects : List Effect} (closing : Closing ending effects)
    (entries : List Journal.Entry) : Closing ending (notes entries ++ effects) := by
  obtain ⟨before, after, rfl⟩ := closing
  exact ⟨entries ++ before, after, by rw [notes_append, List.append_assoc]⟩

end Effect

/-! ### Legs -/

/-- What happened in one turn: the calls of the link and the effects. -/
structure Leg where
  turn : Turn
  calls : List Call
  effects : List Effect

/-- The shapes of legs, and how they end the loop if they do. A loop that acknowledges with the
given byte begins the leg with the given decoder. -/
inductive Leg.Shape (ack : UInt8) (decoder : Frame.Decoder) : Leg → Option Ending → Prop where
  /-- There was nothing to read. -/
  | waiting (entries : List Journal.Entry) :
    Shape ack decoder ⟨.reading .waiting, [.read .waiting], Effect.notes entries⟩ none
  /-- The panel was reset. -/
  | reset (effects : List Effect) (inner : Effect.Inner effects) :
    Shape ack decoder ⟨.resetRequest, [], effects⟩ none
  /-- A chunk was decoded, its frames were reported, and then it was acknowledged. -/
  | chunk (bytes : List UInt8) (told : List Effect) (entries : List Journal.Entry)
    (inner : Effect.Inner told)
    (reports : List.Forall₂ ReadLoop.Reports (decoder.feed bytes).2 (Effect.events told)) :
    Shape ack decoder
      ⟨.reading (.chunk bytes), [.read (.chunk bytes), .write [ack] (.ok ())],
        told ++ .send [ack] :: Effect.notes entries⟩ none
  /-- The same, but the acknowledgement was refused. -/
  | refused (bytes : List UInt8) (told closing : List Effect) (fault : Fault)
    (answer : Except Fault Unit) (inner : Effect.Inner told)
    (reports : List.Forall₂ ReadLoop.Reports (decoder.feed bytes).2 (Effect.events told))
    (closes : Effect.Closing (.failed .lostConnection fault) closing) :
    Shape ack decoder
      ⟨.reading (.chunk bytes),
        [.read (.chunk bytes), .write [ack] (.error fault), .close answer],
        told ++ .send [ack] :: closing⟩ (some (.failed .lostConnection fault))
  /-- The host asked for the end. -/
  | cancelled (closing : List Effect) (answer : Except Fault Unit)
    (closes : Effect.Closing .disconnected closing) :
    Shape ack decoder ⟨.cancellation, [.close answer], closing⟩ (some .disconnected)
  /-- The stream came to its end. -/
  | finished (closing : List Effect) (answer : Except Fault Unit)
    (closes : Effect.Closing .finished closing) :
    Shape ack decoder ⟨.reading .finished, [.read .finished, .close answer], closing⟩
      (some .finished)
  /-- Reading failed. -/
  | failed (fault : Fault) (closing : List Effect) (answer : Except Fault Unit)
    (closes : Effect.Closing (.failed .lostConnection fault) closing) :
    Shape ack decoder
      ⟨.reading (.failed fault), [.read (.failed fault), .close answer], closing⟩
      (some (.failed .lostConnection fault))

/-- The calls that a turn itself stands for. -/
def Turn.reads : Turn → List Call
  | .reading given => [.read given]
  | _ => []

/-! ### Chunks -/

namespace ReadLoop

section Chunks

variable {L : Type}

theorem inner_resetPanel (loop : ReadLoop L) : Effect.Inner loop.resetPanel.2 :=
  Effect.inner_append
    (Effect.inner_append (Effect.inner_notes _) (Effect.inner_displays _)) (Effect.inner_publish _)

theorem inner_draw (loop : ReadLoop L) (command : Command) :
    Effect.Inner (loop.draw command).2 := by
  unfold draw
  split
  · exact Effect.inner_append
      (Effect.inner_append (Effect.inner_notes _) (Effect.inner_displays _))
      (Effect.inner_publish _)
  · exact Effect.inner_append (Effect.inner_notes _) (Effect.inner_publish _)

theorem inner_dispatch (loop : ReadLoop L) (outcome : Frame.Outcome) :
    Effect.Inner (loop.dispatch outcome).2 := by
  cases outcome with
  | error rejection =>
    exact Effect.inner_append (Effect.inner_notes [⟨.warn, rejection.message⟩])
      (Effect.inner_publish _)
  | ok command =>
    rw [dispatch_ok]
    split
    · exact inner_draw loop command
    · exact Effect.inner_append (Effect.inner_notes [messageEntry command])
        (Effect.inner_publish _)

theorem inner_dispatchAll (loop : ReadLoop L) (outcomes : List Frame.Outcome) :
    Effect.Inner (loop.dispatchAll outcomes).2 := by
  induction outcomes generalizing loop with
  | nil => exact fun _ member => (List.not_mem_nil member).elim
  | cons outcome rest inductionHypothesis =>
    exact Effect.inner_append (inner_dispatch loop outcome) (inductionHypothesis _)

theorem inner_decode (loop : ReadLoop L) (bytes : List UInt8) :
    Effect.Inner (loop.decode bytes).2 :=
  Effect.inner_append (Effect.inner_notes _) (inner_dispatchAll _ _)

/-- Frames touch nothing but the panel and the picture. -/
theorem exists_dispatchAll_eq (loop : ReadLoop L) (outcomes : List Frame.Outcome) :
    ∃ panel shown, (loop.dispatchAll outcomes).1 = { loop with panel, shown } := by
  induction outcomes generalizing loop with
  | nil => exact ⟨loop.panel, loop.shown, rfl⟩
  | cons outcome rest inductionHypothesis =>
    obtain ⟨panel, shown, first⟩ :
        ∃ panel shown, (loop.dispatch outcome).1 = { loop with panel, shown } := by
      cases outcome with
      | error rejection => exact ⟨loop.panel, loop.shown, rfl⟩
      | ok command =>
        rw [dispatch_ok]
        unfold draw
        split
        · split
          · rename_i panel notices _
            exact ⟨panel, (loop.redraw panel notices).1.shown, rfl⟩
          · exact ⟨loop.panel, loop.shown, rfl⟩
        · exact ⟨loop.panel, loop.shown, rfl⟩
    obtain ⟨last, seen, more⟩ := inductionHypothesis (loop.dispatch outcome).1
    exact ⟨last, seen, more.trans (by rw [first])⟩

/-- A chunk touches the decoder and what its frames touch. -/
theorem exists_decode_eq (loop : ReadLoop L) (bytes : List UInt8) :
    ∃ panel shown, (loop.decode bytes).1 =
      { loop with
        chunks := loop.chunks + 1, decoder := (loop.decoder.feed bytes).1, panel, shown } :=
  exists_dispatchAll_eq _ _

/-- The events of a chunk report the frames that it ends. -/
theorem reports_decode {panel : Panel} {loop : ReadLoop L} (inStep : InStep panel loop)
    (bytes : List UInt8) :
    List.Forall₂ Reports (loop.decoder.feed bytes).2 (Effect.events (loop.decode bytes).2) := by
  let fed : ReadLoop L :=
    { loop with chunks := loop.chunks + 1, decoder := (loop.decoder.feed bytes).1 }
  obtain ⟨events, told, reports⟩ :=
    tells_dispatchAll (⟨inStep.panels, inStep.pictures⟩ : InStep panel fed)
      (loop.decoder.feed bytes).2
  obtain ⟨entries, decoded⟩ : ∃ entries, (loop.decode bytes).2 =
      Effect.notes entries ++ (fed.dispatchAll (loop.decoder.feed bytes).2).2 := ⟨_, rfl⟩
  rw [decoded, Effect.events_append, Effect.events_of_silent (Effect.silent_notes entries),
    told.events]
  exact reports

end Chunks

/-! ### Endings -/

variable {L : Type}

/-- An ended loop has let go of the frame that it was in. -/
def LetGo (loop : ReadLoop L) : Prop :=
  loop.ending?.isSome = true → loop.decoder.phase = .idle ∧ loop.decoder.pending = []

/-- A step closes the link once and ends the loop. -/
structure Ends (loop : ReadLoop (Tapped L)) (ending : Ending)
    (result : ReadLoop (Tapped L) × List Effect) : Prop where
  calls : ∃ answer, result.1.link.calls = loop.link.calls ++ [.close answer]
  closing : Effect.Closing ending result.2
  ending : result.1.ending? = some ending
  ackByte : result.1.ackByte = loop.ackByte
  letGo : result.1.LetGo

theorem Ends.note {loop : ReadLoop (Tapped L)} {ending : Ending}
    {result : ReadLoop (Tapped L) × List Effect} (ends : Ends loop ending result)
    (entry : Journal.Entry) : Ends loop ending (result.1, .note entry :: result.2) :=
  ⟨ends.calls, ends.closing.notes [entry], ends.ending, ends.ackByte, ends.letGo⟩

/-! ### The shape of a turn -/

/-- What a turn does: the calls that it adds, the shape that it has together with them, and what
it leaves alone. -/
structure Shaped (loop : ReadLoop (Tapped L)) (turn : Turn)
    (result : ReadLoop (Tapped L) × List Effect) (added : List Call) : Prop where
  calls : result.1.link.calls = loop.link.calls ++ added
  shape : ∀ entries, Leg.Shape loop.ackByte loop.decoder
    ⟨turn, turn.reads ++ added, Effect.notes entries ++ result.2⟩ result.1.ending?
  ackByte : result.1.ackByte = loop.ackByte
  letGo : result.1.LetGo

/-- A turn that does nothing but end the loop has the shape for that. -/
theorem shaped_of_ends {loop : ReadLoop (Tapped L)} {turn : Turn} {ending : Ending}
    {result : ReadLoop (Tapped L) × List Effect} (ends : Ends loop ending result)
    (shape : ∀ closing answer, Effect.Closing ending closing →
      Leg.Shape loop.ackByte loop.decoder
        ⟨turn, turn.reads ++ [.close answer], closing⟩ (some ending)) :
    ∃ added, Shaped loop turn result added := by
  obtain ⟨answer, calls⟩ := ends.calls
  refine ⟨[.close answer], calls, fun entries => ?_, ends.ackByte, ends.letGo⟩
  rw [ends.ending]
  exact shape _ answer (ends.closing.notes entries)

theorem letGo_of_going {loop : ReadLoop (Tapped L)} (going : loop.ending? = none) :
    loop.LetGo := by
  intro ended
  rw [going] at ended
  cases ended

/-! ### Every turn has a shape -/

variable [Link L]

theorem finish_ends (loop : ReadLoop (Tapped L)) (ending : Ending) :
    Ends loop ending (loop.finish ending) := by
  let closed := Link.close loop.link
  let last := (loop.finish ending).1
  refine ⟨⟨_, rfl⟩, ⟨loop.decoder.resetEntries,
    closed.entries ++ closingEntries closed.answer ++ [last.summaryEntry], ?_⟩, rfl, rfl,
    fun _ => ⟨rfl, rfl⟩⟩
  rw [Effect.notes_append, Effect.notes_append]
  simp only [finish, List.append_assoc, List.singleton_append]
  rfl

theorem fail_ends (loop : ReadLoop (Tapped L)) (fault : Fault) :
    Ends loop (.failed .lostConnection fault) (loop.fail fault) :=
  (finish_ends loop _).note _

/-- A chunk is read, its frames are reported, and then it is acknowledged. -/
theorem shaped_chunk {panel : Panel} {loop : ReadLoop (Tapped L)} (inStep : InStep panel loop)
    (going : loop.ending? = none) (bytes : List UInt8) :
    ∃ added, Shaped loop (.reading (.chunk bytes)) (loop.receive (.chunk bytes)) added := by
  obtain ⟨_, _, decoded⟩ := exists_decode_eq loop bytes
  have sameLink : (loop.decode bytes).1.link = loop.link := by rw [decoded]
  have sameAck : (loop.decode bytes).1.ackByte = loop.ackByte := by rw [decoded]
  have still : (loop.decode bytes).1.ending? = none := by
    rw [decoded]
    exact going
  have reports (entries : List Journal.Entry) :
      List.Forall₂ Reports (loop.decoder.feed bytes).2
        (Effect.events (Effect.notes entries ++ (loop.decode bytes).2)) := by
    rw [Effect.events_append, Effect.events_of_silent (Effect.silent_notes entries)]
    exact reports_decode inStep bytes
  have inner (entries : List Journal.Entry) :
      Effect.Inner (Effect.notes entries ++ (loop.decode bytes).2) :=
    Effect.inner_append (Effect.inner_notes entries) (inner_decode loop bytes)
  let written := Link.write (loop.decode bytes).1.link [(loop.decode bytes).1.ackByte]
  have recorded : written.link.calls =
      loop.link.calls ++ [.write [loop.ackByte] written.answer] := by
    rw [← sameLink, ← sameAck]
    rfl
  cases answer : written.answer with
  | ok done =>
    have acknowledged := acknowledge_of_ok answer
    refine ⟨[.write [loop.ackByte] (.ok ())], ?_, fun entries => ?_, ?_, ?_⟩
    · simp only [receive, acknowledged]
      rw [answer] at recorded
      exact recorded
    · simp only [receive, acknowledged, still, sameAck, ← List.append_assoc]
      exact .chunk bytes _ _ (inner entries) (reports entries)
    · simp only [receive, acknowledged]
      exact sameAck
    · simp only [receive, acknowledged]
      exact letGo_of_going still
  | error fault =>
    have acknowledged := acknowledge_of_error answer
    have ends := fail_ends { (loop.decode bytes).1 with link := written.link } fault
    obtain ⟨closed, calls⟩ := ends.calls
    refine ⟨[.write [loop.ackByte] (.error fault), .close closed], ?_, fun entries => ?_, ?_, ?_⟩
    · simp only [receive, acknowledged]
      rw [answer] at recorded
      rw [calls, recorded, List.append_assoc]
      rfl
    · simp only [receive, acknowledged, ← List.append_assoc]
      rw [← sameAck, ends.ending]
      exact .refused bytes _ _ fault closed (inner entries) (reports entries)
        (ends.closing.notes written.entries)
    · simp only [receive, acknowledged]
      exact ends.ackByte.trans sameAck
    · simp only [receive, acknowledged]
      exact ends.letGo

/-- Every turn has one of the shapes. -/
theorem shaped_attend {panel : Panel} {loop : ReadLoop (Tapped L)} (inStep : InStep panel loop)
    (going : loop.ending? = none) (turn : Turn) :
    ∃ added, Shaped loop turn (loop.attend turn) added := by
  have running : ¬ loop.ending?.isSome = true := by rw [going]; exact Bool.false_ne_true
  unfold attend
  rw [if_neg running]
  cases turn with
  | cancellation =>
    exact shaped_of_ends ((finish_ends loop .disconnected).note _) .cancelled
  | resetRequest =>
    refine ⟨[], (List.append_nil _).symm, fun entries => ?_, rfl, letGo_of_going going⟩
    show Leg.Shape _ _ _ loop.ending?
    rw [going]
    exact .reset _ (Effect.inner_append (Effect.inner_notes entries) (inner_resetPanel loop))
  | reading reading =>
    cases reading with
    | waiting =>
      refine ⟨[], (List.append_nil _).symm, fun entries => ?_, rfl, letGo_of_going going⟩
      show Leg.Shape _ _ _ loop.ending?
      rw [going]
      exact (List.append_nil (Effect.notes entries)).symm ▸ .waiting entries
    | chunk bytes => exact shaped_chunk inStep going bytes
    | finished => exact shaped_of_ends ((finish_ends loop .finished).note _) .finished
    | failed fault => exact shaped_of_ends (fail_ends loop fault) (.failed fault)

/-- Choosing a turn reads the link if the turn is to read it, and leaves everything else alone. -/
theorem choose_reads {loop chosen : ReadLoop (Tapped L)} {requests left : Requests} {now : Nat}
    {turn : Turn} {noted : List Effect}
    (choice : loop.choose requests now = (chosen, left, turn, noted)) :
    chosen = { loop with link := chosen.link } ∧
      chosen.link.calls = loop.link.calls ++ turn.reads ∧
      ∃ entries, noted = Effect.notes entries := by
  unfold choose at choice
  split at choice
  · cases choice
    exact ⟨rfl, (List.append_nil _).symm, [], rfl⟩
  · split at choice
    · cases choice
      exact ⟨rfl, (List.append_nil _).symm, [], rfl⟩
    · cases choice
      exact ⟨rfl, rfl, _, rfl⟩

end ReadLoop

/-! ### Legs in a row -/

/-- Legs that follow one another from the start of a session: the decoder of each has taken what
the legs before it received, and only the last one may end the loop. -/
inductive Legs (ack : UInt8) : List Leg → Option Ending → Prop where
  | none : Legs ack [] none
  | next {legs : List Leg} {leg : Leg} {ending? : Option Ending} (before : Legs ack legs none)
    (shape : leg.Shape ack (Frame.Decoder.fresh.feed (received (legs.map Leg.turn))).1 ending?) :
    Legs ack (legs ++ [leg]) ending?

namespace Course

variable {L : Type}

/-- A course over a tapped link is made of legs. -/
structure MadeOf (course : Course (Tapped L)) (ack : UInt8) (legs : List Leg) : Prop where
  turns : course.turns = legs.map Leg.turn
  calls : course.loop.link.calls = legs.flatMap Leg.calls
  effects : ∃ entries, course.effects = Effect.notes entries ++ legs.flatMap Leg.effects
  legs : Legs ack legs course.loop.ending?
  ackByte : course.loop.ackByte = ack
  letGo : course.loop.LetGo

variable [Link L]

theorem madeOf_start (link : L) (settings : Settings) :
    (start (Tapped.mk link []) settings).MadeOf settings.ackByte [] :=
  ⟨rfl, rfl, ⟨[_], (List.append_nil _).symm⟩, .none, rfl, ReadLoop.letGo_of_going rfl⟩

theorem madeOf_proceed {panel : Panel} {loop : ReadLoop (Tapped L)} {course : Course (Tapped L)}
    {ack : UInt8} {legs : List Leg} (fresh : loop.decoder = .fresh)
    (recounted : course.Recounted panel loop) (madeOf : course.MadeOf ack legs)
    (occasion : Occasion L) :
    ∃ more, (course.proceed occasion.tapped).MadeOf ack more := by
  cases ended : course.loop.ending? with
  | some ending =>
    rw [proceed_of_ended course _ (by rw [ended]; rfl)]
    exact ⟨legs, madeOf⟩
  | none =>
    obtain ⟨events, recounts⟩ := recounted
    obtain ⟨⟨chosen, left, turn, noted⟩, choice⟩ : ∃ choice,
      ReadLoop.choose { course.loop with link := occasion.tapped.link course.loop.link }
        (asked course.requests occasion.tapped) occasion.now = choice := ⟨_, rfl⟩
    obtain ⟨same, reads, entries, rfl⟩ := ReadLoop.choose_reads choice
    have inStep : ReadLoop.InStep (panel.retraceAll events) chosen := by
      rw [same]
      exact ⟨recounts.tells.inStep.panels, recounts.tells.inStep.pictures⟩
    have going : chosen.ending? = none := by
      rw [same]
      exact ended
    have ackByte : chosen.ackByte = ack := by
      rw [same]
      exact madeOf.ackByte
    have decoder : chosen.decoder =
        (Frame.Decoder.fresh.feed (received (legs.map Leg.turn))).1 := by
      rw [same, ← madeOf.turns, ← fresh]
      exact recounts.decoder ended
    obtain ⟨added, shaped⟩ := ReadLoop.shaped_attend inStep going turn
    have legsBefore : Legs ack legs none := ended ▸ madeOf.legs
    have shape := shaped.shape entries
    rw [ackByte, decoder] at shape
    obtain ⟨begun, effects⟩ := madeOf.effects
    refine ⟨legs ++ [⟨turn, turn.reads ++ added, Effect.notes entries ++ (chosen.attend turn).2⟩],
      ?_⟩
    rw [proceed_of_choice course ended choice]
    refine ⟨?_, ?_, ⟨begun, ?_⟩, legsBefore.next shape, shaped.ackByte.trans ackByte,
      shaped.letGo⟩
    · rw [madeOf.turns, List.map_append]
      rfl
    · show (chosen.attend turn).1.link.calls = _
      rw [shaped.calls, reads, List.flatMap_append, List.flatMap_singleton, List.append_assoc]
      exact congrArg (· ++ _) madeOf.calls
    · show course.effects ++ _ ++ _ = _
      rw [effects, List.flatMap_append, List.flatMap_singleton]
      simp only [List.append_assoc]

/-- Every course over a tapped link is made of legs. -/
theorem madeOf_follow (link : L) (settings : Settings) (occasions : List (Occasion L)) :
    ∃ legs, ((start (Tapped.mk link []) settings).follow
      (occasions.map Occasion.tapped)).MadeOf settings.ackByte legs := by
  induction occasions using List.reverseRecOn with
  | nil => exact ⟨[], madeOf_start link settings⟩
  | append_singleton before occasion inductionHypothesis =>
    obtain ⟨legs, madeOf⟩ := inductionHypothesis
    rw [List.map_append, List.map_singleton, follow_append]
    exact madeOf_proceed rfl (recounted_follow (recounted_start _ settings) _) madeOf occasion

/-- So every course over a link falls apart into legs, with the calls that a tap records. -/
theorem exists_legs (link : L) (settings : Settings) (occasions : List (Occasion L)) :
    let course := (start link settings).follow occasions
    let tapped := (start (Tapped.mk link []) settings).follow (occasions.map Occasion.tapped)
    ∃ legs begun, Legs settings.ackByte legs course.loop.ending? ∧
      course.turns = legs.map Leg.turn ∧ tapped.loop.link.calls = legs.flatMap Leg.calls ∧
      course.effects = Effect.notes begun ++ legs.flatMap Leg.effects ∧ course.loop.LetGo := by
  intro course tapped
  have untapped : tapped.untapped = course := untapped_follow link settings occasions
  obtain ⟨legs, madeOf⟩ := madeOf_follow link settings occasions
  obtain ⟨begun, effects⟩ := madeOf.effects
  rw [← untapped]
  exact ⟨legs, begun, madeOf.legs, madeOf.turns, madeOf.calls, effects, madeOf.letGo⟩

end Course

end PanelLink
