/-
This file proves how a read loop behaves towards its link and its host, whatever the link
answers and whenever the host asks for a reset or for the end. Every chunk is acknowledged
with one byte, after its frames were reported and before anything else is read. The link
is closed once, after every other call, and only then the session ends, for exactly one of
three reasons. A request for the end is the last thing a loop attends to, and a loop that
has ended does nothing any more.
-/

import PanelLink.Proofs.Legs

namespace PanelLink

/-! ### Acknowledgements -/

/-- A leg that received a chunk writes the acknowledgement once: right after the chunk was read,
and when everything that there is to report of its frames has been reported. Nothing but closing
can follow in that leg. Any other leg reads no bytes and writes none. -/
def Leg.Acknowledges (ack : UInt8) (decoder : Frame.Decoder) (leg : Leg) : Prop :=
  match leg.turn.chunk? with
  | some bytes =>
    (∃ answer closing, leg.calls = .read (.chunk bytes) :: .write [ack] answer :: closing ∧
      ∀ call ∈ closing, call.isClose = true) ∧
    ∃ told later, leg.effects = told ++ .send [ack] :: later ∧
      List.Forall₂ ReadLoop.Reports (decoder.feed bytes).2 (Effect.events told) ∧
      (∀ effect ∈ told, effect.isSend = false) ∧
      ∀ effect ∈ later, effect.isSend = false ∧ effect.isSilent = true
  | none =>
    (∀ call ∈ leg.calls, call.movesBytes = false) ∧ ∀ effect ∈ leg.effects, effect.isSend = false

theorem Effect.later_notes (entries : List Journal.Entry) :
    ∀ effect ∈ Effect.notes entries, effect.isSend = false ∧ effect.isSilent = true :=
  fun effect member =>
    ⟨(Effect.inner_notes entries effect member).1, Effect.silent_notes entries effect member⟩

theorem Effect.Closing.later {ending : Ending} {effects : List Effect}
    (closing : Effect.Closing ending effects) :
    ∀ effect ∈ effects, effect.isSend = false ∧ effect.isSilent = true := by
  obtain ⟨before, after, rfl⟩ := closing
  simp only [List.forall_mem_append, List.forall_mem_cons]
  exact ⟨Effect.later_notes before, ⟨rfl, rfl⟩, Effect.later_notes after, ⟨rfl, rfl⟩,
    fun _ member => (List.not_mem_nil member).elim⟩

/-- A leg without a chunk has only to show that no bytes go over the link. -/
theorem Leg.acknowledges_of_no_chunk {ack : UInt8} {decoder : Frame.Decoder} {leg : Leg}
    (noChunk : leg.turn.chunk? = none) (calls : ∀ call ∈ leg.calls, call.movesBytes = false)
    (effects : ∀ effect ∈ leg.effects, effect.isSend = false) :
    leg.Acknowledges ack decoder := by
  unfold Leg.Acknowledges
  rw [noChunk]
  exact ⟨calls, effects⟩

theorem Leg.Shape.acknowledges {ack : UInt8} {decoder : Frame.Decoder} {leg : Leg}
    {ending? : Option Ending} (shape : leg.Shape ack decoder ending?) :
    leg.Acknowledges ack decoder := by
  cases shape with
  | waiting entries =>
    exact acknowledges_of_no_chunk rfl (by simp [Call.movesBytes]) fun effect member =>
      (Effect.inner_notes entries effect member).1
  | reset effects inner =>
    exact acknowledges_of_no_chunk rfl (by simp) fun effect member => (inner effect member).1
  | chunk bytes told entries inner reports =>
    exact ⟨⟨_, [], rfl, by simp⟩, told, _, rfl, reports,
      fun effect member => (inner effect member).1, Effect.later_notes entries⟩
  | refused bytes told closing fault answer inner reports closes =>
    exact ⟨⟨_, [.close answer], rfl, by simp [Call.isClose]⟩, told, closing, rfl, reports,
      fun effect member => (inner effect member).1, closes.later⟩
  | cancelled closing answer closes =>
    exact acknowledges_of_no_chunk rfl (by simp [Call.movesBytes]) fun effect member =>
      (closes.later effect member).1
  | finished closing answer closes =>
    exact acknowledges_of_no_chunk rfl (by simp [Call.movesBytes]) fun effect member =>
      (closes.later effect member).1
  | failed fault closing answer closes =>
    exact acknowledges_of_no_chunk rfl (by simp [Call.movesBytes]) fun effect member =>
      (closes.later effect member).1

theorem Legs.acknowledges {ack : UInt8} {legs : List Leg} {ending? : Option Ending}
    (run : Legs ack legs ending?) {before after : List Leg} {leg : Leg}
    (parted : legs = before ++ leg :: after) :
    leg.Acknowledges ack (Frame.Decoder.fresh.feed (received (before.map Leg.turn))).1 := by
  -- Legs grow at their end, so the leg in question is the last one or was there before.
  induction run generalizing after with
  | none => simp at parted
  | next _ shape inductionHypothesis =>
    rcases List.eq_nil_or_concat after with rfl | ⟨front, last, rfl⟩
    · obtain ⟨rfl, same⟩ := List.append_inj' parted rfl
      cases same
      exact shape.acknowledges
    · rw [List.concat_eq_append, ← List.cons_append, ← List.append_assoc] at parted
      exact inductionHypothesis (List.append_inj' parted rfl).1

/-! ### Closing -/

/-- While the loop is going on, the link has not been closed and the session has not ended. In the
end the link has been closed once, after every other call, and the session has ended once, after
that, and since then there are only lines for the journal. -/
def ClosesOnce (calls : List Call) (effects : List Effect) : Option Ending → Prop
  | none =>
    (∀ call ∈ calls, call.isClose = false) ∧ ∀ effect ∈ effects, effect.isFinal = false
  | some ending =>
    (∃ before answer, calls = before ++ [.close answer] ∧
      ∀ call ∈ before, call.isClose = false) ∧
    ∃ before entries, effects = before ++ .release :: (Effect.notes entries ++ [.conclude ending]) ∧
      ∀ effect ∈ before, effect.isFinal = false

theorem ClosesOnce.append {calls more : List Call} {effects others : List Effect}
    {ending? : Option Ending} (first : ClosesOnce calls effects none)
    (second : ClosesOnce more others ending?) :
    ClosesOnce (calls ++ more) (effects ++ others) ending? := by
  cases ending? with
  | none =>
    exact ⟨List.forall_mem_append.mpr ⟨first.1, second.1⟩,
      List.forall_mem_append.mpr ⟨first.2, second.2⟩⟩
  | some ending =>
    obtain ⟨⟨before, answer, rfl, open'⟩, front, entries, rfl, going⟩ := second
    exact ⟨⟨calls ++ before, answer, (List.append_assoc _ _ _).symm,
        List.forall_mem_append.mpr ⟨first.1, open'⟩⟩,
      effects ++ front, entries, (List.append_assoc _ _ _).symm,
      List.forall_mem_append.mpr ⟨first.2, going⟩⟩

theorem closesOnce_of_inner {calls : List Call} {effects : List Effect}
    (unclosed : ∀ call ∈ calls, call.isClose = false) (inner : Effect.Inner effects) :
    ClosesOnce calls effects none :=
  ⟨unclosed, fun effect member => (inner effect member).2⟩

theorem Effect.Closing.closesOnce {ending : Ending} {effects : List Effect}
    (closing : Effect.Closing ending effects) (answer : Except Fault Unit) :
    ClosesOnce [.close answer] effects (some ending) := by
  obtain ⟨before, after, rfl⟩ := closing
  exact ⟨⟨[], answer, rfl, by simp⟩, Effect.notes before, after, rfl,
    fun effect member => (Effect.inner_notes before effect member).2⟩

theorem closesOnce_read (reading : Reading) : ClosesOnce [.read reading] [] none :=
  closesOnce_of_inner (by simp [Call.isClose]) fun _ member => (List.not_mem_nil member).elim

/-- Reporting frames and acknowledging them does not close anything. -/
theorem acknowledging_unclosed (ack : UInt8) {told : List Effect} (inner : Effect.Inner told)
    (calls : List Call) (unclosed : ∀ call ∈ calls, call.isClose = false) :
    ClosesOnce calls (told ++ [.send [ack]]) none :=
  ⟨unclosed, List.forall_mem_append.mpr
    ⟨fun effect member => (inner effect member).2, by simp [Effect.isFinal]⟩⟩

theorem Leg.Shape.closesOnce {ack : UInt8} {decoder : Frame.Decoder} {leg : Leg}
    {ending? : Option Ending} (shape : leg.Shape ack decoder ending?) :
    ClosesOnce leg.calls leg.effects ending? := by
  cases shape with
  | waiting entries =>
    exact closesOnce_of_inner (by simp [Call.isClose]) (Effect.inner_notes entries)
  | reset effects inner => exact closesOnce_of_inner (by simp) inner
  | chunk bytes told entries inner reports =>
    have asked := acknowledging_unclosed ack inner [.read (.chunk bytes), .write [ack] (.ok ())]
      (by simp [Call.isClose])
    rw [List.append_cons]
    exact asked.append
      (closesOnce_of_inner (fun _ member => (List.not_mem_nil member).elim)
        (Effect.inner_notes entries))
  | refused bytes told closing fault answer inner reports closes =>
    have asked := acknowledging_unclosed ack inner
      [.read (.chunk bytes), .write [ack] (.error fault)] (by simp [Call.isClose])
    rw [List.append_cons]
    exact asked.append (closes.closesOnce answer)
  | cancelled closing answer closes => exact closes.closesOnce answer
  | finished closing answer closes =>
    exact (closesOnce_read .finished).append (closes.closesOnce answer)
  | failed fault closing answer closes =>
    exact (closesOnce_read (.failed fault)).append (closes.closesOnce answer)

theorem Legs.closesOnce {ack : UInt8} {legs : List Leg} {ending? : Option Ending}
    (run : Legs ack legs ending?) :
    ClosesOnce (legs.flatMap Leg.calls) (legs.flatMap Leg.effects) ending? := by
  induction run with
  | none => exact closesOnce_of_inner (by simp) (by simp [Effect.Inner])
  | next _ shape inductionHypothesis =>
    simp only [List.flatMap_append, List.flatMap_singleton]
    exact inductionHypothesis.append shape.closesOnce

/-! ### Reasons to end -/

/-- The end that a turn leads to by itself. -/
def Turn.reason? : Turn → Option Ending
  | .cancellation => some .disconnected
  | _ => none

/-- The end that the answer to a call leads to. -/
def Call.reason? : Call → Option Ending
  | .read .finished => some .finished
  | .read (.failed fault) | .write _ (.error fault) => some (.failed .lostConnection fault)
  | _ => none

/-- What comes up as a reason to end is exactly the end that a session comes to. -/
theorem Legs.reasons {ack : UInt8} {legs : List Leg} {ending? : Option Ending}
    (run : Legs ack legs ending?) :
    (legs.map Leg.turn).filterMap Turn.reason? ++
      (legs.flatMap Leg.calls).filterMap Call.reason? = ending?.toList := by
  induction run with
  | none => rfl
  | next _ shape inductionHypothesis =>
    obtain ⟨noTurn, noCall⟩ := List.append_eq_nil_iff.mp inductionHypothesis
    simp only [List.map_append, List.filterMap_append, List.flatMap_append,
      List.flatMap_singleton, noTurn, noCall, List.nil_append]
    cases shape <;> rfl

theorem Turn.reason?_eq_some {turn : Turn} {ending : Ending} :
    turn.reason? = some ending ↔ turn = .cancellation ∧ ending = .disconnected := by
  cases turn <;> simp [Turn.reason?, eq_comm]

theorem Call.reason?_eq_some {call : Call} {ending : Ending} :
    call.reason? = some ending ↔
      call = .read .finished ∧ ending = .finished ∨
        ∃ fault, (call = .read (.failed fault) ∨ ∃ bytes, call = .write bytes (.error fault)) ∧
          ending = .failed .lostConnection fault := by
  cases call with
  | read reading => cases reading <;> simp [Call.reason?, eq_comm]
  | write bytes answer => cases answer <;> simp [Call.reason?, eq_comm]
  | close answer => simp [Call.reason?]

/-- The end that a session comes to came up in a turn or in the answer to a call. -/
theorem Legs.ending_iff {ack : UInt8} {legs : List Leg} {ending? : Option Ending}
    (run : Legs ack legs ending?) (ending : Ending) :
    ending? = some ending ↔
      .cancellation ∈ legs.map Leg.turn ∧ ending = .disconnected ∨
        .read .finished ∈ legs.flatMap Leg.calls ∧ ending = .finished ∨
        ∃ fault, (.read (.failed fault) ∈ legs.flatMap Leg.calls ∨
            ∃ bytes, .write bytes (.error fault) ∈ legs.flatMap Leg.calls) ∧
          ending = .failed .lostConnection fault := by
  rw [← Option.mem_toList, ← run.reasons, List.mem_append, List.mem_filterMap,
    List.mem_filterMap]
  simp only [Turn.reason?_eq_some, Call.reason?_eq_some]
  constructor
  · rintro (⟨_, asked, rfl, rfl⟩ | ⟨_, called, ⟨rfl, rfl⟩ | ⟨fault, rfl | ⟨bytes, rfl⟩, rfl⟩⟩)
    · exact .inl ⟨asked, rfl⟩
    · exact .inr (.inl ⟨called, rfl⟩)
    · exact .inr (.inr ⟨fault, .inl called, rfl⟩)
    · exact .inr (.inr ⟨fault, .inr ⟨bytes, called⟩, rfl⟩)
  · rintro (⟨asked, rfl⟩ | ⟨called, rfl⟩ | ⟨fault, called | ⟨bytes, called⟩, rfl⟩)
    · exact .inl ⟨_, asked, rfl, rfl⟩
    · exact .inr ⟨_, called, .inl ⟨rfl, rfl⟩⟩
    · exact .inr ⟨_, called, .inr ⟨fault, .inl rfl, rfl⟩⟩
    · exact .inr ⟨_, called, .inr ⟨fault, .inr ⟨bytes, rfl⟩, rfl⟩⟩

/-! ### The end -/

namespace ReadLoop

variable {L : Type} [Link L]

theorem choose_of_cancelled (loop : ReadLoop L) {requests : Requests}
    (cancelled : requests.cancelled = true) (now : Nat) :
    loop.choose requests now = (loop, requests, .cancellation, []) :=
  if_pos cancelled

theorem attend_cancellation (loop : ReadLoop L) (going : loop.ending? = none) :
    (loop.attend .cancellation).1.ending? = some .disconnected := by
  have running : ¬ loop.ending?.isSome = true := by rw [going]; exact Bool.false_ne_true
  rw [attend, if_neg running]
  rfl

end ReadLoop

namespace Course

variable {L : Type} [Link L]

theorem follow_of_ended (course : Course L) (ended : course.loop.ending?.isSome = true)
    (occasions : List (Occasion L)) : course.follow occasions = course := by
  induction occasions with
  | nil => rfl
  | cons occasion rest inductionHypothesis =>
    rw [follow_cons, proceed_of_ended course occasion ended, inductionHypothesis]

/-- A loop that is asked for the end attends to that, and to nothing else any more. -/
theorem follow_of_cancelled (course : Course L) (occasion : Occasion L)
    (rest : List (Occasion L)) (going : course.loop.ending? = none)
    (cancelled : occasion.cancelled = true) :
    (course.follow (occasion :: rest)).turns = course.turns ++ [.cancellation] ∧
      (course.follow (occasion :: rest)).loop.ending? = some .disconnected := by
  have asked : (asked course.requests occasion).cancelled = true := by
    rw [Course.asked, cancelled, Bool.or_true]
  have choice := ReadLoop.choose_of_cancelled
    { course.loop with link := occasion.link course.loop.link } asked occasion.now
  have attended := ReadLoop.attend_cancellation
    { course.loop with link := occasion.link course.loop.link } going
  rw [follow_cons, follow_of_ended, proceed_of_choice course going choice]
  · exact ⟨rfl, attended⟩
  · rw [proceed_of_choice course going choice]
    exact congrArg Option.isSome attended

/-- Whatever a link does, and whenever the host asks for a reset or for the end, the calls that the
link gets, the events and the end of the session are in this order. -/
theorem follow_conduct (link : L) (settings : Settings) (occasions : List (Occasion L)) :
    let course := (start link settings).follow occasions
    let tapped := (start (Tapped.mk link []) settings).follow (occasions.map Occasion.tapped)
    let calls := tapped.loop.link.calls
    let ending? := course.loop.ending?
    tapped.untapped = course ∧
      (∃ legs begun, course.turns = legs.map Leg.turn ∧ calls = legs.flatMap Leg.calls ∧
        course.effects = Effect.notes begun ++ legs.flatMap Leg.effects ∧
        ∀ before leg after, legs = before ++ leg :: after →
          leg.Acknowledges settings.ackByte
            (Frame.Decoder.fresh.feed (received (before.map Leg.turn))).1) ∧
      ClosesOnce calls course.effects ending? ∧
      (ending? = some .disconnected ↔ .cancellation ∈ course.turns) ∧
      (ending? = some .finished ↔ .read .finished ∈ calls) ∧
      (∀ breakdown fault, ending? = some (.failed breakdown fault) ↔
        breakdown = .lostConnection ∧
          (.read (.failed fault) ∈ calls ∨ ∃ bytes, .write bytes (.error fault) ∈ calls)) ∧
      (∀ before occasion after, occasions = before ++ occasion :: after →
        occasion.cancelled = true →
        let earlier := (start link settings).follow before
        earlier.loop.ending? = none →
          course.turns = earlier.turns ++ [.cancellation] ∧ ending? = some .disconnected) ∧
      (ending?.isSome = true →
        course.loop.decoder.phase = .idle ∧ course.loop.decoder.pending = [] ∧
          ∀ more, course.follow more = course) := by
  intro course tapped calls ending?
  have untapped : tapped.untapped = course := untapped_follow link settings occasions
  obtain ⟨legs, begun, run, (sameTurns : course.turns = _), (sameCalls : calls = _),
    (sameEffects : course.effects = _), letGo⟩ := exists_legs link settings occasions
  replace run : Legs settings.ackByte legs ending? := run
  refine ⟨untapped, ⟨legs, begun, sameTurns, sameCalls, sameEffects, ?_⟩, ?_, ?_, ?_, ?_, ?_, ?_⟩
  · exact fun before leg after parted => run.acknowledges parted
  · rw [sameCalls, sameEffects]
    exact (closesOnce_of_inner (fun _ member => (List.not_mem_nil member).elim)
      (Effect.inner_notes begun)).append run.closesOnce
  · rw [run.ending_iff, ← sameTurns]
    simp
  · rw [run.ending_iff, ← sameCalls]
    simp
  · intro breakdown fault
    rw [run.ending_iff, ← sameCalls]
    simp [and_comm]
  · rintro before occasion after rfl cancelled earlier going
    have last := follow_of_cancelled earlier occasion after going cancelled
    rw [← follow_append] at last
    exact last
  · intro ended
    obtain ⟨phase, pending⟩ := letGo ended
    exact ⟨phase, pending, follow_of_ended course ended⟩

end Course

end PanelLink
