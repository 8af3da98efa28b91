/-
This file taps the link of a read loop. A tapped link does whatever the link behind it
does, and keeps a record of every call with the answer it got. A read loop treats all
links alike, so the record changes nothing: without it, a course over the tapped link is
the course over the link itself. What the record holds at the end is therefore what the
loop asked of its link, in order.
-/

import PanelLink.Proofs.Course

namespace PanelLink

/-! ### Tapped links -/

/-- A call of a link, with the answer that it got. -/
inductive Call where
  | read (reading : Reading)
  | write (bytes : List UInt8) (answer : Except Fault Unit)
  | close (answer : Except Fault Unit)

/-- A link with the record of the calls that it got. -/
structure Tapped (L : Type) where
  link : L
  calls : List Call := []

/-- Keeps the record of a call that was carried out. -/
def Tapped.record {L Answer : Type} (tapped : Tapped L) (performed : Performed L Answer)
    (call : Answer → Call) : Performed (Tapped L) Answer :=
  ⟨⟨performed.link, tapped.calls ++ [call performed.answer]⟩, performed.answer,
    performed.entries⟩

instance {L : Type} [Link L] : Link (Tapped L) where
  name tapped := Link.name tapped.link
  read tapped now := tapped.record (Link.read tapped.link now) .read
  write tapped bytes := tapped.record (Link.write tapped.link bytes) (.write bytes)
  close tapped := tapped.record (Link.close tapped.link) .close
  wakeAt? tapped := Link.wakeAt? tapped.link
  backlog tapped := Link.backlog tapped.link

/-- The same occasion around a tapped link; what goes on around a link is no call of it. -/
def Occasion.tapped {L : Type} (occasion : Occasion L) : Occasion (Tapped L) where
  link tapped := { tapped with link := occasion.link tapped.link }
  resets := occasion.resets
  cancelled := occasion.cancelled
  now := occasion.now

namespace ReadLoop

variable {L : Type}

/-! ### The two ways to acknowledge -/

/-- A chunk whose acknowledgement is taken leaves everything but the link as it is. -/
theorem acknowledge_of_ok [Link L] {loop : ReadLoop L} {written : Unit}
    (taken : (Link.write loop.link [loop.ackByte]).answer = .ok written) :
    loop.acknowledge =
      ({ loop with link := (Link.write loop.link [loop.ackByte]).link },
        .send [loop.ackByte] ::
          Effect.notes (Link.write loop.link [loop.ackByte]).entries) := by
  simp only [acknowledge, taken]

/-- A chunk whose acknowledgement is refused ends the loop. -/
theorem acknowledge_of_error [Link L] {loop : ReadLoop L} {fault : Fault}
    (refused : (Link.write loop.link [loop.ackByte]).answer = .error fault) :
    let failed := { loop with link := (Link.write loop.link [loop.ackByte]).link }.fail fault
    loop.acknowledge =
      (failed.1,
        .send [loop.ackByte] ::
          (Effect.notes (Link.write loop.link [loop.ackByte]).entries ++ failed.2)) := by
  simp only [acknowledge, refused]
  rfl

/-! ### Taking the record away -/

/-- The loop over the link behind the tap. -/
def untapped (loop : ReadLoop (Tapped L)) : ReadLoop L :=
  { link := loop.link.link, panel := loop.panel, decoder := loop.decoder,
    ackByte := loop.ackByte, shown := loop.shown, chunks := loop.chunks,
    started := loop.started, ending? := loop.ending? }

/-- The outcome of a step over the link behind the tap. -/
def untappedStep (result : ReadLoop (Tapped L) × List Effect) : ReadLoop L × List Effect :=
  (result.1.untapped, result.2)

theorem untapped_draw (loop : ReadLoop (Tapped L)) (command : Command) :
    loop.untapped.draw command = untappedStep (loop.draw command) := by
  have samePanel : loop.untapped.panel = loop.panel := rfl
  unfold draw
  rw [samePanel]
  cases loop.panel.apply command with
  | ok drawn => rfl
  | error kind => rfl

theorem untapped_dispatch (loop : ReadLoop (Tapped L)) (outcome : Frame.Outcome) :
    loop.untapped.dispatch outcome = untappedStep (loop.dispatch outcome) := by
  cases outcome with
  | error rejection => rfl
  | ok command =>
    simp only [dispatch, untapped_draw]
    split <;> rfl

theorem untapped_dispatchAll (loop : ReadLoop (Tapped L)) (outcomes : List Frame.Outcome) :
    loop.untapped.dispatchAll outcomes = untappedStep (loop.dispatchAll outcomes) := by
  induction outcomes generalizing loop with
  | nil => rfl
  | cons outcome rest inductionHypothesis =>
    have first := untapped_dispatch loop outcome
    have more := inductionHypothesis (loop.dispatch outcome).1
    simp only [dispatchAll, first, untappedStep, more]

theorem untapped_decode (loop : ReadLoop (Tapped L)) (bytes : List UInt8) :
    loop.untapped.decode bytes = untappedStep (loop.decode bytes) := by
  have dispatched := untapped_dispatchAll
    { loop with chunks := loop.chunks + 1, decoder := (loop.decoder.feed bytes).1 }
    (loop.decoder.feed bytes).2
  simp only [untapped, untappedStep] at dispatched
  simp only [decode, untapped, untappedStep, dispatched]

variable [Link L]

theorem untapped_acknowledge (loop : ReadLoop (Tapped L)) :
    loop.untapped.acknowledge = untappedStep loop.acknowledge := by
  cases answer : (Link.write loop.link.link [loop.ackByte]).answer with
  | ok written =>
    have tapped : (Link.write loop.link [loop.ackByte]).answer = .ok written := answer
    have behind : (Link.write loop.untapped.link [loop.untapped.ackByte]).answer =
        .ok written := answer
    rw [acknowledge_of_ok tapped, acknowledge_of_ok behind]
    rfl
  | error fault =>
    have tapped : (Link.write loop.link [loop.ackByte]).answer = .error fault := answer
    have behind : (Link.write loop.untapped.link [loop.untapped.ackByte]).answer =
        .error fault := answer
    rw [acknowledge_of_error tapped, acknowledge_of_error behind]
    rfl

theorem untapped_receive (loop : ReadLoop (Tapped L)) (reading : Reading) :
    loop.untapped.receive reading = untappedStep (loop.receive reading) := by
  cases reading with
  | waiting => rfl
  | finished => rfl
  | failed fault => rfl
  | chunk bytes =>
    have decoded := untapped_decode loop bytes
    have acknowledged := untapped_acknowledge (loop.decode bytes).1
    simp only [receive, decoded, untappedStep, acknowledged]

theorem untapped_attend (loop : ReadLoop (Tapped L)) (turn : Turn) :
    loop.untapped.attend turn = untappedStep (loop.attend turn) := by
  have sameEnding : loop.untapped.ending? = loop.ending? := rfl
  unfold attend
  rw [sameEnding]
  split
  · rfl
  · cases turn with
    | cancellation => rfl
    | resetRequest => rfl
    | reading reading => exact untapped_receive loop reading

/-- The choice of a turn does not depend on the tap. -/
theorem untapped_choose (loop : ReadLoop (Tapped L)) (requests : Requests) (now : Nat) :
    loop.untapped.choose requests now =
      ((loop.choose requests now).1.untapped, (loop.choose requests now).2) := by
  unfold choose
  split
  · rfl
  · split <;> rfl

end ReadLoop

namespace Course

variable {L : Type}

/-- The course over the link behind the tap. -/
def untapped (course : Course (Tapped L)) : Course L :=
  ⟨course.loop.untapped, course.requests, course.turns, course.effects⟩

variable [Link L]

theorem untapped_proceed (course : Course (Tapped L)) (occasion : Occasion L) :
    (course.proceed occasion.tapped).untapped = course.untapped.proceed occasion := by
  cases ended : course.loop.ending? with
  | some ending =>
    have tapped : course.loop.ending?.isSome = true := by rw [ended]; rfl
    have behind : course.untapped.loop.ending?.isSome = true := tapped
    rw [proceed_of_ended course _ tapped, proceed_of_ended course.untapped _ behind]
  | none =>
    obtain ⟨⟨chosen, requests, turn, noted⟩, choice⟩ : ∃ result,
      ReadLoop.choose { course.loop with link := occasion.tapped.link course.loop.link }
        (asked course.requests occasion.tapped) occasion.now = result := ⟨_, rfl⟩
    have behind := ReadLoop.untapped_choose
      { course.loop with link := occasion.tapped.link course.loop.link }
      (asked course.requests occasion.tapped) occasion.now
    rw [choice] at behind
    rw [proceed_of_choice course ended choice, proceed_of_choice course.untapped ended behind,
      ReadLoop.untapped_attend]
    rfl

/-- Tapping a link changes nothing in the course of a loop over it. -/
theorem untapped_follow (link : L) (settings : Settings) (occasions : List (Occasion L)) :
    ((start (Tapped.mk link []) settings).follow (occasions.map Occasion.tapped)).untapped =
      (start link settings).follow occasions := by
  have step (course : Course (Tapped L)) :
      (course.follow (occasions.map Occasion.tapped)).untapped =
        course.untapped.follow occasions := by
    induction occasions generalizing course with
    | nil => rfl
    | cons occasion rest inductionHypothesis =>
      rw [List.map_cons, follow_cons, follow_cons, inductionHypothesis, untapped_proceed]
  exact step _

end Course

end PanelLink
