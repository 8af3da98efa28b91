/-
This file lists the pictures of a session. Viewers see one picture for each change of the
panel, right before subscribers are told of the change, and it is the picture that the
event carries. So the pictures of a session are those of a panel that retraces its events,
and the last of them is the final state of the panel. Once the session has ended, nothing
comes after that.
-/

import PanelLink.Proofs.Conduct

namespace PanelLink

/-! ### Pictures of a panel -/

namespace Panel

/-- What a panel looks like after each of the events that changed it. -/
def picturesAfter (panel : Panel) : List Event → List Snapshot
  | [] => []
  | event :: rest =>
    (event.snapshot?.map fun _ => (panel.retrace event).snapshot).toList ++
      (panel.retrace event).picturesAfter rest

/-- Events without a picture leave the panel alone. -/
theorem retrace_of_bare (panel : Panel) {event : Event} (bare : event.snapshot? = none) :
    panel.retrace event = panel := by
  cases event with
  | drawn command snapshot => cases bare
  | reset snapshot => cases bare
  | message _ | unsupported _ | rejected _ => rfl

/-- The last picture is that of the panel in the end. -/
theorem getLast?_picturesAfter (panel : Panel) (events : List Event) :
    (panel.snapshot :: panel.picturesAfter events).getLast? =
      some (panel.retraceAll events).snapshot := by
  induction events generalizing panel with
  | nil => rfl
  | cons event rest inductionHypothesis =>
    have tail := inductionHypothesis (panel.retrace event)
    rw [picturesAfter]
    cases carried : event.snapshot? with
    | none =>
      rw [retrace_of_bare panel carried] at tail ⊢
      show _ = some (Panel.retraceAll (panel.retrace event) rest).snapshot
      rw [retrace_of_bare panel carried]
      exact tail
    | some snapshot => exact tail

end Panel

/-! ### Pictures in effects -/

namespace Effect

/-- The picture that viewers see in an effect. -/
def picture? : Effect → Option Snapshot
  | .display snapshot => some snapshot
  | .note _ | .publish _ | .send _ | .release | .conclude _ => none

/-- The pictures that viewers see in effects, in order. -/
def pictures (effects : List Effect) : List Snapshot :=
  effects.filterMap picture?

/-- Viewers see what the events carry. -/
def Paired (effects : List Effect) : Prop :=
  pictures effects = (events effects).filterMap Event.snapshot?

theorem pictures_append (front back : List Effect) :
    pictures (front ++ back) = pictures front ++ pictures back :=
  List.filterMap_append

theorem pictures_singleton (effect : Effect) : pictures [effect] = effect.picture?.toList := by
  cases effect <;> rfl

theorem Paired.append {front back : List Effect} (first : Paired front) (second : Paired back) :
    Paired (front ++ back) := by
  rw [Paired, pictures_append, events_append, List.filterMap_append, first, second]

theorem paired_of_silent {effects : List Effect}
    (silent : ∀ effect ∈ effects, effect.isSilent = true) : Paired effects := by
  rw [Paired, events_of_silent silent]
  refine List.filterMap_eq_nil_iff.mpr fun effect member => ?_
  have quiet := silent effect member
  cases effect with
  | display snapshot => cases quiet
  | _ => rfl

/-- What truthful events carry is what the panel that retraces them looks like. -/
theorem carried_of_truthful {panel : Panel} {snapshot : Snapshot} {effects : List Effect}
    (truthful : Truthful panel snapshot effects) :
    (events effects).filterMap Event.snapshot? = panel.picturesAfter (events effects) := by
  induction effects generalizing panel snapshot with
  | nil => rfl
  | cons effect rest inductionHypothesis =>
    cases effect with
    | publish event =>
      obtain ⟨-, carries, tail⟩ := truthful
      show (event :: events rest).filterMap _ = panel.picturesAfter (event :: events rest)
      rw [Panel.picturesAfter, ← inductionHypothesis tail, List.filterMap_cons]
      cases carried : event.snapshot? with
      | none => rfl
      | some picture => rw [carries picture carried]; rfl
    | display _ | note _ | send _ | release | conclude _ => exact inductionHypothesis truthful

/-- Nothing comes after the end of the session. -/
def EndsLast (effects : List Effect) : Prop :=
  ∀ front ending back, effects = front ++ .conclude ending :: back → back = []

end Effect

theorem ClosesOnce.endsLast {calls : List Call} {effects : List Effect} {ending? : Option Ending}
    (closes : ClosesOnce calls effects ending?) :
    Effect.EndsLast effects ∧ ((∃ ending, .conclude ending ∈ effects) ↔ ending?.isSome = true) := by
  cases ending? with
  | none =>
    have going (ending : Ending) : .conclude ending ∉ effects := fun member =>
      Bool.false_ne_true (closes.2 _ member).symm
    refine ⟨fun front ending back parted => ?_,
      iff_of_false (fun ⟨ending, member⟩ => going ending member) Bool.false_ne_true⟩
    exact absurd (parted ▸ List.mem_append_right _ List.mem_cons_self) (going ending)
  | some last =>
    obtain ⟨-, before, entries, known, going⟩ := closes
    refine ⟨fun front ending back parted => ?_, iff_of_true ⟨last, by simp [known]⟩ rfl⟩
    -- If something came after it, this end would stand before the last effect, where no end is.
    rcases List.eq_nil_or_concat back with none | ⟨middle, final, rfl⟩
    · exact none
    · rw [known, ← List.cons_append, ← List.append_assoc, List.concat_eq_append,
        ← List.cons_append, ← List.append_assoc] at parted
      have earlier := (List.append_inj' parted rfl).1
      have member : .conclude ending ∈ before ++ .release :: Effect.notes entries :=
        earlier ▸ List.mem_append_right _ List.mem_cons_self
      rcases List.mem_append.mp member with front | later
      · exact absurd (going _ front) (by simp [Effect.isFinal])
      · rcases List.mem_cons.mp later with same | note
        · cases same
        · exact absurd (Effect.inner_notes entries _ note).2 (by simp [Effect.isFinal])

/-! ### Pictures of a read loop -/

namespace ReadLoop

variable {L : Type}

/-- A change of the panel is shown once, and the report of it carries the same picture. -/
theorem paired_redraw {panel : Panel} {loop : ReadLoop L} (inStep : InStep panel loop)
    (entries : List Journal.Entry) (change : Change) (event : Snapshot → Event)
    (carried : ∀ snapshot, (event snapshot).snapshot? = some snapshot) :
    let performed := loop.panel.perform change
    let redrawn := loop.redraw performed.1 performed.2
    Effect.Paired (Effect.notes entries ++ redrawn.2 ++ [.publish (event redrawn.1.shown)]) := by
  intro performed redrawn
  rw [List.append_assoc]
  refine (Effect.paired_of_silent (Effect.silent_notes entries)).append ?_
  simp only [redrawn, performed, inStep.panels, Panel.perform_listen]
  show [(panel.perform change).1.snapshot] =
    [event (panel.perform change).1.snapshot].filterMap Event.snapshot?
  rw [List.filterMap_cons, carried]
  rfl

theorem paired_publish (entries : List Journal.Entry) {event : Event}
    (bare : event.snapshot? = none) :
    Effect.Paired (Effect.notes entries ++ [.publish event]) := by
  refine (Effect.paired_of_silent (Effect.silent_notes entries)).append ?_
  show [] = [event].filterMap Event.snapshot?
  rw [List.filterMap_cons, bare]
  rfl

theorem paired_draw {panel : Panel} {loop : ReadLoop L} (inStep : InStep panel loop)
    (command : Command) : Effect.Paired (loop.draw command).2 := by
  unfold draw
  cases asked : loop.panel.changeFor? command.payload with
  | some change =>
    rw [Panel.apply_of_change asked]
    exact paired_redraw inStep _ change (.drawn command) fun _ => rfl
  | none =>
    rw [Panel.apply_of_no_change asked]
    exact paired_publish _ rfl

theorem paired_dispatch {panel : Panel} {loop : ReadLoop L} (inStep : InStep panel loop)
    (outcome : Frame.Outcome) : Effect.Paired (loop.dispatch outcome).2 := by
  cases outcome with
  | error rejection => exact paired_publish [⟨.warn, rejection.message⟩] rfl
  | ok command =>
    rw [dispatch_ok]
    split
    · exact paired_draw inStep command
    · exact paired_publish [messageEntry command] rfl

theorem paired_dispatchAll {panel : Panel} {loop : ReadLoop L} (inStep : InStep panel loop)
    (outcomes : List Frame.Outcome) : Effect.Paired (loop.dispatchAll outcomes).2 := by
  induction outcomes generalizing panel loop with
  | nil => rfl
  | cons outcome rest inductionHypothesis =>
    obtain ⟨event, told, -⟩ := tells_dispatch inStep outcome
    exact (paired_dispatch inStep outcome).append (inductionHypothesis told.inStep)

theorem paired_decode {panel : Panel} {loop : ReadLoop L} (inStep : InStep panel loop)
    (bytes : List UInt8) : Effect.Paired (loop.decode bytes).2 := by
  have fed : InStep panel
      { loop with chunks := loop.chunks + 1, decoder := (loop.decoder.feed bytes).1 } :=
    ⟨inStep.panels, inStep.pictures⟩
  exact (Effect.paired_of_silent (Effect.silent_notes _)).append (paired_dispatchAll fed _)

theorem Quiet.paired {loop : ReadLoop L} {result : ReadLoop L × List Effect}
    (quiet : Quiet loop result) : Effect.Paired result.2 :=
  Effect.paired_of_silent quiet.silent

variable [Link L]

/-- In every turn viewers see what the events of the turn carry. -/
theorem paired_attend {panel : Panel} {loop : ReadLoop L} (inStep : InStep panel loop)
    (turn : Turn) : Effect.Paired (loop.attend turn).2 := by
  unfold attend
  split
  · rfl
  · cases turn with
    | cancellation => exact ((quiet_finish loop .disconnected).note _).paired
    | resetRequest => exact paired_redraw inStep _ .reset .reset fun _ => rfl
    | reading reading =>
      cases reading with
      | waiting => rfl
      | chunk bytes =>
        exact (paired_decode inStep bytes).append (quiet_acknowledge (loop.decode bytes).1).paired
      | finished => exact ((quiet_finish loop .finished).note _).paired
      | failed fault => exact (quiet_fail loop fault).paired

end ReadLoop

/-! ### Pictures of a course -/

namespace Course

variable {L : Type} [Link L]

theorem paired_proceed {panel : Panel} {loop : ReadLoop L} {course : Course L}
    (recounted : course.Recounted panel loop) (paired : Effect.Paired course.effects)
    (occasion : Occasion L) : Effect.Paired (course.proceed occasion).effects := by
  cases ended : course.loop.ending? with
  | some ending =>
    rw [proceed_of_ended course occasion (by rw [ended]; rfl)]
    exact paired
  | none =>
    obtain ⟨events, recounts⟩ := recounted
    obtain ⟨quiet, -⟩ := ReadLoop.quiet_choose course.loop (occasion.link course.loop.link)
      (asked course.requests occasion) occasion.now
    have chosen := recounts.trans ended (.of_quiet recounts.tells.inStep quiet)
    rw [proceed_of_choice course ended rfl]
    exact (paired.append quiet.paired).append (ReadLoop.paired_attend chosen.tells.inStep _)

theorem paired_follow (link : L) (settings : Settings) (occasions : List (Occasion L)) :
    Effect.Paired ((start link settings).follow occasions).effects := by
  induction occasions using List.reverseRecOn with
  | nil => exact (ReadLoop.quiet_begin (ReadLoop.start link settings)).paired
  | append_singleton before occasion inductionHypothesis =>
    rw [follow_append]
    exact paired_proceed (recounted_follow (recounted_start link settings) before)
      inductionHypothesis occasion

variable (link : L) (settings : Settings) (occasions : List (Occasion L))

/-- Viewers see the pictures of the panel that retraces the events, the last of which is what the
panel looks like in the end. -/
theorem pictures_follow :
    let course := (start link settings).follow occasions
    let fresh := Panel.fresh settings
    Effect.pictures course.effects = fresh.picturesAfter (Effect.events course.effects) ∧
      (fresh.snapshot :: Effect.pictures course.effects).getLast? =
        some course.loop.panel.snapshot := by
  intro course fresh
  obtain ⟨told, recounts⟩ := recounted_follow (recounted_start link settings) occasions
  have carried := Effect.carried_of_truthful recounts.tells.truthful
  have same : Effect.pictures course.effects = fresh.picturesAfter (Effect.events course.effects) :=
    (paired_follow link settings occasions).trans carried
  refine ⟨same, ?_⟩
  have panels : course.loop.panel = (fresh.retraceAll told).listen "viewers" :=
    recounts.tells.inStep.panels
  have events : Effect.events course.effects = told := recounts.tells.events
  rw [same, events, Panel.getLast?_picturesAfter, panels]
  rfl

theorem endsLast_follow :
    let course := (start link settings).follow occasions
    Effect.EndsLast course.effects ∧
      ((∃ ending, .conclude ending ∈ course.effects) ↔ course.loop.ending?.isSome = true) := by
  intro course
  obtain ⟨legs, begun, run, -, -, effects, -⟩ := exists_legs link settings occasions
  have closes := (closesOnce_of_inner (fun _ member => (List.not_mem_nil member).elim)
    (Effect.inner_notes begun)).append run.closesOnce
  rw [← effects] at closes
  exact closes.endsLast

end Course

end PanelLink
