/-
This file compares the panel of a read loop with a panel of its own that knows only
the published events: it applies every command that is reported as drawn, resets when
a reset is reported, and does nothing else. A loop keeps step with that panel. What
viewers see, and the snapshot in every event, is what the retraced panel looks like
right after the event.
-/

import Mathlib.Data.List.Forall2
import PanelLink.Proofs.Course

namespace PanelLink

/-! ### Retracing events -/

/-- The picture an event carries. -/
def Event.snapshot? : Event → Option Snapshot
  | .drawn _ snapshot | .reset snapshot => some snapshot
  | .message _ | .unsupported _ | .rejected _ => none

/-- Whether an event reports a reset. -/
def Event.isReset : Event → Bool
  | .reset _ => true
  | _ => false

namespace Panel

/-- The panel after what an event reports. -/
def retrace (panel : Panel) : Event → Panel
  | .drawn command _ =>
    match panel.apply command with
    | .ok (drawn, _) => drawn
    | .error _ => panel
  | .reset _ => (panel.perform .reset).1
  | .message _ | .unsupported _ | .rejected _ => panel

/-- The panel after what events report, in order. -/
def retraceAll (panel : Panel) (events : List Event) : Panel :=
  events.foldl retrace panel

theorem retraceAll_append (panel : Panel) (front back : List Event) :
    panel.retraceAll (front ++ back) = (panel.retraceAll front).retraceAll back :=
  List.foldl_append

/-- Which change an order asks for depends on the panel, whether it asks for one does not. -/
theorem changeFor?_isSome (first second : Panel) (payload : Payload) :
    (first.changeFor? payload).isSome = (second.changeFor? payload).isSome := by
  cases payload with
  | message content => rfl
  | order content => cases content <;> rfl

theorem changeFor?_listen (panel : Panel) (name : String) (payload : Payload) :
    (panel.listen name).changeFor? payload = panel.changeFor? payload := by
  cases payload with
  | message content => rfl
  | order content => cases content <;> rfl

/-- A listener does not change what is done to a panel, and is told the result. -/
theorem perform_listen (panel : Panel) (name : String) (change : Change) :
    (panel.listen name).perform change =
      ((panel.perform change).1.listen name, [⟨name, (panel.perform change).1.snapshot⟩]) := by
  cases change <;> rfl

theorem apply_of_change {panel : Panel} {command : Command} {change : Change}
    (asked : panel.changeFor? command.payload = some change) :
    panel.apply command = .ok (panel.perform change) := by
  rw [apply, asked]

theorem apply_of_no_change {panel : Panel} {command : Command}
    (asked : panel.changeFor? command.payload = none) :
    panel.apply command = .error command.kind := by
  rw [apply, asked]

/-- An order that one panel draws is drawn by every panel. -/
theorem apply_ok_of_change {panel : Panel} {command : Command} {change : Change}
    (asked : panel.changeFor? command.payload = some change) (other : Panel) :
    ∃ result, other.apply command = .ok result := by
  have drawn := changeFor?_isSome panel other command.payload
  rw [asked, Option.isSome_some] at drawn
  obtain ⟨own, ownAsked⟩ := Option.isSome_iff_exists.mp drawn.symm
  exact ⟨_, apply_of_change ownAsked⟩

/-- An order that one panel refuses is refused by every panel. -/
theorem apply_error_of_no_change {panel : Panel} {command : Command}
    (asked : panel.changeFor? command.payload = none) (other : Panel) :
    other.apply command = .error command.kind := by
  have refused := changeFor?_isSome panel other command.payload
  rw [asked, Option.isSome_none] at refused
  exact apply_of_no_change (Option.not_isSome_iff_eq_none.mp (by simp [← refused]))

end Panel

/-! ### What effects show -/

namespace Effect

/-- The events that effects publish, in order. -/
def events (effects : List Effect) : List Event :=
  effects.filterMap event?

/-- The picture viewers see after effects, if they saw the given one before. -/
def seen (snapshot : Snapshot) (effects : List Effect) : Snapshot :=
  effects.foldl
    (fun seen effect =>
      match effect with
      | .display shown => shown
      | _ => seen) snapshot

/-- Whether an effect neither publishes anything nor shows viewers a picture. -/
def isSilent : Effect → Bool
  | .display _ | .publish _ => false
  | .note _ | .send _ | .release | .conclude _ => true

/-- Every event comes when viewers see the panel that retraces it, and carries nothing but
that. -/
def Truthful (panel : Panel) (snapshot : Snapshot) : List Effect → Prop
  | [] => True
  | .display shown :: rest => Truthful panel shown rest
  | .publish event :: rest =>
    snapshot = (panel.retrace event).snapshot ∧
      (∀ carried, event.snapshot? = some carried → carried = (panel.retrace event).snapshot) ∧
      Truthful (panel.retrace event) snapshot rest
  | .note _ :: rest | .send _ :: rest | .release :: rest | .conclude _ :: rest =>
    Truthful panel snapshot rest

theorem events_append (front back : List Effect) :
    events (front ++ back) = events front ++ events back :=
  List.filterMap_append

theorem seen_append (snapshot : Snapshot) (front back : List Effect) :
    seen snapshot (front ++ back) = seen (seen snapshot front) back :=
  List.foldl_append

theorem truthful_append (panel : Panel) (snapshot : Snapshot) (front back : List Effect) :
    Truthful panel snapshot (front ++ back) ↔
      Truthful panel snapshot front ∧
        Truthful (panel.retraceAll (events front)) (seen snapshot front) back := by
  induction front generalizing panel snapshot with
  | nil => exact ⟨fun truthful => ⟨trivial, truthful⟩, And.right⟩
  | cons effect rest inductionHypothesis =>
    cases effect with
    | publish event =>
      show (_ ∧ _ ∧ Truthful (panel.retrace event) snapshot (rest ++ back)) ↔
        (_ ∧ _ ∧ Truthful (panel.retrace event) snapshot rest) ∧ _
      rw [inductionHypothesis, and_assoc, and_assoc]
      rfl
    | display shown => exact inductionHypothesis panel shown
    | note _ => exact inductionHypothesis panel snapshot
    | send _ => exact inductionHypothesis panel snapshot
    | release => exact inductionHypothesis panel snapshot
    | conclude _ => exact inductionHypothesis panel snapshot

/-- At every event viewers see the panel that retraces the events up to this one, and the event
carries nothing but that. -/
theorem truthful_publish {panel : Panel} {snapshot : Snapshot} {before after : List Effect}
    {event : Event} (truthful : Truthful panel snapshot (before ++ .publish event :: after)) :
    let retraced := panel.retraceAll (events before ++ [event])
    seen snapshot before = retraced.snapshot ∧
      ∀ carried, event.snapshot? = some carried → carried = retraced.snapshot := by
  have told := ((truthful_append _ _ _ _).mp truthful).2
  rw [Panel.retraceAll_append]
  exact ⟨told.1, told.2.1⟩

theorem silent_nil : ∀ effect ∈ ([] : List Effect), effect.isSilent = true :=
  fun _ member => (List.not_mem_nil member).elim

theorem silent_notes (entries : List Journal.Entry) :
    ∀ effect ∈ notes entries, effect.isSilent = true := by
  intro effect member
  obtain ⟨entry, _, rfl⟩ := List.mem_map.mp member
  rfl

theorem events_of_silent {effects : List Effect}
    (silent : ∀ effect ∈ effects, effect.isSilent = true) : events effects = [] := by
  refine List.filterMap_eq_nil_iff.mpr fun effect member => ?_
  have quiet := silent effect member
  cases effect with
  | publish event => cases quiet
  | _ => rfl

theorem seen_of_silent {effects : List Effect}
    (silent : ∀ effect ∈ effects, effect.isSilent = true) (snapshot : Snapshot) :
    seen snapshot effects = snapshot := by
  induction effects with
  | nil => rfl
  | cons effect rest inductionHypothesis =>
    have quiet := silent effect List.mem_cons_self
    have tail := inductionHypothesis fun other member => silent other (List.mem_cons_of_mem _ member)
    cases effect with
    | display shown => cases quiet
    | _ => exact tail

theorem truthful_of_silent {effects : List Effect}
    (silent : ∀ effect ∈ effects, effect.isSilent = true) (panel : Panel) (snapshot : Snapshot) :
    Truthful panel snapshot effects := by
  induction effects with
  | nil => exact trivial
  | cons effect rest inductionHypothesis =>
    have quiet := silent effect List.mem_cons_self
    have tail := inductionHypothesis fun other member => silent other (List.mem_cons_of_mem _ member)
    cases effect with
    | display shown => cases quiet
    | publish event => cases quiet
    | _ => exact tail

end Effect

/-! ### Loops that keep step -/

namespace ReadLoop

variable {L : Type}

/-- A loop keeps step with a panel if it has the same panel, but for the listener, and shows
viewers what it looks like. -/
structure InStep (panel : Panel) (loop : ReadLoop L) : Prop where
  panels : loop.panel = panel.listen "viewers"
  pictures : loop.shown = panel.snapshot

/-- What a loop does tells of certain events: it publishes exactly these, truthfully, and keeps
step with the panel that retraces them. -/
structure Tells (panel : Panel) (loop : ReadLoop L) (result : ReadLoop L × List Effect)
    (events : List Event) : Prop where
  inStep : InStep (panel.retraceAll events) result.1
  events : Effect.events result.2 = events
  seen : Effect.seen loop.shown result.2 = result.1.shown
  truthful : Effect.Truthful panel loop.shown result.2

theorem Tells.trans {panel : Panel} {loop : ReadLoop L} {first second : ReadLoop L × List Effect}
    {events more : List Event} (before : Tells panel loop first events)
    (after : Tells (panel.retraceAll events) first.1 second more) :
    Tells panel loop (second.1, first.2 ++ second.2) (events ++ more) := by
  refine ⟨?_, ?_, ?_, ?_⟩
  · rw [Panel.retraceAll_append]
    exact after.inStep
  · rw [Effect.events_append, before.events, after.events]
  · rw [Effect.seen_append, before.seen, after.seen]
  · refine (Effect.truthful_append _ _ _ _).mpr ⟨before.truthful, ?_⟩
    rw [before.events, before.seen]
    exact after.truthful

/-- Silent effects tell of nothing, as long as panel and picture stay. -/
theorem Tells.of_silent {panel : Panel} {loop next : ReadLoop L} {effects : List Effect}
    (inStep : InStep panel loop) (samePanel : next.panel = loop.panel)
    (sameShown : next.shown = loop.shown)
    (silent : ∀ effect ∈ effects, effect.isSilent = true) :
    Tells panel loop (next, effects) [] := by
  refine ⟨⟨samePanel.trans inStep.panels, sameShown.trans inStep.pictures⟩, ?_, ?_, ?_⟩
  · exact Effect.events_of_silent silent
  · rw [Effect.seen_of_silent silent, sameShown]
  · exact Effect.truthful_of_silent silent panel loop.shown

/-! ### Reports -/

/-- The event that reports the outcome of a frame. -/
inductive Reports : Frame.Outcome → Event → Prop where
  | rejected (rejection : Frame.Rejection) : Reports (.error rejection) (.rejected rejection)
  | message (command : Command) (plain : command.payload.isOrder = false) :
    Reports (.ok command) (.message command)
  | drawn (command : Command) (snapshot : Snapshot) (order : command.payload.isOrder = true)
    (applies : ∀ panel : Panel, ∃ result, panel.apply command = .ok result) :
    Reports (.ok command) (.drawn command snapshot)
  | unsupported (command : Command) (order : command.payload.isOrder = true)
    (refuses : ∀ panel : Panel, panel.apply command = .error command.kind) :
    Reports (.ok command) (.unsupported command)

/-- Taking over a changed panel, showing it to viewers and reporting it tells of that report. -/
theorem tells_redraw {panel : Panel} {loop : ReadLoop L} (inStep : InStep panel loop)
    (entries : List Journal.Entry) (change : Change) (event : Event)
    (retraced : panel.retrace event = (panel.perform change).1)
    (carried : event.snapshot? = some (panel.perform change).1.snapshot) :
    let performed := loop.panel.perform change
    let redrawn := loop.redraw performed.1 performed.2
    Tells panel loop
      (redrawn.1, Effect.notes entries ++ redrawn.2 ++ [.publish event]) [event] := by
  have quiet := Effect.silent_notes entries
  simp only [inStep.panels, Panel.perform_listen]
  refine ⟨?_, ?_, ?_, ?_⟩
  · show InStep (panel.retrace event) _
    rw [retraced]
    exact ⟨rfl, rfl⟩
  · rw [List.append_assoc, Effect.events_append, Effect.events_of_silent quiet]
    rfl
  · rw [List.append_assoc, Effect.seen_append, Effect.seen_of_silent quiet]
    rfl
  · rw [List.append_assoc, Effect.truthful_append, Effect.events_of_silent quiet]
    refine ⟨Effect.truthful_of_silent quiet panel loop.shown, ?_⟩
    refine ⟨congrArg Panel.snapshot retraced.symm, fun picture same => ?_, trivial⟩
    rw [carried] at same
    exact (Option.some_inj.mp same).symm.trans (congrArg Panel.snapshot retraced.symm)

/-- An event without a picture, about something that the panel does not draw, tells of itself. -/
theorem tells_publish {panel : Panel} {loop : ReadLoop L} (inStep : InStep panel loop)
    (entries : List Journal.Entry) (event : Event) (bare : event.snapshot? = none)
    (unmoved : panel.retrace event = panel) :
    Tells panel loop (loop, Effect.notes entries ++ [.publish event]) [event] := by
  have quiet := Effect.silent_notes entries
  refine ⟨?_, ?_, ?_, ?_⟩
  · show InStep (panel.retrace event) loop
    rw [unmoved]
    exact inStep
  · rw [Effect.events_append, Effect.events_of_silent quiet]
    rfl
  · rw [Effect.seen_append, Effect.seen_of_silent quiet]
    rfl
  · rw [Effect.truthful_append, Effect.events_of_silent quiet, Effect.seen_of_silent quiet]
    refine ⟨Effect.truthful_of_silent quiet panel loop.shown, ?_⟩
    refine ⟨inStep.pictures.trans (congrArg Panel.snapshot unmoved.symm), fun picture same => ?_,
      trivial⟩
    rw [bare] at same
    cases same

/-- Drawing an order tells of one event that reports it. -/
theorem tells_draw {panel : Panel} {loop : ReadLoop L} (inStep : InStep panel loop)
    (command : Command) (order : command.payload.isOrder = true) :
    ∃ event, Tells panel loop (loop.draw command) [event] ∧ Reports (.ok command) event := by
  have same : loop.panel.changeFor? command.payload = panel.changeFor? command.payload := by
    rw [inStep.panels, Panel.changeFor?_listen]
  cases asked : panel.changeFor? command.payload with
  | some change =>
    rw [asked] at same
    refine ⟨.drawn command (panel.perform change).1.snapshot, ?_,
      .drawn command _ order (Panel.apply_ok_of_change asked)⟩
    have retraced : panel.retrace (.drawn command (panel.perform change).1.snapshot) =
        (panel.perform change).1 := by
      rw [Panel.retrace, Panel.apply_of_change asked]
    have told := tells_redraw inStep (loop.panel.applyEntries command) change _ retraced rfl
    have shown : (loop.redraw (loop.panel.perform change).1 (loop.panel.perform change).2).1.shown =
        (panel.perform change).1.snapshot := by
      rw [inStep.panels, Panel.perform_listen]
      rfl
    unfold draw
    rw [Panel.apply_of_change same]
    simp only [shown]
    exact told
  | none =>
    rw [asked] at same
    refine ⟨.unsupported command, ?_,
      .unsupported command order (Panel.apply_error_of_no_change asked)⟩
    unfold draw
    rw [Panel.apply_of_no_change same]
    exact tells_publish inStep _ _ rfl rfl

theorem dispatch_ok (loop : ReadLoop L) (command : Command) :
    loop.dispatch (.ok command) =
      if command.payload.isOrder then loop.draw command
      else (loop, [.note (messageEntry command), .publish (.message command)]) := rfl

/-- Dispatching an outcome tells of one event that reports it. -/
theorem tells_dispatch {panel : Panel} {loop : ReadLoop L} (inStep : InStep panel loop)
    (outcome : Frame.Outcome) :
    ∃ event, Tells panel loop (loop.dispatch outcome) [event] ∧ Reports outcome event := by
  cases outcome with
  | error rejection =>
    exact ⟨.rejected rejection, tells_publish inStep [⟨.warn, rejection.message⟩] _ rfl rfl,
      .rejected rejection⟩
  | ok command =>
    rw [dispatch_ok]
    cases order : command.payload.isOrder with
    | true => exact tells_draw inStep command order
    | false =>
      exact ⟨.message command, tells_publish inStep [messageEntry command] _ rfl rfl,
        .message command order⟩

/-- Dispatching outcomes tells of exactly one event for each, in order. -/
theorem tells_dispatchAll {panel : Panel} {loop : ReadLoop L} (inStep : InStep panel loop)
    (outcomes : List Frame.Outcome) :
    ∃ events, Tells panel loop (loop.dispatchAll outcomes) events ∧
      List.Forall₂ Reports outcomes events := by
  induction outcomes generalizing panel loop with
  | nil => exact ⟨[], ⟨inStep, rfl, rfl, trivial⟩, .nil⟩
  | cons outcome rest inductionHypothesis =>
    obtain ⟨event, told, reports⟩ := tells_dispatch inStep outcome
    obtain ⟨events, more, others⟩ := inductionHypothesis told.inStep
    exact ⟨event :: events, told.trans more, .cons reports others⟩

end ReadLoop

end PanelLink
