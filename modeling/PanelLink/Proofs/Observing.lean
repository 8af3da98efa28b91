/-
This file places observed sessions among the audiences. Whatever is done with an observed
session, its subscribers get what those of an audience get that meets the same in smaller
steps: the effects of the read loop come one at a time, and whoever takes all there is asks
one time after the other. So they hear what is published from the moment on at which they
subscribe, and miss nothing that they ask for in time.
-/

import PanelLink.Proofs.Audience
import PanelLink.Proofs.Supply

namespace PanelLink

/-! ### Sessions that tell the same -/

namespace Session

variable {L : Type}

/-- Two sessions tell their subscribers the same. -/
structure Alike (first second : Session L) : Prop where
  events : first.events = second.events
  subscribed : first.subscribed = second.subscribed

theorem Alike.trans {first second third : Session L} (before : first.Alike second)
    (after : second.Alike third) : first.Alike third :=
  ⟨before.events.trans after.events, before.subscribed.trans after.subscribed⟩

theorem Alike.absorb {first second : Session L} (alike : first.Alike second) (effect : Effect) :
    (first.absorb effect).Alike (second.absorb effect) := by
  obtain ⟨events, subscribed⟩ := alike
  cases effect with
  | publish event => exact ⟨congrArg (Broadcast.publish · event) events, subscribed⟩
  | conclude ending =>
    exact ⟨congrArg (fun channel : Broadcast Event => { channel with closed := true }) events,
      subscribed⟩
  | note _ | display _ | send _ | release => exact ⟨events, subscribed⟩

theorem Alike.absorbAll {first second : Session L} (alike : first.Alike second)
    (effects : List Effect) :
    (effects.foldl Session.absorb first).Alike (effects.foldl Session.absorb second) := by
  induction effects generalizing first second with
  | nil => exact alike
  | cons effect rest inductionHypothesis => exact inductionHypothesis (alike.absorb effect)

theorem Alike.subscribe {first second : Session L} (alike : first.Alike second) :
    first.subscribe.1.Alike second.subscribe.1 ∧ first.subscribe.2 = second.subscribe.2 := by
  refine ⟨⟨?_, ?_⟩, ?_⟩
  · rw [events_subscribe, events_subscribe, alike.events]
  · rw [subscribed_subscribe, subscribed_subscribe]
  · rw [Session.subscribe, Session.subscribe, alike.subscribed, alike.events]
    split <;> rfl

variable [Link L]

theorem alike_settle (session : Session L) (now : Nat) :
    ∃ effects : List Effect, (effects.foldl absorb session).Alike (session.settle now).1 := by
  refine ⟨(session.loop.settle session.requests now).2.2, ?_⟩
  rw [settle_fst]
  exact ⟨rfl, rfl⟩

theorem alike_runOut (fuel : Nat) (session : Session L) (now : Nat) :
    ∃ effects : List Effect,
      (effects.foldl absorb session).Alike (runOut fuel session now).2.1 := by
  induction fuel generalizing session now with
  | zero => exact ⟨[], rfl, rfl⟩
  | succ fuel inductionHypothesis =>
    obtain ⟨effects, settled⟩ := alike_settle session now
    simp only [runOut]
    split
    · rename_i moment going wakes
      obtain ⟨more, ended⟩ := inductionHypothesis (session.settle now).1 (max now moment)
      refine ⟨effects ++ more, ?_⟩
      rw [List.foldl_append]
      exact (settled.absorbAll more).trans ended
    · exact ⟨effects, settled⟩

end Session

/-! ### What a whole audience takes -/

namespace Subscription

/-- A subscription that takes all there is. -/
def takeAll (channel : Broadcast Event) (subscription : Subscription) : Subscription :=
  let (position, answers) := channel.receiveAll subscription.position
  ⟨position, subscription.answers ++ answers⟩

end Subscription

namespace Audience

variable {L : Type}

theorem meetAll_effects (audience : Audience L) (effects : List Effect) :
    audience.meetAll (effects.map .effect) =
      { audience with session := effects.foldl Session.absorb audience.session } := by
  induction effects generalizing audience with
  | nil => rfl
  | cons effect rest inductionHypothesis => exact inductionHypothesis _

theorem meetAll_asks (audience : Audience L) (subscriber count : Nat) :
    audience.meetAll (List.replicate count (.ask subscriber)) =
      { audience with subscriptions := audience.subscriptions.modify subscriber fun subscription =>
          (fun asking => asking.ask audience.session.events)^[count] subscription } := by
  induction count generalizing audience with
  | zero => exact congrArg (mk audience.session) (List.modify_id subscriber _).symm
  | succ count inductionHypothesis =>
    show (audience.meet (.ask subscriber)).meetAll _ = _
    rw [inductionHypothesis, meet, List.modify_modify_eq]
    rfl

/-- The subscribers take all there is, one after the other. -/
theorem exists_takeAll (session : Session L) (served waiting : List Subscription) :
    ∃ incidents, meetAll ⟨session, served ++ waiting⟩ incidents =
      ⟨session, served ++ waiting.map (Subscription.takeAll session.events)⟩ := by
  induction waiting generalizing served with
  | nil => exact ⟨[], rfl⟩
  | cons subscription rest inductionHypothesis =>
    let taken := subscription.takeAll session.events
    obtain ⟨incidents, others⟩ := inductionHypothesis (served ++ [taken])
    let count := (session.events.receiveAll subscription.position).2.length
    have asked : meetAll ⟨session, served ++ subscription :: rest⟩
        (List.replicate count (.ask served.length)) = ⟨session, served ++ taken :: rest⟩ := by
      have own : (fun asking => asking.ask session.events)^[count] subscription = taken :=
        subscription.receiveUpTo_eq_asks session.events _
      rw [meetAll_asks, List.modify_eq_take_cons_drop (by simp)]
      simp [own]
    refine ⟨List.replicate count (.ask served.length) ++ incidents, ?_⟩
    rw [meetAll_append, asked]
    simpa using others

end Audience

/-! ### Observed sessions -/

namespace Observed

variable {L : Type} [Link L]

/-- What is done with an observed session. -/
inductive Step where
  | move (move : Move)
  | settle
  | takeEvents
  deriving DecidableEq, Repr

/-- An observed session and the events that each subscriber took up to now. -/
structure Record (L : Type) where
  observed : Observed L
  told : Nat → List Event := fun _ => []

def Record.step (record : Record L) : Step → Record L
  | .move move => { record with observed := (record.observed.act move).1 }
  | .settle => { record with observed := record.observed.settle.1 }
  | .takeEvents =>
    let taken := record.observed.takeEvents
    ⟨taken.1, fun subscriber =>
      record.told subscriber ++ (taken.2.1[subscriber]?.map Taken.items).getD []⟩

/-- The record of a session that was attached, after steps in order. -/
def Record.after (link : L) (settings : Settings) (steps : List Step) : Record L :=
  steps.foldl step { observed := { session := (Session.attach link settings).1 } }

theorem Record.after_concat (link : L) (settings : Settings) (steps : List Step) (step : Step) :
    after link settings (steps ++ [step]) = (after link settings steps).step step :=
  List.foldl_append ..

end Observed

open Observed (Record)

namespace Audience

variable {L : Type}

/-- The subscribers of an observed session stand where those of an audience do, and have been told
the same. -/
structure Mirrors (audience : Audience L) (record : Record L) : Prop where
  alike : audience.session.Alike record.observed.session
  positions : audience.subscriptions.map Subscription.position = record.observed.subscribers
  told : ∀ subscriber, record.told subscriber =
    (audience.subscriptions[subscriber]?.map Subscription.heard).getD []

variable {audience : Audience L} {record : Record L}

/-- What leaves the subscribers alone and does to the session what effects do. -/
theorem Mirrors.effects (mirrors : audience.Mirrors record) {observed : Observed L}
    (same : observed.subscribers = record.observed.subscribers)
    (done : ∃ effects : List Effect,
      (effects.foldl Session.absorb record.observed.session).Alike observed.session) :
    ∃ incidents, (audience.meetAll incidents).Mirrors { record with observed } := by
  obtain ⟨effects, after⟩ := done
  refine ⟨effects.map .effect, ?_⟩
  rw [meetAll_effects]
  exact ⟨(mirrors.alike.absorbAll effects).trans after, mirrors.positions.trans same.symm,
    mirrors.told⟩

theorem Mirrors.subscribe (mirrors : audience.Mirrors record) {observed : Observed L}
    (session : observed.session = record.observed.session.subscribe.1)
    (subscribers : observed.subscribers =
      record.observed.subscribers ++ [record.observed.session.subscribe.2]) :
    ∃ incidents, (audience.meetAll incidents).Mirrors { record with observed } := by
  obtain ⟨alike, start⟩ := mirrors.alike.subscribe
  refine ⟨[.subscribe], session ▸ alike, ?_, fun subscriber => ?_⟩
  · show (audience.subscriptions ++ [Subscription.mk audience.session.subscribe.2 []]).map _ = _
    rw [List.map_append, mirrors.positions, subscribers, List.map_singleton, start]
  · show record.told subscriber =
      ((audience.subscriptions ++ [Subscription.mk _ []])[subscriber]?.map _).getD []
    rw [mirrors.told, List.getElem?_append]
    split
    · rfl
    · rename_i beyond
      rw [List.getElem?_eq_none (Nat.not_lt.mp beyond)]
      cases subscriber - audience.subscriptions.length <;> rfl

variable [Link L]

theorem Mirrors.takeEvents (mirrors : audience.Mirrors record) :
    ∃ incidents, (audience.meetAll incidents).Mirrors (record.step .takeEvents) := by
  obtain ⟨incidents, taken⟩ := exists_takeAll audience.session [] audience.subscriptions
  rw [List.nil_append, List.nil_append] at taken
  refine ⟨incidents, ?_⟩
  rw [taken]
  refine ⟨mirrors.alike, ?_, fun subscriber => ?_⟩
  · simp only [Record.step, Observed.takeEvents]
    rw [← mirrors.positions, ← mirrors.alike.events]
    simp [Subscription.takeAll, Function.comp_def]
  · simp only [Record.step, Observed.takeEvents]
    rw [mirrors.told, ← mirrors.positions, ← mirrors.alike.events]
    cases present : audience.subscriptions[subscriber]? with
    | none => simp [present]
    | some subscription => simp [present, Subscription.takeAll, Subscription.heard]

theorem Mirrors.useSession (mirrors : audience.Mirrors record) (move : Move) :
    ∃ incidents, (audience.meetAll incidents).Mirrors
      { record with observed := (record.observed.useSession move).1 } := by
  cases move with
  | subscribe => exact mirrors.subscribe rfl rfl
  | waitForEnd =>
    have ran := Session.alike_runOut (record.observed.session.loop.enough
      record.observed.session.requests) record.observed.session record.observed.now
    exact mirrors.effects rfl ran
  | reset =>
    simp only [Observed.useSession, Session.reset]
    split
    · rename_i asked accepted
      split at accepted
      · cases accepted
      · cases accepted
        exact mirrors.effects rfl ⟨[], rfl, rfl⟩
    · exact ⟨[], mirrors⟩
  | disconnect | view _ | drop | pass _ => exact mirrors.effects rfl ⟨[], rfl, rfl⟩

theorem Mirrors.act (mirrors : audience.Mirrors record) (move : Move) :
    ∃ incidents, (audience.meetAll incidents).Mirrors (record.step (.move move)) := by
  cases move with
  | pass span => exact mirrors.effects rfl ⟨[], rfl, rfl⟩
  | _ =>
    simp only [Record.step, Observed.act]
    split
    · exact mirrors.useSession _
    · exact ⟨[], mirrors⟩

theorem Mirrors.step (mirrors : audience.Mirrors record) (step : Observed.Step) :
    ∃ incidents, (audience.meetAll incidents).Mirrors (record.step step) := by
  cases step with
  | move move => exact mirrors.act move
  | settle => exact mirrors.effects rfl (Session.alike_settle _ _)
  | takeEvents => exact mirrors.takeEvents

/-- Whatever is done with an observed session, its subscribers are told what they hear in an
audience to which the same happens. -/
theorem exists_mirrors (link : L) (settings : Settings) (steps : List Observed.Step) :
    ∃ incidents, (after link settings incidents).Mirrors (Record.after link settings steps) := by
  induction steps using List.reverseRecOn with
  | nil => exact ⟨[], ⟨rfl, rfl⟩, rfl, fun _ => rfl⟩
  | append_singleton steps step inductionHypothesis =>
    obtain ⟨incidents, mirrors⟩ := inductionHypothesis
    obtain ⟨more, next⟩ := mirrors.step step
    refine ⟨incidents ++ more, ?_⟩
    rw [Record.after_concat, after, meetAll_append]
    exact next

/-- Every subscriber has subscribed at some moment. -/
theorem exists_subscribe {incidents : List Incident} {subscriber : Nat}
    (inside : subscriber < incidents.count .subscribe) :
    ∃ before rest, incidents = before ++ .subscribe :: rest ∧
      before.count .subscribe = subscriber := by
  induction incidents generalizing subscriber with
  | nil => cases inside
  | cons incident others inductionHypothesis =>
    by_cases same : incident = .subscribe
    · subst same
      cases subscriber with
      | zero => exact ⟨[], others, rfl, rfl⟩
      | succ subscriber =>
        rw [List.count_cons_self] at inside
        obtain ⟨before, rest, rfl, counted⟩ := inductionHypothesis (Nat.lt_of_succ_lt_succ inside)
        exact ⟨.subscribe :: before, rest, rfl, by rw [List.count_cons_self, counted]⟩
    · rw [List.count_cons_of_ne same] at inside
      obtain ⟨before, rest, rfl, counted⟩ := inductionHypothesis inside
      exact ⟨incident :: before, rest, rfl, by rw [List.count_cons_of_ne same, counted]⟩

/-- Whoever subscribes at some moment of whatever happens hears, in their order and without
repetition, events published from its start on. It loses an event only by being late for it, and
gets every event that it asks for in time. Its stream is over exactly if the session is and it
heard all that is kept. The subscribers of an observed session are among these, whatever is done
with it: each has been told what one of them heard. -/
theorem heard_after (link : L) (settings : Settings) :
    (∀ before rest : List Incident,
      let incidents := before ++ .subscribe :: rest
      let subscriber := before.count .subscribe
      ∃ (subscription : Subscription) (numbers : List Nat),
        (after link settings incidents).Hears settings incidents subscriber (firstOf before)
          (Loses link settings incidents subscriber) subscription numbers) ∧
    ∀ (steps : List Observed.Step) (subscriber : Nat),
      let record := Record.after link settings steps
      subscriber < record.observed.subscribers.length →
        ∃ before rest : List Incident,
          let incidents := before ++ .subscribe :: rest
          before.count .subscribe = subscriber ∧
            (after link settings incidents).Mirrors record ∧
            ∃ (subscription : Subscription) (numbers : List Nat),
              record.told subscriber = subscription.heard ∧
              (after link settings incidents).Hears settings incidents subscriber
                (firstOf before) (Loses link settings incidents subscriber) subscription
                numbers := by
  refine ⟨hears_after link settings, ?_⟩
  intro steps subscriber record inside
  obtain ⟨incidents, mirrors⟩ := exists_mirrors link settings steps
  have counted := (reflects_after link settings incidents).count
  rw [← mirrors.positions, List.length_map, counted] at inside
  obtain ⟨before, rest, rfl, rfl⟩ := exists_subscribe inside
  obtain ⟨subscription, numbers, hears⟩ := hears_after link settings before rest
  refine ⟨before, rest, rfl, mirrors, subscription, numbers, ?_, hears⟩
  rw [mirrors.told, hears.present]
  rfl

end Audience

end PanelLink
