/-
This file lets a session and its audience meet whatever can happen between them, one
incident after the other and in every order: the read loop does something to the outside,
somebody subscribes to the events, or a subscriber asks for its next event.

A subscriber gets published events only, in their order and each of them at most once. The
first one counts from the start of the session, a later one from the moment it subscribes.
It goes without an event only if, before it asked for that event, as many newer ones had
been published as the settings say; an event that it asks for in time it gets. Its stream is
over once the session has ended and it has everything that is kept for it, and not before.
-/

import Mathlib.Data.List.Induction
import Mathlib.Logic.Function.Iterate
import PanelLink.Proofs.Rounding
import PanelLink.Session.Observed

namespace PanelLink

/-! ### Incidents -/

/-- What can happen between a session and its audience. -/
inductive Incident where
  | effect (effect : Effect)
  | subscribe
  /-- A subscriber asks for its next event. -/
  | ask (subscriber : Nat)
  deriving DecidableEq, Repr

namespace Incident

def event? : Incident → Option Event
  | effect done => done.event?
  | subscribe | ask _ => none

/-- The events published in the course of incidents. -/
def published (incidents : List Incident) : List Event :=
  incidents.filterMap event?

/-- The read loop has ended, and publishes no more. -/
def Concluded (incidents : List Incident) : Prop :=
  ∃ ending, effect (.conclude ending) ∈ incidents

end Incident

/-- A subscriber: the number of the event it asks for next, and the answers it got. -/
structure Subscription where
  position : Nat
  answers : List (Received Event) := []
  deriving DecidableEq, Repr

namespace Subscription

def ask (subscription : Subscription) (channel : Broadcast Event) : Subscription :=
  let (position, answer) := channel.receive subscription.position
  ⟨position, subscription.answers ++ [answer]⟩

/-- The events among the answers. -/
def heard (subscription : Subscription) : List Event :=
  subscription.answers.filterMap Observed.item?

end Subscription

/-- A session and everybody who subscribed to its events, in the order of subscribing. -/
structure Audience (L : Type) where
  session : Session L
  subscriptions : List Subscription := []

namespace Audience

variable {L : Type} [Link L]

def meet (audience : Audience L) : Incident → Audience L
  | .effect effect => { audience with session := audience.session.absorb effect }
  | .subscribe =>
    let (session, position) := audience.session.subscribe
    ⟨session, audience.subscriptions ++ [{ position }]⟩
  | .ask subscriber =>
    { audience with subscriptions := audience.subscriptions.modify subscriber fun subscription =>
        subscription.ask audience.session.events }

/-- An audience after incidents in order. -/
def meetAll (audience : Audience L) (incidents : List Incident) : Audience L :=
  incidents.foldl meet audience

/-- The audience of a session that was attached, after incidents in order. -/
def after (link : L) (settings : Settings) (incidents : List Incident) : Audience L :=
  meetAll { session := (Session.attach link settings).1 } incidents

omit [Link L] in
theorem meetAll_append (audience : Audience L) (front back : List Incident) :
    audience.meetAll (front ++ back) = (audience.meetAll front).meetAll back :=
  List.foldl_append ..

theorem after_concat (link : L) (settings : Settings) (incidents : List Incident)
    (incident : Incident) :
    after link settings (incidents ++ [incident]) =
      (after link settings incidents).meet incident :=
  meetAll_append ..

end Audience

/-! ### The channel -/

namespace Broadcast

variable {Item : Type}

/-- A channel keeps the newest of the items published. -/
structure Carries (channel : Broadcast Item) (items : List Item) : Prop where
  published : channel.published = items.length
  kept : channel.kept = items.drop (items.length - channel.capacity)

theorem carries_ofCapacity (capacity : Nat) : (ofCapacity capacity).Carries ([] : List Item) :=
  ⟨rfl, List.drop_nil.symm⟩

theorem Carries.publish {channel : Broadcast Item} {items : List Item}
    (carries : channel.Carries items) (item : Item) :
    (channel.publish item).Carries (items ++ [item]) where
  published := by
    rw [List.length_append, ← carries.published]
    rfl
  kept := by
    have short : items.length - channel.capacity ≤ items.length := Nat.sub_le ..
    simp only [Broadcast.publish, carries.kept]
    rw [← List.drop_append_of_le_length short, List.drop_drop, List.length_drop,
      List.length_append, List.length_singleton]
    congr 1
    omega

theorem Carries.oldest {channel : Broadcast Item} {items : List Item}
    (carries : channel.Carries items) : channel.oldest = items.length - channel.capacity := by
  rw [Broadcast.oldest, carries.published, carries.kept, List.length_drop]
  omega

/-- Who is behind is told by how much. -/
theorem receive_of_late (channel : Broadcast Item) {position : Nat}
    (behind : position < channel.oldest) :
    channel.receive position = (channel.oldest, .skipped (channel.oldest - position)) := by
  rw [receive, if_pos behind]

theorem Carries.getElem?_kept {channel : Broadcast Item} {items : List Item}
    (carries : channel.Carries items) {position : Nat} (kept : channel.oldest ≤ position) :
    channel.kept[position - channel.oldest]? = items[position]? := by
  rw [carries.kept, ← carries.oldest, List.getElem?_drop, Nat.add_sub_cancel' kept]

/-- Who is in time gets the next item. -/
theorem Carries.receive_of_kept {channel : Broadcast Item} {items : List Item}
    (carries : channel.Carries items) {position : Nat} (kept : channel.oldest ≤ position)
    {item : Item} (found : items[position]? = some item) :
    channel.receive position = (position + 1, .item item) := by
  rw [receive, if_neg (Nat.not_lt.mpr kept), carries.getElem?_kept kept, found]

/-- Who has everything already waits. -/
theorem Carries.receive_of_all {channel : Broadcast Item} {items : List Item}
    (carries : channel.Carries items) {position : Nat} (all : position = items.length) :
    channel.receive position = (position, if channel.closed then .finished else .pending) := by
  have kept : channel.oldest ≤ position := by
    rw [carries.oldest, all]
    exact Nat.sub_le ..
  rw [receive, if_neg (Nat.not_lt.mpr kept), carries.getElem?_kept kept,
    List.getElem?_eq_none (Nat.le_of_eq all.symm)]

theorem Carries.receive_cases {channel : Broadcast Item} {items : List Item}
    (carries : channel.Carries items) {position : Nat} (reached : position ≤ items.length) :
    (position < channel.oldest ∧ channel.receive position =
      (channel.oldest, .skipped (channel.oldest - position))) ∨
    (channel.oldest ≤ position ∧ ∃ item, items[position]? = some item ∧
      channel.receive position = (position + 1, .item item)) ∨
    (position = items.length ∧ channel.receive position =
      (position, if channel.closed then .finished else .pending)) := by
  by_cases behind : position < channel.oldest
  · exact .inl ⟨behind, channel.receive_of_late behind⟩
  · have kept := Nat.not_lt.mp behind
    cases found : items[position]? with
    | some item => exact .inr (.inl ⟨kept, item, rfl, carries.receive_of_kept kept found⟩)
    | none =>
      have all := Nat.le_antisymm reached (List.getElem?_eq_none_iff.mp found)
      exact .inr (.inr ⟨all, carries.receive_of_all all⟩)

end Broadcast

/-- The number of events that a session keeps at least for its subscribers. -/
def Settings.eventsKept (settings : Settings) : Nat :=
  (Broadcast.ofCapacity settings.eventCapacity : Broadcast Event).capacity

theorem Settings.eventCapacity_le (settings : Settings) :
    settings.eventCapacity ≤ settings.eventsKept ∧ 0 < settings.eventsKept := by
  have bound := Rounding.le_two_pow_ceilingLog (max settings.eventCapacity 1)
  exact ⟨Nat.le_trans (Nat.le_max_left ..) bound, Nat.lt_of_lt_of_le (Nat.le_max_right ..) bound⟩

/-! ### The session -/

namespace Incident

theorem published_concat (incidents : List Incident) (incident : Incident) :
    published (incidents ++ [incident]) = published incidents ++ incident.event?.toList := by
  rw [published, List.filterMap_append, published, List.filterMap_cons]
  cases incident.event? <;> rfl

theorem concluded_concat (incidents : List Incident) (incident : Incident) :
    Concluded (incidents ++ [incident]) ↔
      Concluded incidents ∨ ∃ ending, incident = effect (.conclude ending) := by
  simp only [Concluded, List.mem_append, List.mem_singleton, exists_or, eq_comm]

end Incident

namespace Session

variable {L : Type} (session : Session L)

theorem carries_absorb {events : List Event} (carries : session.events.Carries events)
    (effect : Effect) :
    (session.absorb effect).events.Carries (events ++ effect.event?.toList) := by
  cases effect with
  | publish event => exact carries.publish event
  | conclude ending =>
    have closed : { session.events with closed := true }.Carries events :=
      ⟨carries.published, carries.kept⟩
    simpa [absorb, Effect.event?] using closed
  | note _ | display _ | send _ | release => simpa [absorb, Effect.event?] using carries

theorem capacity_absorb (effect : Effect) :
    (session.absorb effect).events.capacity = session.events.capacity := by
  cases effect <;> rfl

theorem closed_absorb (effect : Effect) :
    (session.absorb effect).events.closed = true ↔
      session.events.closed = true ∨ ∃ ending, effect = .conclude ending := by
  cases effect <;> simp [absorb, Broadcast.publish]

theorem subscribed_absorb (effect : Effect) :
    (session.absorb effect).subscribed = session.subscribed := by
  cases effect <;> rfl

theorem events_subscribe : session.subscribe.1.events = session.events := by
  unfold subscribe
  split <;> rfl

theorem subscribed_subscribe : session.subscribe.1.subscribed = true := by
  unfold subscribe
  split
  · assumption
  · rfl

end Session

namespace Audience

variable {L : Type} [Link L]

/-- What a session keeps of the incidents since its start. -/
structure Reflects (audience : Audience L) (settings : Settings) (incidents : List Incident) :
    Prop where
  carries : audience.session.events.Carries (Incident.published incidents)
  capacity : audience.session.events.capacity = settings.eventsKept
  closed : audience.session.events.closed = true ↔ Incident.Concluded incidents
  subscribed : audience.session.subscribed = true ↔ .subscribe ∈ incidents
  count : audience.subscriptions.length = incidents.count .subscribe

omit [Link L] in
theorem Reflects.meet {audience : Audience L} {settings : Settings} {incidents : List Incident}
    (reflects : audience.Reflects settings incidents) (incident : Incident) :
    (audience.meet incident).Reflects settings (incidents ++ [incident]) := by
  obtain ⟨carries, capacity, closed, subscribed, count⟩ := reflects
  constructor
  · rw [Incident.published_concat]
    cases incident with
    | effect effect => exact audience.session.carries_absorb carries effect
    | subscribe =>
      show audience.session.subscribe.1.events.Carries (_ ++ [])
      rwa [Session.events_subscribe, List.append_nil]
    | ask subscriber => rwa [Incident.event?, Option.toList, List.append_nil]
  · cases incident with
    | effect effect => exact (audience.session.capacity_absorb effect).trans capacity
    | subscribe =>
      exact (congrArg Broadcast.capacity audience.session.events_subscribe).trans capacity
    | ask subscriber => exact capacity
  · rw [Incident.concluded_concat, ← closed]
    cases incident with
    | effect effect =>
      rw [Audience.meet, Session.closed_absorb]
      simp only [Incident.effect.injEq]
    | subscribe =>
      show audience.session.subscribe.1.events.closed = true ↔ _
      simp [Session.events_subscribe]
    | ask subscriber => simp [Audience.meet]
  · rw [List.mem_append, List.mem_singleton, ← subscribed]
    cases incident with
    | effect effect => simp [Audience.meet, Session.subscribed_absorb]
    | subscribe => simp [Audience.meet, Session.subscribed_subscribe]
    | ask subscriber => simp [Audience.meet]
  · rw [List.count_append, ← count]
    cases incident <;> simp [Audience.meet]

theorem reflects_after (link : L) (settings : Settings) (incidents : List Incident) :
    (after link settings incidents).Reflects settings incidents := by
  induction incidents using List.reverseRecOn with
  | nil =>
    exact {
      carries := Broadcast.carries_ofCapacity _
      capacity := rfl
      closed := by simp [after, meetAll, Session.attach, Broadcast.ofCapacity, Incident.Concluded]
      subscribed := by simp [after, meetAll, Session.attach]
      count := rfl }
  | append_singleton incidents incident inductionHypothesis =>
    rw [after_concat]
    exact inductionHypothesis.meet incident

end Audience

/-! ### A subscriber -/

/-- The numbers of the events that a subscription got since its start. What it did not get on the
way to its position is not kept any more. -/
structure Subscription.Follows (subscription : Subscription) (events : List Event)
    (capacity start : Nat) (lost : Nat → Prop) (numbers : List Nat) : Prop where
  ordered : numbers.Pairwise (· < ·)
  within : ∀ number ∈ numbers, start ≤ number ∧ number < subscription.position
  numbered : subscription.heard.map some = numbers.map (events[·]?)
  begun : start ≤ subscription.position
  reached : subscription.position ≤ events.length
  missed : ∀ number, start ≤ number → number < subscription.position → number ∉ numbers →
    number + capacity < events.length ∧ lost number

namespace Subscription

variable {subscription : Subscription} {events : List Event} {capacity start : Nat}
  {lost : Nat → Prop} {numbers : List Nat}

theorem follows_start (inside : start ≤ events.length) :
    Follows { position := start } events capacity start lost [] where
  ordered := .nil
  within _ member := nomatch member
  numbered := rfl
  begun := Nat.le_refl start
  reached := inside
  missed _ started before _ := absurd started (Nat.not_le.mpr before)

/-- More events change nothing for a subscription that has not asked for them. -/
theorem Follows.append (follows : subscription.Follows events capacity start lost numbers)
    (more : List Event) {missing : Nat → Prop} (still : ∀ number, lost number → missing number) :
    subscription.Follows (events ++ more) capacity start missing numbers where
  ordered := follows.ordered
  within := follows.within
  numbered := by
    rw [follows.numbered]
    refine List.map_congr_left fun number member => ?_
    have before := (follows.within number member).2
    rw [List.getElem?_append_left (Nat.lt_of_lt_of_le before follows.reached)]
  begun := follows.begun
  reached := by
    rw [List.length_append]
    exact Nat.le_add_right_of_le follows.reached
  missed number started before absent := by
    obtain ⟨late, gone⟩ := follows.missed number started before absent
    rw [List.length_append]
    exact ⟨Nat.lt_add_right _ late, still number gone⟩

theorem heard_answer (position : Nat) (answers : List (Received Event))
    (answer : Received Event) :
    heard ⟨position, answers ++ [answer]⟩ =
      heard ⟨position, answers⟩ ++ (Observed.item? answer).toList := by
  cases answer <;> simp [heard, Observed.item?]

/-- Being told how much was missed. -/
theorem Follows.skip (follows : subscription.Follows events capacity start lost numbers)
    {oldest : Nat} (behind : subscription.position < oldest) (inside : oldest ≤ events.length)
    (late : ∀ number, subscription.position ≤ number → number < oldest →
      number + capacity < events.length ∧ lost number) (count : Nat) :
    Follows ⟨oldest, subscription.answers ++ [.skipped count]⟩ events capacity start lost
      numbers where
  ordered := follows.ordered
  within number member := by
    obtain ⟨started, before⟩ := follows.within number member
    exact ⟨started, Nat.lt_trans before behind⟩
  numbered := by
    rw [heard_answer, ← follows.numbered]
    exact congrArg _ (List.append_nil _)
  begun := Nat.le_trans follows.begun (Nat.le_of_lt behind)
  reached := inside
  missed number started before absent := by
    by_cases passed : number < subscription.position
    · exact follows.missed number started passed absent
    · exact late number (Nat.not_lt.mp passed) before

/-- Getting the next event. -/
theorem Follows.hear (follows : subscription.Follows events capacity start lost numbers)
    {event : Event} (found : events[subscription.position]? = some event) :
    Follows ⟨subscription.position + 1, subscription.answers ++ [.item event]⟩ events capacity
      start lost (numbers ++ [subscription.position]) where
  ordered := by
    refine List.pairwise_append.mpr ⟨follows.ordered, List.pairwise_singleton .., ?_⟩
    intro number member last isLast
    rw [List.mem_singleton.mp isLast]
    exact (follows.within number member).2
  within number member := by
    rcases List.mem_append.mp member with old | last
    · obtain ⟨started, before⟩ := follows.within number old
      exact ⟨started, Nat.lt_succ_of_lt before⟩
    · rw [List.mem_singleton.mp last]
      exact ⟨follows.begun, Nat.lt_succ_self _⟩
  numbered := by
    rw [heard_answer, List.map_append, List.map_append, ← follows.numbered, List.map_singleton,
      found]
    rfl
  begun := Nat.le_succ_of_le follows.begun
  reached := (List.getElem?_eq_some_iff.mp found).1
  missed number started before absent := by
    rw [List.mem_append, List.mem_singleton, not_or] at absent
    have passed : number < subscription.position :=
      Nat.lt_of_le_of_ne (Nat.le_of_lt_succ before) absent.2
    exact follows.missed number started passed absent.1

/-- Getting no event and missing none. -/
theorem Follows.wait (follows : subscription.Follows events capacity start lost numbers)
    {answer : Received Event} (silent : Observed.item? answer = none) :
    Follows ⟨subscription.position, subscription.answers ++ [answer]⟩ events capacity start lost
      numbers where
  ordered := follows.ordered
  within := follows.within
  numbered := by
    rw [heard_answer, silent, ← follows.numbered]
    exact congrArg _ (List.append_nil _)
  begun := follows.begun
  reached := follows.reached
  missed := follows.missed

theorem Follows.ask (follows : subscription.Follows events capacity start lost numbers)
    {channel : Broadcast Event} (carries : channel.Carries events)
    (same : channel.capacity = capacity)
    (late : ∀ number, subscription.position ≤ number → number + capacity < events.length →
      lost number) :
    ∃ more, (subscription.ask channel).Follows events capacity start lost more := by
  have oldest := carries.oldest
  rw [same] at oldest
  rw [Subscription.ask]
  rcases carries.receive_cases follows.reached with
    ⟨behind, received⟩ | ⟨-, event, found, received⟩ | ⟨-, received⟩ <;> rw [received]
  · refine ⟨numbers, follows.skip behind (by omega) (fun number asked gone => ?_) _⟩
    have past : number + capacity < events.length := by omega
    exact ⟨past, late number asked past⟩
  · exact ⟨numbers ++ [subscription.position], follows.hear found⟩
  · exact ⟨numbers, follows.wait (by cases channel.closed <;> rfl)⟩

/-- The stream is over when the channel is closed and everything kept has arrived. -/
theorem Follows.finished_iff (follows : subscription.Follows events capacity start lost numbers)
    {channel : Broadcast Event} (carries : channel.Carries events)
    (same : channel.capacity = capacity) (some : 0 < capacity) :
    (channel.receive subscription.position).2 = .finished ↔
      channel.closed = true ∧ ∀ number, start ≤ number → channel.oldest ≤ number →
        number < events.length → number ∈ numbers := by
  have oldest := carries.oldest
  rw [same] at oldest
  have begun := follows.begun
  rcases carries.receive_cases follows.reached with
    ⟨behind, received⟩ | ⟨kept, event, found, received⟩ | ⟨all, received⟩ <;> rw [received]
  · -- The newest event is kept, and this subscription has not got it.
    refine iff_of_false (by simp) fun ⟨_, complete⟩ => ?_
    have arrived := complete (events.length - 1) (by omega) (by omega) (by omega)
    have before := (follows.within _ arrived).2
    omega
  · refine iff_of_false (by simp) fun ⟨_, complete⟩ => ?_
    have inside := (List.getElem?_eq_some_iff.mp found).1
    have before := (follows.within _ (complete _ begun kept inside)).2
    exact Nat.lt_irrefl _ before
  · have complete (number : Nat) (started : start ≤ number) (kept : channel.oldest ≤ number)
        (inside : number < events.length) : number ∈ numbers := by
      by_contra absent
      have gone := (follows.missed number started (all ▸ inside) absent).1
      omega
    cases closed : channel.closed with
    | true => exact iff_of_true rfl ⟨rfl, complete⟩
    | false => simp

/-- To take what there is at once is to ask as often as there are answers. -/
theorem receiveUpTo_eq_asks (channel : Broadcast Event) (count : Nat)
    (subscription : Subscription) :
    let taken := channel.receiveUpTo count subscription.position
    (fun asking => asking.ask channel)^[taken.2.length] subscription =
      ⟨taken.1, subscription.answers ++ taken.2⟩ := by
  induction count generalizing subscription with
  | zero => simp [Broadcast.receiveUpTo]
  | succ count inductionHypothesis =>
    have asked : subscription.ask channel = ⟨(channel.receive subscription.position).1,
        subscription.answers ++ [(channel.receive subscription.position).2]⟩ := rfl
    rw [Broadcast.receiveUpTo]
    rcases received : channel.receive subscription.position with ⟨next, answer⟩
    rw [received] at asked
    cases answer with
    | pending | finished => simp [asked]
    | item _ | skipped _ =>
      simp only [List.length_cons, Function.iterate_succ_apply, asked]
      rw [inductionHypothesis ⟨next, _⟩, List.append_assoc]
      rfl

end Subscription

/-! ### Every order of incidents -/

namespace Audience

variable {L : Type} [Link L] (link : L) (settings : Settings)

/-- A subscriber did not get an event in time: before it asked for it, as many newer ones had been
published as the settings say. -/
def Loses (incidents : List Incident) (subscriber number : Nat) : Prop :=
  ∃ front back subscription, incidents = front ++ .ask subscriber :: back ∧
    (after link settings front).subscriptions[subscriber]? = some subscription ∧
    subscription.position ≤ number ∧
    number + settings.eventCapacity < (Incident.published front).length

variable {link settings} in
theorem Loses.append {incidents : List Incident} {subscriber number : Nat}
    (loses : Loses link settings incidents subscriber number) (more : List Incident) :
    Loses link settings (incidents ++ more) subscriber number := by
  obtain ⟨front, back, subscription, rfl, known⟩ := loses
  exact ⟨front, back ++ more, subscription, by rw [List.append_assoc, List.cons_append], known⟩

/-- The number of the first event for the next subscriber. -/
def firstOf (incidents : List Incident) : Nat :=
  if .subscribe ∈ incidents then (Incident.published incidents).length else 0

theorem subscribe_after (incidents : List Incident) :
    (after link settings incidents).session.subscribe.2 = firstOf incidents := by
  have reflects := reflects_after link settings incidents
  rw [Session.subscribe, firstOf]
  by_cases later : .subscribe ∈ incidents
  · rw [if_pos (reflects.subscribed.mpr later), if_pos later]
    exact reflects.carries.published
  · rw [if_neg fun known => later (reflects.subscribed.mp known), if_neg later]

omit [Link L] in
/-- Who asks changes its own subscription. -/
theorem subscriptions_ask {audience : Audience L} {subscriber : Nat}
    {subscription : Subscription}
    (present : audience.subscriptions[subscriber]? = some subscription) :
    (audience.meet (.ask subscriber)).subscriptions[subscriber]? =
      some (subscription.ask audience.session.events) := by
  show (List.modify _ subscriber _)[subscriber]? = _
  rw [List.getElem?_modify_eq, present]
  rfl

/-- What one incident does to a subscription. -/
theorem follows_meet {incidents : List Incident} {subscriber start : Nat}
    {subscription : Subscription} {numbers : List Nat}
    (present : (after link settings incidents).subscriptions[subscriber]? = some subscription)
    (follows : subscription.Follows (Incident.published incidents) settings.eventsKept start
      (Loses link settings incidents subscriber) numbers) (incident : Incident) :
    ∃ next more,
      (after link settings (incidents ++ [incident])).subscriptions[subscriber]? = some next ∧
      next.Follows (Incident.published (incidents ++ [incident])) settings.eventsKept start
        (Loses link settings (incidents ++ [incident]) subscriber) more := by
  have still (number : Nat) (loses : Loses link settings incidents subscriber number) :=
    loses.append [incident]
  rw [after_concat, Incident.published_concat]
  cases incident with
  | effect effect => exact ⟨subscription, numbers, present, follows.append _ still⟩
  | subscribe =>
    have inside := (List.getElem?_eq_some_iff.mp present).1
    refine ⟨subscription, numbers, ?_, follows.append _ still⟩
    exact (List.getElem?_append_left inside).trans present
  | ask other =>
    show ∃ next more, (List.modify _ other _)[subscriber]? = some next ∧ _
    by_cases own : other = subscriber
    · subst own
      have reflects := reflects_after link settings incidents
      have carries := reflects.carries
      rw [← List.append_nil (Incident.published incidents)] at carries
      have late (number : Nat) (asked : subscription.position ≤ number)
          (past : number + settings.eventsKept < (Incident.published incidents ++ []).length) :
          Loses link settings (incidents ++ [.ask other]) other number := by
        have enough := settings.eventCapacity_le.1
        rw [List.append_nil] at past
        exact ⟨incidents, [], subscription, rfl, present, asked, by omega⟩
      obtain ⟨more, asked⟩ := (follows.append [] still).ask carries reflects.capacity late
      exact ⟨_, more, subscriptions_ask present, asked⟩
    · exact ⟨subscription, numbers, (List.getElem?_modify_ne _ _ own).trans present,
        follows.append _ still⟩

theorem follows_after (before rest : List Incident) :
    let incidents := before ++ .subscribe :: rest
    let subscriber := before.count .subscribe
    ∃ subscription numbers,
      (after link settings incidents).subscriptions[subscriber]? = some subscription ∧
      subscription.Follows (Incident.published incidents) settings.eventsKept (firstOf before)
        (Loses link settings incidents subscriber) numbers := by
  induction rest using List.reverseRecOn with
  | nil =>
    have reflects := reflects_after link settings before
    refine ⟨{ position := firstOf before }, [], ?_, Subscription.follows_start ?_⟩
    · rw [after_concat, ← reflects.count, ← subscribe_after link settings]
      exact List.getElem?_concat_length
    · rw [Incident.published_concat, firstOf]
      split
      · exact Nat.le_of_eq (by simp [Incident.event?])
      · exact Nat.zero_le _
  | append_singleton rest incident inductionHypothesis =>
    obtain ⟨subscription, numbers, present, follows⟩ := inductionHypothesis
    have same : before ++ .subscribe :: (rest ++ [incident]) =
        (before ++ .subscribe :: rest) ++ [incident] := by
      rw [List.append_assoc, List.cons_append]
    rw [same]
    exact follows_meet link settings present follows incident

/-! ### What a subscriber hears -/

/-- What a subscriber has heard of the events that were published, and what it gets when it asks
next. -/
structure Hears (audience : Audience L) (settings : Settings) (incidents : List Incident)
    (subscriber start : Nat) (lost : Nat → Prop) (subscription : Subscription)
    (numbers : List Nat) : Prop where
  present : audience.subscriptions[subscriber]? = some subscription
  /-- The events that it heard, in their order and without repetition. -/
  ordered : numbers.Pairwise (· < ·)
  heard : subscription.heard.map some = numbers.map ((Incident.published incidents)[·]?)
  within : ∀ number ∈ numbers, start ≤ number ∧ number < subscription.position
  missed : ∀ number, start ≤ number → number < subscription.position → number ∉ numbers →
    lost number
  begun : start ≤ subscription.position
  reached : subscription.position ≤ (Incident.published incidents).length
  /-- An event is kept until as many newer ones have been published as the settings say. -/
  kept : ∀ number, (Incident.published incidents).length ≤ number + settings.eventCapacity →
    audience.session.events.oldest ≤ number
  /-- Who asks for an event that is kept gets it. -/
  timely : audience.session.events.oldest ≤ subscription.position → ∀ event,
    (Incident.published incidents)[subscription.position]? = some event →
      (audience.meet (.ask subscriber)).subscriptions[subscriber]? =
        some ⟨subscription.position + 1, subscription.answers ++ [.item event]⟩
  /-- Who asks later is told how many events it missed, and asks for the oldest kept one next. -/
  late : subscription.position < audience.session.events.oldest →
    (audience.meet (.ask subscriber)).subscriptions[subscriber]? =
      some ⟨audience.session.events.oldest, subscription.answers ++
        [.skipped (audience.session.events.oldest - subscription.position)]⟩
  /-- Who has been given all events is told to wait, or that the stream is over. -/
  waiting : subscription.position = (Incident.published incidents).length →
    (audience.meet (.ask subscriber)).subscriptions[subscriber]? =
      some ⟨subscription.position, subscription.answers ++
        [if audience.session.events.closed then .finished else .pending]⟩
  closed : audience.session.events.closed = true ↔ Incident.Concluded incidents
  /-- The stream is over when the session is and everything kept has been heard. -/
  finished : (audience.session.events.receive subscription.position).2 = .finished ↔
    Incident.Concluded incidents ∧
      ∀ number, start ≤ number → audience.session.events.oldest ≤ number →
        number < (Incident.published incidents).length → number ∈ numbers

omit [Link L] in
theorem Reflects.oldest_le {audience : Audience L} {settings : Settings}
    {incidents : List Incident} (reflects : audience.Reflects settings incidents) {number : Nat}
    (newest : (Incident.published incidents).length ≤ number + settings.eventCapacity) :
    audience.session.events.oldest ≤ number := by
  have enough := settings.eventCapacity_le.1
  rw [reflects.carries.oldest, reflects.capacity]
  omega

theorem hears_after (before rest : List Incident) :
    let incidents := before ++ .subscribe :: rest
    let subscriber := before.count .subscribe
    ∃ (subscription : Subscription) (numbers : List Nat),
      (after link settings incidents).Hears settings incidents subscriber (firstOf before)
        (Loses link settings incidents subscriber) subscription numbers := by
  intro incidents subscriber
  obtain ⟨subscription, numbers, present, follows⟩ :=
    follows_after link settings before rest
  have reflects := reflects_after link settings incidents
  have finished := follows.finished_iff reflects.carries reflects.capacity
    settings.eventCapacity_le.2
  rw [reflects.closed] at finished
  refine ⟨subscription, numbers, {
    present
    ordered := follows.ordered
    heard := follows.numbered
    within := follows.within
    missed := fun number started passed absent => (follows.missed number started passed absent).2
    begun := follows.begun
    reached := follows.reached
    kept := fun _ => reflects.oldest_le
    timely := fun kept event found => ?_
    late := fun behind => ?_
    waiting := fun all => ?_
    closed := reflects.closed
    finished }⟩
  · rw [subscriptions_ask present, Subscription.ask, reflects.carries.receive_of_kept kept found]
  · rw [subscriptions_ask present, Subscription.ask, Broadcast.receive_of_late _ behind]
  · rw [subscriptions_ask present, Subscription.ask, reflects.carries.receive_of_all all]

end Audience

end PanelLink
