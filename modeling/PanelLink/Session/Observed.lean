/-
This file holds a session with everybody around it, as time passes: the host, who makes
one move after the other until it drops the session, the subscribers and the viewers.
After a move the read loop runs until it waits; then all subscribers and viewers take
what is there for them.
-/

import PanelLink.Session.Basic

namespace PanelLink

open Journal Timing

/-- A session, whether the host still holds it, the time, the subscribers and the viewers. -/
structure Observed (L : Type) where
  session : Session L
  held : Bool := true
  now : Nat := 0
  subscribers : List Nat := []
  viewers : List (Viewer Snapshot) := []

/-- What the host does. -/
inductive Move where
  | reset
  | disconnect
  | subscribe
  | view (rate : Rate)
  /-- Wait for the end of the session. -/
  | waitForEnd
  /-- Let go of the session. -/
  | drop
  /-- Let time pass. -/
  | pass (span : Nat)
  deriving DecidableEq, Repr

/-- What a move gives. -/
inductive Response where
  | nothing
  | accepted
  | refused (fault : Fault)
  /-- The session ended so long after the move. -/
  | ended (ending : Ending) (span : Nat)
  /-- The host does not hold the session any more. -/
  | dropped
  deriving DecidableEq, Repr

/-- What a subscriber or viewer takes at one look, and whether the stream is over. -/
structure Taken (Item : Type) where
  items : List Item
  «over» : Bool
  deriving DecidableEq, Repr

namespace Observed

variable {L : Type} [Link L]

/-- Lets the host make a move that needs the session. -/
def useSession (observed : Observed L) (move : Move) : Observed L × Response × List Entry :=
  let session := observed.session
  match move with
  | .reset =>
    match session.reset with
    | .ok asked => ({ observed with session := asked }, .accepted, [])
    | .error fault => (observed, .refused fault, [])
  | .disconnect => ({ observed with session := session.disconnect }, .nothing, [])
  | .subscribe =>
    let (subscribed, position) := session.subscribe
    ({ observed with session := subscribed, subscribers := observed.subscribers ++ [position] },
      .nothing, [])
  | .view rate =>
    let (viewer, entries) := Session.view rate observed.now
    ({ observed with viewers := observed.viewers ++ [viewer] }, .nothing, entries)
  | .waitForEnd =>
    let (moment, last, entries) := session.waitForEnd observed.now
    let ending := last.loop.ending?.getD .disconnected
    ({ observed with session := last, now := moment }, .ended ending (moment - observed.now),
      entries)
  | .drop =>
    ({ observed with session := session.disconnect, held := false }, .nothing,
      [⟨.debug, "Dropping session"⟩])
  | .pass _ => (observed, .nothing, [])

/-- Lets the host make a move. Without a session it can only let time pass or drop it again. -/
def act (observed : Observed L) : Move → Observed L × Response × List Entry
  | .pass span => ({ observed with now := observed.now + span }, .nothing, [])
  | move =>
    if observed.held then observed.useSession move
    else (observed, if move = .drop then .nothing else .dropped, [])

/-- Lets the read loop run until it waits. -/
def settle (observed : Observed L) : Observed L × List Entry :=
  let (session, entries) := observed.session.settle observed.now
  ({ observed with session }, entries)

/-- The item of a received answer. -/
def item? : Received Event → Option Event
  | .item event => some event
  | _ => none

/-- Lets all subscribers take their events. -/
def takeEvents (observed : Observed L) : Observed L × List (Taken Event) × List Entry :=
  let looks := observed.subscribers.map observed.session.events.receiveAll
  ({ observed with subscribers := looks.map Prod.fst },
    looks.map fun (_, received) => ⟨received.filterMap item?, received.contains .finished⟩,
    looks.flatMap fun (_, received) => received.filterMap Session.missedEntry?)

/-- Lets all viewers take what they see. -/
def takeUpdates (observed : Observed L) : Observed L × List (Taken Snapshot) :=
  let looks := observed.viewers.map fun viewer =>
    viewer.lookAll observed.session.display observed.now
  ({ observed with viewers := looks.map Prod.fst },
    looks.map fun (_, answers) => ⟨answers.filterMap Answer.item?, answers.contains .finished⟩)

end Observed

end PanelLink
