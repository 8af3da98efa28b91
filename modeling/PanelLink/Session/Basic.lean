/-
This file holds sessions: a read loop together with what its host shares with it, the
requests, the events and the latest state of the panel. The first subscriber to the
events gets all of them from the start of the session, later ones those published from
then on. When the read loop ends, its subscribers and viewers get what is left for them
and nothing more.
-/

import PanelLink.Link.Replay
import PanelLink.Session.Broadcast
import PanelLink.Session.Latest
import PanelLink.Session.ReadLoop
import PanelLink.Settings.Check
import PanelLink.Timing.Rate
import PanelLink.Timing.Span

namespace PanelLink

open Journal Timing

/-- A session over a link. -/
structure Session (L : Type) where
  loop : ReadLoop L
  requests : ReadLoop.Requests := {}
  events : Broadcast Event
  display : Latest Snapshot
  /-- Whether somebody has subscribed to the events. -/
  subscribed : Bool := false

namespace Session

variable {L : Type} [Link L]

/-! ### Starting -/

/-- A session over a link; its read loop has not run yet. All settings have a session here. On a
machine of 64 bits some have none: the panel must have fewer than `2 ^ 63` pixels, since no buffer
is longer, and the event capacity must be less than `2 ^ 63`, half of what a word counts. The check
of settings asks for neither. -/
def attach (link : L) (settings : Settings) : Session L × List Entry :=
  let loop := ReadLoop.start link settings
  ({ loop, events := Broadcast.ofCapacity settings.eventCapacity,
     display := ⟨loop.shown, 0, false⟩ },
    [⟨.info, "Attaching session to " ++ Link.name link⟩])

/-- A session over a device that was opened or failed to. -/
def connect (settings : Settings) (opened : Except IoFailure L) :
    Except Fault (Session L × List Entry) :=
  match settings.check, opened with
  | .error problem, _ => .error (.settings problem.words)
  | .ok (), .error failure => .error (.ofIo .opening failure)
  | .ok (), .ok link => .ok (attach link settings)

/-- A session over a capture file, if the settings and the file allow it. -/
def ofCapture (settings : Settings) (path : String) (contents : Except IoFailure (List UInt8)) :
    Except Fault (Session Replay × List Entry) :=
  match settings.check with
  | .error problem => .error (.settings problem.words)
  | .ok () =>
    (Replay.ofFile path contents settings.replay).map fun replay =>
      let (session, entries) := attach replay settings
      (session, replay.openedEntries ++ entries)

/-! ### Running -/

/-- Passes on what the read loop did. -/
def absorb (session : Session L) : Effect → Session L
  | .display snapshot => { session with display := session.display.set snapshot }
  | .publish event => { session with events := session.events.publish event }
  | .conclude _ =>
    { session with
      events := { session.events with closed := true }
      display := { session.display with closed := true } }
  | .note _ | .send _ | .release => session

/-- Lets the read loop run at a moment until it waits. -/
def settle (session : Session L) (now : Nat) : Session L × List Entry :=
  let (loop, requests, effects) := session.loop.settle session.requests now
  (effects.foldl absorb { session with loop, requests }, effects.filterMap Effect.entry?)

/-- Lets the read loop run until it ends, as time passes; gives the moment. -/
def runOut : Nat → Session L → Nat → Nat × Session L × List Entry
  | 0, session, now => (now, session, [])
  | fuel + 1, session, now =>
    let (settled, entries) := session.settle now
    match settled.loop.ending?, Link.wakeAt? settled.loop.link with
    | none, some moment =>
      let (last, ended, more) := runOut fuel settled (max now moment)
      (last, ended, entries ++ more)
    | _, _ => (now, settled, entries)

/-- Waits for the end of the session. -/
def waitForEnd (session : Session L) (now : Nat) : Nat × Session L × List Entry :=
  runOut (session.loop.enough session.requests) session now

/-! ### The host -/

/-- Asks the read loop for a reset; there is no use in it after the end. -/
def reset (session : Session L) : Except Fault (Session L) :=
  if session.loop.ending?.isSome then .error .sessionClosed
  else
    let requests := session.requests
    .ok { session with requests := { requests with resets := requests.resets + 1 } }

/-- Asks the read loop to end. -/
def disconnect (session : Session L) : Session L :=
  { session with requests := { session.requests with cancelled := true } }

/-- Subscribes to the events; gives the number of the first one the subscriber gets. -/
def subscribe (session : Session L) : Session L × Nat :=
  if session.subscribed then (session, session.events.published)
  else ({ session with subscribed := true }, 0)

/-- The line for events that a subscriber missed. -/
def missedEntry? : Received Event → Option Entry
  | .skipped count =>
    some ⟨.warn, "Event subscriber fell behind, skipped " ++ Radix.decimal count ++ " events"⟩
  | _ => none

/-- A new viewer of the panel. -/
def view (rate : Rate) (now : Nat) : Viewer Snapshot × List Entry :=
  (Viewer.start rate.pause? now,
    rate.pause?.toList.map fun pause =>
      ⟨.debug, "Display updates throttled to " ++ Span.text pause⟩)

end Session

end PanelLink
