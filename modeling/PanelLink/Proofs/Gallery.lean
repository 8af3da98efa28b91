/-
This file lets a session and those who view its panel meet whatever can happen between them,
one sighting after the other and in every order: the read loop does the next of the things
it does to the outside, somebody starts to view the panel, or a viewer looks. A viewer that
is held back asks for the newest picture more than once in a look, so the panel can change
in the middle of it.

Whoever views a session gets pictures of the panel in their order and none of them twice,
the first not before the one that was shown when the viewing started. The pictures come from
the list that starts with the untouched panel and has one more for each change. However many
of them a viewer goes without, it gets the last one: its stream is over only when the session
is and it has got what the panel looks like in the end.
-/

import Mathlib.Data.List.Induction
import PanelLink.Proofs.Pictures
import PanelLink.Proofs.Viewing
import PanelLink.Session.Basic

namespace PanelLink

open Timing

/-! ### Sightings -/

/-- What can happen between a session and its viewers. -/
inductive Sighting where
  /-- The read loop does what it does next. -/
  | effect
  | view (rate : Rate) (now : Nat)
  /-- A throttle asks for the newest picture in the middle of a look. -/
  | peek (viewer : Nat)
  | look (viewer now : Nat)
  deriving DecidableEq, Repr

def Sighting.isView : Sighting → Bool
  | view .. => true
  | effect | peek _ | look .. => false

/-- A session, what its read loop has done and is going to do, and everybody who views the panel,
in the order of their starts. -/
structure Gallery (L : Type) where
  session : Session L
  past : List Effect := []
  coming : List Effect
  viewings : List (Viewing Snapshot) := []

namespace Gallery

variable {L : Type}

def advance (gallery : Gallery L) : Gallery L :=
  match gallery.coming with
  | [] => gallery
  | effect :: coming =>
    { gallery with
      session := gallery.session.absorb effect
      past := gallery.past ++ [effect]
      coming }

def meet (gallery : Gallery L) : Sighting → Gallery L
  | .effect => gallery.advance
  | .view rate now =>
    { gallery with
      viewings := gallery.viewings ++ [{ viewer := (Session.view rate now).1 }] }
  | .peek viewer =>
    { gallery with viewings := gallery.viewings.modify viewer fun viewing =>
        viewing.peek gallery.session.display }
  | .look viewer now =>
    { gallery with viewings := gallery.viewings.modify viewer fun viewing =>
        viewing.look gallery.session.display now }

/-- The gallery of a session that was attached and whose read loop does these things, after
sightings in order. -/
def after [Link L] (link : L) (settings : Settings) (effects : List Effect)
    (sightings : List Sighting) : Gallery L :=
  sightings.foldl meet { session := (Session.attach link settings).1, coming := effects }

theorem after_concat [Link L] (link : L) (settings : Settings) (effects : List Effect)
    (sightings : List Sighting) (sighting : Sighting) :
    after link settings effects (sightings ++ [sighting]) =
      (after link settings effects sightings).meet sighting :=
  List.foldl_append ..

end Gallery

/-! ### What is shown -/

section Absorb

variable {L : Type} {session : Session L} {values : List Snapshot}

theorem Latest.Shows.absorb (shows : session.display.Shows values) (effect : Effect) :
    (session.absorb effect).display.Shows (values ++ effect.picture?.toList) := by
  cases effect with
  | display snapshot => exact shows.set snapshot
  | conclude ending => exact (List.append_nil values).symm ▸ ⟨shows.changes, shows.value⟩
  | note _ | publish _ | send _ | release => exact (List.append_nil values).symm ▸ shows

theorem Viewing.Tracks.absorb {viewing : Viewing Snapshot} {start : Nat} {numbers held : List Nat}
    (tracks : viewing.Tracks session.display values start numbers held)
    (going : session.display.closed = false) (effect : Effect) :
    viewing.Tracks (session.absorb effect).display (values ++ effect.picture?.toList) start
      numbers held := by
  cases effect with
  | display snapshot => exact tracks.set going snapshot
  | conclude ending => exact (List.append_nil values).symm ▸ tracks.close
  | note _ | publish _ | send _ | release => exact (List.append_nil values).symm ▸ tracks

theorem Session.closed_display_absorb (session : Session L) (effect : Effect) :
    (session.absorb effect).display.closed = true ↔
      session.display.closed = true ∨ ∃ ending, effect = .conclude ending := by
  cases effect <;> simp [absorb, Latest.set]

end Absorb

namespace Gallery

variable {L : Type}

/-- The pictures shown so far. -/
def shown (gallery : Gallery L) (opening : Snapshot) : List Snapshot :=
  opening :: Effect.pictures gallery.past

/-- The display shows the last picture of what the read loop has done, and is closed after the end
of the session. -/
structure Displays (gallery : Gallery L) (opening : Snapshot) (effects : List Effect) : Prop where
  parted : gallery.past ++ gallery.coming = effects
  shows : gallery.session.display.Shows (gallery.shown opening)
  closed : gallery.session.display.closed = true ↔ ∃ ending, .conclude ending ∈ gallery.past

variable {gallery : Gallery L} {opening : Snapshot} {effects : List Effect}

/-- The end of the session is the last thing that the read loop does. -/
theorem Displays.last (displays : gallery.Displays opening effects)
    (endsLast : Effect.EndsLast effects) (closed : gallery.session.display.closed = true) :
    gallery.coming = [] := by
  obtain ⟨ending, member⟩ := displays.closed.mp closed
  obtain ⟨front, back, split⟩ := List.append_of_mem member
  have parted := displays.parted
  rw [split, List.append_assoc, List.cons_append] at parted
  exact (List.append_eq_nil_iff.mp (endsLast front ending _ parted.symm)).2

/-- The pictures shown so far are the first of those of the session. -/
theorem Displays.getElem?_pictures (displays : gallery.Displays opening effects) {number : Nat}
    (inside : number < (gallery.shown opening).length) :
    (opening :: Effect.pictures effects)[number]? = (gallery.shown opening)[number]? := by
  have parted : opening :: Effect.pictures effects =
      gallery.shown opening ++ Effect.pictures gallery.coming := by
    rw [← displays.parted, Effect.pictures_append]
    rfl
  rw [parted]
  exact List.getElem?_append_left inside

theorem Displays.getElem?_changes (displays : gallery.Displays opening effects) :
    (opening :: Effect.pictures effects)[gallery.session.display.changes]? =
      some gallery.session.display.value := by
  rw [displays.getElem?_pictures (Nat.lt_of_succ_le (Nat.le_of_eq displays.shows.changes))]
  exact displays.shows.value

/-- When nothing more comes, the last picture is shown. -/
theorem Displays.getLast?_pictures (displays : gallery.Displays opening effects)
    (exhausted : gallery.coming = []) :
    (opening :: Effect.pictures effects).getLast? = some gallery.session.display.value := by
  rw [← displays.parted, exhausted, List.append_nil]
  exact displays.shows.getLast?

theorem displays_advance (displays : gallery.Displays opening effects) :
    gallery.advance.Displays opening effects := by
  unfold advance
  split
  · exact displays
  · next effect coming next =>
    refine ⟨?_, ?_, ?_⟩
    · rw [← displays.parted, next, List.append_assoc]
      rfl
    · rw [shown, Effect.pictures_append, ← List.cons_append]
      exact Effect.pictures_singleton effect ▸ displays.shows.absorb effect
    · rw [Session.closed_display_absorb, displays.closed]
      simp [exists_or, eq_comm]

theorem displays_meet (displays : gallery.Displays opening effects) (sighting : Sighting) :
    (gallery.meet sighting).Displays opening effects := by
  cases sighting with
  | effect => exact displays_advance displays
  | view _ _ | peek _ | look _ _ => exact ⟨displays.parted, displays.shows, displays.closed⟩

/-! ### What one sighting does -/

theorem tracks_advance {start : Nat} {viewing : Viewing Snapshot} {numbers held : List Nat}
    (displays : gallery.Displays opening effects) (endsLast : Effect.EndsLast effects)
    (tracks : viewing.Tracks gallery.session.display (gallery.shown opening) start numbers held) :
    viewing.Tracks gallery.advance.session.display (gallery.advance.shown opening) start numbers
      held := by
  unfold advance
  split
  · exact tracks
  · next effect coming next =>
    have going : gallery.session.display.closed = false := by
      refine Bool.eq_false_iff.mpr fun closed => ?_
      rw [displays.last endsLast closed] at next
      cases next
    rw [shown, Effect.pictures_append, ← List.cons_append]
    exact Effect.pictures_singleton effect ▸ tracks.absorb going effect

/-- When one viewing changes, the others stay as they are. -/
theorem tracks_modify {viewings : List (Viewing Snapshot)} {viewer start : Nat}
    {viewing : Viewing Snapshot} {display : Latest Snapshot} {pictures : List Snapshot}
    {numbers held : List Nat} {change : Viewing Snapshot → Viewing Snapshot}
    (present : viewings[viewer]? = some viewing)
    (tracks : viewing.Tracks display pictures start numbers held)
    (changed : ∃ more kept, (change viewing).Tracks display pictures start more kept)
    (other : Nat) :
    ∃ next more kept, (viewings.modify other change)[viewer]? = some next ∧
      next.Tracks display pictures start more kept := by
  by_cases own : other = viewer
  · subst own
    obtain ⟨more, kept, changed⟩ := changed
    exact ⟨_, more, kept, by rw [List.getElem?_modify_eq, present]; rfl, changed⟩
  · exact ⟨viewing, numbers, held, (List.getElem?_modify_ne _ _ own).trans present, tracks⟩

/-- What one sighting does to a viewing. -/
theorem tracks_meet {viewer start : Nat} {viewing : Viewing Snapshot} {numbers held : List Nat}
    (displays : gallery.Displays opening effects) (endsLast : Effect.EndsLast effects)
    (present : gallery.viewings[viewer]? = some viewing)
    (tracks : viewing.Tracks gallery.session.display (gallery.shown opening) start numbers held)
    (sighting : Sighting) :
    ∃ next more kept, (gallery.meet sighting).viewings[viewer]? = some next ∧
      next.Tracks (gallery.meet sighting).session.display ((gallery.meet sighting).shown opening)
        start more kept := by
  cases sighting with
  | effect =>
    refine ⟨viewing, numbers, held, ?_, tracks_advance displays endsLast tracks⟩
    rw [meet, advance]
    split <;> exact present
  | view rate now =>
    have inside := (List.getElem?_eq_some_iff.mp present).1
    exact ⟨viewing, numbers, held, (List.getElem?_append_left inside).trans present, tracks⟩
  | peek other => exact tracks_modify present tracks ⟨_, tracks.peek displays.shows⟩ other
  | look other now =>
    obtain ⟨got, kept, looked, -⟩ := tracks.look displays.shows now
    exact tracks_modify present tracks ⟨got, kept, looked⟩ other

/-! ### Every order of sightings -/

variable [Link L] (link : L) (settings : Settings)

theorem displays_after (effects : List Effect) (sightings : List Sighting) :
    (after link settings effects sightings).Displays (Panel.fresh settings).snapshot effects := by
  induction sightings using List.reverseRecOn with
  | nil => exact ⟨rfl, ⟨rfl, rfl⟩, by simp [after, Session.attach]⟩
  | append_singleton before sighting inductionHypothesis =>
    rw [after_concat]
    exact displays_meet inductionHypothesis sighting

theorem length_viewings_after (effects : List Effect) (sightings : List Sighting) :
    (after link settings effects sightings).viewings.length =
      sightings.countP Sighting.isView := by
  induction sightings using List.reverseRecOn with
  | nil => rfl
  | append_singleton before sighting inductionHypothesis =>
    rw [after_concat, List.countP_append, ← inductionHypothesis]
    cases sighting with
    | effect =>
      rw [meet, advance]
      split <;> rfl
    | view rate now => exact List.length_append
    | peek viewer | look viewer now => exact List.length_modify ..

theorem tracks_after {effects : List Effect} (endsLast : Effect.EndsLast effects)
    (before rest : List Sighting) (rate : Rate) (now : Nat) :
    let gallery := after link settings effects (before ++ .view rate now :: rest)
    let start := (after link settings effects before).session.display.changes
    ∃ viewing numbers held,
      gallery.viewings[before.countP Sighting.isView]? = some viewing ∧
      viewing.Tracks gallery.session.display (gallery.shown (Panel.fresh settings).snapshot) start
        numbers held := by
  induction rest using List.reverseRecOn with
  | nil =>
    have displays := displays_after link settings effects before
    rw [after_concat, ← length_viewings_after link settings effects]
    refine ⟨_, [], [], List.getElem?_concat_length, Viewing.tracks_start _ _ ?_⟩
    exact Nat.lt_of_succ_le (Nat.le_of_eq displays.shows.changes)
  | append_singleton rest sighting inductionHypothesis =>
    obtain ⟨viewing, numbers, held, present, tracks⟩ := inductionHypothesis
    rw [← List.cons_append, ← List.append_assoc, after_concat]
    exact tracks_meet (displays_after link settings effects _) endsLast present tracks sighting

/-- What a viewer has got of the pictures of a session and what it gets next. The session has ended,
or is going to end, with a final picture. -/
structure Views (gallery : Gallery L) (pictures : List Snapshot) (final : Snapshot)
    (ended : Prop) (begun : Latest Snapshot) (viewing : Viewing Snapshot) (numbers : List Nat) :
    Prop where
  /-- The final picture is the last one of the session. -/
  last : pictures.getLast? = some final
  /-- One of them was shown when the viewing started. -/
  first : pictures[begun.changes]? = some begun.value
  /-- The pictures that the viewer has got, in their order and without repetition. -/
  ordered : numbers.Pairwise (· < ·)
  seen : viewing.seen.map some = numbers.map (pictures[·]?)
  within : ∀ number ∈ numbers,
    begun.changes ≤ number ∧ number ≤ gallery.session.display.changes
  /-- The stream is over only after the end of the session, with the final picture. -/
  finished : .finished ∈ viewing.answers →
    gallery.coming = [] ∧ ended ∧ viewing.seen.getLast? = some final
  /-- From some moment on a look gives the newest picture, unless the viewer has that already. The
  next look after the end of the session tells that there is no more. -/
  looks : ∃ granted, ∀ moment, granted ≤ moment →
    let looked := viewing.look gallery.session.display moment
    looked.seen.getLast? = some gallery.session.display.value ∧
      (gallery.coming = [] → gallery.session.display.value = final ∧
        (ended → ∀ later, (looked.viewer.look gallery.session.display later).2 = .finished))

/-- Whoever starts to view a session at some moment of whatever happens gets pictures of the panel
from that moment on, and the final one in the end. -/
theorem viewed_after (occasions : List (Occasion L)) (before rest : List Sighting)
    (rate : Rate) (now : Nat) :
    let course := (Course.start link settings).follow occasions
    let fresh := Panel.fresh settings
    let pictures := fresh.snapshot :: fresh.picturesAfter (Effect.events course.effects)
    let final := course.loop.panel.snapshot
    let begun := (after link settings course.effects before).session.display
    let gallery := after link settings course.effects (before ++ .view rate now :: rest)
    ∃ (viewing : Viewing Snapshot) (numbers : List Nat),
      gallery.viewings[before.countP Sighting.isView]? = some viewing ∧
        gallery.Views pictures final (course.loop.ending?.isSome = true) begun viewing numbers := by
  intro course fresh pictures final begun gallery
  obtain ⟨same, last⟩ := Course.pictures_follow link settings occasions
  obtain ⟨endsLast, ends⟩ := Course.endsLast_follow link settings occasions
  have whole : pictures = fresh.snapshot :: Effect.pictures course.effects := by rw [same]
  have displays := displays_after link settings course.effects (before ++ .view rate now :: rest)
  obtain ⟨viewing, numbers, held, present, tracks⟩ :=
    tracks_after link settings endsLast before rest rate now
  have within (number : Nat) (member : number ∈ numbers) :=
    tracks.within number (List.mem_append_left _ member)
  have all (exhausted : gallery.coming = []) : gallery.past = course.effects := by
    rw [← displays.parted, exhausted, List.append_nil]
  have latest (exhausted : gallery.coming = []) : gallery.session.display.value = final :=
    Option.some.inj ((displays.getLast?_pictures exhausted).symm.trans last)
  rw [whole]
  refine ⟨viewing, numbers, present, {
    last
    first := (displays_after link settings course.effects before).getElem?_changes
    ordered := (List.pairwise_append.mp tracks.ordered).1
    seen := ?_
    within := fun number member => ?_
    finished := fun member => ?_
    looks := ?_ }⟩
  · rw [tracks.given]
    exact List.map_congr_left fun number member =>
      (displays.getElem?_pictures (within number member).2).symm
  · obtain ⟨started, inside⟩ := within number member
    rw [← displays.shows.changes] at inside
    exact ⟨started, Nat.le_of_lt_succ inside⟩
  · obtain ⟨closed, none, current⟩ := tracks.finished member
    have exhausted := displays.last endsLast closed
    have newest := tracks.newest
    rw [none, List.append_nil, current] at newest
    rw [← latest exhausted]
    exact ⟨exhausted, ends.mp (all exhausted ▸ displays.closed.mp closed),
      tracks.getLast?_seen displays.shows newest⟩
  · obtain ⟨granted, ready⟩ := viewing.viewer.exists_grantedAt
    refine ⟨granted, fun moment late => ?_⟩
    obtain ⟨newest, silent⟩ := tracks.look_of_granted displays.shows (ready moment late)
    refine ⟨newest, fun exhausted => ⟨latest exhausted, fun ended later => ?_⟩⟩
    have closed : gallery.session.display.closed = true := by
      rw [displays.closed, all exhausted]
      exact ends.mpr ended
    exact (silent later).trans (gallery.session.display.silence_eq_finished_iff.mpr closed)

end Gallery

end PanelLink
