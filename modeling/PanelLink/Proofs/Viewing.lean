/-
This file proves what somebody gets who views a changing value, whenever the value changes,
whenever the viewer looks and however it is held back. Between the changes and the viewer
the newest value wins twice, first when the viewer asks for it and then in the throttle,
where it waits for a tick. What a viewer gets are values in their order, none of them twice,
and a value that waits is the newest one that the viewer has asked for. So a viewer whose
tick is granted gets the newest value of all, unless it has it already, and a viewer gets to
the end only with the last value.
-/

import PanelLink.Proofs.Throttling
import PanelLink.Session.Latest

namespace PanelLink

open Timing

variable {Item : Type}

/-! ### A look -/

namespace Viewer

/-- The value that waits in the throttle of a viewer. -/
def waiting? (viewer : Viewer Item) : Option Item :=
  viewer.throttle?.bind Throttle.waiting

/-- Whether the throttle of a viewer knows that there is no more to come. -/
def ended (viewer : Viewer Item) : Bool :=
  viewer.throttle?.any Throttle.ended

/-- A throttle asks for the newest value once, in the middle of a look. -/
def peek (viewer : Viewer Item) (latest : Latest Item) : Viewer Item :=
  match viewer.throttle? with
  | none => viewer
  | some throttle =>
    { seen? := some latest.changes
      throttle? := some (throttle.drain ((latest.answers viewer.seen?).take 1)).1 }

/-- The throttle of a viewer, if there is one, grants a tick from this moment on. -/
def GrantedAt (viewer : Viewer Item) (now : Nat) : Prop :=
  ∀ throttle, viewer.throttle? = some throttle → throttle.ticker.grantedFrom ≤ now

/-- What a viewer can get at a look: the newest value, or the one that waits if there is no newer
one. -/
def caught? (viewer : Viewer Item) (latest : Latest Item) : Option Item :=
  if viewer.seen? = some latest.changes then viewer.waiting? else some latest.value

/-- A viewer that knows that there is no more to come has asked for the last value. -/
def Settled (viewer : Viewer Item) (latest : Latest Item) : Prop :=
  viewer.ended = true → latest.closed = true ∧ viewer.seen? = some latest.changes

end Viewer

/-- What a viewer gets when there is no value to get. -/
def Latest.silence (latest : Latest Item) : Answer Item :=
  if latest.closed then .finished else .pending

theorem Latest.item?_silence (latest : Latest Item) : latest.silence.item? = none := by
  rw [silence]
  split <;> rfl

theorem Latest.silence_eq_finished_iff (latest : Latest Item) :
    latest.silence = .finished ↔ latest.closed = true := by
  rw [silence]
  split <;> simp_all

namespace Timing.Throttle

/-- A throttle that asks until there is nothing new holds what its viewer can get. -/
theorem drain_answers {viewer : Viewer Item} {latest : Latest Item} {throttle : Throttle Item}
    (held : viewer.throttle? = some throttle) (settled : viewer.Settled latest) :
    (throttle.drain (latest.answers viewer.seen?)).1 =
      { throttle with waiting := viewer.caught? latest, ended := latest.closed } := by
  obtain ⟨ticker, waiting, ended⟩ := throttle
  rw [drain, Viewer.caught?, Viewer.waiting?, held, Latest.answers]
  cases ended with
  | true =>
    obtain ⟨closed, seen⟩ := settled (by rw [Viewer.ended, held]; rfl)
    simp only [if_pos, seen, closed]
    rfl
  | false =>
    rw [if_neg Bool.false_ne_true]
    split <;> cases latest.closed <;> rfl

/-- If it asks only once, it holds that as well, but may not know yet that there is no more. -/
theorem exists_drain_answer {viewer : Viewer Item} {latest : Latest Item}
    {throttle : Throttle Item} (held : viewer.throttle? = some throttle)
    (settled : viewer.Settled latest) :
    ∃ known, (known = true → latest.closed = true) ∧
      (throttle.drain ((latest.answers viewer.seen?).take 1)).1 =
        { throttle with waiting := viewer.caught? latest, ended := known } := by
  obtain ⟨ticker, waiting, ended⟩ := throttle
  rw [drain, Viewer.caught?, Viewer.waiting?, held, Latest.answers]
  cases ended with
  | true =>
    obtain ⟨closed, seen⟩ := settled (by rw [Viewer.ended, held]; rfl)
    simp only [if_pos, seen]
    exact ⟨true, fun _ => closed, rfl⟩
  | false =>
    rw [if_neg Bool.false_ne_true]
    split
    · refine ⟨latest.closed, id, ?_⟩
      cases latest.closed <;> rfl
    · exact ⟨false, fun known => absurd known Bool.false_ne_true, rfl⟩

end Timing.Throttle

namespace Viewer

variable {viewer : Viewer Item} {latest : Latest Item}

/-- What comes of a look. -/
inductive Looks (viewer : Viewer Item) (latest : Latest Item) (now : Nat) :
    Option Item → Viewer Item × Answer Item → Prop where
  /-- The viewer gets what it can get. -/
  | given {looked : Viewer Item} (value : Item) (empty : looked.waiting? = none) :
    Looks viewer latest now (some value) (looked, .item value)
  /-- The viewer has to wait for a tick. -/
  | held {looked : Viewer Item} (value : Item) (waits : looked.waiting? = some value)
    (early : ¬ viewer.GrantedAt now) : Looks viewer latest now (some value) (looked, .pending)
  /-- There is nothing to get. -/
  | silent {looked : Viewer Item} (empty : looked.waiting? = none) :
    Looks viewer latest now none (looked, latest.silence)

theorem look_looks (settled : viewer.Settled latest) (now : Nat) :
    let looked := viewer.look latest now
    looked.1.seen? = some latest.changes ∧ (looked.1.ended = true → latest.closed = true) ∧
      Looks viewer latest now (viewer.caught? latest) looked := by
  intro looked
  cases held : viewer.throttle? with
  | none =>
    have known : looked =
        ({ viewer with seen? := some latest.changes },
          (latest.answers viewer.seen?).headD .pending) := by
      simp only [looked, look, held]
    have free (seen? : Option Nat) : { viewer with seen? }.waiting? = none := by
      simp [waiting?, held]
    rw [known]
    refine ⟨rfl, by simp [ended, held], ?_⟩
    rw [caught?, Latest.answers]
    split
    · have nothing : viewer.waiting? = none := by simp [waiting?, held]
      rw [nothing]
      exact .silent (free _)
    · exact .given _ (free _)
  | some throttle =>
    obtain ⟨drained, same⟩ : ∃ drained : Throttle Item, drained =
        { throttle with waiting := viewer.caught? latest, ended := latest.closed } := ⟨_, rfl⟩
    have known : looked = ({ seen? := some latest.changes, throttle? := some (drained.emit now).1 },
        (drained.emit now).2) := by
      have asked := Throttle.drain_answers held settled
      simp only [looked, look, held, Throttle.poll, asked, same]
    have waiting : drained.waiting = viewer.caught? latest := by rw [same]
    have ends : drained.ended = latest.closed := by rw [same]
    have given := drained.gives_emit now
    rw [known, ← waiting]
    generalize drained.emit now = emitted at given
    have last (closed : drained.ended = true) : latest.closed = true := ends ▸ closed
    cases given with
    | passed waits _ =>
      rw [waits]
      exact ⟨rfl, last, .given _ rfl⟩
    | held waits early =>
      rw [waits]
      refine ⟨rfl, last, .held _ waits fun granted => ?_⟩
      rw [same] at early
      exact absurd (granted throttle held) (Nat.not_le.mpr early)
    | finished empty closed =>
      rw [empty, ← latest.silence_eq_finished_iff.mpr (last closed)]
      exact ⟨rfl, last, .silent empty⟩
    | idle empty going =>
      rw [ends] at going
      have silence : latest.silence = .pending := if_neg (Bool.eq_false_iff.mp going)
      rw [empty, ← silence]
      exact ⟨rfl, last, .silent empty⟩

/-- Who has the newest value and waits for nothing gets nothing. -/
theorem look_of_current (settled : viewer.Settled latest) (now : Nat)
    (current : viewer.seen? = some latest.changes) (empty : viewer.waiting? = none) :
    (viewer.look latest now).2 = latest.silence := by
  obtain ⟨-, -, looks⟩ := look_looks settled now
  rw [caught?, if_pos current, empty] at looks
  generalize viewer.look latest now = looked at looks
  cases looks with
  | silent _ => rfl

/-- A tick is granted sooner or later. -/
theorem exists_grantedAt (viewer : Viewer Item) :
    ∃ granted, ∀ now, granted ≤ now → viewer.GrantedAt now := by
  cases held : viewer.throttle? with
  | none => exact ⟨0, fun now _ throttle known => by rw [held] at known; cases known⟩
  | some throttle =>
    refine ⟨throttle.ticker.grantedFrom, fun now late other known => ?_⟩
    rw [held] at known
    cases known
    exact late

theorem peek_of_throttle {throttle : Throttle Item} (held : viewer.throttle? = some throttle)
    (settled : viewer.Settled latest) :
    let peeked := viewer.peek latest
    peeked.seen? = some latest.changes ∧ (peeked.ended = true → latest.closed = true) ∧
      peeked.waiting? = viewer.caught? latest := by
  intro peeked
  obtain ⟨known, closed, asked⟩ := Throttle.exists_drain_answer held settled
  have same : peeked = ⟨some latest.changes,
      some { throttle with waiting := viewer.caught? latest, ended := known }⟩ := by
    simp only [peeked, peek, held, asked]
  rw [same]
  exact ⟨rfl, closed, rfl⟩

theorem peek_of_free (free : viewer.throttle? = none) : viewer.peek latest = viewer := by
  rw [peek, free]

end Viewer

/-! ### The values a viewer has got -/

/-- A viewer and the answers it got. -/
structure Viewing (Item : Type) where
  viewer : Viewer Item
  answers : List (Answer Item) := []

/-- A value that changes is the last of the values it has had. -/
structure Latest.Shows (latest : Latest Item) (values : List Item) : Prop where
  changes : latest.changes + 1 = values.length
  value : values[latest.changes]? = some latest.value

theorem Latest.Shows.set {latest : Latest Item} {values : List Item} (shows : latest.Shows values)
    (value : Item) : (latest.set value).Shows (values ++ [value]) where
  changes := by
    rw [List.length_append, ← shows.changes]
    rfl
  value := by
    show (values ++ [value])[latest.changes + 1]? = some value
    rw [shows.changes]
    exact List.getElem?_concat_length

theorem Latest.Shows.getLast? {latest : Latest Item} {values : List Item}
    (shows : latest.Shows values) : values.getLast? = some latest.value := by
  rw [List.getLast?_eq_getElem?, ← shows.changes]
  exact shows.value

namespace Viewing

def look (viewing : Viewing Item) (latest : Latest Item) (now : Nat) : Viewing Item :=
  let (viewer, answer) := viewing.viewer.look latest now
  ⟨viewer, viewing.answers ++ [answer]⟩

def peek (viewing : Viewing Item) (latest : Latest Item) : Viewing Item :=
  { viewing with viewer := viewing.viewer.peek latest }

/-- The values among the answers. -/
def seen (viewing : Viewing Item) : List Item :=
  viewing.answers.filterMap Answer.item?

/-- The numbers of the values that a viewer got since its start, and of the one that waits for a
tick. The last of them is the newest that the viewer has asked for. -/
structure Tracks (viewing : Viewing Item) (latest : Latest Item) (values : List Item)
    (start : Nat) (numbers held : List Nat) : Prop where
  begun : start < values.length
  ordered : (numbers ++ held).Pairwise (· < ·)
  within : ∀ number ∈ numbers ++ held, start ≤ number ∧ number < values.length
  given : viewing.seen.map some = numbers.map (values[·]?)
  kept : viewing.viewer.waiting?.toList.map some = held.map (values[·]?)
  newest : (numbers ++ held).getLast? = viewing.viewer.seen?
  settled : viewing.viewer.Settled latest
  finished : .finished ∈ viewing.answers →
    latest.closed = true ∧ held = [] ∧ viewing.viewer.seen? = some latest.changes

variable {viewing : Viewing Item} {latest : Latest Item} {values : List Item} {start : Nat}
  {numbers held : List Nat}

theorem tracks_start (period? : Option Nat) (now : Nat) (begun : start < values.length) :
    Tracks { viewer := Viewer.start period? now } latest values start [] [] where
  begun := begun
  ordered := .nil
  within _ member := nomatch member
  given := rfl
  kept := by cases period? <;> rfl
  newest := rfl
  settled knows := by cases period? <;> cases knows
  finished member := nomatch member

/-- A change makes nothing different for a viewer that has not looked since. -/
theorem Tracks.set (tracks : viewing.Tracks latest values start numbers held)
    (going : latest.closed = false) (value : Item) :
    viewing.Tracks (latest.set value) (values ++ [value]) start numbers held := by
  have known {numbers : List Nat} (inside : ∀ number ∈ numbers, number < values.length) :
      numbers.map ((values ++ [value])[·]?) = numbers.map (values[·]?) :=
    List.map_congr_left fun number member => List.getElem?_append_left (inside number member)
  have open' : latest.closed ≠ true := by rw [going]; exact Bool.false_ne_true
  refine ⟨?_, tracks.ordered, fun number member => ?_, ?_, ?_, tracks.newest, ?_, ?_⟩
  · rw [List.length_append]
    exact Nat.lt_add_right _ tracks.begun
  · obtain ⟨started, inside⟩ := tracks.within number member
    rw [List.length_append]
    exact ⟨started, Nat.lt_add_right _ inside⟩
  · rw [known fun number member => (tracks.within number (List.mem_append_left _ member)).2]
    exact tracks.given
  · rw [known fun number member => (tracks.within number (List.mem_append_right _ member)).2]
    exact tracks.kept
  · exact fun knows => absurd (tracks.settled knows).1 open'
  · exact fun member => absurd (tracks.finished member).1 open'

theorem Tracks.close (tracks : viewing.Tracks latest values start numbers held) :
    viewing.Tracks { latest with closed := true } values start numbers held :=
  { tracks with
    settled := fun knows => ⟨rfl, (tracks.settled knows).2⟩
    finished := fun member => ⟨rfl, (tracks.finished member).2⟩ }

/-- A viewer that has not asked for the newest value has got and holds older ones only. -/
theorem Tracks.lt_changes (tracks : viewing.Tracks latest values start numbers held)
    (shows : latest.Shows values) (behind : viewing.viewer.seen? ≠ some latest.changes) :
    ∀ number ∈ numbers ++ held, number < latest.changes := by
  intro number member
  have total := shows.changes
  have inside := (tracks.within number member).2
  refine Nat.lt_of_le_of_ne (by omega) ?_
  rintro rfl
  -- The greatest of the numbers would be the last of them.
  obtain ⟨front, back, parted⟩ := List.append_of_mem member
  have ordered := tracks.ordered
  rw [parted] at ordered
  have none : back = [] := List.eq_nil_iff_forall_not_mem.mpr fun later last => by
    have after := (List.pairwise_cons.mp (List.pairwise_append.mp ordered).2.1).1 later last
    have bound := (tracks.within later (by
      rw [parted]; exact List.mem_append_right _ (List.mem_cons_of_mem _ last))).2
    omega
  rw [← tracks.newest, parted, none, List.getLast?_concat] at behind
  exact behind rfl

/-- The number of what a viewer can get continues those of the values it has got. -/
structure Catches (viewing : Viewing Item) (latest : Latest Item) (values : List Item)
    (start : Nat) (numbers caught : List Nat) : Prop where
  ordered : (numbers ++ caught).Pairwise (· < ·)
  within : ∀ number ∈ numbers ++ caught, start ≤ number ∧ number < values.length
  kept : (viewing.viewer.caught? latest).toList.map some = caught.map (values[·]?)
  newest : (numbers ++ caught).getLast? = some latest.changes
  finished : .finished ∈ viewing.answers → caught = []

theorem Tracks.catches (tracks : viewing.Tracks latest values start numbers held)
    (shows : latest.Shows values) :
    ∃ caught, viewing.Catches latest values start numbers caught := by
  by_cases current : viewing.viewer.seen? = some latest.changes
  · refine ⟨held, tracks.ordered, tracks.within, ?_, tracks.newest.trans current,
      fun member => (tracks.finished member).2.1⟩
    rw [Viewer.caught?, if_pos current]
    exact tracks.kept
  · have older := tracks.lt_changes shows current
    have total := shows.changes
    have begun := tracks.begun
    refine ⟨[latest.changes], ?_, fun number member => ?_, ?_, List.getLast?_concat,
      fun member => absurd (tracks.finished member).2.2 current⟩
    · refine List.pairwise_append.mpr
        ⟨(List.pairwise_append.mp tracks.ordered).1, List.pairwise_singleton .., ?_⟩
      intro number member last isLast
      rw [List.mem_singleton.mp isLast]
      exact older number (List.mem_append_left _ member)
    · rcases List.mem_append.mp member with old | last
      · exact tracks.within number (List.mem_append_left _ old)
      · rw [List.mem_singleton.mp last]
        omega
    · rw [Viewer.caught?, if_neg current, List.map_singleton, shows.value]
      rfl

theorem Tracks.peek (tracks : viewing.Tracks latest values start numbers held)
    (shows : latest.Shows values) :
    ∃ caught, (viewing.peek latest).Tracks latest values start numbers caught := by
  cases free : viewing.viewer.throttle? with
  | none =>
    rw [Viewing.peek, Viewer.peek_of_free free]
    exact ⟨held, tracks⟩
  | some throttle =>
    obtain ⟨caught, catches⟩ := tracks.catches shows
    obtain ⟨seen, closed, waits⟩ := Viewer.peek_of_throttle free tracks.settled
    refine ⟨caught, tracks.begun, catches.ordered, catches.within, tracks.given, ?_,
      catches.newest.trans seen.symm, fun knows => ⟨closed knows, seen⟩,
      fun member => ⟨(tracks.finished member).1, catches.finished member, seen⟩⟩
    rw [← catches.kept]
    exact congrArg (fun waiting => waiting.toList.map some) waits

theorem seen_answer (viewer : Viewer Item) (answers : List (Answer Item)) (answer : Answer Item) :
    seen ⟨viewer, answers ++ [answer]⟩ = seen ⟨viewer, answers⟩ ++ answer.item?.toList := by
  cases answer <;> simp [seen, Answer.item?]

/-- Getting what can be got. -/
theorem Tracks.give (tracks : viewing.Tracks latest values start numbers held) {caught : List Nat}
    (catches : viewing.Catches latest values start numbers caught) {viewer : Viewer Item}
    {value : Item} (offered : viewing.viewer.caught? latest = some value)
    (empty : viewer.waiting? = none) (seen : viewer.seen? = some latest.changes)
    (closed : viewer.ended = true → latest.closed = true) :
    Tracks ⟨viewer, viewing.answers ++ [.item value]⟩ latest values start (numbers ++ caught)
      [] where
  begun := tracks.begun
  ordered := by
    rw [List.append_nil]
    exact catches.ordered
  within := by
    rw [List.append_nil]
    exact catches.within
  given := by
    rw [seen_answer, List.map_append, List.map_append, ← catches.kept, offered]
    exact congrArg (· ++ _) tracks.given
  kept := by
    rw [empty]
    rfl
  newest := by
    rw [List.append_nil]
    exact catches.newest.trans seen.symm
  settled knows := ⟨closed knows, seen⟩
  finished member := by
    have before : .finished ∈ viewing.answers := by simpa using member
    exact ⟨(tracks.finished before).1, rfl, seen⟩

/-- Getting nothing while what can be got waits. -/
theorem Tracks.wait (tracks : viewing.Tracks latest values start numbers held) {caught : List Nat}
    (catches : viewing.Catches latest values start numbers caught) {viewer : Viewer Item}
    {answer : Answer Item} (silent : answer.item? = none)
    (waits : viewer.waiting? = viewing.viewer.caught? latest)
    (seen : viewer.seen? = some latest.changes)
    (closed : viewer.ended = true → latest.closed = true)
    (last : answer = .finished → latest.closed = true ∧ caught = []) :
    Tracks ⟨viewer, viewing.answers ++ [answer]⟩ latest values start numbers caught where
  begun := tracks.begun
  ordered := catches.ordered
  within := catches.within
  given := by
    rw [seen_answer, silent, ← tracks.given]
    exact congrArg _ (List.append_nil _)
  kept := by
    rw [waits]
    exact catches.kept
  newest := catches.newest.trans seen.symm
  settled knows := ⟨closed knows, seen⟩
  finished member := by
    rcases List.mem_append.mp member with before | now
    · exact ⟨(tracks.finished before).1, catches.finished before, seen⟩
    · obtain ⟨ends, none⟩ := last (List.mem_singleton.mp now).symm
      exact ⟨ends, none, seen⟩

/-- After a look the viewer has got what it could get, unless that waits for a tick. -/
theorem Tracks.look (tracks : viewing.Tracks latest values start numbers held)
    (shows : latest.Shows values) (now : Nat) :
    let looked := viewing.look latest now
    ∃ got caught, looked.Tracks latest values start got caught ∧
      (got ++ caught).getLast? = some latest.changes ∧
      (viewing.viewer.GrantedAt now → caught = []) := by
  intro looked
  obtain ⟨caught, catches⟩ := tracks.catches shows
  obtain ⟨seen, closed, looks⟩ := Viewer.look_looks tracks.settled now
  have same : looked = ⟨(viewing.viewer.look latest now).1,
    viewing.answers ++ [(viewing.viewer.look latest now).2]⟩ := rfl
  generalize viewing.viewer.look latest now = result at same seen closed looks
  rw [same]
  generalize offered : viewing.viewer.caught? latest = caught? at looks
  cases looks with
  | given value empty =>
    refine ⟨numbers ++ caught, [], tracks.give catches offered empty seen closed, ?_, fun _ => rfl⟩
    rw [List.append_nil]
    exact catches.newest
  | held value waits early =>
    exact ⟨numbers, caught, tracks.wait catches rfl (waits.trans offered.symm) seen closed nofun,
      catches.newest, fun granted => absurd granted early⟩
  | silent empty =>
    have nothing : caught = [] := by
      have kept := catches.kept
      rw [offered] at kept
      exact List.map_eq_nil_iff.mp kept.symm
    exact ⟨numbers, caught, tracks.wait catches latest.item?_silence (empty.trans offered.symm) seen
      closed fun last => ⟨latest.silence_eq_finished_iff.mp last, nothing⟩, catches.newest,
      fun _ => nothing⟩

/-- Whoever got the newest value as the last one has it as the last one. -/
theorem Tracks.getLast?_seen (tracks : viewing.Tracks latest values start numbers held)
    (shows : latest.Shows values) (newest : numbers.getLast? = some latest.changes) :
    viewing.seen.getLast? = some latest.value := by
  have last := congrArg List.getLast? tracks.given
  rw [List.getLast?_map, List.getLast?_map, newest, Option.map_some, shows.value] at last
  obtain ⟨value, known, same⟩ := Option.map_eq_some_iff.mp last
  rw [known, same]

/-- A viewer whose tick is granted gets the newest value, and after the last value the end. -/
theorem Tracks.look_of_granted (tracks : viewing.Tracks latest values start numbers held)
    (shows : latest.Shows values) {now : Nat} (granted : viewing.viewer.GrantedAt now) :
    let looked := viewing.look latest now
    looked.seen.getLast? = some latest.value ∧
      ∀ later, (looked.viewer.look latest later).2 = latest.silence := by
  intro looked
  obtain ⟨got, caught, after, newest, none⟩ := tracks.look shows now
  have empty := none granted
  subst empty
  rw [List.append_nil] at newest
  refine ⟨after.getLast?_seen shows newest,
    fun later => Viewer.look_of_current after.settled later ?_ ?_⟩
  · have known := after.newest
    rw [List.append_nil] at known
    exact known.symm.trans newest
  · exact Option.toList_eq_nil_iff.mp (List.map_eq_nil_iff.mp after.kept)

end Viewing

end PanelLink
