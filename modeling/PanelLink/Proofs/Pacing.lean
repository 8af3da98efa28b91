/-
This file proves how far apart in time the ticks of a ticker are that somebody takes, and with
them the items that a throttle passes on and the chunks that a replay hands out. Each of these
takes exactly one tick, and nothing else does.

When ticks are granted and when the next ones are due is up to the timer. What is relied on is
that it delays the ticks after a late one: a tick is not granted before its deadline, and the
next deadline is a period after that one, or after the tick itself if the tick was late by more
than the tolerance. So the next deadline is never less than a period after the deadline and never
less than a period and the tolerance short of it after the tick. Adding up from one tick to
another, the tolerance counts only once, for the first of the two, however many ticks are
between them.

The timer that sessions run with delays ticks in this sense for every period up to its horizon,
and a longer period counts as far as that.
-/

import PanelLink.Proofs.Replaying
import PanelLink.Proofs.Throttling

namespace PanelLink.Timing

/-! ### Timers -/

namespace Timer

/-- What is relied on of a timer for tickers with a period. -/
structure Delays [Timer] (period : Nat) : Prop where
  /-- A tick is granted only at its deadline or after it. -/
  reached : ∀ deadline now, grantedFrom deadline ≤ now → deadline ≤ now
  /-- The next deadline is a period after the last one, or after the tick if that came late. -/
  next : ∀ deadline now, grantedFrom deadline ≤ now →
    nextDeadline period deadline now =
      if now ≤ deadline + tolerance then deadline + period else now + period

/-- A timer keeps a pace for tickers with a period if no deadline is less than the pace after the
one before, nor, but for the tolerance, after the tick. -/
structure Keeps [Timer] (pace period : Nat) : Prop where
  reached : ∀ deadline now, grantedFrom deadline ≤ now → deadline ≤ now
  fromDeadline : ∀ deadline now, grantedFrom deadline ≤ now →
    deadline + pace ≤ nextDeadline period deadline now
  fromTick : ∀ deadline now, grantedFrom deadline ≤ now →
    now + pace ≤ nextDeadline period deadline now + tolerance

/-- A timer that delays ticks keeps their pace. -/
theorem Delays.keeps [Timer] {period : Nat} (delays : Delays period) : Keeps period period where
  reached := delays.reached
  fromDeadline deadline now granted := by
    have reached := delays.reached deadline now granted
    rw [delays.next deadline now granted]
    split <;> omega
  fromTick deadline now granted := by
    rw [delays.next deadline now granted]
    split <;> omega

/-- A timer of whole milliseconds, whose deadlines can lie at any distance. -/
@[reducible]
def unlimited : Timer where
  grantedFrom := wholeMillisecond
  nextDeadline := delayed

/-- It delays ticks whatever the period is. -/
theorem delays_unlimited (period : Nat) : @Delays unlimited period :=
  letI := unlimited
  { reached := fun _ _ granted => Nat.le_trans (Nat.le_add_right _ _) granted
    next := fun _ _ _ => rfl }

/-! ### The timer of sessions -/

theorem reached_running (deadline now : Nat) (granted : running.grantedFrom deadline ≤ now) :
    deadline ≤ now :=
  Nat.le_trans (Nat.le_add_right _ _) granted

/-- The timer that sessions run with delays ticks as far as its deadlines reach. -/
theorem delays_running_iff (period : Nat) : Delays period ↔ period ≤ horizon := by
  constructor
  · intro delays
    have first := delays.next 0 0 (Nat.le_refl 0)
    rw [if_pos (Nat.zero_le _), Nat.zero_add] at first
    rw [← first]
    exact Nat.le_trans (Nat.min_le_right _ _) (Nat.le_of_eq (Nat.zero_add _))
  · intro far
    refine ⟨reached_running, fun deadline now granted => ?_⟩
    have reached := reached_running deadline now granted
    refine Nat.min_eq_left ?_
    rw [delayed]
    split <;> omega

/-- It keeps the pace of a longer period as far as they reach. -/
theorem keeps_running (period : Nat) : Keeps (min period horizon) period where
  reached := reached_running
  fromDeadline deadline now granted := by
    have reached := reached_running deadline now granted
    show _ ≤ min (delayed period deadline now) (now + horizon)
    rw [delayed]
    split <;> omega
  fromTick deadline now granted := by
    show _ ≤ min (delayed period deadline now) (now + horizon) + tolerance
    rw [delayed]
    split <;> omega

end Timer

/-! ### Ticks -/

/-- Moments keep the pace from a start if each is as many periods away from the start, and from
every moment before it, as there are moments between them, but for a tolerance. The tolerance is
none towards the start. -/
def Paced (period start : Nat) (moments : List Nat) : Prop :=
  (∀ (index moment : Nat), moments[index]? = some moment → start + index * period ≤ moment) ∧
    ∀ (first last earlier later : Nat), first < last → moments[first]? = some earlier →
      moments[last]? = some later →
        earlier + (last - first) * period ≤ later + Timer.tolerance

namespace Ticker

variable [Timer] {pace : Nat}

/-- A tick is not before its deadline, and the next deadline keeps the pace from that deadline and,
but for the tolerance, from the tick. -/
theorem tick?_keeps {ticker next : Ticker} {now : Nat} (keeps : Timer.Keeps pace ticker.period)
    (ticked : ticker.tick? now = some next) :
    ticker.deadline ≤ now ∧ next.period = ticker.period ∧
      ticker.deadline + pace ≤ next.deadline ∧ now + pace ≤ next.deadline + Timer.tolerance := by
  obtain ⟨granted, same⟩ := Option.ite_none_right_eq_some.mp ticked
  cases same
  exact ⟨keeps.reached _ _ granted, rfl, keeps.fromDeadline _ _ granted,
    keeps.fromTick _ _ granted⟩

/-- Ticks that are taken one after the other keep the pace from the deadline of the first. -/
theorem paced_of_ticks {ticker last : Ticker} {moments : List Nat}
    (keeps : Timer.Keeps pace ticker.period) (ticks : moments.foldlM tick? ticker = some last) :
    Paced pace ticker.deadline moments := by
  induction moments generalizing ticker with
  | nil => exact ⟨nofun, nofun⟩
  | cons moment rest inductionHypothesis =>
    rw [List.foldlM_cons] at ticks
    obtain ⟨next, ticked, others⟩ := Option.bind_eq_some_iff.mp ticks
    obtain ⟨reached, samePeriod, fromDeadline, fromTick⟩ := tick?_keeps keeps ticked
    obtain ⟨starts, spaced⟩ := inductionHypothesis (samePeriod ▸ keeps) others
    refine ⟨fun index later known => ?_, fun first last earlier later before known after => ?_⟩
    · cases index with
      | zero =>
        cases known
        rw [Nat.zero_mul]
        exact reached
      | succ index =>
        have tail := starts index later known
        rw [Nat.succ_mul]
        omega
    · obtain ⟨last, rfl⟩ := Nat.exists_eq_add_one_of_ne_zero (Nat.ne_zero_of_lt before)
      cases first with
      | zero =>
        cases known
        have tail := starts last later after
        rw [Nat.sub_zero, Nat.succ_mul]
        omega
      | succ first =>
        rw [Nat.add_sub_add_right]
        exact spaced first last earlier later (Nat.lt_of_succ_lt_succ before) known after

end Ticker

/-! ### Throttles -/

namespace Throttling

variable {Item : Type} [Timer]

/-- The moments at which items were passed on. -/
def beats (run : Throttling Item) : List Nat :=
  run.inquiries.filterMap fun inquiry => inquiry.answer.item?.map fun _ => inquiry.now

/-- A throttle takes one tick for each item that it passes on, and no other. -/
theorem ticks_after (period start : Nat) (source : List (Answer Item)) (moments : List Nat) :
    (after period start source moments).beats.foldlM Ticker.tick? (Ticker.start period start) =
      some (after period start source moments).throttle.ticker := by
  induction moments using List.reverseRecOn with
  | nil => rfl
  | append_singleton before now inductionHypothesis =>
    rw [after_concat, ask_eq]
    generalize after period start source before = earlier at inductionHypothesis ⊢
    have taken : earlier.drain.throttle.ticker = earlier.throttle.ticker :=
      (earlier.throttle.takes_drain earlier.coming).2.ticker
    rw [← taken] at inductionHypothesis
    have given := earlier.drain.throttle.gives_emit now
    generalize earlier.drain.throttle.emit now = emitted at given
    have added (throttle : Throttle Item) (answer : Answer Item) :
        (earlier.drain.record throttle now answer).beats =
          earlier.beats ++ (answer.item?.map fun _ => now).toList := by
      cases answer <;> simp [beats, record, Throttling.drain, Answer.item?]
    rw [added, List.foldlM_append, inductionHypothesis]
    cases given with
    | passed waits ticked =>
      show (Ticker.tick? _ now >>= fun ticker => pure ticker) = _
      rw [ticked]
      rfl
    | held _ _ | finished _ _ | idle _ _ => rfl

/-- Items keep the pace from the moment on at which their throttle was made. -/
theorem paced_beats {pace period : Nat} (keeps : Timer.Keeps pace period) (start : Nat)
    (source : List (Answer Item)) (moments : List Nat) :
    Paced pace start (after period start source moments).beats :=
  Ticker.paced_of_ticks keeps (ticks_after period start source moments)

end Throttling

end PanelLink.Timing

namespace PanelLink

open Timing

/-! ### Replays -/

/-- The moment of a use that is a read. -/
def Replay.Use.moment? : Replay.Use → Option Nat
  | read now => some now
  | write _ | close => none

/-- There is nothing to hand out. -/
def Replay.Barren (replay : Replay) : Prop :=
  replay.closed = true ∨ replay.data.length ≤ replay.position

namespace Replaying

/-- The moments at which chunks were handed out. -/
def beats (run : Replaying) : List Nat :=
  run.reads.filterMap fun read => read.2.chunk?.map fun _ => read.1

/-- What the ticker of a replay knows of its reads. -/
inductive Ticks [Timer] (period : Nat) (uses : List Replay.Use) (run : Replaying) : Prop where
  /-- No read has asked for a tick. If there was one, there was nothing to hand out. -/
  | idle (untimed : run.replay.ticker? = none) (silent : run.beats = [])
    (barren : uses.findSome? Replay.Use.moment? ≠ none → run.replay.Barren)
  /-- Every chunk took one tick, and the first was due at the first read. -/
  | going {start : Nat} {ticker : Ticker} (first : uses.findSome? Replay.Use.moment? = some start)
    (timed : run.replay.ticker? = some ticker)
    (ticks : run.beats.foldlM Ticker.tick? (Ticker.start period start) = some ticker)

variable [Timer] {period : Nat} {uses : List Replay.Use} {run : Replaying}

/-- A use that asks for no tick. -/
theorem Ticks.rest (ticks : Ticks period uses run) {use : Replay.Use} {next : Replaying}
    (timed : next.replay.ticker? = run.replay.ticker?) (silent : next.beats = run.beats)
    (barren : run.replay.Barren ∨ use.moment? ≠ none → next.replay.Barren) :
    Ticks period (uses ++ [use]) next := by
  cases ticks with
  | idle untimed none others =>
    refine .idle (timed.trans untimed) (silent.trans none) fun known => barren ?_
    by_cases read : use.moment? = .none
    · rw [List.findSome?_append, List.findSome?_singleton, read, Option.or_none] at known
      exact .inl (others known)
    · exact .inr read
  | going first known ticks =>
    refine .going ?_ (timed.trans known) (silent ▸ ticks)
    rw [List.findSome?_append, first, Option.some_or]

/-- The tick that a read asks for comes after those of the chunks before. -/
theorem Ticks.pacer (ticks : Ticks period uses run) (now : Nat)
    (going : run.replay.closed = false) (more : run.replay.position < run.replay.data.length) :
    ∃ start, (uses ++ [Replay.Use.read now]).findSome? Replay.Use.moment? = some start ∧
      run.beats.foldlM Ticker.tick? (Ticker.start period start) =
        some (run.replay.pacer period now) := by
  rw [Replay.pacer, List.findSome?_append]
  cases ticks with
  | idle untimed silent barren =>
    have unread : uses.findSome? Replay.Use.moment? = none := by
      refine not_not.mp fun read => ?_
      rcases barren read with closed | past
      · exact Bool.false_ne_true (going.symm.trans closed)
      · exact absurd more (Nat.not_lt.mpr past)
    rw [unread, untimed, silent]
    exact ⟨now, rfl, rfl⟩
  | going first timed ticks =>
    rw [first, timed]
    exact ⟨_, rfl, ticks⟩

theorem Ticks.read (ticks : Ticks period uses run) (paced : run.replay.period? = some period)
    (now : Nat) : Ticks period (uses ++ [.read now]) (run.serve (.read now)) := by
  have reads := run.replay.reads_read now
  rw [serve]
  generalize run.replay.read now = performed at reads
  obtain ⟨link, reading, entries⟩ := performed
  have added (replay : Replay) (reading : Reading) :
      beats { run with replay, reads := run.reads ++ [(now, reading)] } =
        run.beats ++ (reading.chunk?.map fun _ => now).toList := by
    cases reading <;> simp [beats, Reading.chunk?]
  cases reads with
  | refused closed =>
    exact ticks.rest rfl ((added ..).trans (List.append_nil _)) fun _ => .inl closed
  | finished _ past =>
    exact ticks.rest rfl ((added ..).trans (List.append_nil _)) fun _ => .inr past
  | unpaced _ _ free => cases paced.symm.trans free
  | early going more again waits =>
    cases paced.symm.trans again
    obtain ⟨start, first, before⟩ := ticks.pacer now going more
    refine .going first rfl ?_
    rw [added]
    exact (congrArg _ (List.append_nil _)).trans before
  | ticked going more again granted =>
    cases paced.symm.trans again
    obtain ⟨start, first, before⟩ := ticks.pacer now going more
    refine .going first rfl ?_
    rw [added, List.foldlM_append, before]
    show (Ticker.tick? _ now >>= fun ticker => pure ticker) = _
    rw [granted]
    rfl

theorem Ticks.write (ticks : Ticks period uses run) (bytes : List UInt8) :
    Ticks period (uses ++ [.write bytes]) (run.serve (.write bytes)) := by
  rw [serve, Replay.write]
  split <;> exact ticks.rest rfl rfl fun barren => barren.resolve_right (absurd rfl)

theorem Ticks.close (ticks : Ticks period uses run) :
    Ticks period (uses ++ [.close]) (run.serve .close) := by
  rw [serve, Replay.close]
  split
  · rename_i closed
    exact ticks.rest rfl rfl fun _ => .inl closed
  · exact ticks.rest rfl rfl fun _ => .inl rfl

/-- A replay with a pause takes one tick for each chunk that it hands out, and no other. -/
theorem ticks_after (data : List UInt8) {playback : Settings.Playback}
    (paced : playback.period? = some period) (name : String) (uses : List Replay.Use) :
    Ticks period uses (after { Replay.ofBytes data playback with name } uses) := by
  induction uses using List.reverseRecOn with
  | nil => exact .idle rfl rfl (absurd rfl)
  | append_singleton before use inductionHypothesis =>
    rw [after_concat]
    cases use with
    | read now =>
      have keeps := keeps_after data playback name before
      exact inductionHypothesis.read (keeps.period?.trans paced) now
    | write bytes => exact inductionHypothesis.write bytes
    | close => exact inductionHypothesis.close

/-- Chunks keep the pace from the first read on. -/
theorem paced_beats {pace : Nat} (keeps : Timer.Keeps pace period) (data : List UInt8)
    {playback : Settings.Playback} (paced : playback.period? = some period) (name : String)
    {uses : List Replay.Use} {start : Nat}
    (first : uses.findSome? Replay.Use.moment? = some start) :
    Paced pace start (after { Replay.ofBytes data playback with name } uses).beats := by
  cases ticks_after data paced name uses with
  | idle _ silent _ =>
    rw [silent]
    exact ⟨nofun, nofun⟩
  | going known _ ticks =>
    cases known.symm.trans first
    exact Ticker.paced_of_ticks keeps ticks

end Replaying

/-! ### All of them -/

/-- The items of every throttle and the chunks of every replay with a period keep a pace. -/
structure BeatsKeep [Timer] (pace period : Nat) : Prop where
  /-- From the moment on at which the throttle was made, whatever its source answers and whenever
  it is asked. -/
  throttle : ∀ (Item : Type) (start : Nat) (source : List (Answer Item)) (moments : List Nat),
    Paced pace start (Throttling.after period start source moments).beats
  /-- From the first read on, whatever else the replay is used for. -/
  replay : ∀ (data : List UInt8) (playback : Settings.Playback) (name : String)
    (uses : List Replay.Use) (start : Nat), playback.period? = some period →
      uses.findSome? Replay.Use.moment? = some start →
        Paced pace start
          (Replaying.after { Replay.ofBytes data playback with name } uses).beats

theorem beatsKeep_of_keeps [Timer] {pace period : Nat} (keeps : Timer.Keeps pace period) :
    BeatsKeep pace period where
  throttle _ start source moments := Throttling.paced_beats keeps start source moments
  replay data _ name _ _ paced first := Replaying.paced_beats keeps data paced name first

/-- For every period: whatever the timer is, if it delays the ticks after a late one, then the items
of every throttle and the chunks of every replay keep the pace of the period. With the timer that
sessions run with they do so in any case, where what is beyond its horizon does not count. -/
theorem beats_keep_pace (period : Nat) :
    (∀ [Timer], Timer.Delays period → BeatsKeep period period) ∧
      BeatsKeep (min period Timer.horizon) period :=
  ⟨fun delays => beatsKeep_of_keeps delays.keeps, beatsKeep_of_keeps (Timer.keeps_running period)⟩

/-- The timer of a session with a period of a tenth of a second, and a timer without a horizon with
one of forty years. -/
theorem beats_of_tenths_and_decades :
    let throttling := Throttling.after 100000000 0
      [.item 1, .pending, .item 2, .pending, .item 3, .pending] [0, 50000000, 130000000]
    let replay := { Replay.ofBytes [1, 2, 3] ⟨1, 100⟩ with name := "capture" }
    let replaying := Replaying.after replay
      [.read 5000000, .read 50000000, .write [7], .read 106000000, .read 300000000]
    let years : Nat := 40 * 365 * 24 * 60 * 60 * 1000 * millisecond
    let patient := @Throttling.after Nat Timer.unlimited years 0
      [.item 1, .pending, .item 2, .pending, .item 3, .pending] [0, Timer.horizon, years]
    Timer.Delays 100000000 ∧
      throttling.beats = [0, 130000000] ∧ Paced 100000000 0 throttling.beats ∧
      replaying.beats = [5000000, 106000000, 300000000] ∧
      Paced 100000000 5000000 replaying.beats ∧
      @Timer.Delays Timer.unlimited years ∧
      patient.beats = [0, years] ∧ Paced years 0 patient.beats := by
  intro throttling replay replaying years patient
  have delays : Timer.Delays 100000000 := (Timer.delays_running_iff 100000000).mpr (by decide)
  have delaysYears : @Timer.Delays Timer.unlimited years := Timer.delays_unlimited years
  have tenths : BeatsKeep 100000000 100000000 := (beats_keep_pace 100000000).1 delays
  obtain ⟨decades, -⟩ := beats_keep_pace years
  exact ⟨delays, by decide, tenths.throttle Nat 0 _ _, by decide,
    tenths.replay [1, 2, 3] ⟨1, 100⟩ "capture" _ 5000000 rfl rfl, delaysYears, by decide,
    @BeatsKeep.throttle Timer.unlimited years years (@decades Timer.unlimited delaysYears)
      Nat 0 _ _⟩

end PanelLink
