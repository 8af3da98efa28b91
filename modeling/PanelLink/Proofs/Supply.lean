/-
This file follows a session over a link that hands out chunks until its stream ends. Such a
link may let a read wait, as long as it names the moment from which on it has something. A
session that waits for its end then gets all chunks in order and the end of the stream, and
whatever it does on the way is a course on quiet occasions.

What is left of the stream bounds both recursions. Within one moment every turn but the
last takes a chunk, and from one moment to the next at least one chunk is taken.
-/

import PanelLink.Proofs.Account

namespace PanelLink

/-! ### Supplies -/

variable {L : Type} [Link L]

namespace Link

/-- A read at a moment gives something. -/
def Ready (link : L) (now : Nat) : Prop :=
  (read link now).answer ≠ .waiting

/-- A link that waits names the moment from which on it is ready. -/
def Wakes (link : L) : Prop :=
  ∃ moment, wakeAt? link = some moment ∧ ∀ later, moment ≤ later → Ready link later

/-- What holds between a link and the chunks that it still has to hand out: it hands them out one
after the other, as soon as it is ready, and takes a byte in return for each. -/
structure Supplies (holds : L → List (List UInt8) → Prop) : Prop where
  ends : ∀ link, holds link [] → ∀ now, (read link now).answer = .finished
  gives : ∀ link chunk rest, holds link (chunk :: rest) → ∀ now,
    ((read link now).answer = .chunk chunk ∧
        ∀ byte, (write (read link now).link [byte]).answer = .ok () ∧
          holds (write (read link now).link [byte]).link rest) ∨
      ((read link now).answer = .waiting ∧ Wakes (read link now).link ∧
        holds (read link now).link (chunk :: rest))
  bounded : ∀ link chunks, holds link chunks → chunks.length ≤ backlog link

end Link

/-! ### Turns that read -/

namespace ReadLoop

theorem attend_reading {loop : ReadLoop L} (going : loop.ending? = none) (reading : Reading) :
    loop.attend (.reading reading) = loop.receive reading := by
  rw [attend, going]
  rfl

/-- A chunk whose acknowledgement is taken touches the link and what its frames touch. -/
theorem exists_receive_chunk (loop : ReadLoop L) (bytes : List UInt8)
    (taken : (Link.write loop.link [loop.ackByte]).answer = .ok ()) :
    ∃ panel shown chunks decoder, (loop.receive (.chunk bytes)).1 =
      { loop with
        link := (Link.write loop.link [loop.ackByte]).link, panel, shown, chunks, decoder } := by
  obtain ⟨panel, shown, decoded⟩ := exists_decode_eq loop bytes
  have acknowledged : (Link.write (loop.decode bytes).1.link [(loop.decode bytes).1.ackByte]).answer =
      .ok () := by
    rw [decoded]
    exact taken
  refine ⟨panel, shown, loop.chunks + 1, (loop.decoder.feed bytes).1, ?_⟩
  simp only [receive]
  rw [acknowledge_of_ok acknowledged, decoded]

theorem choose_idle (loop : ReadLoop L) (now : Nat) :
    loop.choose {} now =
      ({ loop with link := (Link.read loop.link now).link }, {},
        .reading (Link.read loop.link now).answer,
        Effect.notes (Link.read loop.link now).entries) := rfl

end ReadLoop

namespace Course

theorem proceed_idle (course : Course L) (going : course.loop.ending? = none)
    (idle : course.requests = {}) (now : Nat) :
    let read := Link.read course.loop.link now
    let next := course.proceed (.quiet L now)
    next.loop = (ReadLoop.receive { course.loop with link := read.link } read.answer).1 ∧
      next.requests = {} ∧ next.turns = course.turns ++ [.reading read.answer] := by
  intro read next
  have running : course.loop.ending?.isSome = false := by rw [going]; rfl
  have step := proceed_quiet course now running
  have attended := ReadLoop.attend_reading
    (show ({ course.loop with link := read.link } : ReadLoop L).ending? = none from going)
    read.answer
  rw [idle, ReadLoop.choose_idle] at step
  rw [show next = _ from step]
  exact ⟨congrArg Prod.fst attended, rfl, rfl⟩

/-! ### One turn -/

/-- A course was given chunks, and its link holds those that are left. -/
structure Underway (holds : L → List (List UInt8) → Prop) (course : Course L)
    (given left : List (List UInt8)) : Prop where
  turns : course.turns.filter (· ≠ .reading .waiting) =
    given.map fun bytes => .reading (.chunk bytes)
  link : holds course.loop.link left
  going : course.loop.ending? = none
  idle : course.requests = {}
  begun : course.loop.started = true

/-- A course was given all chunks and then ended, and its link is closed. -/
structure Through (holds : L → List (List UInt8) → Prop) (course : Course L)
    (chunks : List (List UInt8)) : Prop where
  delivered : course.Delivered chunks
  ending : course.loop.ending? = some .finished
  link : ∃ last now, holds last [] ∧
    course.loop.link = (Link.close (Link.read last now).link).link

variable {holds : L → List (List UInt8) → Prop} {course : Course L}
  {given left rest : List (List UInt8)} {chunk : List UInt8}

namespace Underway

theorem turn_eq (underway : course.Underway holds given left) (now : Nat) :
    (course.loop.choose course.requests now).2.2.1 =
      .reading (Link.read course.loop.link now).answer := by
  rw [underway.idle]
  rfl

theorem proceed_of_finished (underway : course.Underway holds given []) {now : Nat}
    (answer : (Link.read course.loop.link now).answer = .finished) :
    (course.proceed (.quiet L now)).Through holds given := by
  obtain ⟨loop, -, turns⟩ := proceed_idle course underway.going underway.idle now
  rw [answer] at loop
  refine ⟨?_, by rw [loop]; rfl, course.loop.link, now, underway.link, by rw [loop]; rfl⟩
  rw [Delivered, turns, answer, List.filter_append, underway.turns]
  rfl

theorem proceed_of_waiting (underway : course.Underway holds given left) {now : Nat}
    (answer : (Link.read course.loop.link now).answer = .waiting)
    (holding : holds (Link.read course.loop.link now).link left) :
    (course.proceed (.quiet L now)).Underway holds given left ∧
      (course.proceed (.quiet L now)).loop.link = (Link.read course.loop.link now).link := by
  obtain ⟨loop, requests, turns⟩ := proceed_idle course underway.going underway.idle now
  rw [answer] at loop
  refine ⟨⟨?_, ?_, ?_, requests, ?_⟩, by rw [loop]; rfl⟩
  · rw [turns, answer, List.filter_append, underway.turns]
    exact List.append_nil _
  · rw [loop]
    exact holding
  · rw [loop]
    exact underway.going
  · rw [loop]
    exact underway.begun

theorem proceed_of_chunk (underway : course.Underway holds given (chunk :: rest)) {now : Nat}
    (answer : (Link.read course.loop.link now).answer = .chunk chunk)
    (taken : ∀ byte, (Link.write (Link.read course.loop.link now).link [byte]).answer = .ok () ∧
      holds (Link.write (Link.read course.loop.link now).link [byte]).link rest) :
    (course.proceed (.quiet L now)).Underway holds (given ++ [chunk]) rest := by
  obtain ⟨loop, requests, turns⟩ := proceed_idle course underway.going underway.idle now
  obtain ⟨acknowledged, holding⟩ := taken course.loop.ackByte
  obtain ⟨_, _, _, _, done⟩ := ReadLoop.exists_receive_chunk
    { course.loop with link := (Link.read course.loop.link now).link } chunk acknowledged
  rw [answer, done] at loop
  refine ⟨?_, ?_, ?_, requests, ?_⟩
  · rw [turns, answer, List.filter_append, underway.turns, List.map_append]
    rfl
  · rw [loop]
    exact holding
  · rw [loop]
    exact underway.going
  · rw [loop]
    exact underway.begun

end Underway

/-! ### One moment -/

/-- A run at a moment gets through with the stream, or it stops because the link wants to be woken
later. It then was given at least one chunk, unless the link was not ready at all. -/
theorem Underway.run (supplies : Link.Supplies holds) (underway : course.Underway holds given left)
    {fuel : Nat} (enough : left.length < fuel) (now : Nat) :
    ∃ count, let later := course.follow (List.replicate count (.quiet L now))
      course.Ran (course.loop.run fuel course.requests now) later ∧
        (later.Through holds (given ++ left) ∨
          ∃ more rest, left = more ++ rest ∧ later.Underway holds (given ++ more) rest ∧
            Link.Wakes later.loop.link ∧ (Link.Ready course.loop.link now → more ≠ [])) := by
  -- Every turn takes a chunk or stops the run, so the chunks that are left bound the fuel.
  induction fuel generalizing course given left with
  | zero => exact absurd enough (Nat.not_lt_zero _)
  | succ fuel inductionHypothesis =>
    have going : course.loop.ending?.isSome = false := by rw [underway.going]; rfl
    have turn := underway.turn_eq now
    cases left with
    | nil =>
      have answer := supplies.ends _ underway.link now
      have through := underway.proceed_of_finished answer
      refine ⟨1, ran_of_turn course going (by rw [turn, answer]; nofun) (ran_of_ended _ _ now ?_), .inl ?_⟩
      · rw [through.ending]
        rfl
      · rw [List.append_nil]
        exact through
    | cons chunk rest =>
      rcases supplies.gives _ _ _ underway.link now with
        ⟨answer, taken⟩ | ⟨answer, wakes, holding⟩
      · obtain ⟨count, ran, outcome⟩ := inductionHypothesis
          (underway.proceed_of_chunk answer taken) (Nat.lt_of_succ_lt_succ enough)
        refine ⟨count + 1, ran_of_turn course going (by rw [turn, answer]; nofun) ran, ?_⟩
        rcases outcome with through | ⟨more, last, rfl, later, wakes, -⟩
        · rw [List.append_assoc] at through
          exact .inl through
        · rw [List.append_assoc] at later
          exact .inr ⟨chunk :: more, last, rfl, later, wakes, fun _ => List.cons_ne_nil _ _⟩
      · obtain ⟨later, sameLink⟩ := underway.proceed_of_waiting answer holding
        refine ⟨1, ran_of_waiting course fuel now going (by rw [turn, answer]), .inr
          ⟨[], chunk :: rest, rfl, ?_, ?_, fun ready => absurd answer ready⟩⟩
        · rw [List.append_nil]
          exact later
        · rw [show (course.follow (List.replicate 1 (.quiet L now))).loop.link = _ from sameLink]
          exact wakes

end Course

/-! ### All moments -/

namespace Session

omit [Link L] in
/-- Passing on what a loop did does not depend on the loop. -/
theorem foldl_absorb_loop (session : Session L) (loop : ReadLoop L)
    (requests : ReadLoop.Requests) (effects : List Effect) :
    effects.foldl absorb { session with loop, requests } =
      { effects.foldl absorb session with loop, requests } := by
  induction effects generalizing session with
  | nil => rfl
  | cons effect rest inductionHypothesis =>
    have first : absorb { session with loop, requests } effect =
        { absorb session effect with loop, requests } := by
      cases effect <;> rfl
    rw [List.foldl_cons, first, inductionHypothesis]
    rfl

theorem settle_fst (session : Session L) (now : Nat) :
    let ran := session.loop.settle session.requests now
    (session.settle now).1 =
      { ran.2.2.foldl absorb session with loop := ran.1, requests := ran.2.1 } :=
  foldl_absorb_loop _ _ _ _

/-- A session that is settled follows the course that its loop runs. -/
theorem settle_session {course later : Course L} (link : L) (settings : Settings) {now : Nat}
    (begun : course.loop.started = true)
    (ran : course.Ran (course.loop.run (course.loop.enough course.requests) course.requests now)
      later) :
    ((course.session link settings).settle now).1 = later.session link settings := by
  have same : (course.session link settings).loop.settle
      (course.session link settings).requests now =
        course.loop.run (course.loop.enough course.requests) course.requests now :=
    Course.settle_of_started begun _ now
  obtain ⟨loop, requests, effects⟩ := ran
  rw [settle_fst, same, Course.session, Course.session, foldl_absorb_loop, loop, requests,
    effects, List.foldl_append]

/-- A session begins to run in the first settling. -/
theorem settle_attach (link : L) (settings : Settings) (now : Nat) :
    ((attach link settings).1.settle now).1 =
      (((Course.start link settings).session link settings).settle now).1 := rfl

theorem runOut_of_ended {session settled : Session L} {now : Nat} {ending : Ending}
    (settles : (session.settle now).1 = settled) (ended : settled.loop.ending? = some ending)
    (fuel : Nat) : (runOut (fuel + 1) session now).2.1 = settled := by
  subst settles
  simp only [runOut, ended]

theorem runOut_of_wake {session settled : Session L} {now moment : Nat}
    (settles : (session.settle now).1 = settled) (going : settled.loop.ending? = none)
    (wakes : Link.wakeAt? settled.loop.link = some moment) (fuel : Nat) :
    (runOut (fuel + 1) session now).2.1 = (runOut fuel settled (max now moment)).2.1 := by
  subst settles
  simp only [runOut, going, wakes]

/-- What a session comes to depends on nothing but what it settles to. -/
theorem runOut_congr {first second : Session L} {now : Nat}
    (same : (first.settle now).1 = (second.settle now).1) (fuel : Nat) :
    (runOut (fuel + 1) first now).2.1 = (runOut (fuel + 1) second now).2.1 := by
  simp only [runOut, same]
  split <;> rfl

variable {holds : L → List (List UInt8) → Prop}

/-- The session over a supply gets through with it, moment by moment. Being ready at the first
moment is worth one round of fuel. -/
theorem runOut_underway (supplies : Link.Supplies holds) (link : L) (settings : Settings)
    (fuel : Nat) {course : Course L} {given left : List (List UInt8)}
    (underway : course.Underway holds given left) {now : Nat}
    (enough : left.length + 1 < fuel ∨ left.length < fuel ∧ Link.Ready course.loop.link now) :
    ∃ moments : List Nat, let later := course.follow (moments.map (.quiet L))
      (runOut fuel (course.session link settings) now).2.1 = later.session link settings ∧
        later.Through holds (given ++ left) := by
  induction fuel generalizing course given left now with
  | zero => omega
  | succ fuel inductionHypothesis =>
    have bounded : left.length < course.loop.enough course.requests := by
      have bound := supplies.bounded _ _ underway.link
      rw [ReadLoop.enough]
      omega
    obtain ⟨count, ran, outcome⟩ := underway.run supplies bounded now
    have settled := settle_session link settings underway.begun ran
    have same : List.replicate count (Occasion.quiet L now) =
        (List.replicate count now).map (Occasion.quiet L) := List.map_replicate.symm
    rw [same] at outcome settled
    rcases outcome with through | ⟨more, rest, rfl, later, ⟨moment, wakes, ready⟩, progress⟩
    · exact ⟨List.replicate count now, runOut_of_ended settled through.ending fuel, through⟩
    · -- The first moment may come too early and cost a round; from the next one on, each takes one.
      have fewer : rest.length < fuel := by
        rw [List.length_append] at enough
        rcases enough with plenty | ⟨tight, readyNow⟩
        · omega
        · have some := List.length_pos_iff.mpr (progress readyNow)
          omega
      obtain ⟨moments, ended, through⟩ := inductionHypothesis later
        (.inr ⟨fewer, ready (max now moment) (Nat.le_max_right _ _)⟩)
      refine ⟨List.replicate count now ++ moments, ?_, ?_⟩
      · rw [List.map_append, Course.follow_append, ← ended]
        exact runOut_of_wake settled later.going wakes fuel
      · rw [List.map_append, Course.follow_append, ← List.append_assoc]
        exact through

/-- A session over a link that supplies chunks and waits for its end is given all of them, and
ends with the stream. -/
theorem waitForEnd_through (supplies : Link.Supplies holds) {link : L}
    {chunks : List (List UInt8)} (holding : holds link chunks) (settings : Settings)
    (now : Nat) :
    ∃ moments : List Nat, let course := (Course.start link settings).follow (moments.map (.quiet L))
      ((attach link settings).1.waitForEnd now).2.1 = course.session link settings ∧
        course.Through holds chunks := by
  have underway : (Course.start link settings).Underway holds [] chunks :=
    ⟨rfl, holding, rfl, rfl, rfl⟩
  have bound := supplies.bounded _ _ holding
  obtain ⟨moments, ended, through⟩ := runOut_underway supplies link settings
    (0 + Link.backlog link + 2) underway (.inl (by omega))
  refine ⟨moments, ?_, through⟩
  rw [← ended]
  exact runOut_congr (settle_attach link settings now) _

end Session

end PanelLink
