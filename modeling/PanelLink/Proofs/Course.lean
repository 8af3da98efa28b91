/-
This file puts a read loop among everything that goes on around it. Before each turn
the link may have changed by itself, the host may have asked for resets or for the
end, and time has passed; then the loop chooses its turn and makes it. A course is
what became of a loop after any number of such turns, together with the turns and
the effects so far. A loop that runs at a moment follows such a course turn by turn.
-/

import PanelLink.Session.ReadLoop

namespace PanelLink

/-! ### Courses -/

/-- What goes on around a loop before it makes a turn. -/
structure Occasion (L : Type) where
  /-- What the link has become by itself. -/
  link : L → L
  /-- The number of new requests for a reset. -/
  resets : Nat
  /-- Whether the host asked for the end. -/
  cancelled : Bool
  now : Nat

/-- Nothing goes on but time. -/
def Occasion.quiet (L : Type) (now : Nat) : Occasion L :=
  ⟨id, 0, false, now⟩

/-- A loop with the turns it made and everything it did to the outside. -/
structure Course (L : Type) where
  loop : ReadLoop L
  requests : ReadLoop.Requests := {}
  turns : List Turn := []
  effects : List Effect := []

namespace Course

variable {L : Type} [Link L]

/-- A loop that has begun to run and has made no turn. -/
def start (link : L) (settings : Settings) : Course L :=
  let (loop, effects) := (ReadLoop.start link settings).begin
  { loop, effects }

/-- The requests once more have been made. -/
def asked (requests : ReadLoop.Requests) (occasion : Occasion L) : ReadLoop.Requests :=
  { cancelled := requests.cancelled || occasion.cancelled
    resets := requests.resets + occasion.resets }

/-- Chooses a turn on an occasion and makes it; a loop that has ended makes none. -/
def proceed (course : Course L) (occasion : Occasion L) : Course L :=
  if course.loop.ending?.isSome then course
  else
    let loop := { course.loop with link := occasion.link course.loop.link }
    let (chosen, requests, turn, noted) :=
      loop.choose (asked course.requests occasion) occasion.now
    let (attended, done) := chosen.attend turn
    { loop := attended, requests, turns := course.turns ++ [turn],
      effects := course.effects ++ noted ++ done }

/-- Makes turns on occasions in order. -/
def follow (course : Course L) (occasions : List (Occasion L)) : Course L :=
  occasions.foldl proceed course

theorem follow_cons (course : Course L) (occasion : Occasion L) (rest : List (Occasion L)) :
    course.follow (occasion :: rest) = (course.proceed occasion).follow rest := rfl

theorem follow_append (course : Course L) (before after : List (Occasion L)) :
    course.follow (before ++ after) = (course.follow before).follow after :=
  List.foldl_append

theorem proceed_of_ended (course : Course L) (occasion : Occasion L)
    (ended : course.loop.ending?.isSome = true) : course.proceed occasion = course := by
  rw [proceed, if_pos ended]

/-- What a turn makes of a course whose loop has not ended. -/
theorem proceed_of_choice (course : Course L) {occasion : Occasion L} {chosen : ReadLoop L}
    {requests : ReadLoop.Requests} {turn : Turn} {noted : List Effect}
    (going : course.loop.ending? = none)
    (choice : ReadLoop.choose { course.loop with link := occasion.link course.loop.link }
      (asked course.requests occasion) occasion.now = (chosen, requests, turn, noted)) :
    course.proceed occasion =
      { loop := (chosen.attend turn).1, requests, turns := course.turns ++ [turn],
        effects := course.effects ++ noted ++ (chosen.attend turn).2 } := by
  have running : ¬ course.loop.ending?.isSome = true := by rw [going]; exact Bool.false_ne_true
  rw [proceed, if_neg running]
  simp only [choice]

/-- The turn that a quiet occasion leads to is the turn that the loop chooses as it is. -/
theorem proceed_quiet (course : Course L) (now : Nat)
    (going : course.loop.ending?.isSome = false) :
    course.proceed (.quiet L now) =
      let (chosen, requests, turn, noted) := course.loop.choose course.requests now
      let (attended, done) := chosen.attend turn
      { loop := attended, requests, turns := course.turns ++ [turn],
        effects := course.effects ++ noted ++ done } := by
  have same : asked course.requests (Occasion.quiet L now) = course.requests := by
    rw [asked, Occasion.quiet, Bool.or_false]
    rfl
  rw [proceed, going, same]
  rfl

/-! ### Running until nothing is left to do -/

/-- What a run of the loop gives is what a later course has come to. -/
structure Ran (course : Course L) (ran : ReadLoop L × ReadLoop.Requests × List Effect)
    (later : Course L) : Prop where
  loop : later.loop = ran.1
  requests : later.requests = ran.2.1
  effects : later.effects = course.effects ++ ran.2.2

theorem ran_of_ended (course : Course L) (fuel now : Nat)
    (ended : course.loop.ending?.isSome = true) :
    course.Ran (course.loop.run fuel course.requests now) course := by
  cases fuel with
  | zero => exact ⟨rfl, rfl, (List.append_nil _).symm⟩
  | succ fuel =>
    simp only [ReadLoop.run, ended, if_true]
    exact ⟨rfl, rfl, (List.append_nil _).symm⟩

theorem ran_of_waiting (course : Course L) (fuel now : Nat)
    (going : course.loop.ending?.isSome = false)
    (waits : (course.loop.choose course.requests now).2.2.1 = .reading .waiting) :
    course.Ran (course.loop.run (fuel + 1) course.requests now)
      (course.proceed (.quiet L now)) := by
  simp only [ReadLoop.run, going, Bool.false_eq_true, if_false, if_pos waits,
    proceed_quiet course now going]
  exact ⟨rfl, rfl, List.append_assoc _ _ _⟩

theorem ran_of_turn (course : Course L) {fuel now : Nat} {later : Course L}
    (going : course.loop.ending?.isSome = false)
    (moves : (course.loop.choose course.requests now).2.2.1 ≠ .reading .waiting)
    (ran : let next := course.proceed (.quiet L now)
      next.Ran (next.loop.run fuel next.requests now) later) :
    course.Ran (course.loop.run (fuel + 1) course.requests now) later := by
  obtain ⟨loop, requests, effects⟩ := ran
  simp only [proceed_quiet course now going] at loop requests effects
  simp only [ReadLoop.run, going, Bool.false_eq_true, if_false, if_neg moves]
  exact ⟨loop, requests, by rw [effects]; simp only [List.append_assoc]⟩

/-- To settle a loop that has begun is to run it with enough fuel. -/
theorem settle_of_started {loop : ReadLoop L} (begun : loop.started = true)
    (requests : ReadLoop.Requests) (now : Nat) :
    loop.settle requests now = loop.run (loop.enough requests) requests now := by
  have same : loop.begin = (loop, []) := by rw [ReadLoop.begin, if_pos begun]
  simp only [ReadLoop.settle, same]
  rfl

end Course

end PanelLink
