/-
This file follows a throttle that is asked again and again. Its source is known by the
answers that it will give, one for each time it is asked, and there may be more of them
after its end. A throttle that is asked takes them up to the first that is no item, unless
it has taken the end before. Then the newest item waits, and it is passed on with the next
tick that is granted. The timer that grants it may be any.

The items are numbered as the source gives them. What holds after every request is that the
item that waits has the number of the newest one, which is greater than the numbers of those
that were passed on, and that the newest item has been passed on if none waits. A request
keeps this in two steps, one for what it takes and one for what it gives.
-/

import Mathlib.Data.List.Induction
import PanelLink.Timing.Throttle

namespace PanelLink.Timing

variable {Item : Type}

/-! ### What a throttle takes -/

namespace Answer

/-- The items among answers. -/
def items (answers : List (Answer Item)) : List Item :=
  answers.filterMap item?

def isPending : Answer Item → Bool
  | pending => true
  | item _ | finished => false

/-- The answers of a source up to the first that is no item, and that one. -/
def ready : List (Answer Item) → List (Answer Item)
  | [] => []
  | item value :: rest => item value :: ready rest
  | pending :: _ => [pending]
  | finished :: _ => [finished]

theorem items_append (front back : List (Answer Item)) :
    items (front ++ back) = items front ++ items back :=
  List.filterMap_append

/-- Nothing is ready behind the end of a source. -/
theorem finished_notMem_dropLast_ready (source : List (Answer Item)) :
    .finished ∉ (ready source).dropLast := by
  induction source with
  | nil => exact List.not_mem_nil
  | cons answer rest inductionHypothesis =>
    cases answer with
    | pending | finished => exact List.not_mem_nil
    | item value =>
      rw [ready]
      cases known : ready rest with
      | nil => exact List.not_mem_nil
      | cons next later =>
        rw [known] at inductionHypothesis
        rw [List.dropLast_cons_cons]
        exact fun member => (List.mem_cons.mp member).elim nofun inductionHypothesis

/-- What is ready ends with the source or with a pause, unless nothing is left of the source. -/
theorem ready_ends (source : List (Answer Item)) :
    .finished ∈ ready source ∨ (ready source).countP isPending = 1 ∨ ready source = source := by
  induction source with
  | nil => exact .inr (.inr rfl)
  | cons answer rest inductionHypothesis =>
    cases answer with
    | pending => exact .inr (.inl rfl)
    | finished => exact .inl List.mem_cons_self
    | item value =>
      rcases inductionHypothesis with ends | paused | all
      · exact .inl (List.mem_cons_of_mem _ ends)
      · exact .inr (.inl ((List.countP_cons_of_neg Bool.false_ne_true).trans paused))
      · exact .inr (.inr (congrArg _ all))

end Answer

open Answer

namespace Throttle

/-- How a throttle changes that takes answers. -/
structure Takes (throttle taken : Throttle Item) (given : List (Answer Item)) : Prop where
  ticker : taken.ticker = throttle.ticker
  /-- The newest item waits. -/
  waiting : taken.waiting = (items given).getLast?.or throttle.waiting
  ended : taken.ended = true ↔ throttle.ended = true ∨ .finished ∈ given

/-- What a throttle asks its source for: all that is ready, unless the source has ended. -/
def asked (throttle : Throttle Item) (source : List (Answer Item)) : List (Answer Item) :=
  if throttle.ended then [] else ready source

theorem takes_take (throttle : Throttle Item) (source : List (Answer Item)) :
    source = ready source ++ (throttle.take source).2 ∧
      throttle.Takes (throttle.take source).1 (ready source) := by
  induction source generalizing throttle with
  | nil => exact ⟨rfl, rfl, rfl, by simp [ready, take]⟩
  | cons answer rest inductionHypothesis =>
    cases answer with
    | pending => exact ⟨rfl, rfl, rfl, by simp [ready, take]⟩
    | finished => exact ⟨rfl, rfl, rfl, by simp [ready, take]⟩
    | item value =>
      obtain ⟨parted, takes⟩ := inductionHypothesis { throttle with waiting := some value }
      refine ⟨congrArg _ parted, takes.ticker, ?_, ?_⟩
      · refine takes.waiting.trans ?_
        show _ = (value :: items (ready rest)).getLast?.or throttle.waiting
        rw [List.getLast?_cons]
        cases (items (ready rest)).getLast? <;> rfl
      · refine takes.ended.trans (or_congr_right ?_)
        rw [ready, List.mem_cons]
        exact ⟨.inr, fun member => member.resolve_left nofun⟩

theorem takes_drain (throttle : Throttle Item) (source : List (Answer Item)) :
    source = throttle.asked source ++ (throttle.drain source).2 ∧
      throttle.Takes (throttle.drain source).1 (throttle.asked source) := by
  rw [asked, drain]
  split
  · rename_i ended
    exact ⟨rfl, rfl, rfl, by simp⟩
  · exact takes_take throttle source

/-! ### What a throttle gives -/

variable [Timer]

/-- What comes of an item that waits, if there is one, when the throttle is asked. -/
inductive Gives (drained : Throttle Item) (now : Nat) : Throttle Item × Answer Item → Prop where
  /-- The item is passed on with a tick. -/
  | passed {value : Item} {ticker : Ticker} (waits : drained.waiting = some value)
    (ticked : drained.ticker.tick? now = some ticker) :
    Gives drained now ({ drained with ticker, waiting := none }, .item value)
  /-- The item has to wait for a tick. -/
  | held {value : Item} (waits : drained.waiting = some value)
    (early : now < drained.ticker.grantedFrom) : Gives drained now (drained, .pending)
  | finished (empty : drained.waiting = none) (ended : drained.ended = true) :
    Gives drained now (drained, .finished)
  | idle (empty : drained.waiting = none) (going : drained.ended = false) :
    Gives drained now (drained, .pending)

theorem gives_emit (drained : Throttle Item) (now : Nat) :
    drained.Gives now (drained.emit now) := by
  rw [emit]
  cases waits : drained.waiting with
  | none =>
    cases ended : drained.ended with
    | true => exact .finished waits ended
    | false => exact .idle waits ended
  | some value =>
    dsimp only
    cases ticked : drained.ticker.tick? now with
    | some ticker => exact .passed waits ticked
    | none =>
      refine .held waits (Nat.not_le.mp fun granted => ?_)
      rw [Ticker.tick?, if_pos granted] at ticked
      cases ticked

end Throttle

/-! ### Runs -/

/-- One request to a throttle. -/
structure Inquiry (Item : Type) where
  now : Nat
  /-- The moment from which on a tick was granted. -/
  due : Nat
  /-- The items that the source had given by then. -/
  known : List Item
  answer : Answer Item

/-- The number of the item that was passed on. It is the last of the known ones. -/
def Inquiry.number? (inquiry : Inquiry Item) : Option Nat :=
  inquiry.answer.item?.map fun _ => inquiry.known.length - 1

/-- A request passes on nothing but the newest known item, and with a tick that item is passed on at
the latest. -/
structure Inquiry.Fits (inquiry : Inquiry Item) (known : List Item) (numbers : List Nat) :
    Prop where
  earlier : inquiry.known <+: known
  newest : ∀ value, inquiry.answer = .item value → inquiry.known.getLast? = some value
  granted : inquiry.due ≤ inquiry.now →
    ∀ number, number + 1 = inquiry.known.length → number ∈ numbers

theorem Inquiry.Fits.mono {inquiry : Inquiry Item} {known more : List Item}
    {numbers others : List Nat} (fits : inquiry.Fits known numbers) (longer : known <+: more)
    (wider : numbers ⊆ others) : inquiry.Fits more others :=
  ⟨fits.earlier.trans longer, fits.newest,
    fun reached number newest => wider (fits.granted reached number newest)⟩

/-- A throttle, what its source has been asked for and what it has not, and the requests so far. -/
structure Throttling (Item : Type) where
  throttle : Throttle Item
  given : List (Answer Item) := []
  coming : List (Answer Item)
  inquiries : List (Inquiry Item) := []

namespace Throttling

variable [Timer]

def ask (run : Throttling Item) (now : Nat) : Throttling Item :=
  let (throttle, answer, coming) := run.throttle.poll now run.coming
  let given := run.given ++ run.coming.take (run.coming.length - coming.length)
  { throttle, given, coming,
    inquiries := run.inquiries ++ [⟨now, run.throttle.ticker.grantedFrom, items given, answer⟩] }

/-- A throttle that was started on a source and asked at moments in order. -/
def after (period start : Nat) (source : List (Answer Item)) (moments : List Nat) :
    Throttling Item :=
  moments.foldl ask { throttle := .start period start, coming := source }

/-- The items that the source has given. -/
def known (run : Throttling Item) : List Item :=
  items run.given

/-- The items that were passed on. -/
def passed (run : Throttling Item) : List Item :=
  run.inquiries.filterMap fun inquiry => inquiry.answer.item?

/-- The numbers of the items that were passed on. -/
def numbers (run : Throttling Item) : List Nat :=
  run.inquiries.filterMap Inquiry.number?

theorem after_concat (period start : Nat) (source : List (Answer Item)) (moments : List Nat)
    (now : Nat) :
    after period start source (moments ++ [now]) = (after period start source moments).ask now :=
  List.foldl_append ..

/-- A request that has taken what is ready. -/
def drain (run : Throttling Item) : Throttling Item :=
  { run with
    throttle := (run.throttle.drain run.coming).1
    given := run.given ++ run.throttle.asked run.coming
    coming := (run.throttle.drain run.coming).2 }

/-- Keeps the record of a request. -/
def record (run : Throttling Item) (throttle : Throttle Item) (now : Nat) (answer : Answer Item) :
    Throttling Item :=
  { run with
    throttle
    inquiries := run.inquiries ++ [⟨now, run.throttle.ticker.grantedFrom, run.known, answer⟩] }

/-- A request takes what is ready and gives out what it can. -/
theorem ask_eq (run : Throttling Item) (now : Nat) :
    let emitted := run.drain.throttle.emit now
    run.ask now = run.drain.record emitted.1 now emitted.2 := by
  intro emitted
  obtain ⟨parted, takes⟩ := run.throttle.takes_drain run.coming
  have counted : run.coming.take (run.coming.length - run.drain.coming.length) =
      run.throttle.asked run.coming := by
    rw [congrArg List.length parted, List.length_append]
    show run.coming.take (_ + run.drain.coming.length - run.drain.coming.length) = _
    rw [Nat.add_sub_cancel]
    exact (congrArg _ parted).trans List.take_left
  have due : run.throttle.ticker.grantedFrom = run.drain.throttle.ticker.grantedFrom :=
    congrArg Ticker.grantedFrom takes.ticker.symm
  rw [record, known, show run.drain.given = run.given ++ run.throttle.asked run.coming from rfl,
    ← counted, ← due]
  rfl

/-! ### What holds of a run -/

/-- The newest item that the source has given has been passed on, if there is one. -/
def Spent (run : Throttling Item) : Prop :=
  ∀ number, number + 1 = run.known.length → number ∈ run.numbers

structure Sound (run : Throttling Item) : Prop where
  ended : run.throttle.ended = true ↔ .finished ∈ run.given
  last : .finished ∉ run.given.dropLast
  /-- The item that waits is the newest one, and has not been passed on. -/
  held : ∀ value, run.throttle.waiting = some value →
    run.known.getLast? = some value ∧ ∀ number ∈ run.numbers, number + 1 < run.known.length
  spent : run.throttle.waiting = none → run.Spent
  within : ∀ number ∈ run.numbers, number < run.known.length
  ordered : run.numbers.Pairwise (· < ·)
  passed : run.passed.map some = run.numbers.map (run.known[·]?)
  inquiries : ∀ inquiry ∈ run.inquiries, inquiry.Fits run.known run.numbers

omit [Timer] in
theorem sound_start (period start : Nat) (source : List (Answer Item)) :
    Sound { throttle := .start period start, coming := source } where
  ended := iff_of_false Bool.false_ne_true List.not_mem_nil
  last := List.not_mem_nil
  held _ waits := nomatch waits
  spent _ _ known := nomatch known
  within _ member := nomatch member
  ordered := .nil
  passed := rfl
  inquiries _ member := nomatch member

variable {run : Throttling Item}

omit [Timer] in
theorem known_drain (run : Throttling Item) :
    run.drain.known = run.known ++ items (run.throttle.asked run.coming) :=
  items_append ..

omit [Timer] in
/-- A source that has ended is not asked again. -/
theorem Sound.last_drain (sound : run.Sound) : .finished ∉ run.drain.given.dropLast := by
  show .finished ∉ (run.given ++ run.throttle.asked run.coming).dropLast
  rw [Throttle.asked]
  split
  · rw [List.append_nil]
    exact sound.last
  · rename_i going
    have open' : .finished ∉ run.given := fun member => going (sound.ended.mpr member)
    rw [List.dropLast_append]
    split
    · exact sound.last
    · rw [List.mem_append]
      exact not_or.mpr ⟨open', finished_notMem_dropLast_ready run.coming⟩

omit [Timer] in
/-- Taking what is ready leaves everything sound. -/
theorem Sound.drain (sound : run.Sound) : run.drain.Sound := by
  obtain ⟨-, takes⟩ := run.throttle.takes_drain run.coming
  have waiting : run.drain.throttle.waiting = _ := takes.waiting
  have known := known_drain run
  have kept : run.known <+: run.drain.known := known ▸ List.prefix_append ..
  refine ⟨?_, sound.last_drain, fun value waits => ?_, fun empty => ?_, fun number member => ?_,
    sound.ordered, ?_, fun inquiry member =>
      (sound.inquiries inquiry member).mono kept (List.Subset.refl _)⟩
  · rw [show run.drain.given = run.given ++ run.throttle.asked run.coming from rfl,
      List.mem_append, ← sound.ended]
    exact takes.ended
  · rw [waiting] at waits
    rw [known]
    cases newest : (items (run.throttle.asked run.coming)).getLast? with
    | none =>
      rw [newest] at waits
      rw [List.getLast?_eq_none_iff.mp newest, List.append_nil]
      exact sound.held value waits
    | some last =>
      rw [newest] at waits
      have some' : 0 < (items (run.throttle.asked run.coming)).length :=
        List.length_pos_iff.mpr fun none => by rw [none] at newest; cases newest
      refine ⟨?_, fun number member => ?_⟩
      · rw [List.getLast?_append, newest]
        exact waits
      · have inside := sound.within number member
        rw [List.length_append]
        omega
  · rw [waiting, Option.or_eq_none_iff] at empty
    intro number newest
    rw [known, List.getLast?_eq_none_iff.mp empty.1, List.append_nil] at newest
    exact sound.spent empty.2 number newest
  · exact Nat.lt_of_lt_of_le (sound.within number member) kept.length_le
  · refine sound.passed.trans (List.map_congr_left fun number member => ?_)
    rw [known, List.getElem?_append_left (sound.within number member)]

/-- A request that passes nothing on. -/
theorem Sound.silent (sound : run.Sound) {now : Nat} {answer : Answer Item}
    (silent : answer.item? = none) (spent : run.throttle.ticker.grantedFrom ≤ now → run.Spent) :
    (run.record run.throttle now answer).Sound := by
  have numbers : (run.record run.throttle now answer).numbers = run.numbers := by
    simp [Throttling.numbers, record, Inquiry.number?, silent]
  have passed : (run.record run.throttle now answer).passed = run.passed := by
    simp [Throttling.passed, record, silent]
  refine ⟨sound.ended, sound.last, ?_, ?_, ?_, ?_, ?_, ?_⟩
  · rw [numbers]
    exact sound.held
  · rw [Spent, numbers]
    exact sound.spent
  · rw [numbers]
    exact sound.within
  · rw [numbers]
    exact sound.ordered
  · rw [numbers, passed]
    exact sound.passed
  · rw [numbers]
    intro inquiry member
    rcases List.mem_append.mp member with before | last
    · exact sound.inquiries inquiry before
    · rw [List.mem_singleton.mp last]
      refine ⟨List.prefix_rfl, fun value given => ?_, spent⟩
      rw [show answer = .item value from given] at silent
      cases silent

/-- A request that passes the newest item on. -/
theorem Sound.pass (sound : run.Sound) {value : Item} (waits : run.throttle.waiting = some value)
    (ticker : Ticker) (now : Nat) :
    (run.record { run.throttle with ticker, waiting := none } now (.item value)).Sound := by
  obtain ⟨last, older⟩ := sound.held value waits
  obtain ⟨newest, length⟩ : ∃ newest, run.known.length = newest + 1 :=
    Nat.exists_eq_add_one.mpr (List.length_pos_iff.mpr fun none => by rw [none] at last; cases last)
  rw [length] at older
  generalize given : run.record { run.throttle with ticker, waiting := none } now (.item value) =
    next
  have same : next.known = run.known := given ▸ rfl
  have numbers : next.numbers = run.numbers ++ [newest] := by
    rw [← given]
    simp [Throttling.numbers, record, Inquiry.number?, item?, length]
  have passed : next.passed = run.passed ++ [value] := by
    rw [← given]
    simp [Throttling.passed, record, item?]
  have inquiries : next.inquiries = run.inquiries ++
      [⟨now, run.throttle.ticker.grantedFrom, run.known, .item value⟩] := given ▸ rfl
  have spent : next.Spent := fun number isNewest => by
    rw [same, length] at isNewest
    rw [numbers, Nat.succ.inj isNewest]
    exact List.mem_append_right _ (List.mem_singleton_self _)
  refine ⟨given ▸ sound.ended, given ▸ sound.last, ?_, fun _ => spent, ?_, ?_, ?_, ?_⟩
  · rw [← given]
    nofun
  · rw [same, numbers]
    intro number member
    rcases List.mem_append.mp member with before | isNewest
    · exact sound.within number before
    · rw [List.mem_singleton.mp isNewest, length]
      exact Nat.lt_succ_self newest
  · rw [numbers]
    refine List.pairwise_append.mpr ⟨sound.ordered, List.pairwise_singleton .., ?_⟩
    intro number member other isNewest
    rw [List.mem_singleton.mp isNewest]
    exact Nat.lt_of_succ_lt_succ (older number member)
  · rw [numbers, passed, same, List.map_append, List.map_append, sound.passed,
      List.map_singleton, List.map_singleton, ← last, List.getLast?_eq_getElem?, length,
      Nat.add_sub_cancel]
  · rw [inquiries]
    intro inquiry member
    rcases List.mem_append.mp member with before | isLast
    · refine (sound.inquiries inquiry before).mono (same ▸ List.prefix_rfl) ?_
      rw [numbers]
      exact List.subset_append_left ..
    · rw [List.mem_singleton.mp isLast]
      refine ⟨same ▸ List.prefix_rfl, fun other answered => ?_, fun _ => same ▸ spent⟩
      cases answered
      exact last

theorem Sound.ask (sound : run.Sound) (now : Nat) : (run.ask now).Sound := by
  have drained := sound.drain
  have given := run.drain.throttle.gives_emit now
  rw [ask_eq]
  generalize run.drain.throttle.emit now = emitted at given
  cases given with
  | passed waits ticked => exact drained.pass waits _ now
  | held waits early =>
    exact drained.silent rfl fun reached => absurd reached (Nat.not_le.mpr early)
  | finished empty ended => exact drained.silent rfl fun _ => drained.spent empty
  | idle empty going => exact drained.silent rfl fun _ => drained.spent empty

theorem sound_after (period start : Nat) (source : List (Answer Item)) (moments : List Nat) :
    (after period start source moments).Sound := by
  induction moments using List.reverseRecOn with
  | nil => exact sound_start period start source
  | append_singleton before now inductionHypothesis =>
    rw [after_concat]
    exact inductionHypothesis.ask now

end Throttling

end PanelLink.Timing
