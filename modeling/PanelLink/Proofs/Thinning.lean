/-
This file proves what a throttle lets through, whatever its source answers and whenever the
throttle is asked. It passes on items in their order and none of them twice, and each is the
newest one that the source has given by then. An item that is not passed on waits, or a
newer one was taken, and no tick was granted while it was the newest. A source that ends is
not asked again. Its last item is passed on once, and the throttle finishes after that and
not before.
-/

import Mathlib.Data.List.Nodup
import PanelLink.Proofs.Throttling

namespace PanelLink.Timing

open Answer

variable {Item : Type} [Timer]

namespace Throttling

/-! ### The end of the source -/

section Source

variable (period start : Nat) (source : List (Answer Item)) (moments : List Nat)

theorem given_append_coming :
    (after period start source moments).given ++ (after period start source moments).coming =
      source := by
  induction moments using List.reverseRecOn with
  | nil => rfl
  | append_singleton before now inductionHypothesis =>
    rw [after_concat, ask_eq]
    generalize after period start source before = run at inductionHypothesis
    show (run.given ++ run.throttle.asked run.coming) ++ (run.throttle.drain run.coming).2 = source
    rw [List.append_assoc, ← (run.throttle.takes_drain run.coming).1]
    exact inductionHypothesis

/-- Every request takes a pause from the source, until there is none left to take. -/
theorem ended_or_paused :
    let run := after period start source moments
    .finished ∈ run.given ∨ run.coming = [] ∨ run.given.countP isPending = moments.length := by
  intro run
  induction moments using List.reverseRecOn with
  | nil => exact .inr (.inr rfl)
  | append_singleton before now inductionHypothesis =>
    have sound := sound_after period start source before
    obtain ⟨parted, -⟩ := (after period start source before).throttle.takes_drain
      (after period start source before).coming
    rw [show run = _ from after_concat period start source before now, ask_eq]
    generalize after period start source before = earlier at *
    show _ ∈ earlier.given ++ earlier.throttle.asked earlier.coming ∨
      (earlier.throttle.drain earlier.coming).2 = [] ∨
      (earlier.given ++ earlier.throttle.asked earlier.coming).countP isPending = _
    rcases inductionHypothesis with ended | exhausted | paused
    · exact .inl (List.mem_append_left _ ended)
    · rw [exhausted] at parted ⊢
      exact .inr (.inl (List.append_eq_nil_iff.mp parted.symm).2)
    · by_cases ended : earlier.throttle.ended = true
      · exact .inl (List.mem_append_left _ (sound.ended.mp ended))
      · rw [Throttle.asked, if_neg ended] at parted ⊢
        rcases ready_ends earlier.coming with ends | pause | all
        · exact .inl (List.mem_append_right _ ends)
        · refine .inr (.inr ?_)
          rw [List.countP_append, paused, pause, List.length_append]
          rfl
        · rw [all] at parted
          exact .inr (.inl (List.append_right_eq_self.mp parted.symm))

variable {source moments} in
/-- A source that ends has ended after one request more than it pauses, and it is not asked for
anything behind its end. -/
theorem given_of_ended {front back : List (Answer Item)}
    (ends : source = front ++ .finished :: back) (first : .finished ∉ front)
    (enough : front.countP isPending < moments.length) :
    (after period start source moments).given = front ++ [.finished] := by
  have parted := given_append_coming period start source moments
  have last := (sound_after period start source moments).last
  have paused := ended_or_paused period start source moments
  generalize after period start source moments = run at parted last paused
  rw [ends] at parted
  rcases List.append_eq_append_iff.mp parted with ⟨more, whole, left⟩ | ⟨more, whole, left⟩
  · -- The source has not been asked for its end, so it has paused too often.
    rcases paused with ended | exhausted | counted
    · exact absurd (whole ▸ List.mem_append_left _ ended) first
    · rw [exhausted] at left
      cases (List.append_eq_nil_iff.mp left.symm).2
    · have fewer : run.given.countP isPending ≤ front.countP isPending := by
        rw [whole, List.countP_append]
        exact Nat.le_add_right _ _
      omega
  · cases more with
    | nil =>
      rw [List.append_nil] at whole
      rcases paused with ended | exhausted | counted
      · exact absurd (whole ▸ ended) first
      · rw [exhausted] at left
        cases left
      · rw [whole] at counted
        omega
    | cons answer rest =>
      obtain ⟨rfl, -⟩ := List.cons.inj left
      cases rest with
      | nil => exact whole
      | cons next rest =>
        rw [whole, List.dropLast_append_cons, List.dropLast_cons_cons] at last
        exact absurd (List.mem_append_right _ List.mem_cons_self) last

end Source

variable {run : Throttling Item}

theorem inquiries_foldl (run : Throttling Item) (moments : List Nat) :
    run.inquiries <+: (moments.foldl Throttling.ask run).inquiries := by
  induction moments generalizing run with
  | nil => exact List.prefix_rfl
  | cons now rest inductionHypothesis =>
    exact (List.prefix_append ..).trans (inductionHypothesis (run.ask now))

/-- A throttle finishes when the source has ended and its newest item had been passed on before. -/
theorem Sound.finished_iff (sound : run.Sound) (now : Nat) :
    (run.throttle.poll now run.coming).2.1 = .finished ↔
      .finished ∈ (run.ask now).given ∧
        ∀ number, number + 1 = (run.ask now).known.length → number ∈ run.numbers := by
  have drained := sound.drain
  rw [ask_eq]
  show (run.drain.throttle.emit now).2 = .finished ↔
    .finished ∈ run.drain.given ∧ run.drain.Spent
  have given := run.drain.throttle.gives_emit now
  generalize run.drain.throttle.emit now = emitted at given
  -- What waits has not been passed on, so something waits unless the newest item was.
  have waits (value : Item) (waits : run.drain.throttle.waiting = some value) :
      ¬ run.drain.Spent := by
    intro spent
    obtain ⟨last, older⟩ := drained.held value waits
    have some' : 0 < run.drain.known.length :=
      List.length_pos_iff.mpr fun none => by rw [none] at last; cases last
    have := older _ (spent (run.drain.known.length - 1) (by omega))
    omega
  rw [← drained.ended]
  cases given with
  | passed found ticked => exact iff_of_false nofun fun done => waits _ found done.2
  | held found early => exact iff_of_false nofun fun done => waits _ found done.2
  | finished empty ended => exact iff_of_true rfl ⟨ended, drained.spent empty⟩
  | idle empty going => exact iff_of_false nofun fun done => by rw [going] at done; cases done.1

/-- Whatever a source answers, whenever a throttle over it is asked, and whenever its ticks are
granted: the source is not asked again after its end. The items that are passed on have ascending
numbers, and each is the newest known one at its request. An item that is not passed on waits, or a
newer one is known, and no tick was granted at a request while it was the newest. The throttle
finishes exactly when the source has ended and nothing waits. If the source ends, it has done so
after one request more than it pauses, and from the first request on for which a tick is granted
then, its last item has been passed on exactly once. -/
theorem passed_after (period start : Nat) (source : List (Answer Item)) (moments : List Nat) :
    let run := after period start source moments
    source = run.given ++ run.coming ∧ .finished ∉ run.given.dropLast ∧
      run.numbers.Pairwise (· < ·) ∧
      run.passed.map some = run.numbers.map (run.known[·]?) ∧
      (∀ inquiry ∈ run.inquiries, inquiry.known <+: run.known ∧
        ∀ value, inquiry.answer = .item value → inquiry.known.getLast? = some value) ∧
      (∀ number < run.known.length, number ∉ run.numbers →
        (number + 1 < run.known.length ∨ run.throttle.waiting = run.known[number]?) ∧
          ∀ inquiry ∈ run.inquiries, inquiry.known.length = number + 1 →
            inquiry.now < inquiry.due) ∧
      (∀ now, (run.throttle.poll now run.coming).2.1 = .finished ↔
        .finished ∈ (run.ask now).given ∧
          ∀ number, number + 1 = (run.ask now).known.length → number ∈ run.numbers) ∧
      ∀ front back, source = front ++ .finished :: back → .finished ∉ front →
        front.countP isPending < moments.length →
          ∃ due, ∀ now later, due ≤ now →
            let final := after period start source (moments ++ now :: later)
            final.given = front ++ [.finished] ∧
              ∀ number, number + 1 = (items front).length → final.numbers.count number = 1 := by
  intro run
  have sound : run.Sound := sound_after period start source moments
  refine ⟨(given_append_coming ..).symm, sound.last, sound.ordered, sound.passed,
    fun inquiry member => ⟨(sound.inquiries inquiry member).earlier,
      (sound.inquiries inquiry member).newest⟩,
    fun number inside absent => ⟨?_, fun inquiry member newest => ?_⟩, sound.finished_iff,
    fun front back ends first enough => ⟨run.throttle.ticker.grantedFrom,
      fun now later reached => ?_⟩⟩
  · rcases Nat.lt_or_eq_of_le inside with older | newest
    · exact .inl older
    · refine .inr ?_
      cases waits : run.throttle.waiting with
      | none => exact absurd (sound.spent waits number newest) absent
      | some value =>
        rw [← (sound.held value waits).1, List.getLast?_eq_getElem?, ← newest]
        rfl
  · refine Nat.not_le.mp fun granted => absent ?_
    exact (sound.inquiries inquiry member).granted granted number newest.symm
  · intro final
    have done : final.Sound := sound_after period start source _
    have given : final.given = front ++ [.finished] :=
      given_of_ended period start ends first (by rw [List.length_append]; omega)
    have earlier : (run.ask now).given = front ++ [.finished] := by
      rw [show run.ask now = _ from (after_concat period start source moments now).symm]
      exact given_of_ended period start ends first (by rw [List.length_append]; omega)
    refine ⟨given, fun number newest => ?_⟩
    have unique : final.numbers.Nodup := done.ordered.imp Nat.ne_of_lt
    refine List.count_eq_one_of_mem unique ?_
    have same : final = later.foldl Throttling.ask (run.ask now) := by
      show (moments ++ now :: later).foldl _ _ = _
      rw [List.foldl_append]
      rfl
    have asked := (inquiries_foldl (run.ask now) later).subset
      (List.mem_append_right _ (List.mem_singleton_self _))
    refine (done.inquiries _ (same ▸ asked)).granted reached number ?_
    show number + 1 = (run.ask now).known.length
    rw [Throttling.known, earlier, items_append, newest]
    exact (congrArg List.length (List.append_nil _)).symm

end Throttling

end PanelLink.Timing
