/-
This file proves that a sentinel wipes out what a decoder has been through. What came
before moves the frame numbers and the counts by fixed amounts, and nothing else of it
reaches past the sentinel: two decoders with any histories answer every later byte alike,
and end in the same phase with the same bytes pending.

The proof takes a decoder apart into a decoder that starts to count at zero and the
amounts by which it is ahead. Being ahead commutes with every byte, and right after a
sentinel two decoders differ in nothing but those amounts.
-/

import Mathlib.Data.List.Forall2
import Mathlib.Data.List.ReduceOption
import PanelLink.Proofs.Feeding

namespace PanelLink.Frame

/-! ### What an outcome says -/

/-- What an outcome says besides the number of its frame: the payload, or the reason and the
raw bytes. -/
def Outcome.content : Outcome → Except (Reason × List UInt8) Payload
  | .ok command => .ok command.payload
  | .error rejection => .error (rejection.reason, rejection.raw)

/-- The same outcome for a frame that comes a number of frames later. -/
def Outcome.later (frames : Nat) : Outcome → Outcome
  | .ok command => .ok { command with frameId := frames + command.frameId }
  | .error rejection => .error { rejection with frameId := frames + rejection.frameId }

theorem content_later (frames : Nat) (outcome : Outcome) :
    Outcome.content (outcome.later frames) = Outcome.content outcome := by
  cases outcome <;> rfl

theorem frameId_later (frames : Nat) (outcome : Outcome) :
    Outcome.frameId (outcome.later frames) = frames + Outcome.frameId outcome := by
  cases outcome <;> rfl

theorem read_later (frames frameId : Nat) (body : List UInt8) :
    read (frames + frameId) body = (read frameId body).later frames := by
  unfold read
  split <;> rfl

/-- Two answers to the same byte that differ at most in the number of the frame, and there by a
constant. -/
def Alike (offset : Int) : Option Outcome → Option Outcome → Prop :=
  Option.Rel fun outcome other =>
    Outcome.content outcome = Outcome.content other ∧
      (Outcome.frameId outcome : Int) = Outcome.frameId other + offset

/-- An answer put some frames later is like the same answer put some other frames later. -/
theorem alike_later (frames others : Nat) (answer : Option Outcome) :
    Alike (frames - others) (answer.map (Outcome.later frames))
      (answer.map (Outcome.later others)) := by
  cases answer with
  | none => exact .none
  | some outcome =>
    refine .some ⟨?_, ?_⟩
    · rw [content_later, content_later]
    · rw [frameId_later, frameId_later]
      omega

/-- Both counts together. -/
def Tally.plus (first second : Tally) : Tally :=
  ⟨first.decoded + second.decoded, first.rejected + second.rejected,
    first.discarded + second.discarded⟩

namespace Decoder

/-! ### Answers byte by byte -/

/-- What the decoder answers to each of the bytes, in their places. -/
def answers (decoder : Decoder) : List UInt8 → List (Option Outcome)
  | [] => []
  | byte :: rest => (decoder.feedByte byte).2 :: (decoder.feedByte byte).1.answers rest

/-- The outcomes of a chunk are the answers to its bytes. -/
theorem reduceOption_answers (decoder : Decoder) (bytes : List UInt8) :
    (decoder.answers bytes).reduceOption = (decoder.feed bytes).2 := by
  induction bytes generalizing decoder with
  | nil => rfl
  | cons byte rest inductionHypothesis =>
    rw [answers, feed_cons, ← inductionHypothesis]
    cases (decoder.feedByte byte).2 with
    | none => exact List.reduceOption_cons_of_none _
    | some outcome => exact List.reduceOption_cons_of_some outcome _

/-! ### Being ahead -/

/-- The decoder with a number of frames, and counts, of its past put before its own. -/
def ahead (decoder : Decoder) (frames : Nat) (counted : Tally) : Decoder :=
  { decoder with nextId := frames + decoder.nextId, tally := counted.plus decoder.tally }

variable (decoder : Decoder) (frames : Nat) (counted : Tally)

theorem record_ahead (outcome : Outcome) :
    (decoder.ahead frames counted).record (outcome.later frames) =
      (decoder.record outcome).ahead frames counted := by
  cases outcome <;> rfl

theorem closeOpen_ahead :
    (decoder.ahead frames counted).closeOpen =
      (decoder.closeOpen.1.ahead frames counted,
        decoder.closeOpen.2.map (Outcome.later frames)) := by
  have sameFrame : (decoder.ahead frames counted).hasOpenFrame = decoder.hasOpenFrame := rfl
  have closing : (decoder.ahead frames counted).closing = decoder.closing.later frames :=
    read_later frames decoder.nextId decoder.pending
  unfold closeOpen
  rw [sameFrame, closing, record_ahead]
  split <;> rfl

theorem extend_ahead (byte : UInt8) :
    (decoder.ahead frames counted).extend byte =
      ((decoder.extend byte).1.ahead frames counted,
        (decoder.extend byte).2.map (Outcome.later frames)) := by
  have closing : read (frames + decoder.nextId) (decoder.pending ++ [byte]) =
      (read decoder.nextId (decoder.pending ++ [byte])).later frames := read_later _ _ _
  have samePending : (decoder.ahead frames counted).pending = decoder.pending := rfl
  simp only [extend, samePending]
  by_cases complete : isComplete (decoder.pending ++ [byte]) = true
  · simp only [if_pos complete, Decoder.closing]
    rw [show (decoder.ahead frames counted).nextId = frames + decoder.nextId from rfl, closing]
    cases read decoder.nextId (decoder.pending ++ [byte]) <;> rfl
  · simp only [if_neg complete]
    split <;> rfl

/-- What a decoder does with a byte does not depend on how far ahead it is. -/
theorem feedByte_ahead (byte : UInt8) :
    (decoder.ahead frames counted).feedByte byte =
      ((decoder.feedByte byte).1.ahead frames counted,
        (decoder.feedByte byte).2.map (Outcome.later frames)) := by
  by_cases same : byte = sentinel
  · simp only [feedByte, if_pos same, closeOpen_ahead]
    rfl
  · have samePhase : (decoder.ahead frames counted).phase = decoder.phase := rfl
    simp only [feedByte, if_neg same, samePhase]
    cases decoder.phase with
    | idle => rfl
    | buffering => exact extend_ahead decoder frames counted byte

/-- What a decoder does with any bytes does not depend on how far ahead it is. -/
theorem feed_ahead (bytes : List UInt8) :
    ((decoder.ahead frames counted).feed bytes).1 =
        (decoder.feed bytes).1.ahead frames counted ∧
      (decoder.ahead frames counted).answers bytes =
        (decoder.answers bytes).map (Option.map (Outcome.later frames)) := by
  induction bytes generalizing decoder with
  | nil => exact ⟨rfl, rfl⟩
  | cons byte rest inductionHypothesis =>
    obtain ⟨ended, answered⟩ := inductionHypothesis (decoder.feedByte byte).1
    rw [feed_cons, feed_cons, answers, feedByte_ahead, ended, answered]
    exact ⟨rfl, rfl⟩

/-! ### After a sentinel -/

/-- Right after a sentinel a decoder is a fresh one in an empty frame, and ahead. -/
theorem feedByte_sentinel_ahead :
    (decoder.feedByte sentinel).1 =
      (fresh.opened []).ahead decoder.flush.1.nextId decoder.flush.1.tally := by
  rw [feedByte_sentinel]
  rfl

/-- A sentinel, like a flush, reports a frame if and only if one was open. -/
theorem feedByte_sentinel_isSome :
    (decoder.feedByte sentinel).2.isSome = true ↔
      decoder.phase = .buffering ∧ decoder.pending ≠ [] := by
  have isOpen : decoder.hasOpenFrame = true ↔
      decoder.phase = .buffering ∧ decoder.pending ≠ [] := by
    simp [hasOpenFrame]
  rw [← isOpen, feedByte_sentinel, flush, closeOpen]
  cases decoder.hasOpenFrame <;> simp

/-- A sentinel and what follows it is fed to a fresh decoder in an empty frame, which is ahead. -/
theorem feed_from_sentinel (rest : List UInt8) :
    (decoder.feed (sentinel :: rest)).1 =
        ((fresh.opened []).feed rest).1.ahead decoder.flush.1.nextId decoder.flush.1.tally ∧
      (decoder.answers (sentinel :: rest)).tail =
        ((fresh.opened []).answers rest).map
          (Option.map (Outcome.later decoder.flush.1.nextId)) := by
  have fed := feed_ahead (fresh.opened []) decoder.flush.1.nextId decoder.flush.1.tally rest
  rw [← feedByte_sentinel_ahead] at fed
  exact fed

/-- Whatever two decoders have been through, bytes that start with a sentinel are answered
alike from the second byte on: the same outcomes in the same places, with frame numbers that
differ by one constant. The first byte is answered by exactly those decoders that had begun a
frame. From there on both count the same, and they end in the same phase with the same bytes
pending. -/
theorem answers_realign (first second : Decoder) (rest : List UInt8) :
    let bytes := sentinel :: rest
    let opened (decoder : Decoder) := (decoder.feed [sentinel]).1
    let ended (decoder : Decoder) := (decoder.feed bytes).1
    (∀ decoder ∈ [first, second],
      (decoder.answers bytes).reduceOption = (decoder.feed bytes).2 ∧
        ((∃ outcome, (decoder.answers bytes).head? = some (some outcome)) ↔
          decoder.phase = .buffering ∧ decoder.pending ≠ [])) ∧
      List.Forall₂ (Alike ((opened first).nextId - (opened second).nextId))
        (first.answers bytes).tail (second.answers bytes).tail ∧
      (∃ counted : Tally, ∀ decoder ∈ [first, second],
        (ended decoder).tally = (opened decoder).tally.plus counted) ∧
      (ended first).phase = (ended second).phase ∧
      (ended first).pending = (ended second).pending := by
  intro bytes opened ended
  refine ⟨fun decoder _ => ⟨reduceOption_answers decoder bytes, ?_⟩, ?_, ?_, ?_⟩
  · rw [← feedByte_sentinel_isSome, Option.isSome_iff_exists]
    exact exists_congr fun outcome => Option.some_inj
  · rw [(feed_from_sentinel first rest).2, (feed_from_sentinel second rest).2,
      List.forall₂_map_left_iff, List.forall₂_map_right_iff, List.forall₂_same]
    exact fun answer _ => alike_later _ _ answer
  · refine ⟨((fresh.opened []).feed rest).1.tally, fun decoder _ => ?_⟩
    rw [show ended decoder = _ from (feed_from_sentinel decoder rest).1]
    rfl
  · rw [show ended first = _ from (feed_from_sentinel first rest).1,
      show ended second = _ from (feed_from_sentinel second rest).1]
    exact ⟨rfl, rfl⟩

end Decoder

end PanelLink.Frame
