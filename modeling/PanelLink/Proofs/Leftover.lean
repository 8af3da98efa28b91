/-
This file says what is left in the buffer of an idle decoder. A flush, a reset and a frame
that outgrows the limit empty the buffer. A frame that ends by its declared length does not:
its body stays behind, counts as pending although no frame is open, and is reported as
dropped by a reset. It goes away with the next sentinel, flush or reset.

So what an idle decoder holds can be read off its input alone. The proof takes chunks and
single bytes alike, as bytes one after the other, and keeps track of where the buffer comes
from in both phases.
-/

import Mathlib.Data.List.Induction
import PanelLink.Proofs.Bookkeeping

namespace PanelLink.Frame.Decoder

/-! ### Signals -/

/-- What reaches a decoder, in the smallest pieces. -/
inductive Signal where
  | byte (byte : UInt8)
  | flush
  | reset
  deriving DecidableEq, Repr

def Request.signals : Request → List Signal
  | .feed chunk => chunk.map .byte
  | .feedByte byte => [.byte byte]
  | .flush => [.flush]
  | .reset => [.reset]

def take (decoder : Decoder) : Signal → Decoder
  | .byte byte => (decoder.feedByte byte).1
  | .flush => decoder.flush.1
  | .reset => decoder.reset

def takeAll (decoder : Decoder) (signals : List Signal) : Decoder :=
  signals.foldl take decoder

theorem takeAll_append (decoder : Decoder) (front back : List Signal) :
    decoder.takeAll (front ++ back) = (decoder.takeAll front).takeAll back :=
  List.foldl_append

theorem takeAll_bytes (decoder : Decoder) (bytes : List UInt8) :
    decoder.takeAll (bytes.map .byte) = (decoder.feed bytes).1 := by
  induction bytes generalizing decoder with
  | nil => rfl
  | cons byte rest inductionHypothesis => exact inductionHypothesis (decoder.feedByte byte).1

theorem takeAll_signals (decoder : Decoder) (request : Request) :
    decoder.takeAll request.signals = (decoder.handle request).1 := by
  cases request with
  | feed chunk => exact takeAll_bytes decoder chunk
  | feedByte byte => rfl
  | flush => rfl
  | reset => rfl

/-- A decoder does not notice how its bytes are put into requests. -/
theorem takeAll_requests (decoder : Decoder) (requests : List Request) :
    decoder.takeAll (requests.flatMap Request.signals) = (decoder.handleAll requests).1 := by
  induction requests generalizing decoder with
  | nil => rfl
  | cons request rest inductionHypothesis =>
    rw [List.flatMap_cons, takeAll_append, takeAll_signals, inductionHypothesis]
    rfl

/-! ### What stays behind -/

/-- Signals end with a sentinel and the given bytes after it, none of which is a sentinel. -/
def EndIn (signals : List Signal) (bytes : List UInt8) : Prop :=
  sentinel ∉ bytes ∧ ∃ before, signals = before ++ (sentinel :: bytes).map .byte

/-- The last frame that signals began has ended by its declared length, with the given body;
since then there was nothing but bytes that belong to no frame. -/
def Leave (signals : List Signal) (body : List UInt8) : Prop :=
  isComplete body = true ∧ ∃ noise, EndIn signals (body ++ noise)

theorem EndIn.concat {signals : List Signal} {bytes : List UInt8} (ends : EndIn signals bytes)
    {byte : UInt8} (other : byte ≠ sentinel) :
    EndIn (signals ++ [.byte byte]) (bytes ++ [byte]) := by
  obtain ⟨quiet, before, rfl⟩ := ends
  refine ⟨?_, before, ?_⟩
  · rw [List.mem_append, not_or, List.mem_singleton]
    exact ⟨quiet, Ne.symm other⟩
  · rw [← List.cons_append, List.map_append, List.append_assoc]
    rfl

theorem Leave.concat {signals : List Signal} {body : List UInt8} (leaves : Leave signals body)
    {byte : UInt8} (other : byte ≠ sentinel) : Leave (signals ++ [.byte byte]) body := by
  obtain ⟨complete, noise, ends⟩ := leaves
  refine ⟨complete, noise ++ [byte], ?_⟩
  rw [← List.append_assoc]
  exact ends.concat other

/-- A body that has ended by its declared length is not empty. -/
theorem Leave.ne_nil {signals : List Signal} {body : List UInt8} (leaves : Leave signals body) :
    body ≠ [] := by
  rintro rfl
  cases leaves.1

/-- The body is still there after the noise, and the decoder waits for a sentinel. -/
theorem takeAll_of_leave (decoder : Decoder) {signals : List Signal} {body : List UInt8}
    (leaves : Leave signals body) :
    (decoder.takeAll signals).phase = .idle ∧ (decoder.takeAll signals).pending = body := by
  obtain ⟨complete, noise, quiet, before, rfl⟩ := leaves
  rw [isComplete, Bool.and_eq_true, bne_iff_ne, beq_iff_eq] at complete
  rw [List.mem_append, not_or] at quiet
  rw [takeAll_append, takeAll_bytes, feed_cons, feedByte_sentinel, feed_append,
    feed_of_finished _ body quiet.1 complete.1 complete.2, feed_of_idle _ rfl noise quiet.2]
  exact ⟨rfl, rfl⟩

/-! ### Where the buffer comes from -/

/-- While a decoder buffers, it holds what came since the last sentinel; while it is idle, it
holds nothing or the body that stayed behind. -/
def Traces (signals : List Signal) (decoder : Decoder) : Prop :=
  match decoder.phase with
  | .buffering => EndIn signals decoder.pending
  | .idle => decoder.pending = [] ∨ Leave signals decoder.pending

theorem traces_emptied {signals : List Signal} {decoder : Decoder} (idle : decoder.phase = .idle)
    (empty : decoder.pending = []) : Traces signals decoder := by
  rw [Traces, idle]
  exact .inl empty

theorem traces_extend {signals : List Signal} {decoder : Decoder}
    (buffering : decoder.phase = .buffering) (ends : EndIn signals decoder.pending) {byte : UInt8}
    (other : byte ≠ sentinel) : Traces (signals ++ [.byte byte]) (decoder.extend byte).1 := by
  have longer := ends.concat other
  simp only [extend]
  split
  · rename_i complete
    exact .inr ⟨complete, [], by rw [List.append_nil]; exact longer⟩
  · split
    · exact traces_emptied rfl rfl
    · simp only [Traces, buffering]
      exact longer

theorem traces_take {signals : List Signal} {decoder : Decoder} (traces : Traces signals decoder)
    (signal : Signal) : Traces (signals ++ [signal]) (decoder.take signal) := by
  cases signal with
  | flush => exact traces_emptied rfl rfl
  | reset => exact traces_emptied rfl rfl
  | byte byte =>
    by_cases same : byte = sentinel
    · rw [same, take, feedByte_sentinel]
      exact ⟨List.not_mem_nil, signals, rfl⟩
    · cases phase : decoder.phase with
      | idle =>
        rw [Traces, phase] at traces
        rw [take, feedByte_of_idle decoder phase byte same, Traces]
        simp only [dropped, phase]
        exact traces.imp_right fun leaves => leaves.concat same
      | buffering =>
        rw [Traces, phase] at traces
        have fed : decoder.feedByte byte = decoder.extend byte := by
          simp only [feedByte, if_neg same, phase]
        rw [take, fed]
        exact traces_extend phase traces same

theorem traces_takeAll (signals : List Signal) : Traces signals (fresh.takeAll signals) := by
  induction signals using List.reverseRecOn with
  | nil => exact traces_emptied rfl rfl
  | append_singleton front signal inductionHypothesis =>
    rw [takeAll_append]
    exact traces_take inductionHypothesis signal

/-! ### An idle decoder -/

/-- The bytes in an idle decoder, whatever its host asked of it, are exactly the body of a frame
that ended by its declared length and has not been followed by a sentinel, a flush or a reset. If
there is no such frame an idle decoder holds nothing; if there is one, a reset reports that it
drops the body. -/
theorem idle_holds_iff (requests : List Request) :
    let decoder := (fresh.handleAll requests).1
    let signals := requests.flatMap Request.signals
    (∀ body, decoder.phase = .idle ∧ decoder.pending = body ∧ body ≠ [] ↔ Leave signals body) ∧
      (decoder.phase = .idle → (decoder.resetEntries = [] ↔ ¬ ∃ body, Leave signals body)) := by
  intro decoder signals
  have reached : fresh.takeAll signals = decoder := takeAll_requests fresh requests
  have held (body : List UInt8) :
      decoder.phase = .idle ∧ decoder.pending = body ∧ body ≠ [] ↔ Leave signals body := by
    constructor
    · rintro ⟨idle, rfl, some⟩
      have traces := traces_takeAll signals
      rw [reached, Traces, idle] at traces
      exact traces.resolve_left some
    · intro leaves
      obtain ⟨idle, holds⟩ := takeAll_of_leave fresh leaves
      rw [reached] at idle holds
      exact ⟨idle, holds, leaves.ne_nil⟩
  refine ⟨held, fun idle => ?_⟩
  have silent : decoder.resetEntries = [] ↔ decoder.pending = [] := by
    rw [resetEntries]
    cases decoder.pending <;> simp
  rw [silent]
  constructor
  · rintro empty ⟨body, leaves⟩
    obtain ⟨-, holds, some⟩ := (held body).mpr leaves
    exact some (holds.symm.trans empty)
  · intro none
    by_contra some
    exact none ⟨decoder.pending, (held decoder.pending).mp ⟨idle, rfl, some⟩⟩

/-- A frame that ends by its declared length leaves the decoder idle with the whole body pending,
and a reset then reports that it drops these bytes. -/
theorem idle_holds_ended_frame :
    let decoder := (fresh.handleAll [.feed [0x23, 76, 13, 1, 2]]).1
    decoder.phase = .idle ∧ decoder.pending = [76, 13, 1, 2] ∧
      decoder.resetEntries = [⟨.debug, "Decoder reset, discarding 4 pending bytes"⟩] := by
  decide

end PanelLink.Frame.Decoder
