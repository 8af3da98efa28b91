/-
This file follows the decoder along its input. The cuts between chunks leave no
trace, and a sentinel does what a flush does and opens a new frame, so the input
falls apart into the stretches between its sentinels. Along one stretch the decoder
buffers as long as the bytes are an unfinished body, ends the frame at the first
byte that makes them a finished one, and drops what is left.
-/

import PanelLink.Frame.Decoder

namespace PanelLink.Frame

/-- The number of the frame that an outcome is about. -/
def Outcome.frameId : Outcome → Nat
  | .ok command => command.frameId
  | .error rejection => rejection.frameId

theorem frameId_read (frameId : Nat) (body : List UInt8) :
    Outcome.frameId (read frameId body) = frameId := by
  unfold read
  split <;> rfl

namespace Decoder

/-! ### Chunks -/

/-- Takes chunks one after the other and returns the outcomes of all of them, in order. -/
def feedChunks (decoder : Decoder) : List (List UInt8) → Decoder × List Outcome
  | [] => (decoder, [])
  | chunk :: rest =>
    let (next, outcomes) := decoder.feed chunk
    let (last, more) := next.feedChunks rest
    (last, outcomes ++ more)

@[simp] theorem feed_nil (decoder : Decoder) : decoder.feed [] = (decoder, []) := rfl

theorem feed_cons (decoder : Decoder) (byte : UInt8) (rest : List UInt8) :
    decoder.feed (byte :: rest) =
      (((decoder.feedByte byte).1.feed rest).1,
        (decoder.feedByte byte).2.toList ++ ((decoder.feedByte byte).1.feed rest).2) := rfl

theorem feed_append (decoder : Decoder) (front back : List UInt8) :
    decoder.feed (front ++ back) =
      (((decoder.feed front).1.feed back).1,
        (decoder.feed front).2 ++ ((decoder.feed front).1.feed back).2) := by
  induction front generalizing decoder with
  | nil => rfl
  | cons byte rest inductionHypothesis =>
    rw [List.cons_append, feed_cons, feed_cons, inductionHypothesis]
    simp only [List.append_assoc]

/-- The cuts between chunks leave no trace. -/
theorem feedChunks_eq_feed_flatten (decoder : Decoder) (chunks : List (List UInt8)) :
    decoder.feedChunks chunks = decoder.feed chunks.flatten := by
  induction chunks generalizing decoder with
  | nil => rfl
  | cons chunk rest inductionHypothesis =>
    show (((decoder.feed chunk).1.feedChunks rest).1,
      (decoder.feed chunk).2 ++ ((decoder.feed chunk).1.feedChunks rest).2) = _
    rw [inductionHypothesis, List.flatten_cons, feed_append]

/-! ### Sentinels -/

/-- The decoder in the middle of a frame, with the given bytes of its body. -/
def opened (decoder : Decoder) (body : List UInt8) : Decoder :=
  { decoder with phase := .buffering, pending := body }

/-- The decoder after some bytes that belong to no frame. -/
def dropped (decoder : Decoder) (count : Nat) : Decoder :=
  { decoder with
    tally := { decoder.tally with discarded := decoder.tally.discarded + count } }

/-- A sentinel ends the open frame as a flush does, and opens the next one. -/
theorem feedByte_sentinel (decoder : Decoder) :
    decoder.feedByte sentinel = (decoder.flush.1.opened [], decoder.flush.2) := by
  simp only [feedByte, if_true, flush, opened]

theorem feedByte_opened (decoder : Decoder) (body : List UInt8) (byte : UInt8)
    (other : byte ≠ sentinel) :
    (decoder.opened body).feedByte byte = (decoder.opened body).extend byte := by
  simp only [feedByte, if_neg other]
  rfl

theorem flush_of_not_open (decoder : Decoder) (closed : decoder.hasOpenFrame = false) :
    decoder.flush = (decoder.reset, none) := by
  simp [flush, closeOpen, closed, reset]

theorem flush_opened (decoder : Decoder) (body : List UInt8) (nonempty : body ≠ []) :
    (decoder.opened body).flush =
      ((decoder.record (read decoder.nextId body)).reset, some (read decoder.nextId body)) := by
  have isOpen : (decoder.opened body).hasOpenFrame = true := by
    simp [hasOpenFrame, opened, nonempty]
  simp only [flush, closeOpen, isOpen, if_true]
  rfl

/-! ### Bytes that belong to no frame -/

theorem feedByte_of_idle (decoder : Decoder) (idle : decoder.phase = .idle) (byte : UInt8)
    (other : byte ≠ sentinel) : decoder.feedByte byte = (decoder.dropped 1, none) := by
  simp only [feedByte, if_neg other, idle]
  rfl

theorem dropped_dropped (decoder : Decoder) (first second : Nat) :
    (decoder.dropped first).dropped second = decoder.dropped (first + second) := by
  simp only [dropped, Nat.add_assoc]

/-- An idle decoder drops everything up to the next sentinel. -/
theorem feed_of_idle (decoder : Decoder) (idle : decoder.phase = .idle) (noise : List UInt8)
    (quiet : sentinel ∉ noise) : decoder.feed noise = (decoder.dropped noise.length, []) := by
  induction noise generalizing decoder with
  | nil => rfl
  | cons byte rest inductionHypothesis =>
    rw [List.mem_cons, not_or] at quiet
    rw [feed_cons, feedByte_of_idle decoder idle byte (Ne.symm quiet.1),
      inductionHypothesis (decoder.dropped 1) idle quiet.2, dropped_dropped, List.length_cons,
      Nat.add_comm 1]
    rfl

/-! ### Unfinished bodies -/

/-- A body to which another byte may still belong: it holds no sentinel, is within the limit
and has not reached the end that it declares. -/
structure Unfinished (body : List UInt8) : Prop where
  quiet : sentinel ∉ body
  short : body.length ≤ bodyLimit
  pending : declared body = 0 ∨ body.length < declared body + headerLength

theorem declared_append (body more : List UInt8) (known : headerLength ≤ body.length) :
    declared (body ++ more) = declared body := by
  have inside : 2 < body.length := known
  rw [declared, declared, List.getElem?_append_left inside]

theorem declared_of_short (body : List UInt8) (unknown : body.length < headerLength) :
    declared body = 0 := by
  have outside : body.length ≤ 2 := Nat.le_of_lt_succ unknown
  rw [declared, List.getElem?_eq_none outside]
  rfl

/-- Whatever an unfinished body starts with is unfinished as well. -/
theorem Unfinished.left {body more : List UInt8} (unfinished : Unfinished (body ++ more)) :
    Unfinished body := by
  have length : (body ++ more).length = body.length + more.length := List.length_append
  refine ⟨fun member => unfinished.quiet (List.mem_append_left more member), ?_, ?_⟩
  · exact Nat.le_trans (length ▸ Nat.le_add_right _ _) unfinished.short
  · by_cases known : headerLength ≤ body.length
    · have pending := unfinished.pending
      rw [declared_append body more known] at pending
      omega
    · exact Or.inl (declared_of_short body (Nat.lt_of_not_le known))

theorem isComplete_eq_false {body : List UInt8} (unfinished : Unfinished body) :
    isComplete body = false := by
  simp only [isComplete, Bool.and_eq_false_iff, bne_eq_false_iff_eq, beq_eq_false_iff_ne]
  rcases unfinished.pending with unknown | before
  · exact Or.inl unknown
  · exact Or.inr (Nat.ne_of_lt before)

/-! ### Bytes that belong to a frame -/

/-- The refusal of a frame that outgrew the limit, by its number and the bytes collected. -/
def outgrown (frameId : Nat) (body : List UInt8) : Outcome :=
  .error ⟨frameId, .oversized bodyLimit, body.take headerLength⟩

/-- What one more byte does: it finishes the body, outgrows the limit, or is buffered. -/
theorem extend_opened (decoder : Decoder) (body : List UInt8) (byte : UInt8) :
    (decoder.opened body).extend byte =
      if isComplete (body ++ [byte]) then
        ({ (decoder.record (read decoder.nextId (body ++ [byte]))) with
            phase := .idle, pending := body ++ [byte] },
          some (read decoder.nextId (body ++ [byte])))
      else if bodyLimit < (body ++ [byte]).length then
        ((decoder.record (outgrown decoder.nextId (body ++ [byte]))).reset,
          some (outgrown decoder.nextId (body ++ [byte])))
      else (decoder.opened (body ++ [byte]), none) := rfl

/-- Along an unfinished body the decoder does nothing but buffer. -/
theorem feed_of_unfinished (decoder : Decoder) (body more : List UInt8)
    (unfinished : Unfinished (body ++ more)) :
    (decoder.opened body).feed more = (decoder.opened (body ++ more), []) := by
  induction more generalizing body with
  | nil => rw [List.append_nil, feed_nil]
  | cons byte rest inductionHypothesis =>
    rw [List.append_cons] at unfinished ⊢
    have longer : Unfinished (body ++ [byte]) := unfinished.left
    have other : byte ≠ sentinel := fun same => longer.quiet (by simp [same])
    rw [feed_cons, feedByte_opened decoder body byte other, extend_opened,
      isComplete_eq_false longer, if_neg Bool.false_ne_true,
      if_neg (Nat.not_lt.mpr longer.short), inductionHypothesis (body ++ [byte]) unfinished]
    rfl

/-- Along a body that only its last byte may end, the decoder buffers up to that byte. -/
theorem feed_of_last (decoder : Decoder) (front : List UInt8) (last : UInt8)
    (unfinished : Unfinished front) (other : last ≠ sentinel) :
    (decoder.opened []).feed (front ++ [last]) =
      (((decoder.opened front).extend last).1,
        ((decoder.opened front).extend last).2.toList) := by
  rw [feed_append, feed_of_unfinished decoder [] front unfinished, List.nil_append, feed_cons,
    feedByte_opened decoder front last other, feed_nil, List.append_nil, List.nil_append]

theorem declared_le (body : List UInt8) : declared body ≤ 255 :=
  Nat.le_of_lt_succ (UInt8.toNat_lt _)

/-- Without its last byte a body that is finished, or just too long, is unfinished. -/
theorem Unfinished.of_concat {front : List UInt8} {last : UInt8}
    (quiet : sentinel ∉ front ++ [last]) (short : front.length ≤ bodyLimit)
    (reaches : declared (front ++ [last]) = 0 ∨
      (front ++ [last]).length ≤ declared (front ++ [last]) + headerLength) :
    Unfinished front := by
  refine ⟨fun member => quiet (List.mem_append_left _ member), short, ?_⟩
  rw [List.length_append, List.length_singleton] at reaches
  by_cases known : headerLength ≤ front.length
  · rw [declared_append front [last] known] at reaches
    omega
  · exact Or.inl (declared_of_short front (Nat.lt_of_not_le known))

/-- The byte that finishes a body ends the frame; the body stays in the buffer. -/
theorem feed_of_finished (decoder : Decoder) (body : List UInt8) (quiet : sentinel ∉ body)
    (declares : declared body ≠ 0) (finished : body.length = declared body + headerLength) :
    (decoder.opened []).feed body =
      ({ (decoder.record (read decoder.nextId body)) with phase := .idle, pending := body },
        [read decoder.nextId body]) := by
  rcases List.eq_nil_or_concat body with rfl | ⟨front, last, rfl⟩
  · exact absurd rfl declares
  · rw [List.concat_eq_append] at *
    have other : last ≠ sentinel := fun same => quiet (by simp [same])
    have bound := declared_le (front ++ [last])
    have short : front.length ≤ bodyLimit := by
      rw [List.length_append, List.length_singleton] at finished
      show front.length ≤ headerLength + 255
      omega
    have complete : isComplete (front ++ [last]) = true := by
      rw [isComplete, bne_iff_ne.mpr declares, beq_iff_eq.mpr finished, Bool.true_and]
    rw [feed_of_last decoder front last (.of_concat quiet short (Or.inr (Nat.le_of_eq finished))) other,
      extend_opened, if_pos complete]
    rfl

/-- The byte that takes a body without a declared length past the limit ends the frame. -/
theorem feed_of_outgrown (decoder : Decoder) (body : List UInt8) (quiet : sentinel ∉ body)
    (silent : declared body = 0) (long : body.length = bodyLimit + 1) :
    (decoder.opened []).feed body =
      ((decoder.record (outgrown decoder.nextId body)).reset,
        [outgrown decoder.nextId body]) := by
  rcases List.eq_nil_or_concat body with rfl | ⟨front, last, rfl⟩
  · exact absurd long (by decide)
  · rw [List.concat_eq_append] at *
    have other : last ≠ sentinel := fun same => quiet (by simp [same])
    have short : front.length ≤ bodyLimit := by
      rw [List.length_append, List.length_singleton] at long
      omega
    have incomplete : ¬ isComplete (front ++ [last]) = true := by simp [isComplete, silent]
    have past : bodyLimit < (front ++ [last]).length := by omega
    rw [feed_of_last decoder front last (.of_concat quiet short (Or.inl silent)) other,
      extend_opened, if_neg incomplete, if_pos past]
    rfl

/-! ### Counting -/

/-- Counts the outcomes of several frames. -/
def recordAll (decoder : Decoder) (outcomes : List Outcome) : Decoder :=
  outcomes.foldl record decoder

theorem recordAll_append (decoder : Decoder) (first second : List Outcome) :
    decoder.recordAll (first ++ second) = (decoder.recordAll first).recordAll second :=
  List.foldl_append

theorem record_dropped (decoder : Decoder) (count : Nat) (outcome : Outcome) :
    (decoder.dropped count).record outcome = (decoder.record outcome).dropped count := by
  cases outcome <;> rfl

theorem recordAll_dropped (decoder : Decoder) (count : Nat) (outcomes : List Outcome) :
    (decoder.dropped count).recordAll outcomes = (decoder.recordAll outcomes).dropped count := by
  induction outcomes generalizing decoder with
  | nil => rfl
  | cons outcome rest inductionHypothesis =>
    show ((decoder.dropped count).record outcome).recordAll rest = _
    rw [record_dropped, inductionHypothesis]
    rfl

/-- Every outcome takes one number and is counted on its side. -/
theorem recordAll_eq (decoder : Decoder) (outcomes : List Outcome) :
    decoder.recordAll outcomes =
      { decoder with
        nextId := decoder.nextId + outcomes.length
        tally :=
          { decoded := decoder.tally.decoded + outcomes.countP fun outcome => outcome.isOk
            rejected := decoder.tally.rejected + outcomes.countP fun outcome => !outcome.isOk
            discarded := decoder.tally.discarded } } := by
  induction outcomes generalizing decoder with
  | nil => rfl
  | cons outcome rest inductionHypothesis =>
    show (decoder.record outcome).recordAll rest = _
    rw [inductionHypothesis]
    cases outcome <;>
      simp [record, Except.isOk, Except.toBool, Nat.add_assoc, Nat.add_comm 1]

/-- An outcome, if there is one, has the next number of a decoder, which is then taken. -/
structure Numbers (decoder : Decoder) (result : Decoder × Option Outcome) : Prop where
  frameIds : result.2.toList.map Outcome.frameId =
    List.range' decoder.nextId result.2.toList.length
  next : result.1.nextId = decoder.nextId + result.2.toList.length

theorem closeOpen_numbers (decoder : Decoder) : decoder.Numbers decoder.closeOpen := by
  unfold closeOpen
  split
  · exact ⟨congrArg (fun frameId => [frameId]) (frameId_read _ _), rfl⟩
  · exact ⟨rfl, rfl⟩

theorem extend_numbers (decoder : Decoder) (byte : UInt8) :
    decoder.Numbers (decoder.extend byte) := by
  simp only [extend]
  split
  · exact ⟨congrArg (fun frameId => [frameId]) (frameId_read _ _), rfl⟩
  · split
    · exact ⟨rfl, rfl⟩
    · exact ⟨rfl, rfl⟩

theorem feedByte_numbers (decoder : Decoder) (byte : UInt8) :
    decoder.Numbers (decoder.feedByte byte) := by
  by_cases same : byte = sentinel
  · rw [feedByte, if_pos same]
    exact ⟨(closeOpen_numbers decoder).frameIds, (closeOpen_numbers decoder).next⟩
  · rw [feedByte, if_neg same]
    cases decoder.phase with
    | idle => exact ⟨rfl, rfl⟩
    | buffering => exact extend_numbers decoder byte

/-- The frames of a chunk are numbered through, from the next number of the decoder on. -/
theorem feed_numbers (decoder : Decoder) (bytes : List UInt8) :
    (decoder.feed bytes).2.map Outcome.frameId =
      List.range' decoder.nextId (decoder.feed bytes).2.length := by
  induction bytes generalizing decoder with
  | nil => rfl
  | cons byte rest inductionHypothesis =>
    have numbers := feedByte_numbers decoder byte
    rw [feed_cons]
    simp only [List.map_append, List.length_append]
    rw [numbers.frameIds, inductionHypothesis, numbers.next, List.range'_append_1]

/-! ### Feeding to the end -/

/-- Takes bytes and then ends the open frame, as at the end of a recording. -/
def drain (decoder : Decoder) (bytes : List UInt8) : Decoder × List Outcome :=
  let (fed, outcomes) := decoder.feed bytes
  let (ended, last) := fed.flush
  (ended, outcomes ++ last.toList)

theorem drain_of_feed {decoder fed : Decoder} {bytes : List UInt8} {outcomes : List Outcome}
    (step : decoder.feed bytes = (fed, outcomes)) :
    decoder.drain bytes = (fed.flush.1, outcomes ++ fed.flush.2.toList) := by
  rw [drain, step]

/-- A sentinel parts the input: what is before it is drained, and the rest starts with an
empty body. -/
theorem drain_append_sentinel (decoder : Decoder) (front rest : List UInt8) :
    decoder.drain (front ++ sentinel :: rest) =
      ((((decoder.drain front).1.opened []).drain rest).1,
        (decoder.drain front).2 ++ (((decoder.drain front).1.opened []).drain rest).2) := by
  simp only [drain, feed_append, feed_cons, feedByte_sentinel, List.append_assoc]

/-- Before the first sentinel a waiting decoder reports nothing and counts what it drops. -/
theorem drain_of_idle (decoder : Decoder) (idle : decoder.phase = .idle) (noise : List UInt8)
    (quiet : sentinel ∉ noise) :
    decoder.drain noise = ((decoder.dropped noise.length).reset, []) := by
  have closed : (decoder.dropped noise.length).hasOpenFrame = false := by
    simp [hasOpenFrame, dropped, idle]
  rw [drain_of_feed (feed_of_idle decoder idle noise quiet), flush_of_not_open _ closed]
  rfl

/-- An unfinished body is read as far as it goes, unless it is empty. -/
theorem drain_of_unfinished (decoder : Decoder) (body : List UInt8) (nonempty : body ≠ [])
    (unfinished : Unfinished body) :
    (decoder.opened []).drain body =
      ((decoder.record (read decoder.nextId body)).reset, [read decoder.nextId body]) := by
  rw [drain_of_feed (feed_of_unfinished decoder [] body unfinished), List.nil_append,
    flush_opened decoder body nonempty]
  rfl

/-- A finished body is read, and what follows it is dropped. -/
theorem drain_of_finished (decoder : Decoder) (body noise : List UInt8)
    (quiet : sentinel ∉ body ++ noise) (declares : declared body ≠ 0)
    (finished : body.length = declared body + headerLength) :
    (decoder.opened []).drain (body ++ noise) =
      (((decoder.record (read decoder.nextId body)).dropped noise.length).reset,
        [read decoder.nextId body]) := by
  rw [List.mem_append, not_or] at quiet
  have step := feed_append (decoder.opened []) body noise
  rw [feed_of_finished decoder body quiet.1 declares finished,
    feed_of_idle _ rfl noise quiet.2] at step
  rw [drain_of_feed step, flush_of_not_open _ rfl]
  rfl

/-- A body without a declared length is refused once it is too long, and what follows is
dropped. -/
theorem drain_of_outgrown (decoder : Decoder) (body noise : List UInt8)
    (quiet : sentinel ∉ body ++ noise) (silent : declared body = 0)
    (long : body.length = bodyLimit + 1) :
    (decoder.opened []).drain (body ++ noise) =
      (((decoder.record (outgrown decoder.nextId body)).dropped noise.length).reset,
        [outgrown decoder.nextId body]) := by
  rw [List.mem_append, not_or] at quiet
  have step := feed_append (decoder.opened []) body noise
  rw [feed_of_outgrown decoder body quiet.1 silent long, feed_of_idle _ rfl noise quiet.2] at step
  rw [drain_of_feed step, flush_of_not_open _ rfl]
  rfl

end Decoder

end PanelLink.Frame
