/-
This file reads a whole recording at once and proves that the decoder, fed the same
bytes in any chunks, gives the same outcomes and the same counts.

The batch reading knows no state. It splits the recording at the sentinels, drops
what comes before the first one, and judges every stretch after it on its own: by
the length byte and the number of bytes up to the next sentinel. The decoder decides
the same byte by byte, while it does not know yet where the stretch ends.
-/

import PanelLink.Proofs.Feeding

namespace PanelLink.Frame

/-! ### Stretches -/

/-- What is made of a stretch between two sentinels. -/
inductive Verdict where
  /-- A body is read. -/
  | body (bytes : List UInt8)
  /-- A body is refused for its length; its header is shown. -/
  | outgrown (header : List UInt8)
  deriving DecidableEq, Repr

/-- The outcome of a verdict, for a frame with the given number. -/
def Verdict.outcome (frameId : Nat) : Verdict → Outcome
  | .body bytes => read frameId bytes
  | .outgrown header => .error ⟨frameId, .oversized 258, header⟩

/-- The verdict on a stretch, if there is anything in it, and the number of bytes left over. -/
def judge (stretch : List UInt8) : Option Verdict × Nat :=
  if stretch = [] then (none, 0)
  else
    match stretch[2]? with
    | some length =>
      if length ≠ 0 ∧ length.toNat + 3 ≤ stretch.length then
        (some (.body (stretch.take (length.toNat + 3))), stretch.length - (length.toNat + 3))
      else if length = 0 ∧ 259 ≤ stretch.length then
        (some (.outgrown (stretch.take 3)), stretch.length - 259)
      else (some (.body stretch), 0)
    | none => (some (.body stretch), 0)

/-! ### The batch reading -/

/-- The outcomes of verdicts, whose frames are numbered one after the other. -/
def numbered (first : Nat) (verdicts : List Verdict) : List Outcome :=
  (verdicts.zipIdx first).map fun (verdict, frameId) => verdict.outcome frameId

/-- The verdicts on stretches that hold anything, in order. -/
def verdicts (judged : List (Option Verdict × Nat)) : List Verdict :=
  judged.flatMap fun (verdict, _) => verdict.toList

/-- The number of bytes left over from all stretches. -/
def leftovers (judged : List (Option Verdict × Nat)) : Nat :=
  judged.foldr (fun (_, left) total => left + total) 0

/-- What a recording holds. -/
structure Batch where
  outcomes : List Outcome
  discarded : Nat

/-- Reads a recording as a whole. -/
def Batch.ofBytes (bytes : List UInt8) : Batch :=
  let stretches := bytes.splitOn sentinel
  let judged := stretches.tail.map judge
  { outcomes := numbered 0 (verdicts judged)
    discarded := (stretches.headD []).length + leftovers judged }

theorem numbered_append (first : Nat) (front back : List Verdict) :
    numbered first (front ++ back) =
      numbered first front ++ numbered (first + front.length) back := by
  rw [numbered, List.zipIdx_append, List.map_append]
  rfl

theorem length_numbered (first : Nat) (verdicts : List Verdict) :
    (numbered first verdicts).length = verdicts.length := by
  rw [numbered, List.length_map, List.length_zipIdx]

theorem frameId_outcome (frameId : Nat) (verdict : Verdict) :
    Outcome.frameId (verdict.outcome frameId) = frameId := by
  cases verdict with
  | body bytes => exact frameId_read frameId bytes
  | outgrown header => rfl

theorem map_frameId_numbered (first : Nat) (verdicts : List Verdict) :
    (numbered first verdicts).map Outcome.frameId = List.range' first verdicts.length := by
  induction verdicts generalizing first with
  | nil => rfl
  | cons verdict rest inductionHypothesis =>
    show Outcome.frameId (verdict.outcome first) ::
      (numbered (first + 1) rest).map Outcome.frameId = _
    rw [frameId_outcome, inductionHypothesis, List.length_cons, List.range'_succ]

namespace Decoder

/-! ### One stretch -/

/-- The decoder after a stretch: it has counted the outcomes and the bytes left over, and
waits for a sentinel. -/
def settled (decoder : Decoder) (verdicts : List Verdict) (left : Nat) : Decoder :=
  ((decoder.recordAll (numbered decoder.nextId verdicts)).dropped left).reset

theorem declared_take (stretch : List UInt8) (count : Nat) (known : headerLength ≤ count)
    (inside : count ≤ stretch.length) : declared (stretch.take count) = declared stretch := by
  have length : (stretch.take count).length = count := List.length_take_of_le inside
  rw [← declared_append (stretch.take count) (stretch.drop count) (by rw [length]; exact known),
    List.take_append_drop]

/-- The length byte of a stretch says what it declares. -/
theorem declared_of_getElem? {stretch : List UInt8} {length : UInt8}
    (present : stretch[2]? = some length) : declared stretch = length.toNat := by
  rw [declared, present]
  rfl

/-- A stretch that reaches the end it declares is read up to there. -/
theorem drain_of_reached (decoder : Decoder) (stretch : List UInt8) (quiet : sentinel ∉ stretch)
    (declares : declared stretch ≠ 0) (reached : declared stretch + 3 ≤ stretch.length) :
    (decoder.opened []).drain stretch =
      (decoder.settled [.body (stretch.take (declared stretch + 3))]
          (stretch.length - (declared stretch + 3)),
        numbered decoder.nextId [.body (stretch.take (declared stretch + 3))]) := by
  have parted := List.take_append_drop (declared stretch + 3) stretch
  have same := declared_take stretch (declared stretch + 3) (Nat.le_add_left _ _) reached
  have step := drain_of_finished decoder (stretch.take (declared stretch + 3))
    (stretch.drop (declared stretch + 3)) (by rw [parted]; exact quiet) (by rw [same]; exact declares)
    (by rw [same]; exact List.length_take_of_le reached)
  rw [parted, List.length_drop] at step
  exact step

/-- A stretch that declares nothing and passes the limit is refused there. -/
theorem drain_of_passed (decoder : Decoder) (stretch : List UInt8) (quiet : sentinel ∉ stretch)
    (silent : declared stretch = 0) (passed : 259 ≤ stretch.length) :
    (decoder.opened []).drain stretch =
      (decoder.settled [.outgrown (stretch.take 3)] (stretch.length - 259),
        numbered decoder.nextId [.outgrown (stretch.take 3)]) := by
  have parted := List.take_append_drop 259 stretch
  have same := declared_take stretch 259 (by decide) passed
  have step := drain_of_outgrown decoder (stretch.take 259) (stretch.drop 259)
    (by rw [parted]; exact quiet) (by rw [same]; exact silent) (List.length_take_of_le passed)
  have header : outgrown decoder.nextId (stretch.take 259) =
      (Verdict.outgrown (stretch.take 3)).outcome decoder.nextId := by
    rw [outgrown, List.take_take]
    rfl
  rw [parted, List.length_drop, header] at step
  exact step

/-- Any other stretch with something in it is read as a whole. -/
theorem drain_of_whole (decoder : Decoder) (stretch : List UInt8) (nonempty : stretch ≠ [])
    (unfinished : Unfinished stretch) :
    (decoder.opened []).drain stretch =
      (decoder.settled [.body stretch] 0, numbered decoder.nextId [.body stretch]) :=
  drain_of_unfinished decoder stretch nonempty unfinished

/-- The decoder makes of a stretch what the batch reading makes of it. -/
theorem drain_stretch (decoder : Decoder) (stretch : List UInt8) (quiet : sentinel ∉ stretch) :
    (decoder.opened []).drain stretch =
      (decoder.settled (judge stretch).1.toList (judge stretch).2,
        numbered decoder.nextId (judge stretch).1.toList) := by
  unfold judge
  split
  · rename_i empty
    subst empty
    rfl
  · rename_i nonempty
    split
    · rename_i length present
      have declares := declared_of_getElem? present
      have zero : length = 0 ↔ declared stretch = 0 := by
        rw [declares, ← UInt8.toNat_inj, UInt8.toNat_zero]
      rw [← declares]
      split
      · rename_i reached
        exact drain_of_reached decoder stretch quiet (mt zero.mpr reached.1) reached.2
      · rename_i notReached
        rw [ne_eq, zero] at notReached
        split
        · rename_i passed
          exact drain_of_passed decoder stretch quiet (zero.mp passed.1) passed.2
        · rename_i notPassed
          rw [zero] at notPassed
          have bound := declared_le stretch
          refine drain_of_whole decoder stretch nonempty ⟨quiet, ?_, ?_⟩
          · show stretch.length ≤ 258
            omega
          · show declared stretch = 0 ∨ stretch.length < declared stretch + 3
            omega
    · rename_i absent
      have short : stretch.length < headerLength :=
        Nat.lt_succ_of_le (List.getElem?_eq_none_iff.mp absent)
      have silent := declared_of_short stretch short
      exact drain_of_whole decoder stretch nonempty
        ⟨quiet, Nat.le_trans (Nat.le_of_lt short) (by decide), Or.inl silent⟩

/-! ### All stretches -/

theorem nextId_settled (decoder : Decoder) (verdicts : List Verdict) (left : Nat) :
    (decoder.settled verdicts left).nextId = decoder.nextId + verdicts.length := by
  rw [settled, recordAll_eq, ← length_numbered decoder.nextId verdicts]
  rfl

theorem recordAll_reset (decoder : Decoder) (outcomes : List Outcome) :
    decoder.reset.recordAll outcomes = (decoder.recordAll outcomes).reset := by
  rw [recordAll_eq, recordAll_eq]
  rfl

/-- Two stretches settle the decoder as both together do. -/
theorem settled_settled (decoder : Decoder) (front back : List Verdict) (left more : Nat) :
    (decoder.settled front left).settled back more =
      decoder.settled (front ++ back) (left + more) := by
  have outcomes : numbered (decoder.settled front left).nextId back =
      numbered (decoder.nextId + front.length) back := by rw [nextId_settled]
  rw [settled, outcomes, settled, recordAll_reset, recordAll_dropped, settled, numbered_append,
    recordAll_append, ← dropped_dropped]
  rfl

/-- From one sentinel on, the decoder makes of every stretch what the batch reading makes of
it, and numbers the frames through. -/
theorem drain_stretches (decoder : Decoder) (bytes : List UInt8) :
    (decoder.opened []).drain bytes =
      (decoder.settled (verdicts ((bytes.splitOn sentinel).map judge))
          (leftovers ((bytes.splitOn sentinel).map judge)),
        numbered decoder.nextId (verdicts ((bytes.splitOn sentinel).map judge))) := by
  by_cases member : sentinel ∈ bytes
  · obtain ⟨stretch, rest, parts, quiet⟩ := List.eq_append_cons_of_mem member
    have fewer : rest.length < bytes.length := by
      rw [parts, List.length_append, List.length_cons]
      omega
    have tail := drain_stretches (decoder.settled (judge stretch).1.toList (judge stretch).2) rest
    rw [nextId_settled, settled_settled] at tail
    rw [parts, drain_append_sentinel, drain_stretch decoder stretch quiet, tail,
      List.splitOn_append_cons_self_of_not_mem quiet, ← numbered_append]
    rfl
  · rw [drain_stretch decoder bytes member, List.splitOn_eq_singleton member]
    simp only [List.map_cons, List.map_nil, verdicts, leftovers, List.flatMap_cons,
      List.flatMap_nil, List.append_nil, List.foldr_cons, List.foldr_nil, Nat.add_zero]
  termination_by bytes.length

/-! ### The whole recording -/

/-- A fresh decoder ends a recording with the outcomes and the leftovers of the batch reading. -/
theorem drain_fresh (bytes : List UInt8) :
    fresh.drain bytes =
      (((fresh.recordAll (Batch.ofBytes bytes).outcomes).dropped
          (Batch.ofBytes bytes).discarded).reset,
        (Batch.ofBytes bytes).outcomes) := by
  by_cases member : sentinel ∈ bytes
  · obtain ⟨noise, rest, parts, quiet⟩ := List.eq_append_cons_of_mem member
    have tail := drain_stretches (fresh.dropped noise.length) rest
    have batch : Batch.ofBytes bytes =
        { outcomes := numbered 0 (verdicts ((rest.splitOn sentinel).map judge))
          discarded := noise.length + leftovers ((rest.splitOn sentinel).map judge) } := by
      rw [Batch.ofBytes, parts, List.splitOn_append_cons_self_of_not_mem quiet]
      rfl
    rw [settled, recordAll_dropped, dropped_dropped] at tail
    rw [batch, parts, drain_append_sentinel, drain_of_idle fresh rfl noise quiet, List.nil_append]
    exact tail
  · have batch : Batch.ofBytes bytes = { outcomes := [], discarded := bytes.length } := by
      rw [Batch.ofBytes, List.splitOn_eq_singleton member]
      rfl
    rw [batch, drain_of_idle fresh rfl bytes member]
    rfl

/-- However a recording is cut into chunks, a fresh decoder that is fed them and then flushed
gives exactly the outcomes of the batch reading, numbers their frames from zero on, has counted
both kinds of outcome and the bytes left over, and is idle. -/
theorem feedChunks_flush_eq_batch (chunks : List (List UInt8)) :
    (fresh.feedChunks chunks).2 ++ (fresh.feedChunks chunks).1.flush.2.toList =
        (Batch.ofBytes chunks.flatten).outcomes ∧
      let ended := (fresh.feedChunks chunks).1.flush.1
      let batch := Batch.ofBytes chunks.flatten
      batch.outcomes.map Outcome.frameId = List.range batch.outcomes.length ∧
        ended.phase = .idle ∧ ended.pending = [] ∧ ended.nextId = batch.outcomes.length ∧
        ended.tally.decoded = batch.outcomes.countP (fun outcome => outcome.isOk) ∧
        ended.tally.rejected = batch.outcomes.countP (fun outcome => !outcome.isOk) ∧
        ended.tally.discarded = batch.discarded := by
  have whole : ((fresh.feedChunks chunks).1.flush.1,
      (fresh.feedChunks chunks).2 ++ (fresh.feedChunks chunks).1.flush.2.toList) =
      fresh.drain chunks.flatten :=
    (drain_of_feed (feedChunks_eq_feed_flatten fresh chunks).symm).symm
  rw [drain_fresh, Prod.mk.injEq, recordAll_eq] at whole
  refine ⟨whole.2, ?_⟩
  intro ended batch
  have numbers : batch.outcomes.map Outcome.frameId = List.range batch.outcomes.length := by
    show (numbered 0 _).map Outcome.frameId = List.range (numbered 0 _).length
    rw [map_frameId_numbered, length_numbered, List.range_eq_range']
  refine ⟨numbers, ?_⟩
  rw [show ended = _ from whole.1]
  simp only [reset, dropped, fresh, Nat.zero_add, and_self, batch]

example : Batch.ofBytes [9, 0x23, 76, 13, 1, 4, 0, 0, 0x23, 0x23, 76] =
    { outcomes :=
        [.ok ⟨0, .order (.clearRow 4)⟩, .error ⟨1, .truncated 2 1, [76]⟩]
      discarded := 3 } := rfl

end Decoder

end PanelLink.Frame
