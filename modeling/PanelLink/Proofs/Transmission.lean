/-
This file follows frames that a device writes through a noisy line into a decoder. A
burst is a written frame and the noise behind it. Noise holds no sentinel, and there
is none behind a frame that declares no length, since such a frame goes on until the
next sentinel. Whatever the decoder did before, the first burst ends what was open,
and every burst then gives exactly its own payload.
-/

import PanelLink.Proofs.Feeding
import PanelLink.Proofs.Wire

namespace PanelLink.Frame

/-- A written frame with noise behind it. -/
structure Burst where
  payload : Payload
  frame : List UInt8
  noise : List UInt8
  written : write payload = .ok frame
  quiet : sentinel ∉ noise
  /-- Behind a length byte of zero there is no noise. -/
  ended : frame[3]? = some 0 → noise = []

namespace Burst

/-- The bytes of a burst on the line. -/
def bytes (burst : Burst) : List UInt8 :=
  burst.frame ++ burst.noise

/-- The command that arrives from a burst, under a frame number. -/
def command (burst : Burst) (frameId : Nat) : Command :=
  ⟨frameId, burst.payload.received⟩

/-- The commands that arrive from bursts, numbered one after the other. -/
def commands (first : Nat) (bursts : List Burst) : List Command :=
  (bursts.zipIdx first).map fun (burst, frameId) => burst.command frameId

/-- The number of bytes of noise in all bursts. -/
def noiseLength (bursts : List Burst) : Nat :=
  (bursts.flatMap Burst.noise).length

end Burst

namespace Decoder

/-! ### Parting the input -/

theorem flush_flush (decoder : Decoder) : decoder.flush.1.flush = (decoder.flush.1, none) := by
  rw [flush_of_not_open decoder.flush.1 rfl]
  rfl

/-- Input that is empty or starts with a sentinel can be drained apart from what is before
it. -/
theorem drain_append (decoder : Decoder) (front rest : List UInt8)
    (parted : rest = [] ∨ ∃ more, rest = sentinel :: more) :
    decoder.drain (front ++ rest) =
      (((decoder.drain front).1.drain rest).1,
        (decoder.drain front).2 ++ ((decoder.drain front).1.drain rest).2) := by
  have again : (decoder.drain front).1.drain [] = ((decoder.drain front).1, []) := by
    rw [drain_of_feed (feed_nil _)]
    show (((decoder.feed front).1.flush.1.flush).1, [] ++ _) = _
    rw [flush_flush]
    rfl
  rcases parted with rfl | ⟨more, rfl⟩
  · rw [List.append_nil, again, List.append_nil]
  · have second := drain_append_sentinel (decoder.drain front).1 [] more
    rw [again, List.nil_append, List.nil_append] at second
    rw [drain_append_sentinel, second]

/-! ### Bursts -/

/-- A body that reaches exactly as far as it declares is read, and the noise behind it is
dropped; without a declared length it is read at the end of the input. -/
theorem drain_body (decoder : Decoder) (body noise : List UInt8)
    (quiet : sentinel ∉ body ++ noise) (reaches : body.length = declared body + headerLength)
    (ended : declared body = 0 → noise = []) :
    (decoder.opened []).drain (body ++ noise) =
      (((decoder.record (read decoder.nextId body)).dropped noise.length).reset,
        [read decoder.nextId body]) := by
  by_cases silent : declared body = 0
  · rw [ended silent, List.append_nil] at quiet ⊢
    have header : body.length = headerLength := by rw [reaches, silent, Nat.zero_add]
    have nonempty : body ≠ [] := by
      rintro rfl
      cases header
    exact drain_of_unfinished decoder body nonempty
      ⟨quiet, by rw [header]; decide, Or.inl silent⟩
  · exact drain_of_finished decoder body noise quiet silent reaches

/-- The length byte of a written frame is what its body declares. -/
theorem declared_eq_zero_iff {payload : Payload} {frame body : List UInt8}
    (wire : Written payload frame body) : declared body = 0 ↔ frame[3]? = some 0 := by
  have inside : 2 < body.length := by
    rw [wire.reaches]
    exact Nat.lt_of_lt_of_le (by decide) (Nat.le_add_left headerLength _)
  rw [wire.starts, List.getElem?_cons_succ, List.getElem?_eq_getElem inside, declared,
    List.getElem?_eq_getElem inside, Option.getD_some, Option.some_inj, ← UInt8.toNat_inj,
    UInt8.toNat_zero]

/-- A waiting decoder makes of a burst its command, and drops its noise. -/
theorem drain_burst (decoder : Decoder) (burst : Burst) :
    decoder.reset.drain burst.bytes =
      (((decoder.record (.ok (burst.command decoder.nextId))).dropped burst.noise.length).reset,
        [.ok (burst.command decoder.nextId)]) := by
  obtain ⟨body, wire⟩ := written_of_write burst.written
  have quiet : sentinel ∉ body ++ burst.noise := by
    rw [List.mem_append, not_or]
    exact ⟨wire.quiet, burst.quiet⟩
  have ended : declared body = 0 → burst.noise = [] := fun silent =>
    burst.ended ((declared_eq_zero_iff wire).mp silent)
  have opening := drain_append_sentinel decoder.reset [] (body ++ burst.noise)
  have inside := drain_body decoder body burst.noise quiet wire.reaches ended
  rw [wire.reads decoder.nextId] at inside
  rw [List.nil_append] at opening
  rw [Burst.bytes, wire.starts, List.cons_append, opening]
  show (((decoder.opened []).drain (body ++ burst.noise)).1,
    [] ++ ((decoder.opened []).drain (body ++ burst.noise)).2) = _
  rw [inside]
  rfl

theorem bytes_parted (bursts : List Burst) :
    bursts.flatMap Burst.bytes = [] ∨
      ∃ more, bursts.flatMap Burst.bytes = sentinel :: more := by
  cases bursts with
  | nil => exact Or.inl rfl
  | cons burst rest =>
    obtain ⟨body, wire⟩ := written_of_write burst.written
    refine Or.inr ⟨body ++ burst.noise ++ rest.flatMap Burst.bytes, ?_⟩
    rw [List.flatMap_cons, Burst.bytes, wire.starts]
    rfl

/-- A waiting decoder makes of bursts their commands, in order and numbered through, and drops
all noise. -/
theorem drain_bursts (decoder : Decoder) (bursts : List Burst) :
    decoder.reset.drain (bursts.flatMap Burst.bytes) =
      (((decoder.recordAll ((Burst.commands decoder.nextId bursts).map .ok)).dropped
          (Burst.noiseLength bursts)).reset,
        (Burst.commands decoder.nextId bursts).map .ok) := by
  induction bursts generalizing decoder with
  | nil => rfl
  | cons burst rest inductionHypothesis =>
    have tail := inductionHypothesis
      ((decoder.record (.ok (burst.command decoder.nextId))).dropped burst.noise.length)
    rw [recordAll_dropped, dropped_dropped] at tail
    have noise : Burst.noiseLength (burst :: rest) =
        burst.noise.length + Burst.noiseLength rest := List.length_append
    rw [noise, List.flatMap_cons, drain_append _ _ _ (bytes_parted rest), drain_burst, tail]
    rfl

/-- The outcome of the frame that a decoder has open, if there is one. -/
def openOutcome (decoder : Decoder) : List Outcome :=
  if decoder.phase = .buffering ∧ decoder.pending ≠ [] then
    [read decoder.nextId decoder.pending]
  else []

theorem drain_nil (decoder : Decoder) :
    decoder.drain [] = ((decoder.recordAll decoder.openOutcome).reset, decoder.openOutcome) := by
  rw [drain_of_feed (feed_nil decoder), List.nil_append, openOutcome]
  split
  · rename_i isOpen
    have shape : decoder = decoder.opened decoder.pending := by
      rw [opened, ← isOpen.1]
    have flushed := flush_opened decoder decoder.pending isOpen.2
    rw [← shape] at flushed
    rw [flushed]
    rfl
  · rename_i isClosed
    have closed : decoder.hasOpenFrame = false := by
      simpa [hasOpenFrame] using isClosed
    rw [flush_of_not_open decoder closed]
    rfl

/-- Whatever state a decoder is in, bursts that arrive in any chunks and are then flushed give
the outcome of the frame that was open, if there was one, and then exactly the commands of the
bursts, in order and numbered through; the decoder has dropped exactly the noise and is idle. -/
theorem feedChunks_flush_bursts (decoder : Decoder) (bursts : List Burst)
    (chunks : List (List UInt8)) (cut : chunks.flatten = bursts.flatMap Burst.bytes) :
    let fed := decoder.feedChunks chunks
    let ended := fed.1.flush
    let first := decoder.nextId + decoder.openOutcome.length
    fed.2 ++ ended.2.toList =
        decoder.openOutcome ++ (Burst.commands first bursts).map .ok ∧
      ended.1.tally.discarded = decoder.tally.discarded + Burst.noiseLength bursts ∧
      ended.1.phase = .idle := by
  intro fed ended first
  have whole : decoder.drain (bursts.flatMap Burst.bytes) =
      (ended.1, fed.2 ++ ended.2.toList) := by
    rw [← cut]
    exact drain_of_feed (feedChunks_eq_feed_flatten decoder chunks).symm
  have start := drain_append decoder [] _ (bytes_parted bursts)
  have number : (decoder.recordAll decoder.openOutcome).nextId = first := by
    rw [recordAll_eq]
  rw [List.nil_append, drain_nil, drain_bursts, number, whole, Prod.mk.injEq] at start
  refine ⟨start.2, ?_, ?_⟩
  · rw [start.1, recordAll_eq, recordAll_eq]
    rfl
  · rw [start.1]
    rfl

/-- A decoder with half a header open, a number whose label holds a zero character, and two
bytes of noise behind it. -/
theorem feedChunks_flush_bursts_noisy_number :
    let decoder : Decoder := { phase := .buffering, pending := [76], nextId := 5 }
    let chunks : List (List UInt8) := [[0x23, 68, 2], [9, 5, 2, 1, 0, 0, 97, 0, 98], [0, 7, 7]]
    let fed := decoder.feedChunks chunks
    let ended := fed.1.flush
    fed.2 ++ ended.2.toList =
        [.error ⟨5, .truncated 2 1, [76]⟩,
          .ok ⟨6, .message (.number (labelCut (String.ofList ['a', '\x00', 'b'])) 258 .dec16)⟩] ∧
      ended.1.tally.discarded = 2 ∧ ended.1.phase = .idle := by
  have written : write (.message (.number (String.ofList ['a', '\x00', 'b']) 258 .dec16)) =
      .ok [0x23, 68, 2, 9, 5, 2, 1, 0, 0, 97, 0, 98, 0] := by
    simp only [write, layOut, layMessage, textField, SingleByte.encode, String.toList_ofList]
    rfl
  exact feedChunks_flush_bursts { phase := .buffering, pending := [76], nextId := 5 }
    [{ payload := _, frame := _, noise := [7, 7], written := written,
       quiet := by decide, ended := by decide }]
    [[0x23, 68, 2], [9, 5, 2, 1, 0, 0, 97, 0, 98], [0, 7, 7]] rfl

end Decoder

end PanelLink.Frame
