/-
This file keeps the books of a decoder: what it told its host, and what became of every
byte that it was fed. In the order in which they came, the bytes fall into sentinels, bytes
that belonged to no frame, bodies of frames that ended, and bytes that a reset dropped, and
after them there are only the bytes of the frame that is still open. The decoder keeps none
of this. The parts are read off the states that it goes through, and its counts agree with
them.

Every request of the host gets an account of its own, and the account of a run is put
together from these. The invariant that carries it is that an open frame is unfinished, so
that each frame ends at the first byte that can end it.
-/

import Mathlib.Data.List.Forall2
import PanelLink.Proofs.Lengthening

namespace PanelLink.Frame

/-! ### Parts of the input -/

/-- What became of bytes that a decoder was fed. -/
inductive Part where
  /-- A sentinel. -/
  | mark
  /-- A byte that came while no frame was open. -/
  | stray (byte : UInt8)
  /-- The body of a frame that ended. -/
  | body (bytes : List UInt8)
  /-- What a reset dropped of a frame that was open. -/
  | cut (bytes : List UInt8)
  deriving DecidableEq, Repr

namespace Part

def bytes : Part → List UInt8
  | mark => [sentinel]
  | stray byte => [byte]
  | body bytes | cut bytes => bytes

def isMark : Part → Bool
  | mark => true
  | _ => false

def isStray : Part → Bool
  | stray _ => true
  | _ => false

def body? : Part → Option (List UInt8)
  | body bytes => some bytes
  | _ => none

def cut? : Part → Option (List UInt8)
  | cut bytes => some bytes
  | _ => none

def bodies (parts : List Part) : List (List UInt8) :=
  parts.filterMap body?

/-- The number of bytes in the bodies of frames that ended. -/
def bodyLength (parts : List Part) : Nat :=
  (bodies parts).flatten.length

/-- The number of bytes that resets dropped. -/
def cutLength (parts : List Part) : Nat :=
  (parts.filterMap cut?).flatten.length

/-- Every byte of the parts counts on one side. -/
theorem length_flatMap_bytes (parts : List Part) :
    (parts.flatMap bytes).length =
      parts.countP isMark + parts.countP isStray + bodyLength parts + cutLength parts := by
  induction parts with
  | nil => rfl
  | cons part rest inductionHypothesis =>
    rw [List.flatMap_cons, List.length_append, inductionHypothesis]
    simp only [bodyLength, bodies, cutLength, List.countP_cons, List.filterMap_cons]
    cases part <;>
      simp only [bytes, isMark, isStray, body?, cut?, List.flatten_cons, List.length_append,
        List.length_singleton, if_true, Bool.false_eq_true, if_false] <;> omega

end Part

/-- An outcome that is about a body: the body was read, within the limit, or refused by the
byte that took it past the limit. -/
inductive Ends : Outcome → List UInt8 → Prop where
  | read (frameId : Nat) {body : List UInt8} (quiet : sentinel ∉ body)
    (short : body.length ≤ bodyLimit) : Ends (read frameId body) body
  | outgrown (frameId : Nat) {body : List UInt8} (long : body.length = bodyLimit + 1) :
    Ends (Decoder.outgrown frameId body) body

/-! ### Outcomes past the limit -/

/-- Whether an outcome refuses a frame for outgrowing the limit. -/
def Outcome.isOversized : Outcome → Bool
  | .error ⟨_, .oversized _, _⟩ => true
  | _ => false

/-- Reading never refuses a body for its length. -/
theorem isOversized_read (body : List UInt8) (frameId : Nat) :
    Outcome.isOversized (read frameId body) = false := by
  cases body with
  | nil => rfl
  | cons category rest =>
    have lasts := lasts_readPayload (category :: rest) [] (List.cons_ne_nil _ _)
    rw [read]
    generalize readPayload (category :: rest) = reading,
      readPayload (category :: rest ++ []) = whole at lasts
    cases lasts with
    | read _ => rfl
    | missing _ _ => rfl
    | @refused reason lasting =>
      cases reason with
      | unknownCommand _ _ => rfl
      | badLookup _ _ => rfl
      | truncated _ _ | emptyFrame | oversized _ => cases lasting

/-- Only a body one byte past the limit is refused for outgrowing it. -/
theorem Ends.isOversized_iff {outcome : Outcome} {body : List UInt8} (ended : Ends outcome body) :
    outcome.isOversized = true ↔ body.length = bodyLimit + 1 := by
  cases ended with
  | read frameId quiet short =>
    rw [isOversized_read]
    exact iff_of_false Bool.false_ne_true fun long => by omega
  | outgrown frameId long => exact iff_of_true rfl long

namespace Decoder

/-! ### Requests -/

/-- What a host asks of a decoder. -/
inductive Request where
  | feed (chunk : List UInt8)
  | feedByte (byte : UInt8)
  | flush
  | reset
  deriving DecidableEq, Repr

def Request.bytes : Request → List UInt8
  | feed chunk => chunk
  | feedByte byte => [byte]
  | flush | reset => []

def handle (decoder : Decoder) : Request → Decoder × List Outcome
  | .feed chunk => decoder.feed chunk
  | .feedByte byte => ((decoder.feedByte byte).1, (decoder.feedByte byte).2.toList)
  | .flush => (decoder.flush.1, decoder.flush.2.toList)
  | .reset => (decoder.reset, [])

/-- The decoder after requests in order, and everything that it answered. -/
def handleAll (decoder : Decoder) : List Request → Decoder × List Outcome
  | [] => (decoder, [])
  | request :: rest =>
    let (next, outcomes) := decoder.handle request
    let (last, more) := next.handleAll rest
    (last, outcomes ++ more)

/-! ### Reading off the parts -/

/-- The bytes of the frame that is open. -/
def held (decoder : Decoder) : List UInt8 :=
  match decoder.phase with
  | .idle => []
  | .buffering => decoder.pending

/-- The part that ends with the open frame. -/
def closedParts (decoder : Decoder) : List Part :=
  if decoder.held = [] then [] else [.body decoder.held]

/-- The parts that end with a byte. -/
def byteParts (decoder : Decoder) (byte : UInt8) : List Part :=
  if byte = sentinel then decoder.closedParts ++ [.mark]
  else
    match decoder.phase with
    | .idle => [.stray byte]
    | .buffering =>
      if (decoder.feedByte byte).2.isSome then [.body (decoder.held ++ [byte])] else []

def chunkParts (decoder : Decoder) : List UInt8 → List Part
  | [] => []
  | byte :: rest => decoder.byteParts byte ++ (decoder.feedByte byte).1.chunkParts rest

def parts (decoder : Decoder) : Request → List Part
  | .feed chunk => decoder.chunkParts chunk
  | .feedByte byte => decoder.byteParts byte
  | .flush => decoder.closedParts
  | .reset => [.cut decoder.held]

def allParts (decoder : Decoder) : List Request → List Part
  | [] => []
  | request :: rest => decoder.parts request ++ (decoder.handle request).1.allParts rest

/-! ### Accounts -/

/-- An open frame is unfinished. -/
def Intact (decoder : Decoder) : Prop :=
  Unfinished decoder.held

/-- The account of some bytes: they are parted, each outcome is about its body, and the decoder
has counted just these. -/
structure Accounts (decoder : Decoder) (fed : List UInt8) (parts : List Part)
    (result : Decoder × List Outcome) : Prop where
  intact : result.1.Intact
  parted : decoder.held ++ fed = parts.flatMap Part.bytes ++ result.1.held
  marked : parts.countP Part.isMark = fed.count sentinel
  ended : List.Forall₂ Ends result.2 (Part.bodies parts)
  frameIds : result.2.map Outcome.frameId = List.range' decoder.nextId result.2.length
  counted : result.1.reset =
    ((decoder.recordAll result.2).dropped (parts.countP Part.isStray)).reset

theorem Accounts.nextId {decoder : Decoder} {fed : List UInt8} {parts : List Part}
    {result : Decoder × List Outcome} (account : Accounts decoder fed parts result) :
    result.1.nextId = decoder.nextId + result.2.length := by
  have counted := congrArg Decoder.nextId account.counted
  rw [recordAll_eq] at counted
  exact counted

theorem reset_recordAll_dropped {first second : Decoder} (same : first.reset = second.reset)
    (outcomes : List Outcome) (count : Nat) :
    ((first.recordAll outcomes).dropped count).reset =
      ((second.recordAll outcomes).dropped count).reset := by
  -- What is counted depends neither on the phase nor on the buffer.
  have counts (decoder : Decoder) : ((decoder.recordAll outcomes).dropped count).reset =
      (decoder.reset.recordAll outcomes).dropped count := by
    rw [recordAll_eq, recordAll_eq]
    rfl
  rw [counts, same, counts]

theorem Accounts.trans {decoder : Decoder} {fed more : List UInt8} {parts others : List Part}
    {first second : Decoder × List Outcome} (before : Accounts decoder fed parts first)
    (after : Accounts first.1 more others second) :
    Accounts decoder (fed ++ more) (parts ++ others) (second.1, first.2 ++ second.2) := by
  refine ⟨after.intact, ?_, ?_, ?_, ?_, ?_⟩
  · rw [← List.append_assoc, before.parted, List.append_assoc, after.parted, List.flatMap_append,
      List.append_assoc]
  · rw [List.countP_append, List.count_append, before.marked, after.marked]
  · rw [Part.bodies, List.filterMap_append]
    exact List.rel_append before.ended after.ended
  · rw [List.map_append, before.frameIds, after.frameIds, before.nextId, List.range'_append_1,
      List.length_append]
  · rw [after.counted, reset_recordAll_dropped before.counted, recordAll_dropped, dropped_dropped,
      ← recordAll_append, List.countP_append]

/-! ### Unfinished bodies -/

theorem unfinished_nil : Unfinished [] :=
  ⟨List.not_mem_nil, Nat.zero_le _, .inl rfl⟩

theorem short_of_isComplete {body : List UInt8} (complete : isComplete body = true) :
    body.length ≤ bodyLimit := by
  have bound := declared_le body
  rw [isComplete, Bool.and_eq_true, beq_iff_eq] at complete
  rw [complete.2, Nat.add_comm]
  exact Nat.add_le_add_left bound _

/-- A byte that neither finishes a body nor outgrows the limit leaves it unfinished. -/
theorem Unfinished.concat {body : List UInt8} {byte : UInt8} (unfinished : Unfinished body)
    (quiet : sentinel ∉ body ++ [byte]) (short : (body ++ [byte]).length ≤ bodyLimit)
    (incomplete : ¬ isComplete (body ++ [byte]) = true) : Unfinished (body ++ [byte]) := by
  refine ⟨quiet, short, ?_⟩
  by_cases silent : declared (body ++ [byte]) = 0
  · exact .inl silent
  · have length : (body ++ [byte]).length = body.length + 1 := List.length_append
    have missed : (body ++ [byte]).length ≠ declared (body ++ [byte]) + headerLength := by
      intro reached
      exact incomplete (by rw [isComplete, bne_iff_ne.mpr silent, reached, beq_self_eq_true]; rfl)
    -- The length byte is the third one, so where it has just come nothing of the fields is there.
    have pending := unfinished.pending
    refine .inr ?_
    by_cases known : headerLength ≤ body.length
    · rw [declared_append body [byte] known] at missed silent ⊢
      omega
    · omega

/-! ### Accounts of single steps -/

section Steps

variable {decoder : Decoder}

theorem held_of_idle (idle : decoder.phase = .idle) : decoder.held = [] := by
  rw [held, idle]

theorem held_of_buffering (buffering : decoder.phase = .buffering) :
    decoder.held = decoder.pending := by
  rw [held, buffering]

/-- A decoder that buffers is in the middle of the frame that it holds. -/
theorem opened_held (buffering : decoder.phase = .buffering) :
    decoder.opened decoder.held = decoder := by
  rw [held_of_buffering buffering, opened, ← buffering]

theorem buffering_of_held (isOpen : decoder.held ≠ []) : decoder.phase = .buffering := by
  cases phase : decoder.phase with
  | idle => exact absurd (held_of_idle phase) isOpen
  | buffering => rfl

theorem hasOpenFrame_eq_false_iff : decoder.hasOpenFrame = false ↔ decoder.held = [] := by
  rw [hasOpenFrame, held]
  cases decoder.phase <;> simp

theorem intact_of_idle (idle : decoder.phase = .idle) : decoder.Intact := by
  rw [Intact, held_of_idle idle]
  exact unfinished_nil

/-- Bytes that end no frame: nothing is told, and the decoder stays in step with the parts. -/
theorem accounts_of_silent {fed : List UInt8} {parts : List Part} {next : Decoder}
    (intact : next.Intact) (parted : decoder.held ++ fed = parts.flatMap Part.bytes ++ next.held)
    (marked : parts.countP Part.isMark = fed.count sentinel)
    (unended : Part.bodies parts = [])
    (counted : next.reset = (decoder.dropped (parts.countP Part.isStray)).reset) :
    Accounts decoder fed parts (next, []) :=
  ⟨intact, parted, marked, by rw [unended]; exact .nil, rfl, counted⟩

/-- Bytes that end the open frame: its body is taken out of the input, and its outcome is
counted. -/
theorem accounts_of_end {fed : List UInt8} {next : Decoder} {outcome : Outcome}
    (idle : next.phase = .idle) (quiet : sentinel ∉ fed)
    (ended : Ends outcome (decoder.held ++ fed))
    (numbered : Outcome.frameId outcome = decoder.nextId)
    (counted : next.reset = (decoder.record outcome).reset) :
    Accounts decoder fed [.body (decoder.held ++ fed)] (next, [outcome]) := by
  have nothing : next.held = [] := held_of_idle idle
  refine ⟨intact_of_idle idle, ?_, (List.count_eq_zero.mpr quiet).symm, .cons ended .nil,
    congrArg (fun frameId => [frameId]) numbered, counted⟩
  rw [nothing, List.flatMap_singleton, List.append_nil]
  rfl

theorem accounts_nil (intact : decoder.Intact) : Accounts decoder [] [] (decoder, []) :=
  accounts_of_silent intact (List.append_nil _) rfl rfl rfl

theorem accounts_reset : Accounts decoder [] [.cut decoder.held] (decoder.reset, []) := by
  refine accounts_of_silent unfinished_nil ?_ rfl rfl rfl
  rw [List.flatMap_singleton]
  rfl

/-- A flush ends the open frame, if there is one. -/
theorem accounts_flush (intact : decoder.Intact) :
    Accounts decoder [] decoder.closedParts (decoder.flush.1, decoder.flush.2.toList) := by
  by_cases closed : decoder.held = []
  · rw [closedParts, if_pos closed, flush_of_not_open _ (hasOpenFrame_eq_false_iff.mpr closed)]
    exact accounts_of_silent unfinished_nil (by rw [closed]; rfl) rfl rfl rfl
  · have flushed := flush_opened decoder decoder.held closed
    rw [opened_held (buffering_of_held closed)] at flushed
    rw [closedParts, if_neg closed, flushed]
    have ended : Ends (read decoder.nextId decoder.held) (decoder.held ++ []) := by
      rw [List.append_nil]
      exact .read decoder.nextId intact.quiet intact.short
    have account : Accounts decoder [] [.body (decoder.held ++ [])]
        ((decoder.record (read decoder.nextId decoder.held)).reset,
          [read decoder.nextId decoder.held]) :=
      accounts_of_end rfl List.not_mem_nil ended (frameId_read _ _) rfl
    rw [List.append_nil] at account
    exact account

/-- A sentinel ends the open frame as a flush does, and then takes the place of a part. -/
theorem accounts_sentinel (intact : decoder.Intact) :
    Accounts decoder [sentinel] (decoder.closedParts ++ [.mark])
      ((decoder.feedByte sentinel).1, (decoder.feedByte sentinel).2.toList) := by
  have opening : Accounts decoder.flush.1 [sentinel] [.mark] (decoder.flush.1.opened [], []) :=
    accounts_of_silent unfinished_nil rfl rfl rfl rfl
  have both := (accounts_flush intact).trans opening
  rw [List.append_nil] at both
  rw [feedByte_sentinel]
  exact both

theorem accounts_stray (idle : decoder.phase = .idle) {byte : UInt8} (other : byte ≠ sentinel) :
    Accounts decoder [byte] [.stray byte] (decoder.dropped 1, []) := by
  have nothing : (decoder.dropped 1).held = [] := held_of_idle idle
  refine accounts_of_silent (intact_of_idle idle) ?_ ?_ rfl rfl
  · rw [nothing, held_of_idle idle]
    rfl
  · rw [List.count_singleton, if_neg (by simpa using other)]
    rfl

/-- A byte for the open frame finishes it, outgrows it, or is held as well. -/
theorem accounts_extend (intact : decoder.Intact) (buffering : decoder.phase = .buffering)
    {byte : UInt8} (other : byte ≠ sentinel) :
    Accounts decoder [byte] (decoder.byteParts byte)
      ((decoder.feedByte byte).1, (decoder.feedByte byte).2.toList) := by
  have quiet : sentinel ∉ decoder.held ++ [byte] := by
    rw [List.mem_append, not_or, List.mem_singleton]
    exact ⟨intact.quiet, Ne.symm other⟩
  have alone : sentinel ∉ [byte] := fun member => quiet (List.mem_append_right _ member)
  have fed := feedByte_opened decoder decoder.held byte other
  rw [opened_held buffering] at fed
  have extended := extend_opened decoder decoder.held byte
  rw [opened_held buffering] at extended
  simp only [byteParts, if_neg other, buffering]
  rw [fed, extended]
  -- A finished body is within the limit, so only one of the two ends can apply.
  by_cases complete : isComplete (decoder.held ++ [byte]) = true
  · rw [if_pos complete]
    exact accounts_of_end rfl alone (.read decoder.nextId quiet (short_of_isComplete complete))
      (frameId_read _ _) rfl
  · rw [if_neg complete]
    have length : (decoder.held ++ [byte]).length = decoder.held.length + 1 := List.length_append
    have before := intact.short
    by_cases past : bodyLimit < (decoder.held ++ [byte]).length
    · rw [if_pos past]
      exact accounts_of_end rfl alone (.outgrown decoder.nextId (by omega)) rfl rfl
    · rw [if_neg past]
      exact accounts_of_silent (intact.concat quiet (Nat.not_lt.mp past) complete) rfl
        (List.count_eq_zero.mpr alone).symm rfl rfl

theorem accounts_feedByte (intact : decoder.Intact) (byte : UInt8) :
    Accounts decoder [byte] (decoder.byteParts byte)
      ((decoder.feedByte byte).1, (decoder.feedByte byte).2.toList) := by
  by_cases same : byte = sentinel
  · rw [byteParts, if_pos same, same]
    exact accounts_sentinel intact
  · cases phase : decoder.phase with
    | idle =>
      rw [byteParts, if_neg same, phase, feedByte_of_idle decoder phase byte same]
      exact accounts_stray phase same
    | buffering => exact accounts_extend intact phase same

theorem accounts_feed (intact : decoder.Intact) (chunk : List UInt8) :
    Accounts decoder chunk (decoder.chunkParts chunk) (decoder.feed chunk) := by
  induction chunk generalizing decoder with
  | nil => exact accounts_nil intact
  | cons byte rest inductionHypothesis =>
    -- The account of a byte leaves the decoder intact, as the bytes after it need.
    have first := accounts_feedByte intact byte
    exact first.trans (inductionHypothesis first.intact)

theorem accounts_handle (intact : decoder.Intact) (request : Request) :
    Accounts decoder request.bytes (decoder.parts request) (decoder.handle request) := by
  cases request with
  | feed chunk => exact accounts_feed intact chunk
  | feedByte byte => exact accounts_feedByte intact byte
  | flush => exact accounts_flush intact
  | reset => exact accounts_reset

theorem accounts_handleAll (intact : decoder.Intact) (requests : List Request) :
    Accounts decoder (requests.flatMap Request.bytes) (decoder.allParts requests)
      (decoder.handleAll requests) := by
  induction requests generalizing decoder with
  | nil => exact accounts_nil intact
  | cons request rest inductionHypothesis =>
    have first := accounts_handle intact request
    exact first.trans (inductionHypothesis first.intact)

end Steps

/-! ### The books of a new decoder -/

/-- Whatever a host asks of a new decoder, the outcomes it is told are numbered from zero on
without a gap, also across resets, and each is counted on its side. Every byte that the decoder
was fed is in exactly one part, in the order in which the bytes came, or is held for the frame
that is still open; the outcomes are about the bodies among the parts, one about each, and a body
is refused for outgrowing the limit exactly where it is one byte past it. So the bytes that were
fed add up: sentinels, bytes dropped outside frames, bodies of frames that ended, bytes dropped
by resets, bytes held. -/
theorem handleAll_account (requests : List Request) :
    let fed := requests.flatMap Request.bytes
    let parts := fresh.allParts requests
    let decoder := (fresh.handleAll requests).1
    let outcomes := (fresh.handleAll requests).2
    outcomes.map Outcome.frameId = List.range outcomes.length ∧
      decoder.tally.decoded = (outcomes.countP fun outcome => outcome.isOk) ∧
      decoder.tally.rejected = (outcomes.countP fun outcome => !outcome.isOk) ∧
      List.Forall₂ (fun outcome body =>
        Ends outcome body ∧ (outcome.isOversized = true ↔ body.length = bodyLimit + 1))
          outcomes (Part.bodies parts) ∧
      fed = parts.flatMap Part.bytes ++ decoder.held ∧
      fed.length = fed.count sentinel + decoder.tally.discarded + Part.bodyLength parts +
        Part.cutLength parts + decoder.held.length := by
  intro fed parts decoder outcomes
  have account : Accounts fresh fed parts (decoder, outcomes) :=
    accounts_handleAll (intact_of_idle rfl) requests
  have counted : decoder.tally =
      { decoded := 0 + outcomes.countP fun outcome => outcome.isOk
        rejected := 0 + outcomes.countP fun outcome => !outcome.isOk
        discarded := 0 + parts.countP Part.isStray } := by
    have same := congrArg Decoder.tally account.counted
    rw [recordAll_eq] at same
    exact same
  simp only [Nat.zero_add] at counted
  have parted : fed = parts.flatMap Part.bytes ++ decoder.held := account.parted
  refine ⟨?_, congrArg Tally.decoded counted, congrArg Tally.rejected counted,
    account.ended.imp fun _ _ ended => ⟨ended, ended.isOversized_iff⟩, parted, ?_⟩
  · rw [account.frameIds, List.range_eq_range']
    rfl
  · have lengths := congrArg List.length parted
    rw [List.length_append, Part.length_flatMap_bytes, account.marked] at lengths
    rw [lengths, counted]

example : fresh.allParts [.feed [7, 0x23, 76, 14, 0, 0x23], .feedByte 76, .reset, .feedByte 9] =
    [.stray 7, .mark, .body [76, 14, 0], .mark, .cut [76], .stray 9] := by
  decide

end Decoder

end PanelLink.Frame
