/-
This file says how large an open frame can get. A frame ends at the first byte that can end
it, so while a decoder buffers it holds a body that is still unfinished. That the test for the
end is an equation does no harm: the bytes come one at a time, and no length is skipped. A
frame that declares a length therefore ends at that length, which is never past the limit, and
only a frame that declares none can reach the limit.

What is in the buffer is what came since the last sentinel, so all of this can be told from
the input. A refusal shows the first bytes of the body. A guarded step takes them as a slice
that has to be inside the body, and this guard never stops it.
-/

import PanelLink.Proofs.Batch
import PanelLink.Proofs.Leftover

namespace PanelLink.Frame

namespace Decoder

/-! ### The length byte -/

/-- A header declares nothing exactly if its length byte is zero. -/
theorem declared_eq_zero_iff_getElem? {body : List UInt8} (known : headerLength ≤ body.length) :
    declared body = 0 ↔ body[2]? = some 0 := by
  cases third : body[2]? with
  | none => exact absurd (List.getElem?_eq_none_iff.mp third) (Nat.not_le.mpr known)
  | some length =>
    rw [declared_of_getElem? third, Option.some_inj, ← UInt8.toNat_inj, UInt8.toNat_zero]

/-- In an unfinished body the length byte is missing or zero, or some of what it declares is
missing. -/
theorem Unfinished.incomplete {body : List UInt8} (unfinished : Unfinished body) :
    body.length < 3 ∨ body[2]? = some 0 ∨
      ∃ length, body[2]? = some length ∧ body.length < length.toNat + 3 := by
  by_cases known : headerLength ≤ body.length
  · obtain ⟨length, third⟩ : ∃ length, body[2]? = some length := ⟨_, List.getElem?_eq_getElem known⟩
    refine .inr (unfinished.pending.imp (declared_eq_zero_iff_getElem? known).mp fun before => ?_)
    rw [declared_of_getElem? third] at before
    exact ⟨length, third, before⟩
  · exact .inl (Nat.lt_of_not_le known)

/-- One more byte does not take an unfinished body past the length that it declares. -/
theorem Unfinished.reach {body : List UInt8} (unfinished : Unfinished body) (byte : UInt8)
    (declares : declared (body ++ [byte]) ≠ 0) :
    (body ++ [byte]).length ≤ declared (body ++ [byte]) + headerLength := by
  rw [List.length_append, List.length_singleton]
  by_cases known : headerLength ≤ body.length
  · rw [declared_append body [byte] known] at declares ⊢
    exact unfinished.pending.resolve_left declares
  · omega

/-! ### Guarded steps -/

/-- The header of a body, which has to be a part of it. -/
def header? (body : List UInt8) : Option (List UInt8) :=
  if headerLength ≤ body.length then some (body.take headerLength) else none

/-- Adds a byte to the body of the frame. A refusal takes the header out of the buffer. -/
def extend? (decoder : Decoder) (byte : UInt8) : Option (Decoder × Option Outcome) :=
  let longer := { decoder with pending := decoder.pending ++ [byte] }
  if isComplete longer.pending then
    some ({ longer.record longer.closing with phase := .idle }, some longer.closing)
  else if bodyLimit < longer.pending.length then
    (header? longer.pending).map fun header =>
      let refusal : Outcome := .error ⟨longer.nextId, .oversized bodyLimit, header⟩
      ({ longer.record refusal with phase := .idle, pending := [] }, some refusal)
  else some (longer, none)

/-- Takes one byte, if no guard stops that. -/
def feedByte? (decoder : Decoder) (byte : UInt8) : Option (Decoder × Option Outcome) :=
  if byte = sentinel then some (decoder.feedByte byte)
  else
    match decoder.phase with
    | .idle => some (decoder.discard, none)
    | .buffering => decoder.extend? byte

theorem extend?_eq (decoder : Decoder) (byte : UInt8) :
    decoder.extend? byte = some (decoder.extend byte) := by
  simp only [extend?, extend]
  split
  · rfl
  · split
    · -- A body past the limit is longer than a header.
      rename_i past
      have inside : headerLength ≤ (decoder.pending ++ [byte]).length :=
        Nat.le_of_lt (Nat.lt_of_le_of_lt (by decide) past)
      rw [header?, if_pos inside]
      rfl
    · rfl

theorem feedByte?_eq (decoder : Decoder) (byte : UInt8) :
    decoder.feedByte? byte = some (decoder.feedByte byte) := by
  by_cases same : byte = sentinel
  · rw [feedByte?, if_pos same]
  · rw [feedByte?, feedByte, if_neg same, if_neg same]
    cases decoder.phase with
    | idle => rfl
    | buffering => exact extend?_eq decoder byte

/-! ### Along a frame -/

/-- From an empty body on, a decoder buffers as long as the body is unfinished, and is idle
afterwards. -/
theorem feed_opened_cases (decoder : Decoder) {body : List UInt8} (quiet : sentinel ∉ body) :
    Unfinished body ∧ ((decoder.opened []).feed body).1 = decoder.opened body ∨
      ¬ Unfinished body ∧ ((decoder.opened []).feed body).1.phase = .idle := by
  induction body using List.reverseRecOn with
  | nil => exact .inl ⟨unfinished_nil, rfl⟩
  | append_singleton front byte inductionHypothesis =>
    have before : sentinel ∉ front := fun member => quiet (List.mem_append_left _ member)
    have other : byte ≠ sentinel := fun same => quiet (by simp [same])
    rw [feed_append, feed_cons, feed_nil]
    rcases inductionHypothesis before with ⟨unfinished, fed⟩ | ⟨finished, idle⟩
    · rw [fed, feedByte_opened decoder front byte other, extend_opened]
      split
      · rename_i complete
        refine .inr ⟨fun unfinished => ?_, rfl⟩
        rw [isComplete_eq_false unfinished] at complete
        cases complete
      · rename_i incomplete
        split
        · rename_i past
          exact .inr ⟨fun unfinished => Nat.not_le.mpr past unfinished.short, rfl⟩
        · rename_i short
          exact .inl ⟨unfinished.concat quiet (Nat.not_lt.mp short) incomplete, rfl⟩
    · rw [feedByte_of_idle _ idle byte other]
      exact .inr ⟨fun unfinished => finished unfinished.left, idle⟩

/-- What the bytes since the last sentinel tell of the decoder: while they are an unfinished body it
holds them, and else it is idle. -/
theorem takeAll_of_endIn (decoder : Decoder) {signals : List Signal} {body : List UInt8}
    (ends : EndIn signals body) :
    Unfinished body ∧ (decoder.takeAll signals).opened body = decoder.takeAll signals ∨
      ¬ Unfinished body ∧ (decoder.takeAll signals).phase = .idle := by
  obtain ⟨quiet, before, rfl⟩ := ends
  rw [takeAll_append, takeAll_bytes, feed_cons, feedByte_sentinel]
  refine (feed_opened_cases (decoder.takeAll before).flush.1 quiet).imp_left ?_
  rintro ⟨unfinished, fed⟩
  rw [fed]
  exact ⟨unfinished, rfl⟩

/-- A decoder that buffers holds what came since the last sentinel, and that is unfinished. -/
theorem unfinished_of_buffering {signals : List Signal}
    (buffering : (fresh.takeAll signals).phase = .buffering) :
    EndIn signals (fresh.takeAll signals).pending ∧ Unfinished (fresh.takeAll signals).pending := by
  have traces := traces_takeAll signals
  rw [Traces, buffering] at traces
  rcases takeAll_of_endIn fresh traces with ⟨unfinished, -⟩ | ⟨-, idle⟩
  · exact ⟨traces, unfinished⟩
  · rw [buffering] at idle
    cases idle

/-! ### Ends of frames -/

/-- A decoder in the middle of a frame that declares a length answers at that length and at no
other byte of the frame. -/
theorem extend_of_declared (decoder : Decoder) {body : List UInt8} (unfinished : Unfinished body)
    {byte : UInt8} (declares : declared (body ++ [byte]) ≠ 0) :
    ((decoder.opened body).extend byte).2 =
      if (body ++ [byte]).length = declared (body ++ [byte]) + headerLength then
        some (read decoder.nextId (body ++ [byte]))
      else none := by
  have reach := unfinished.reach byte declares
  have limit : declared (body ++ [byte]) + headerLength ≤ bodyLimit := by
    rw [Nat.add_comm]
    exact Nat.add_le_add_left (declared_le _) _
  rw [extend_opened]
  by_cases reached : (body ++ [byte]).length = declared (body ++ [byte]) + headerLength
  · have complete : isComplete (body ++ [byte]) = true := by
      rw [isComplete, bne_iff_ne.mpr declares, beq_iff_eq.mpr reached, Bool.true_and]
    rw [if_pos complete, if_pos reached]
  · have incomplete : ¬ isComplete (body ++ [byte]) = true := by
      rw [isComplete, beq_eq_false_iff_ne.mpr reached, Bool.and_false]
      exact Bool.false_ne_true
    have short : (body ++ [byte]).length ≤ bodyLimit := Nat.le_trans reach limit
    rw [if_neg incomplete, if_neg (Nat.not_lt.mpr short), if_neg reached]

/-- A decoder in the middle of a frame that declares nothing answers at the first byte past the
limit, and at no other byte of the frame. -/
theorem extend_of_silent (decoder : Decoder) {body : List UInt8} (unfinished : Unfinished body)
    {byte : UInt8} (silent : declared (body ++ [byte]) = 0) :
    ((decoder.opened body).extend byte).2 =
      if (body ++ [byte]).length = bodyLimit + 1 then
        some (outgrown decoder.nextId (body ++ [byte]))
      else none := by
  have length : (body ++ [byte]).length = body.length + 1 := List.length_append
  have short := unfinished.short
  have incomplete : ¬ isComplete (body ++ [byte]) = true := by simp [isComplete, silent]
  rw [extend_opened, if_neg incomplete]
  by_cases past : bodyLimit < (body ++ [byte]).length
  · rw [if_pos past, if_pos (by omega)]
  · rw [if_neg past, if_neg (by omega)]

/-- A refusal for the size comes with the byte that takes a body without a declared length past the
limit, and with no other. -/
theorem extend_isOversized_iff (decoder : Decoder) {body : List UInt8}
    (unfinished : Unfinished body) (byte : UInt8) :
    (∃ outcome ∈ ((decoder.opened body).extend byte).2, outcome.isOversized = true) ↔
      body.length = 258 ∧ body[2]? = some 0 := by
  have length : (body ++ [byte]).length = body.length + 1 := List.length_append
  have same (full : body.length = 258) : declared (body ++ [byte]) = declared body :=
    declared_append body [byte] (full ▸ by decide)
  have silentIff (full : body.length = 258) : declared body = 0 ↔ body[2]? = some 0 :=
    declared_eq_zero_iff_getElem? (full ▸ by decide)
  by_cases silent : declared (body ++ [byte]) = 0
  · rw [extend_of_silent decoder unfinished silent]
    by_cases past : (body ++ [byte]).length = bodyLimit + 1
    · have full : body.length = 258 := Nat.succ_inj.mp (length.symm.trans past)
      rw [if_pos past]
      exact iff_of_true ⟨_, rfl, rfl⟩ ⟨full, (silentIff full).mp (same full ▸ silent)⟩
    · rw [if_neg past]
      refine iff_of_false ?_ ?_
      · rintro ⟨outcome, told, -⟩
        cases told
      · rintro ⟨full, -⟩
        exact past (length.trans (congrArg (· + 1) full))
  · rw [extend_of_declared decoder unfinished silent]
    refine iff_of_false ?_ ?_
    · rintro ⟨outcome, told, oversized⟩
      split at told
      · cases told
        rw [isOversized_read] at oversized
        cases oversized
      · cases told
    · rintro ⟨full, third⟩
      rw [same full] at silent
      exact silent ((silentIff full).mpr third)

/-- A flush reads what is there, and refuses nothing for its size. -/
theorem isOversized_flush (decoder : Decoder) :
    ∀ outcome ∈ decoder.flush.2, outcome.isOversized = false := by
  intro outcome told
  simp only [flush, closeOpen] at told
  split at told
  · cases told
    exact isOversized_read _ _
  · cases told

section Answers

variable {signals : List Signal} {body : List UInt8} {byte : UInt8}

/-- A frame that declares a length ends at that length and at no other byte of it. -/
theorem answer_of_declared (ends : EndIn signals body) (other : byte ≠ sentinel) {length : UInt8}
    (third : (body ++ [byte])[2]? = some length) (declares : length ≠ 0) :
    ((fresh.takeAll signals).feedByte byte).2 =
      if (body ++ [byte]).length = length.toNat + 3 then
        some (read (fresh.takeAll signals).nextId (body ++ [byte]))
      else none := by
  have declared : declared (body ++ [byte]) = length.toNat := declared_of_getElem? third
  have positive : length.toNat ≠ 0 := fun zero => declares (UInt8.toNat_inj.mp zero)
  rcases takeAll_of_endIn fresh ends with ⟨unfinished, holds⟩ | ⟨finished, idle⟩
  · have answer := extend_of_declared (fresh.takeAll signals) unfinished (declared ▸ positive)
    rw [← feedByte_opened _ body byte other, holds, declared] at answer
    exact answer
  · -- Only the byte right after an unfinished body can reach the declared length.
    rw [feedByte_of_idle _ idle byte other, if_neg]
    intro reached
    have bound := length.toNat_lt
    rw [← declared] at reached bound
    refine finished (.of_concat (ends.concat other).1 ?_ (.inr (Nat.le_of_eq reached)))
    rw [List.length_append, List.length_singleton] at reached
    show body.length ≤ 258
    omega

/-- What outgrows the limit is a frame that declares nothing, and it does so at the first byte past
the limit. -/
theorem isOversized_answer_iff (signals : List Signal) (byte : UInt8) :
    (∃ outcome ∈ ((fresh.takeAll signals).feedByte byte).2, outcome.isOversized = true) ↔
      byte ≠ sentinel ∧ ∃ body, EndIn signals body ∧ body.length = 258 ∧ body[2]? = some 0 := by
  constructor
  · rintro ⟨outcome, told, oversized⟩
    have other : byte ≠ sentinel := by
      rintro rfl
      rw [feedByte_sentinel] at told
      rw [isOversized_flush _ outcome told] at oversized
      cases oversized
    cases phase : (fresh.takeAll signals).phase with
    | idle =>
      rw [feedByte_of_idle _ phase byte other] at told
      cases told
    | buffering =>
      obtain ⟨ends, unfinished⟩ := unfinished_of_buffering phase
      have holds := opened_held phase
      rw [held_of_buffering phase] at holds
      rw [← holds, feedByte_opened _ _ byte other] at told
      refine ⟨other, _, ends, ?_⟩
      exact (extend_isOversized_iff _ unfinished byte).mp ⟨outcome, told, oversized⟩
  · rintro ⟨other, body, ends, full, third⟩
    have silent : declared body = 0 := (declared_eq_zero_iff_getElem? (full ▸ by decide)).mpr third
    rcases takeAll_of_endIn fresh ends with ⟨unfinished, holds⟩ | ⟨finished, -⟩
    · rw [← holds, feedByte_opened _ body byte other]
      exact (extend_isOversized_iff _ unfinished byte).mpr ⟨full, third⟩
    · exact absurd ⟨ends.1, Nat.le_of_eq full, .inl silent⟩ finished

end Answers

/-! ### The bounds -/

/-- At every byte of every input, whatever else a host asks of a new decoder: while the decoder
buffers, no byte that it holds is a sentinel, they are at most as many as the limit, and they are no
complete frame. A frame that declares a length ends at exactly that length, where its body is read
and not refused for its size. A frame is refused for its size at the 259th byte of its body if its
length byte is zero, and never else; the end of a recording refuses none. The header that a refusal
shows can always be taken out of the buffer. -/
theorem open_frame_bounds (requests : List Request) (taken : List UInt8) :
    let decoder := ((fresh.handleAll requests).1.feed taken).1
    let signals := requests.flatMap Request.signals ++ taken.map Signal.byte
    (decoder.phase = .buffering →
      sentinel ∉ decoder.pending ∧ decoder.pending.length ≤ 258 ∧
        (decoder.pending.length < 3 ∨ decoder.pending[2]? = some 0 ∨
          ∃ length, decoder.pending[2]? = some length ∧
            decoder.pending.length < length.toNat + 3)) ∧
      (∀ body byte length, EndIn signals body → byte ≠ sentinel →
        (body ++ [byte])[2]? = some length → length ≠ 0 →
          (decoder.feedByte byte).2 =
            if (body ++ [byte]).length = length.toNat + 3 then
              some (read decoder.nextId (body ++ [byte]))
            else none) ∧
      (∀ byte, (∃ outcome ∈ (decoder.feedByte byte).2, outcome.isOversized = true) ↔
        byte ≠ sentinel ∧ ∃ body, EndIn signals body ∧ body.length = 258 ∧ body[2]? = some 0) ∧
      (∀ outcome ∈ decoder.flush.2, outcome.isOversized = false) ∧
      (∀ byte, decoder.feedByte? byte = some (decoder.feedByte byte)) := by
  intro decoder signals
  have reached : fresh.takeAll signals = decoder := by
    rw [takeAll_append, takeAll_requests, takeAll_bytes]
  rw [← reached]
  refine ⟨fun buffering => ?_, fun body byte length ends other third declares => ?_,
    isOversized_answer_iff signals, isOversized_flush _, feedByte?_eq _⟩
  · have unfinished := (unfinished_of_buffering buffering).2
    exact ⟨unfinished.quiet, unfinished.short, unfinished.incomplete⟩
  · exact answer_of_declared ends other third declares

end Decoder

end PanelLink.Frame
