/-
This file proves what comes of one read of a replay: it is refused, or it tells the end of
the capture, or it comes before its tick, or it hands out a chunk. The place up to which a
chunk reaches is the sum of the position and the size of a chunk, and nothing bounds that
size but the size of a machine word. A guarded read does all of this with a guard at that
sum and at the bounds of the chunk. Where there is more to hand out and the sum is a machine
word, the guards stop nothing.

What is handed out are the pieces of a capture, and the file starts with these.
-/

import PanelLink.Link.Replay
import PanelLink.Pieces
import PanelLink.Proofs.Guarding

namespace PanelLink

open Journal Timing

/-! ### Pieces -/

section Pieces

variable {α : Type} {size : Nat} {items : List α}

/-- A short piece moves the position less far, but nothing is left behind it. -/
theorem pieces_of_ne_nil (positive : 0 < size) (nonempty : items ≠ []) :
    pieces size items = items.take size :: pieces size (items.drop (items.take size).length) := by
  have same : items.drop (items.take size).length = items.drop size := by
    rw [List.drop_eq_drop_iff, List.length_take, Nat.min_assoc, Nat.min_self]
  rw [same]
  obtain ⟨size, rfl⟩ := Nat.exists_eq_add_one.mpr positive
  cases items with
  | nil => exact absurd rfl nonempty
  | cons first rest => simp [pieces]

theorem pieces_eq_nil_iff : pieces size items = [] ↔ items = [] := by
  cases items <;> simp [pieces]

variable (size items)

theorem flatten_pieces : (pieces size items).flatten = items := by
  induction items using pieces.induct size with
  | case1 => simp [pieces]
  | case2 first rest inductionHypothesis =>
    rw [pieces, List.flatten_cons, inductionHypothesis, List.cons_append, List.take_append_drop]

theorem nil_notMem_pieces : [] ∉ pieces size items := by
  induction items using pieces.induct size with
  | case1 => simp [pieces]
  | case2 first rest inductionHypothesis => simp [pieces, inductionHypothesis]

theorem length_pieces_le : (pieces size items).length ≤ items.length := by
  induction items using pieces.induct size with
  | case1 => simp [pieces]
  | case2 first rest inductionHypothesis =>
    rw [List.length_drop] at inductionHypothesis
    rw [pieces, List.length_cons, List.length_cons]
    omega

variable {size}

/-- The number of pieces is the number of items over the size, rounded up. -/
theorem length_pieces (positive : 0 < size) :
    (pieces size items).length = (items.length + (size - 1)) / size := by
  induction items using pieces.induct size with
  | case1 =>
    rw [pieces, List.length_nil, List.length_nil, Nat.zero_add, Nat.div_eq_of_lt (by omega)]
  | case2 first rest inductionHypothesis =>
    rw [pieces, List.length_cons, inductionHypothesis, List.length_drop, List.length_cons]
    by_cases fits : rest.length < size - 1
    · have alone : rest.length - (size - 1) = 0 := by omega
      rw [alone, Nat.zero_add, Nat.div_eq_of_lt (by omega)]
      exact (Nat.div_eq_of_lt_le (by omega) (by omega)).symm
    · rw [← Nat.add_div_right _ positive]
      congr 1
      omega

variable {items}

/-- Every piece but the last one is full. -/
theorem length_piece (positive : 0 < size) {number : Nat} {piece : List α}
    (known : (pieces size items)[number]? = some piece) :
    piece.length = size ∨ number + 1 = (pieces size items).length := by
  induction items using pieces.induct size generalizing number with
  | case1 =>
    rw [pieces] at known
    cases known
  | case2 first rest inductionHypothesis =>
    rw [pieces] at known ⊢
    cases number with
    | succ number =>
      exact (inductionHypothesis known).imp_right (congrArg (· + 1))
    | zero =>
      cases known
      by_cases full : size - 1 ≤ rest.length
      · left
        rw [List.length_cons, List.length_take, Nat.min_eq_left full, Nat.sub_add_cancel positive]
      · right
        rw [List.drop_of_length_le (Nat.le_of_not_le full), pieces]
        rfl

end Pieces

namespace Replay

theorem chunkSize_pos (bytes : List UInt8) (playback : Settings.Playback) :
    0 < (ofBytes bytes playback).chunkSize :=
  Nat.lt_of_lt_of_le Nat.one_pos (Nat.le_max_right _ _)

/-! ### Reads -/

/-- The ticker that a read asks for a tick. -/
def pacer (replay : Replay) (period now : Nat) : Ticker :=
  replay.ticker?.getD (Ticker.start period now)

variable [Timer]

/-- What comes of a read. -/
inductive Reads (replay : Replay) (now : Nat) : Replay → Reading → Prop where
  | refused (closed : replay.closed = true) :
    Reads replay now replay (.failed (closedFault .reading))
  | finished (going : replay.closed = false) (past : replay.data.length ≤ replay.position) :
    Reads replay now replay .finished
  /-- The read comes before its tick. -/
  | early {period : Nat} (going : replay.closed = false)
    (more : replay.position < replay.data.length) (paced : replay.period? = some period)
    (waits : (replay.pacer period now).tick? now = none) :
    Reads replay now { replay with ticker? := some (replay.pacer period now) } .waiting
  | unpaced (going : replay.closed = false) (more : replay.position < replay.data.length)
    (free : replay.period? = none) :
    Reads replay now replay.handOut.link replay.handOut.answer
  | ticked {period : Nat} {next : Ticker} (going : replay.closed = false)
    (more : replay.position < replay.data.length) (paced : replay.period? = some period)
    (granted : (replay.pacer period now).tick? now = some next) :
    Reads replay now { replay.handOut.link with ticker? := some next } replay.handOut.answer

theorem reads_read (replay : Replay) (now : Nat) :
    replay.Reads now (replay.read now).link (replay.read now).answer := by
  rw [read]
  split
  · rename_i closed
    exact .refused closed
  · rename_i going
    have going := Bool.eq_false_iff.mpr going
    split
    · rename_i past
      exact .finished going past
    · rename_i more
      have more := Nat.not_le.mp more
      split
      · rename_i free
        exact .unpaced going more free
      · rename_i period paced
        rw [Replay.paced]
        cases granted : (replay.pacer period now).tick? now with
        | some next =>
          rw [pacer] at granted
          simp only [granted]
          exact .ticked going more paced granted
        | none =>
          have waits := granted
          rw [pacer] at granted
          simp only [granted]
          exact .early going more paced waits

/-- A read that its ticker grants hands out the next chunk. -/
theorem answer_of_granted (replay : Replay) (going : replay.closed = false)
    (more : replay.position < replay.data.length) {period : Nat}
    (paced : replay.period? = some period) {ticker : Ticker} (known : replay.ticker? = some ticker)
    {now : Nat} (reached : ticker.grantedFrom ≤ now) :
    (replay.read now).answer = replay.handOut.answer := by
  have reads := replay.reads_read now
  have granted : (replay.pacer period now).tick? now = some (ticker.afterTick now) := by
    rw [pacer, known, Option.getD_some, Ticker.tick?, if_pos reached]
  generalize replay.read now = performed at reads
  obtain ⟨link, reading, entries⟩ := performed
  cases reads with
  | refused closed => exact absurd closed (going ▸ Bool.false_ne_true)
  | finished _ past => exact absurd more (Nat.not_lt.mpr past)
  | unpaced _ _ free => exact absurd (paced.symm.trans free) nofun
  | ticked _ _ _ _ => rfl
  | early _ _ again waits =>
    cases paced.symm.trans again
    cases granted.symm.trans waits

/-! ### Guarded reads -/

/-- Hands out the next chunk. The sum that says how far it reaches has to be a machine word, and the
chunk has to be a part of the capture. -/
def handOut? (replay : Replay) : Option (Performed Replay Reading) := do
  let reach ← Guarded.word? (replay.position + replay.chunkSize)
  let stop := min reach replay.data.length
  if replay.position ≤ stop then
    let chunk := (replay.data.take stop).drop replay.position
    let next := { replay with position := stop }
    some ⟨next, .chunk chunk,
      [replay.entry .trace ("chunk of " ++ Radix.decimal chunk.length ++ " bytes, " ++
        Radix.decimal next.remaining ++ " remaining")]⟩
  else none

/-- Hands out the next chunk if its pause is over. -/
def paced? (replay : Replay) (period now : Nat) : Option (Performed Replay Reading) :=
  match (replay.pacer period now).tick? now with
  | some next => handOut? { replay with ticker? := some next }
  | none => some ⟨{ replay with ticker? := some (replay.pacer period now) }, .waiting, []⟩

/-- Asks for the next chunk, if no guard stops that. -/
def read? (replay : Replay) (now : Nat) : Option (Performed Replay Reading) :=
  if replay.closed then some ⟨replay, .failed (closedFault .reading), []⟩
  else if replay.data.length ≤ replay.position then
    some ⟨replay, .finished, [replay.entry .debug "reached end of capture"]⟩
  else
    match replay.period? with
    | none => replay.handOut?
    | some period => replay.paced? period now

omit [Timer] in
theorem handOut?_eq {replay : Replay} (inside : replay.position ≤ replay.data.length)
    (small : replay.position + replay.chunkSize < UInt64.size) :
    replay.handOut? = some replay.handOut := by
  have chunk : (replay.data.take (min (replay.position + replay.chunkSize)
      replay.data.length)).drop replay.position =
        (replay.data.drop replay.position).take replay.chunkSize := by
    rw [← List.take_eq_take_min, List.drop_take, Nat.add_sub_cancel_left]
  have stop : min (replay.position + replay.chunkSize) replay.data.length =
      replay.position + ((replay.data.drop replay.position).take replay.chunkSize).length := by
    rw [List.length_take, List.length_drop]
    omega
  simp only [handOut?, Guarded.word?_of_lt small, Option.bind_eq_bind, Option.bind_some, chunk]
  rw [if_pos (Nat.le_min.mpr ⟨Nat.le_add_right .., inside⟩), stop]
  rfl

theorem paced?_eq {replay : Replay} (inside : replay.position ≤ replay.data.length)
    (small : replay.position + replay.chunkSize < UInt64.size) (period now : Nat) :
    replay.paced? period now = some (replay.paced period now) := by
  rw [paced?, paced]
  show _ = some (match (replay.pacer period now).tick? now with
    | some next => handOut { replay with ticker? := some next }
    | none => ⟨{ replay with ticker? := some (replay.pacer period now) }, .waiting, []⟩)
  cases (replay.pacer period now).tick? now with
  | some next => exact handOut?_eq inside small
  | none => rfl

/-- A guard could stop a read only where there is more to hand out. -/
theorem read?_eq {replay : Replay}
    (small : replay.position < replay.data.length →
      replay.position + replay.chunkSize < UInt64.size) (now : Nat) :
    replay.read? now = some (replay.read now) := by
  rw [read?, read]
  split
  · rfl
  · split
    · rfl
    · rename_i more
      have more := Nat.not_le.mp more
      cases replay.period? with
      | none => exact handOut?_eq (Nat.le_of_lt more) (small more)
      | some period => exact paced?_eq (Nat.le_of_lt more) (small more) period now

end Replay

end PanelLink
