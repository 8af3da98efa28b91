/-
This file follows a replay that is used in any way: read at any moments, written to, and
closed. Some reads come before their tick and give nothing, and so does a read that is given
up before it. The chunks are the pieces of one size that the capture falls into, from the
first one on, whatever the pauses between them and whatever comes in between. When all of
them have been handed out, and not before, reads tell that the capture is at its end.

No guard stops a read. For a replay that is not at its start has handed out a whole chunk if
there is more to hand out, so the size of a chunk is not greater than the position, and the
length of a capture is less than half of the largest machine word.
-/

import Mathlib.Data.List.Induction
import PanelLink.Proofs.Handing

namespace PanelLink

open Timing

/-! ### Uses of a replay -/

/-- The bytes that a read hands out. -/
def Reading.chunk? : Reading → Option (List UInt8)
  | chunk bytes => some bytes
  | waiting | finished | failed _ => none

/-- Something that is asked of a replay. -/
inductive Replay.Use where
  | read (now : Nat)
  | write (bytes : List UInt8)
  | close
  deriving DecidableEq, Repr

/-- A replay, its reads with their moments, and its writes. -/
structure Replaying where
  replay : Replay
  reads : List (Nat × Reading) := []
  writes : List (List UInt8 × Except Fault Unit) := []

namespace Replaying

def serve [Timer] (run : Replaying) : Replay.Use → Replaying
  | .read now =>
    let performed := run.replay.read now
    { run with replay := performed.link, reads := run.reads ++ [(now, performed.answer)] }
  | .write bytes =>
    let performed := run.replay.write bytes
    { run with replay := performed.link, writes := run.writes ++ [(bytes, performed.answer)] }
  | .close => { run with replay := run.replay.close.link }

/-- A replay after uses in order. -/
def after [Timer] (replay : Replay) (uses : List Replay.Use) : Replaying :=
  uses.foldl serve { replay }

/-- The chunks that were handed out. -/
def chunks (run : Replaying) : List (List UInt8) :=
  run.reads.filterMap fun read => read.2.chunk?

/-- The number of bytes of the writes that succeeded. -/
def accepted (run : Replaying) : Nat :=
  (run.writes.flatMap fun write => if write.2.isOk then write.1 else []).length

theorem after_concat [Timer] (replay : Replay) (uses : List Replay.Use) (use : Replay.Use) :
    after replay (uses ++ [use]) = (after replay uses).serve use :=
  List.foldl_append ..

/-- A replay that was new has handed out its first pieces, and knows how many bytes those were. -/
structure Keeps (fresh : Replay) (uses : List Replay.Use) (run : Replaying) : Prop where
  data : run.replay.data = fresh.data
  chunkSize : run.replay.chunkSize = fresh.chunkSize
  period? : run.replay.period? = fresh.period?
  closed : run.replay.closed = true ↔ .close ∈ uses
  written : run.replay.written = run.accepted
  position : run.replay.position = run.chunks.flatten.length
  /-- What is still to come are the pieces of what is left of the capture. -/
  parted : pieces fresh.chunkSize fresh.data =
    run.chunks ++ pieces fresh.chunkSize (fresh.data.drop run.replay.position)
  /-- Nothing is left when a read has told so. -/
  finished : ∀ read ∈ run.reads, read.2 = .finished → fresh.data.length ≤ run.replay.position

namespace Keeps

variable {fresh : Replay} {uses : List Replay.Use} {run : Replaying}

/-- A read that hands nothing out. -/
theorem silent (keeps : Keeps fresh uses run) (ticker? : Option Ticker) {now : Nat}
    {reading : Reading} (silent : reading.chunk? = none)
    (last : reading = .finished → fresh.data.length ≤ run.replay.position) :
    Keeps fresh (uses ++ [.read now])
      { run with
        replay := { run.replay with ticker? }
        reads := run.reads ++ [(now, reading)] } := by
  have chunks : ({ run with
      replay := { run.replay with ticker? }
      reads := run.reads ++ [(now, reading)] } : Replaying).chunks = run.chunks := by
    simp [Replaying.chunks, silent]
  refine ⟨keeps.data, keeps.chunkSize, keeps.period?, by simpa using keeps.closed, keeps.written,
    chunks ▸ keeps.position, chunks ▸ keeps.parted, fun read member ended => ?_⟩
  rcases List.mem_append.mp member with before | isLast
  · exact keeps.finished read before ended
  · rw [List.mem_singleton.mp isLast] at ended
    exact last ended

/-- The chunk that a replay hands out next is the next piece. -/
theorem parted_next (keeps : Keeps fresh uses run) (positive : 0 < fresh.chunkSize)
    (more : run.replay.position < run.replay.data.length) :
    ∃ next, run.replay.handOut.answer = .chunk next ∧
      run.replay.handOut.link.position = run.replay.position + next.length ∧
      pieces fresh.chunkSize fresh.data = run.chunks ++ [next] ++
        pieces fresh.chunkSize (fresh.data.drop (run.replay.position + next.length)) := by
  have nonempty : fresh.data.drop run.replay.position ≠ [] := by
    rw [ne_eq, List.drop_eq_nil_iff, Nat.not_le, ← keeps.data]
    exact more
  refine ⟨(fresh.data.drop run.replay.position).take fresh.chunkSize, ?_, ?_, ?_⟩
  · rw [Replay.handOut, keeps.data, keeps.chunkSize]
  · rw [Replay.handOut, keeps.data, keeps.chunkSize]
  · rw [List.append_assoc, List.singleton_append, ← List.drop_drop,
      ← pieces_of_ne_nil positive nonempty]
    exact keeps.parted

/-- A read that hands out the next piece. -/
theorem handOut (keeps : Keeps fresh uses run) (positive : 0 < fresh.chunkSize)
    (more : run.replay.position < run.replay.data.length) (ticker? : Option Ticker) (now : Nat) :
    Keeps fresh (uses ++ [.read now])
      { run with
        replay := { run.replay.handOut.link with ticker? }
        reads := run.reads ++ [(now, run.replay.handOut.answer)] } := by
  obtain ⟨next, answer, position, parted⟩ := keeps.parted_next positive more
  have chunks : ({ run with
      replay := { run.replay.handOut.link with ticker? }
      reads := run.reads ++ [(now, run.replay.handOut.answer)] } : Replaying).chunks =
        run.chunks ++ [next] := by
    simp [Replaying.chunks, answer, Reading.chunk?]
  have closed : run.replay.closed = true ↔ .close ∈ uses ++ [.read now] := by
    simpa using keeps.closed
  refine ⟨keeps.data, keeps.chunkSize, keeps.period?, closed, keeps.written, ?_, ?_,
    fun read member ended => ?_⟩
  · rw [chunks, List.flatten_append, List.length_append, ← keeps.position, List.flatten_singleton]
    exact position
  · rw [chunks, parted, ← position]
  · rcases List.mem_append.mp member with before | isLast
    · have past := keeps.finished read before ended
      exact absurd (keeps.data ▸ more) (Nat.not_lt.mpr past)
    · rw [List.mem_singleton.mp isLast, answer] at ended
      cases ended

section Use

variable [Timer]

theorem read (keeps : Keeps fresh uses run) (positive : 0 < fresh.chunkSize) (now : Nat) :
    Keeps fresh (uses ++ [.read now]) (run.serve (.read now)) := by
  have reads := run.replay.reads_read now
  rw [serve]
  generalize run.replay.read now = performed at reads
  obtain ⟨link, reading, entries⟩ := performed
  cases reads with
  | refused _ => exact keeps.silent run.replay.ticker? rfl nofun
  | finished _ past => exact keeps.silent run.replay.ticker? rfl fun _ => keeps.data ▸ past
  | early _ _ _ _ => exact keeps.silent _ rfl nofun
  | unpaced _ more _ => exact keeps.handOut positive more run.replay.ticker? now
  | ticked _ more _ _ => exact keeps.handOut positive more _ now

theorem write (keeps : Keeps fresh uses run) (bytes : List UInt8) :
    Keeps fresh (uses ++ [.write bytes]) (run.serve (.write bytes)) := by
  have written := keeps.written
  have closed : run.replay.closed = true ↔ .close ∈ uses ++ [.write bytes] := by
    simpa using keeps.closed
  rw [serve, Replay.write]
  split
  · refine { keeps with closed, written := ?_ }
    rw [written]
    simp [accepted, Except.isOk, Except.toBool]
  · refine { keeps with closed, written := ?_ }
    show run.replay.written + bytes.length = _
    rw [written]
    simp [accepted, Except.isOk, Except.toBool]

theorem close (keeps : Keeps fresh uses run) :
    Keeps fresh (uses ++ [.close]) (run.serve .close) := by
  rw [serve, Replay.close]
  split
  · rename_i closed
    exact { keeps with closed := iff_of_true closed (by simp) }
  · exact { keeps with closed := iff_of_true rfl (by simp) }

end Use

end Keeps

theorem keeps_after [Timer] (data : List UInt8) (playback : Settings.Playback) (name : String)
    (uses : List Replay.Use) :
    let fresh := { Replay.ofBytes data playback with name }
    Keeps fresh uses (after fresh uses) := by
  intro fresh
  induction uses using List.reverseRecOn with
  | nil =>
    exact ⟨rfl, rfl, rfl, iff_of_false Bool.false_ne_true List.not_mem_nil, rfl, rfl, rfl,
      fun _ member => nomatch member⟩
  | append_singleton before use keeps =>
    rw [after_concat]
    cases use with
    | read now => exact keeps.read (Replay.chunkSize_pos data playback) now
    | write bytes => exact keeps.write bytes
    | close => exact keeps.close

/-! ### What a replay has handed out -/

namespace Keeps

variable {fresh : Replay} {uses : List Replay.Use} {run : Replaying}

theorem going_iff (keeps : Keeps fresh uses run) :
    run.replay.closed = false ↔ .close ∉ uses := by
  rw [← keeps.closed, Bool.not_eq_true]

/-- What has been handed out is the front of the capture. -/
theorem flatten_append (keeps : Keeps fresh uses run) :
    fresh.data = run.chunks.flatten ++ fresh.data.drop run.replay.position := by
  have whole := congrArg List.flatten keeps.parted
  rwa [List.flatten_append, flatten_pieces, flatten_pieces] at whole

theorem flatten_eq_data_iff (keeps : Keeps fresh uses run) :
    run.chunks.flatten = fresh.data ↔ fresh.data.length ≤ run.replay.position := by
  have whole := keeps.flatten_append
  rw [← List.drop_eq_nil_iff]
  constructor
  · intro all
    rw [all] at whole
    exact List.self_eq_append_right.mp whole
  · intro nothing
    rw [nothing, List.append_nil] at whole
    exact whole.symm

/-- A replay announces the chunks that it has handed out and those that it still has to. -/
theorem totalChunks_eq (keeps : Keeps fresh uses run) (positive : 0 < fresh.chunkSize) :
    fresh.totalChunks = run.chunks.length +
      (pieces fresh.chunkSize (fresh.data.drop run.replay.position)).length := by
  rw [Replay.totalChunks, ← length_pieces _ positive, keeps.parted, List.length_append]

theorem length_eq_totalChunks_iff (keeps : Keeps fresh uses run) (positive : 0 < fresh.chunkSize) :
    run.chunks.length = fresh.totalChunks ↔ fresh.data.length ≤ run.replay.position := by
  rw [keeps.totalChunks_eq positive, Nat.left_eq_add, List.length_eq_zero_iff, pieces_eq_nil_iff,
    List.drop_eq_nil_iff]

/-- Only the last chunk of a capture can be shorter than the others. -/
theorem chunk_full (keeps : Keeps fresh uses run) (positive : 0 < fresh.chunkSize) {number : Nat}
    {chunk : List UInt8} (known : run.chunks[number]? = some chunk) :
    chunk ≠ [] ∧ (chunk.length = fresh.chunkSize ∨ number + 1 = fresh.totalChunks) := by
  have piece : (pieces fresh.chunkSize fresh.data)[number]? = some chunk := by
    rw [keeps.parted, List.getElem?_append_left (List.getElem?_eq_some_iff.mp known).1]
    exact known
  refine ⟨fun empty => ?_, (length_piece positive piece).imp_right fun last => ?_⟩
  · exact nil_notMem_pieces _ _ (empty ▸ List.mem_of_getElem? piece)
  · exact last.trans (length_pieces _ positive)

/-- Where there is more to hand out, the end of the next chunk is a machine word. -/
theorem reach_lt (keeps : Keeps fresh uses run) (positive : 0 < fresh.chunkSize)
    (short : 2 * fresh.data.length < UInt64.size) (sized : fresh.chunkSize < UInt64.size)
    (more : run.replay.position < run.replay.data.length) :
    run.replay.position + run.replay.chunkSize < UInt64.size := by
  have position := keeps.position
  rw [keeps.data] at more
  rw [keeps.chunkSize]
  cases handed : run.chunks with
  | nil =>
    rw [position, handed, List.flatten_nil, List.length_nil, Nat.zero_add]
    exact sized
  | cons first others =>
    -- The first chunk is not the last one, so a whole one has been handed out.
    have known : run.chunks[0]? = some first := by
      rw [handed]
      rfl
    have full : first.length = fresh.chunkSize := by
      refine (keeps.chunk_full positive known).2.resolve_right fun last => ?_
      refine absurd ((keeps.length_eq_totalChunks_iff positive).mp ?_) (Nat.not_le.mpr more)
      have counted := keeps.totalChunks_eq positive
      rw [handed, List.length_cons] at counted ⊢
      omega
    rw [handed, List.flatten_cons, List.length_append, full] at position
    omega

variable [Timer]

/-- A read tells the end of the capture when everything has been handed out. -/
theorem finished_iff (keeps : Keeps fresh uses run) (now : Nat) :
    (run.replay.read now).answer = .finished ↔
      .close ∉ uses ∧ run.chunks.flatten = fresh.data := by
  rw [← keeps.going_iff, keeps.flatten_eq_data_iff, ← keeps.data]
  have reads := run.replay.reads_read now
  generalize run.replay.read now = performed at reads
  obtain ⟨link, reading, entries⟩ := performed
  cases reads with
  | refused closed => exact iff_of_false nofun fun done => by rw [closed] at done; cases done.1
  | finished going past => exact iff_of_true rfl ⟨going, past⟩
  | early going more | unpaced going more | ticked going more =>
    exact iff_of_false nofun fun done => absurd more (Nat.not_lt.mpr done.2)

/-- Before that, a read hands out the next piece, or it comes before its tick. Then the same piece
is handed out from some moment on. -/
theorem exists_next (keeps : Keeps fresh uses run) (positive : 0 < fresh.chunkSize)
    (going : .close ∉ uses) (more : run.chunks.flatten ≠ fresh.data) :
    ∃ next, run.chunks ++ [next] <+: pieces fresh.chunkSize fresh.data ∧ ∀ now,
      let performed := run.replay.read now
      performed.answer = .chunk next ∨
        (fresh.period? ≠ none ∧ performed.answer = .waiting ∧
          ∃ due, ∀ later, due ≤ later → (performed.link.read later).answer = .chunk next) := by
  rw [ne_eq, keeps.flatten_eq_data_iff, ← keeps.data, Nat.not_le] at more
  obtain ⟨next, answer, -, parted⟩ := keeps.parted_next positive more
  refine ⟨next, ⟨_, parted.symm⟩, fun now => ?_⟩
  have going := keeps.going_iff.mpr going
  have reads := run.replay.reads_read now
  generalize run.replay.read now = performed at reads
  obtain ⟨link, reading, entries⟩ := performed
  cases reads with
  | refused closed => exact absurd closed (going ▸ Bool.false_ne_true)
  | finished _ past => exact absurd more (Nat.not_lt.mpr past)
  | unpaced _ _ _ => exact .inl answer
  | ticked _ _ _ _ => exact .inl answer
  | @early period _ more paced waits =>
    refine .inr ⟨by rw [← keeps.period?, paced]; nofun, rfl,
      (run.replay.pacer period now).grantedFrom, fun later reached => ?_⟩
    exact (Replay.answer_of_granted
      { run.replay with ticker? := some (run.replay.pacer period now) } going more paced rfl
      reached).trans answer

end Keeps

/-! ### Every order of uses -/

/-- What has become of the replay of a capture that was announced to have a number of chunks. -/
structure PlaysBack [Timer] (data : List UInt8) (playback : Settings.Playback) (total : Nat)
    (uses : List Replay.Use) (run : Replaying) : Prop where
  /-- The chunks are the pieces of the capture from the first one on. -/
  chunks : run.chunks <+: pieces (max playback.chunkSize 1) data
  /-- None is empty, and only the last piece of the capture can be shorter than the others. -/
  full : ∀ (number : Nat) (chunk : List UInt8), run.chunks[number]? = some chunk →
    chunk ≠ [] ∧ (chunk.length = max playback.chunkSize 1 ∨ number + 1 = total)
  position : run.replay.position = run.chunks.flatten.length
  remaining : ∃ rest, data = run.chunks.flatten ++ rest ∧ run.replay.remaining = rest.length
  /-- Everything has been handed out with as many chunks as were announced. -/
  complete : run.chunks.flatten = data ↔ run.chunks.length = total
  ended : ∀ read ∈ run.reads, read.2 = .finished → run.chunks.flatten = data
  /-- A read tells the end exactly when everything has been handed out. -/
  finished_iff : ∀ now, (run.replay.read now).answer = .finished ↔
    .close ∉ uses ∧ run.chunks.flatten = data
  /-- Before that it hands out the next piece, unless it comes before its tick, and then a later
  read does. -/
  next : .close ∉ uses → run.chunks.flatten ≠ data →
    ∃ next, run.chunks ++ [next] <+: pieces (max playback.chunkSize 1) data ∧ ∀ now,
      let performed := run.replay.read now
      performed.answer = .chunk next ∨
        (playback.intervalMs ≠ 0 ∧ performed.answer = .waiting ∧
          ∃ due, ∀ later, due ≤ later → (performed.link.read later).answer = .chunk next)
  /-- No sum of a read outgrows a machine word. -/
  reach : run.replay.position < data.length →
    run.replay.position + run.replay.chunkSize < UInt64.size
  unguarded : ∀ now, run.replay.read? now = some (run.replay.read now)
  written : run.replay.written = run.accepted
  accepts : .close ∉ uses → ∀ bytes, (run.replay.write bytes).answer = .ok ()
  /-- A closed replay refuses reads, and they change nothing. -/
  refuses_read : .close ∈ uses → ∀ now, run.replay.read now =
    ⟨run.replay, .failed (Replay.closedFault .reading), []⟩
  refuses_write : .close ∈ uses → ∀ bytes, run.replay.write bytes =
    ⟨run.replay, .error (Replay.closedFault .writing), []⟩

/-- Whatever a replay is used for, in whatever order and at whatever moments, and whenever its ticks
are granted, it plays its capture back, as long as twice the length of the capture and the size of a
chunk are machine words. -/
theorem chunks_after [Timer] (data : List UInt8) (playback : Settings.Playback) (name : String)
    (uses : List Replay.Use) (short : 2 * data.length < UInt64.size)
    (sized : playback.chunkSize < UInt64.size) :
    let fresh := { Replay.ofBytes data playback with name }
    PlaysBack data playback fresh.totalChunks uses (after fresh uses) := by
  intro fresh
  have keeps : Keeps fresh uses (after fresh uses) := keeps_after data playback name uses
  generalize after fresh uses = run at keeps
  have positive : 0 < fresh.chunkSize := Replay.chunkSize_pos data playback
  have reach (more : run.replay.position < run.replay.data.length) :=
    keeps.reach_lt positive short (Nat.max_lt.mpr ⟨sized, by decide⟩) more
  exact {
    chunks := ⟨_, keeps.parted.symm⟩
    full := fun number chunk known => keeps.chunk_full positive known
    position := keeps.position
    remaining := by
      refine ⟨_, keeps.flatten_append, ?_⟩
      rw [Replay.remaining, keeps.data, List.length_drop]
    complete :=
      keeps.flatten_eq_data_iff.trans (keeps.length_eq_totalChunks_iff positive).symm
    ended := fun read member ended =>
      keeps.flatten_eq_data_iff.mpr (keeps.finished read member ended)
    finished_iff := keeps.finished_iff
    next := fun going more => by
      obtain ⟨next, isNext, reads⟩ := keeps.exists_next positive going more
      refine ⟨next, isNext, fun now => (reads now).imp_right fun ⟨paced, waits, later⟩ => ?_⟩
      refine ⟨fun unpaced => paced ?_, waits, later⟩
      show playback.period? = none
      rw [Settings.Playback.period?, unpaced]
      rfl
    reach := fun more => reach (keeps.data ▸ more)
    unguarded := fun now => Replay.read?_eq reach now
    written := keeps.written
    accepts := fun going bytes => by
      rw [Replay.write, if_neg (Bool.eq_false_iff.mp (keeps.going_iff.mpr going))]
    refuses_read := fun closed now => by rw [Replay.read, if_pos (keeps.closed.mpr closed)]
    refuses_write := fun closed bytes => by rw [Replay.write, if_pos (keeps.closed.mpr closed)] }

theorem chunks_of_three_bytes :
    let playback : Settings.Playback := { chunkSize := 18446744073709551615, intervalMs := 10 }
    let uses : List Replay.Use := [.read 0, .write [7], .read 5000000]
    let run := after { Replay.ofBytes [1, 2, 3] playback with name := "capture" } uses
    2 * [1, 2, 3].length < UInt64.size ∧ playback.chunkSize < UInt64.size ∧
      run.chunks = [[1, 2, 3]] ∧ run.replay.position = run.chunks.flatten.length ∧
      (run.replay.read 5000000).answer = .finished ∧ run.replay.written = run.accepted := by
  intro playback uses run
  have short : 2 * [1, 2, 3].length < UInt64.size := by decide
  have sized : playback.chunkSize < UInt64.size := by decide
  have played := chunks_after [1, 2, 3] playback "capture" uses short sized
  have finished : (run.replay.read 5000000).answer = .finished :=
    (played.finished_iff 5000000).mpr ⟨by decide, by decide⟩
  exact ⟨short, sized, by decide, played.position, finished, played.written⟩

end Replaying

end PanelLink
