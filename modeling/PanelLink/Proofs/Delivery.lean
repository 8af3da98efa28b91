/-
This file follows what the host sends over a link, whatever the host does in between,
whenever the writer gets to do a step, and whatever comes of it. At every moment the bytes
that were taken are the first of those of the writes that were accepted. A writer that ends
without a failure has written all of them, those that were queued when the link was closed
included, and has shut what it writes to, which happens once at most. A failure of the
writer is reported by the first write that comes too late, and by no other.

Over a pair of pipes the writer does its steps in the background, each with the answer of
the pipe to the device, until there is nothing left to do.
-/

import Mathlib.Data.List.Induction
import PanelLink.Proofs.Standing

namespace PanelLink

open Deed

/-! ### Dealings -/

/-- What can happen to the host's end of a link. -/
inductive Dealing where
  | write (bytes : List UInt8)
  | read (arrival : Arrival)
  /-- With the failure of shutting what was never written to, if it fails. -/
  | close (failure? : Option IoFailure)
  /-- The writer does one step. -/
  | work (uptake : Uptake)
  deriving DecidableEq, Repr

/-- The host's end of a link, the writes with their answers and the deeds of the writer. -/
structure Delivery where
  duplex : Duplex
  writes : List (List UInt8 × Except Fault Unit) := []
  deeds : List Deed := []

namespace Delivery

def meet (delivery : Delivery) : Dealing → Delivery
  | .write bytes =>
    let wrote := delivery.duplex.write bytes
    { delivery with duplex := wrote.link, writes := delivery.writes ++ [(bytes, wrote.answer)] }
  | .read arrival => { delivery with duplex := (delivery.duplex.read arrival).link }
  | .close failure? =>
    let uptake := failure?.elim (.done 0) .failed
    { delivery with
      duplex := (delivery.duplex.close failure?).link
      deeds := delivery.deeds ++ (delivery.duplex.demand?.map (⟨·, uptake⟩)).toList }
  | .work uptake =>
    { delivery with
      duplex := (delivery.duplex.work uptake).1
      deeds := delivery.deeds ++ (delivery.duplex.writer.deed? uptake).toList }

/-- A fresh link with a name after dealings in order. -/
def after (name : String) (dealings : List Dealing) : Delivery :=
  dealings.foldl meet { duplex := { name } }

/-- The bytes of the writes that were accepted, in order. -/
def accepted (delivery : Delivery) : List UInt8 :=
  delivery.writes.flatMap fun write => Duplex.acceptedOf write.1 write.2

end Delivery

/-! ### Progress -/

namespace Writer

/-- A writer that asks for nothing gets on, unless it waits for the queue. -/
theorem burden_turn {stage : Stage} (asks : stage.demand? = none) (lasting : Bool)
    (queue : List (List UInt8)) :
    (lasting = true ∧ stage.turn lasting queue = busy stage queue) ∨
      (stage.turn lasting queue).burden < (busy stage queue).burden := by
  cases stage with
  | flushing | shutting => cases asks
  | idle =>
    cases queue with
    | nil => cases lasting <;> decide
    | cons bytes rest =>
      refine .inr ?_
      simp only [Stage.turn, burden, Stage.burden, List.flatten_cons, List.length_append,
        List.length_cons]
      omega
  | writing bytes =>
    refine .inr ?_
    simp only [Stage.turn, burden, Stage.burden]
    omega

/-- A writer gets on when what it asks for is done. -/
theorem burden_proceed_lt {stage : Stage} {demand : Demand} (asks : stage.demand? = some demand)
    {count : Nat} (fine : (Uptake.done count).failure? demand = none)
    (queue : List (List UInt8)) :
    (stage.proceed count queue).burden < (busy stage queue).burden := by
  cases stage with
  | idle => cases asks
  | flushing | shutting =>
    simp only [Stage.proceed, burden, Stage.burden]
    omega
  | writing bytes =>
    obtain ⟨some, same⟩ := Option.ite_none_left_eq_some.mp asks
    cases same
    have taken : count ≠ 0 := fun none => by rw [none] at fine; cases fine
    have length : bytes.length ≠ 0 := fun none =>
      some (List.isEmpty_iff.mpr (List.eq_nil_of_length_eq_zero none))
    simp only [Stage.proceed, burden, Stage.burden, List.length_drop]
    omega

/-- A writer that is at work or has done everything. -/
def Sound (writer : Writer) : Prop :=
  (∃ stage queue, writer = busy stage queue) ∨ writer.Stopped none

/-- When nothing more is queued and everything asked for is done, a writer gets on. -/
theorem Sound.advance {writer : Writer} (sound : writer.Sound) (count : Nat) :
    let advanced := writer.advance false (.done (count + 1))
    advanced.Sound ∧ (writer = .gone none ∨ advanced.burden < writer.burden) := by
  rcases sound with ⟨stage, queue, rfl⟩ | rfl | rfl
  · cases asks : stage.demand? with
    | none =>
      rw [advance_of_silent asks]
      refine ⟨.inl ?_, .inr ((burden_turn asks false queue).resolve_left nofun)⟩
      cases stage with
      | idle => cases queue <;> exact ⟨_, _, rfl⟩
      | writing _ | flushing | shutting => exact ⟨_, _, rfl⟩
    | some demand =>
      have fine : (Uptake.done (count + 1)).failure? demand = none := by
        cases demand <;> rfl
      have advanced : (busy stage queue).advance false (.done (count + 1)) =
          stage.proceed (count + 1) queue := by
        rcases advance_cases asks false queue (.done (count + 1)) with
          ⟨failure, failed, -⟩ | ⟨-, ⟨_, same, advanced⟩ | ⟨waits, -⟩⟩
        · cases fine.symm.trans failed
        · cases same
          exact advanced
        · cases waits
      rw [advanced]
      refine ⟨?_, .inr (burden_proceed_lt asks fine queue)⟩
      cases stage with
      | idle | writing _ | flushing => exact .inl ⟨_, _, rfl⟩
      | shutting => exact .inr (.inl rfl)
  · exact ⟨.inr (.inr rfl), .inr Nat.one_pos⟩
  · exact ⟨.inr (.inr rfl), .inl rfl⟩

/-- So it comes to its end. -/
theorem Sound.advances {writer : Writer} (sound : writer.Sound) {uptakes : List Uptake}
    (done : ∀ uptake ∈ uptakes, ∃ count, uptake = .done (count + 1))
    (enough : writer.burden ≤ uptakes.length) :
    uptakes.foldl (fun writer uptake => writer.advance false uptake) writer = .gone none := by
  induction uptakes generalizing writer with
  | nil =>
    rcases sound with ⟨stage, queue, rfl⟩ | rfl | rfl
    · simp only [burden, List.length_nil] at enough
      omega
    · cases enough
    · rfl
  | cons uptake rest inductionHypothesis =>
    obtain ⟨⟨count, rfl⟩, later⟩ := List.forall_mem_cons.mp done
    obtain ⟨still, rfl | less⟩ := sound.advance count
    · exact inductionHypothesis still later (Nat.zero_le _)
    · exact inductionHypothesis still later
        (Nat.le_of_lt_succ (Nat.lt_of_lt_of_le less enough))

end Writer

/-! ### Over pipes -/

/-- A pipe holds what it took. -/
theorem Pipe.held_meet (pipe : Pipe) (demand : Demand) :
    (pipe.meet demand).1.held = pipe.held ++ handed ⟨demand, (pipe.meet demand).2⟩ := by
  cases demand with
  | flush | shut => exact (List.append_nil pipe.held).symm
  | take bytes =>
    rw [meet]
    split
    · exact (List.append_nil pipe.held).symm
    · split
      · exact (List.append_nil pipe.held).symm
      · show pipe.held ++ bytes.take pipe.room =
          pipe.held ++ bytes.take (bytes.length - (bytes.drop pipe.room).length)
        rw [List.length_drop]
        congr 1
        rcases Nat.le_total pipe.room bytes.length with fits | small
        · rw [Nat.sub_sub_self fits]
        · rw [Nat.sub_eq_zero_of_le small, Nat.sub_zero, List.take_of_length_le small,
            List.take_length]

theorem Pipe.meet_of_pending (pipe : Pipe) {demand : Demand}
    (waits : (pipe.meet demand).2 = .pending) : (pipe.meet demand).1 = pipe := by
  cases demand with
  | flush | shut => cases waits
  | take bytes =>
    by_cases closed : pipe.closed = true
    · rw [meet, if_pos closed]
    · by_cases full : pipe.room = 0
      · rw [meet, if_neg closed, if_pos full]
      · rw [meet, if_neg closed, if_neg full] at waits
        cases waits

namespace Port

open Delivery

/-- A port works off a delivery: the writer of the delivery does steps, after which both are at the
same point, and the pipe to the device holds in addition what it took. -/
def WorksOff (port ran : Port) (delivery : Delivery) : Prop :=
  ∃ (uptakes : List Uptake) (deeds : List Deed),
    let worked := (uptakes.map Dealing.work).foldl meet delivery
    worked.duplex = ran.toDuplex ∧ worked.deeds = delivery.deeds ++ deeds ∧
      ran.toDevice.held = port.toDevice.held ++ handedAll deeds

theorem worksOff_work (port : Port) {delivery : Delivery}
    (same : delivery.duplex = port.toDuplex) : port.WorksOff port.work.1 delivery := by
  unfold work
  cases asks : port.writer.demand? with
  | none =>
    refine ⟨[.pending], [], ?_, ?_, (List.append_nil _).symm⟩
    · exact congrArg (fun duplex => (duplex.work .pending).1) same
    · show _ ++ (delivery.duplex.writer.deed? .pending).toList = _
      rw [same, Writer.deed?, asks]
      rfl
  | some demand =>
    refine ⟨[(port.toDevice.meet demand).2], [⟨demand, (port.toDevice.meet demand).2⟩], ?_, ?_, ?_⟩
    · exact congrArg (fun duplex => (duplex.work (port.toDevice.meet demand).2).1) same
    · show _ ++ (delivery.duplex.writer.deed? _).toList = _
      rw [same, Writer.deed?, asks]
      rfl
    · rw [handedAll, List.flatMap_singleton]
      exact port.toDevice.held_meet demand

theorem WorksOff.trans {port middle ran : Port} {delivery : Delivery}
    (first : port.WorksOff middle delivery)
    (second : ∀ delivery : Delivery, delivery.duplex = middle.toDuplex →
      middle.WorksOff ran delivery) : port.WorksOff ran delivery := by
  obtain ⟨uptakes, deeds, same, done, held⟩ := first
  obtain ⟨more, others, still, later, filled⟩ := second _ same
  refine ⟨uptakes ++ more, deeds ++ others, ?_, ?_, ?_⟩
  · rw [List.map_append, List.foldl_append]
    exact still
  · rw [List.map_append, List.foldl_append, ← List.append_assoc, ← done]
    exact later
  · rw [filled, held, handedAll, handedAll, handedAll, List.flatMap_append, List.append_assoc]

theorem worksOff_runWriter (port : Port) {delivery : Delivery}
    (same : delivery.duplex = port.toDuplex) : port.WorksOff port.runWriter.1 delivery := by
  induction port using runWriter.induct generalizing delivery with
  | case1 port worked entries known less ran more last inductionHypothesis =>
    have first := worksOff_work port same
    unfold runWriter
    rw [known] at first ⊢
    simp only [if_pos less]
    exact first.trans fun later known => inductionHypothesis known
  | case2 port worked entries known rests =>
    unfold runWriter
    simp only [known, if_neg rests]
    exact ⟨[], [], same, (List.append_nil _).symm, (List.append_nil _).symm⟩

/-- A step that does not bring the writer of a port nearer to its end changes nothing. -/
theorem work_of_burden_le (port : Port) (rests : ¬ port.work.1.writer.burden < port.writer.burden) :
    port.work = (port, []) := by
  obtain ⟨⟨reading, sending, writer, name⟩, toHost, toDevice, bufferSize, deviceGone⟩ := port
  cases writer with
  | absent | gone _ => rfl
  | leaving failure? => exact absurd Nat.one_pos rests
  | busy stage queue =>
    unfold work at rests ⊢
    simp only [Writer.demand?] at rests ⊢
    cases asks : stage.demand? with
    | none =>
      simp only [asks, Duplex.work, Writer.advance_of_silent asks] at rests ⊢
      obtain ⟨-, same⟩ := (Writer.burden_turn asks _ queue).resolve_right rests
      rw [same]
      rfl
    | some demand =>
      simp only [asks] at rests ⊢
      rcases Writer.advance_cases asks (sending == .queueing) queue (toDevice.meet demand).2 with
        ⟨failure, -, advanced⟩ | ⟨fine, ⟨count, done, advanced⟩ | ⟨waits, advanced⟩⟩
      · simp only [Duplex.work, advanced] at rests
        exact absurd (show 1 < (Writer.busy stage queue).burden by rw [Writer.burden]; omega) rests
      · simp only [Duplex.work, advanced] at rests
        rw [done] at fine
        exact absurd (Writer.burden_proceed_lt asks fine queue) rests
      · simp only [Duplex.work, advanced, toDevice.meet_of_pending waits]
        rfl

theorem work_runWriter (port : Port) : port.runWriter.1.work = (port.runWriter.1, []) := by
  induction port using runWriter.induct with
  | case1 port worked entries known less ran more last inductionHypothesis =>
    unfold runWriter
    simp only [known, if_pos less]
    exact inductionHypothesis
  | case2 port worked entries known rests =>
    unfold runWriter
    simp only [known, if_neg rests]
    exact known.symm.trans (port.work_of_burden_le (known ▸ rests))

/-- What runs in the background of a port is its writer. -/
theorem worksOff_settle (port : Port) {delivery : Delivery}
    (same : delivery.duplex = port.toDuplex) : port.WorksOff port.settle.1 delivery := by
  have ran := port.worksOff_runWriter same
  unfold settle
  dsimp only
  split
  · exact ran
  · exact ran

/-- It runs until nothing is left to do. -/
theorem work_settle (port : Port) : port.settle.1.work = (port.settle.1, []) := by
  unfold settle
  dsimp only
  split
  · exact port.work_runWriter
  · rename_i absent
    have idle : port.runWriter.1.writer.burden = 0 := by
      simp only [hostPresent, Bool.or_eq_true, not_or] at absent
      cases writer : port.runWriter.1.writer with
      | absent | gone _ => rfl
      | busy _ _ | leaving _ => exact absurd (congrArg Writer.isPresent writer) absent.2
    exact work_of_burden_le _ (idle ▸ Nat.not_lt_zero _)

end Port

/-! ### Every order of dealings -/

namespace Delivery

variable {delivery : Delivery}

/-- The link has been closed. -/
def Closed (dealings : List Dealing) : Prop :=
  ∃ failure?, Dealing.close failure? ∈ dealings

/-- Some write was refused. -/
def Refused (delivery : Delivery) : Prop :=
  ∃ write ∈ delivery.writes, write.2 ≠ .ok ()

theorem after_concat (name : String) (dealings : List Dealing) (dealing : Dealing) :
    after name (dealings ++ [dealing]) = (after name dealings).meet dealing :=
  List.foldl_append ..

theorem standing_meet (standing : Standing delivery.duplex.sending delivery.duplex.writer
      delivery.accepted delivery.deeds) (dealing : Dealing) :
    let met := delivery.meet dealing
    Standing met.duplex.sending met.duplex.writer met.accepted met.deeds := by
  cases dealing with
  | write bytes =>
    show Standing _ _ (accepted { delivery with writes := _ ++ _ }) _
    rw [accepted, List.flatMap_append, List.flatMap_singleton]
    exact standing.write bytes
  | read arrival =>
    simp only [meet, Duplex.link_read]
    exact standing
  | close failure? => exact standing.close failure?
  | work uptake => exact standing.work uptake

theorem standing_after (name : String) (dealings : List Dealing) :
    let delivery := after name dealings
    Standing delivery.duplex.sending delivery.duplex.writer delivery.accepted delivery.deeds := by
  induction dealings using List.reverseRecOn with
  | nil => exact .unused
  | append_singleton before dealing inductionHypothesis =>
    rw [after_concat]
    exact standing_meet inductionHypothesis dealing

/-- Nothing can be written any more after a close or a write that was refused. -/
theorem closed_after (name : String) (dealings : List Dealing) :
    (after name dealings).duplex.sending = .closed ↔
      Closed dealings ∨ (after name dealings).Refused := by
  induction dealings using List.reverseRecOn with
  | nil => exact iff_of_false nofun (by simp [after, Closed, Refused])
  | append_singleton before dealing inductionHypothesis =>
    rw [after_concat]
    cases dealing with
    | read arrival =>
      simp only [meet, Duplex.link_read, Closed, Refused, List.mem_append]
      simpa [Closed, Refused] using inductionHypothesis
    | close failure? =>
      simp only [meet, Duplex.link_close]
      exact iff_of_true trivial (.inl ⟨failure?, List.mem_append_right _ List.mem_cons_self⟩)
    | work uptake => simpa [meet, Duplex.work, Closed, Refused] using inductionHypothesis
    | write bytes =>
      refine (Duplex.closed_write_iff _ bytes).trans ⟨fun refused => ?_, fun shut => ?_⟩
      · exact .inr ⟨_, List.mem_append_right _ List.mem_cons_self, refused⟩
      · have late (closed : (after name before).duplex.sending = .closed) :
            ((after name before).duplex.write bytes).answer ≠ .ok () := by
          rw [Duplex.write_of_closed closed]
          exact nofun
        rcases shut with ⟨failure?, member⟩ | ⟨write, member, refused⟩
        · refine late (inductionHypothesis.mpr (.inl ⟨failure?, ?_⟩))
          simpa using member
        · rcases List.mem_append.mp member with old | last
          · exact late (inductionHypothesis.mpr (.inr ⟨write, old, refused⟩))
          · rw [List.mem_singleton.mp last] at refused
            exact refused

theorem reading_after (name : String) (dealings : List Dealing) (closed : Closed dealings) :
    (after name dealings).duplex.reading = false := by
  induction dealings using List.reverseRecOn with
  | nil => simp [Closed] at closed
  | append_singleton before dealing inductionHypothesis =>
    rw [after_concat]
    cases dealing with
    | close failure? => rw [meet, Duplex.link_close]
    | read arrival =>
      rw [meet, Duplex.link_read]
      exact inductionHypothesis (by simpa [Closed] using closed)
    | work uptake => exact inductionHypothesis (by simpa [Closed] using closed)
    | write bytes =>
      have before := inductionHypothesis (by simpa [Closed] using closed)
      exact (Duplex.reading_write _ bytes).trans before

/-- A writer that is left alone with what it writes to does its steps. -/
theorem writer_works (delivery : Delivery) (closed : delivery.duplex.sending = .closed)
    (uptakes : List Uptake) :
    ((uptakes.map Dealing.work).foldl meet delivery).duplex.writer =
      uptakes.foldl (fun writer uptake => writer.advance false uptake) delivery.duplex.writer := by
  induction uptakes generalizing delivery with
  | nil => rfl
  | cons uptake rest inductionHypothesis =>
    have advanced : (delivery.meet (.work uptake)).duplex.writer =
        delivery.duplex.writer.advance false uptake := by
      simp only [meet, Duplex.work, closed]
      rfl
    rw [List.map_cons, List.foldl_cons, List.foldl_cons, ← advanced]
    exact inductionHypothesis _ closed

/-- What has become of a link and of the bytes that were written over it. -/
structure Faithful (dealings : List Dealing) (delivery : Delivery) : Prop where
  /-- The bytes that were taken are the first of those accepted. -/
  handed : handedAll delivery.deeds <+: delivery.accepted
  /-- A writer that is gone without a failure has written all of them. -/
  complete : delivery.duplex.writer = .gone none → handedAll delivery.deeds = delivery.accepted
  /-- The last thing it did was to shut what it writes to. -/
  shut : delivery.duplex.writer = .gone none →
    ∃ count, delivery.deeds.getLast? = some ⟨.shut, .done count⟩
  shutOnce : ShutOnce delivery.deeds
  refuses : Closed dealings ∨ delivery.Refused → ∀ bytes, delivery.duplex.write bytes =
    ⟨delivery.duplex, .error (Duplex.closedFault .writing), []⟩
  /-- The first write to be refused because the writer is gone tells what stopped the writer. -/
  reports : ¬ (Closed dealings ∨ delivery.Refused) →
    ∀ failure, delivery.duplex.writer = .gone (some failure) →
      (∀ bytes, delivery.duplex.write bytes = ⟨{ delivery.duplex with sending := .closed },
        .error (.ofIo .writing failure), []⟩) ∧
      ∃ demand uptake, delivery.deeds.getLast? = some ⟨demand, uptake⟩ ∧
        uptake.failure? demand = some failure
  accepts : ¬ (Closed dealings ∨ delivery.Refused) →
    (∀ failure, delivery.duplex.writer ≠ .gone (some failure)) →
      ∀ bytes, (delivery.duplex.write bytes).answer = .ok ()
  /-- After a close nothing but another close succeeds. -/
  refuses_read : Closed dealings → ∀ arrival, delivery.duplex.read arrival =
    ⟨delivery.duplex, .failed (Duplex.closedFault .reading), []⟩
  closes_again : Closed dealings → ∀ failure?, delivery.duplex.close failure? =
    ⟨delivery.duplex, .ok (), []⟩
  /-- The writer of a closed link comes to its end if nothing fails. -/
  ends : Closed dealings → delivery.duplex.writer.Sound → ∀ uptakes : List Uptake,
    (∀ uptake ∈ uptakes, ∃ count, uptake = .done (count + 1)) →
      delivery.duplex.writer.burden ≤ uptakes.length →
        ((uptakes.map Dealing.work).foldl meet delivery).duplex.writer = .gone none
  /-- Over pipes the writer does its steps in the background, until nothing is left to do. -/
  settles : ∀ port : Port, delivery.duplex = port.toDuplex →
    port.WorksOff port.settle.1 delivery ∧ port.settle.1.work = (port.settle.1, [])

/-- Whatever happens to a link, in whatever order, it delivers what was written over it. -/
theorem delivered_after (name : String) (dealings : List Dealing) :
    Faithful dealings (after name dealings) := by
  have standing := standing_after name dealings
  have late : (after name dealings).duplex.sending = .closed ↔ _ := closed_after name dealings
  have deaf := reading_after name dealings
  dsimp only at standing
  generalize after name dealings = delivery at standing late deaf
  have going (open' : ¬ (Closed dealings ∨ delivery.Refused)) :
      delivery.duplex.sending ≠ .closed := fun shut => open' (late.mp shut)
  exact {
    handed := standing.handed_prefix
    complete := fun gone => (standing.of_finished gone).2.1
    shut := fun gone => (standing.of_finished gone).2.2
    shutOnce := standing.shutOnce
    refuses := fun shut => Duplex.write_of_closed (late.mpr shut)
    reports := fun open' failure gone =>
      ⟨Duplex.write_of_failed (going open') gone, standing.of_failed gone⟩
    accepts := fun open' fine => by
      refine Duplex.write_of_present (going open') fun failure? gone => ?_
      cases failure? with
      | some failure => exact fine failure gone
      | none => exact going open' (standing.of_finished gone).1
    refuses_read := fun closed arrival => by
      unfold Duplex.read
      rw [deaf closed]
      rfl
    closes_again := fun closed failure? => by
      rw [Duplex.close, Duplex.isClosed, deaf closed, late.mpr (.inl closed)]
      rfl
    ends := fun closed sound uptakes done enough =>
      (writer_works delivery (late.mpr (.inl closed)) uptakes).trans (sound.advances done enough)
    settles := fun port same => ⟨port.worksOff_settle same, port.work_settle⟩ }

/-- Closing does not wait for what is still to be written. -/
example :
    let closing : List Dealing :=
      [.write [1, 2, 3], .work (.done 1), .work (.done 2), .write [4], .close none]
    handedAll (after "io" closing).deeds = [1, 2] ∧
      handedAll (after "io" (closing ++ List.replicate 12 (.work (.done 1)))).deeds =
        [1, 2, 3, 4] := by
  decide

end Delivery

end PanelLink
