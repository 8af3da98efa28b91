/-
This file holds what can be the case at a moment between the host's end of a link, its
writer, the bytes that were accepted and what the writer has done with them. The bytes that
were taken are the first of those accepted, and those still missing wait in the writer and
its queue unless the writer has failed. What is written to is asked to shut when everything
is written, and nothing is asked of it after that. Whatever the host or the writer does
leads from one such standing to another.
-/

import PanelLink.Link.Port

namespace PanelLink

/-! ### Deeds -/

/-- Something a writer asked for, and what came of it. -/
structure Deed where
  demand : Demand
  uptake : Uptake
  deriving DecidableEq, Repr

namespace Deed

/-- The bytes that were taken. -/
def handed : Deed → List UInt8
  | ⟨.take bytes, .done count⟩ => bytes.take count
  | _ => []

/-- The bytes that were taken in the course of deeds. -/
def handedAll (deeds : List Deed) : List UInt8 :=
  deeds.flatMap handed

theorem handedAll_concat (deeds : List Deed) (deed : Deed) :
    handedAll (deeds ++ [deed]) = handedAll deeds ++ deed.handed := by
  simp [handedAll]

/-- When a writer fails, nothing is taken. -/
theorem handed_of_failure {demand : Demand} {uptake : Uptake} {failure : IoFailure}
    (fails : uptake.failure? demand = some failure) : handed ⟨demand, uptake⟩ = [] := by
  cases demand with
  | flush | shut => rfl
  | take bytes =>
    cases uptake with
    | pending | failed _ => rfl
    | done count =>
      obtain ⟨none, -⟩ := Option.ite_none_right_eq_some.mp fails
      rw [none]
      rfl

theorem handedAll_waits (deeds : List Deed) (waits : Nat) :
    handedAll (deeds ++ List.replicate waits ⟨.shut, .pending⟩) = handedAll deeds := by
  have nothing : handedAll (List.replicate waits ⟨.shut, .pending⟩) = [] :=
    List.flatMap_eq_nil_iff.mpr fun deed member => List.eq_of_mem_replicate member ▸ rfl
  rw [handedAll, List.flatMap_append]
  exact (congrArg _ nothing).trans (List.append_nil _)

/-- Nothing is asked for but bytes to be taken and flushed, until what is written to is shut. That
is asked for until it is done or fails, and nothing after it. -/
def ShutOnce (deeds : List Deed) : Prop :=
  ∃ (before : List Deed) (waits : Nat) (last? : Option Deed),
    deeds = before ++ List.replicate waits ⟨.shut, .pending⟩ ++ last?.toList ∧
    (∀ deed ∈ before, deed.demand ≠ .shut) ∧
    ∀ last ∈ last?, last.demand = .shut ∧ last.uptake ≠ .pending

end Deed

/-- What comes of one step of a writer. -/
def Writer.deed? (writer : Writer) (uptake : Uptake) : Option Deed :=
  writer.demand?.map (⟨·, uptake⟩)

/-! ### Standings -/

/-- The bytes that a stage still has to write. -/
def Stage.rest : Stage → List UInt8
  | writing bytes => bytes
  | idle | flushing | shutting => []

/-- A writer has stopped, with a failure or without. -/
def Writer.Stopped (writer : Writer) (failure? : Option IoFailure) : Prop :=
  writer = .leaving failure? ∨ writer = .gone failure?

theorem Writer.Stopped.of_gone {failure? known? : Option IoFailure}
    (stopped : (gone failure?).Stopped known?) : failure? = known? := by
  rcases stopped with stopped | stopped <;> cases stopped
  rfl

/-- The bytes that a write with this answer has accepted. -/
def Duplex.acceptedOf (bytes : List UInt8) : Except Fault Unit → List UInt8
  | .ok () => bytes
  | .error _ => []

open Deed

/-- How the sending side of a link, its writer, the bytes accepted and the deeds can stand to each
other. -/
inductive Standing : Sending → Writer → List UInt8 → List Deed → Prop where
  | unused : Standing .unused .absent [] []
  /-- The link was closed before anything was written. -/
  | released (uptake : Uptake) (answered : uptake ≠ .pending) :
    Standing .closed .absent [] [⟨.shut, uptake⟩]
  | writing {sending : Sending} {stage : Stage} {queue : List (List UInt8)} {accepted : List UInt8}
    {deeds : List Deed} (used : sending ≠ .unused) (going : stage ≠ .shutting)
    (before : ∀ deed ∈ deeds, deed.demand ≠ .shut)
    (all : accepted = handedAll deeds ++ (stage.rest ++ queue.flatten)) :
    Standing sending (.busy stage queue) accepted deeds
  | shutting {deeds : List Deed} (waits : Nat) (before : ∀ deed ∈ deeds, deed.demand ≠ .shut) :
    Standing .closed (.busy .shutting []) (handedAll deeds)
      (deeds ++ List.replicate waits ⟨.shut, .pending⟩)
  | shut {writer : Writer} {deeds : List Deed} {uptake : Uptake} (waits : Nat)
    (before : ∀ deed ∈ deeds, deed.demand ≠ .shut) (answered : uptake ≠ .pending)
    (stopped : writer.Stopped (uptake.failure? .shut)) :
    Standing .closed writer (handedAll deeds)
      (deeds ++ List.replicate waits ⟨.shut, .pending⟩ ++ [⟨.shut, uptake⟩])
  /-- Bytes were not taken or not flushed. -/
  | broken {sending : Sending} {writer : Writer} {accepted : List UInt8} {deeds : List Deed}
    {demand : Demand} {uptake : Uptake} {failure : IoFailure} (used : sending ≠ .unused)
    (before : ∀ deed ∈ deeds, deed.demand ≠ .shut) (going : demand ≠ .shut)
    (failed : uptake.failure? demand = some failure) (stopped : writer.Stopped (some failure))
    (first : handedAll deeds <+: accepted) :
    Standing sending writer accepted (deeds ++ [⟨demand, uptake⟩])

namespace Duplex

variable {duplex : Duplex}

theorem write_of_closed (closed : duplex.sending = .closed) (bytes : List UInt8) :
    duplex.write bytes = ⟨duplex, .error (closedFault .writing), []⟩ := by
  rw [write, closed]

theorem write_of_open (going : duplex.sending ≠ .closed) (bytes : List UInt8) :
    duplex.write bytes = enqueue { duplex with sending := .queueing } bytes := by
  rw [write]
  cases sending : duplex.sending with
  | closed => exact absurd sending going
  | unused | queueing => rfl

/-- The first write after a failure of the writer reports it. -/
theorem write_of_failed (going : duplex.sending ≠ .closed) {failure : IoFailure}
    (gone : duplex.writer = .gone (some failure)) (bytes : List UInt8) :
    duplex.write bytes =
      ⟨{ duplex with sending := .closed }, .error (.ofIo .writing failure), []⟩ := by
  rw [write_of_open going, enqueue]
  simp only [gone]

theorem write_of_present (going : duplex.sending ≠ .closed)
    (present : ∀ failure?, duplex.writer ≠ .gone failure?) (bytes : List UInt8) :
    (duplex.write bytes).answer = .ok () := by
  rw [write_of_open going, enqueue]
  cases known : duplex.writer with
  | absent | busy _ _ | leaving _ => rfl
  | gone failure? => exact absurd known (present failure?)

/-- A link is closed after a write exactly if the write was refused. -/
theorem closed_write_iff (duplex : Duplex) (bytes : List UInt8) :
    (duplex.write bytes).link.sending = .closed ↔ (duplex.write bytes).answer ≠ .ok () := by
  by_cases closed : duplex.sending = .closed
  · rw [write_of_closed closed]
    exact iff_of_true closed nofun
  · rw [write_of_open closed, enqueue]
    cases duplex.writer with
    | absent | busy _ _ | leaving _ => exact iff_of_false nofun (absurd rfl)
    | gone failure? => cases failure? <;> exact iff_of_true rfl nofun

theorem link_read (duplex : Duplex) (arrival : Arrival) :
    (duplex.read arrival).link = duplex := by
  unfold read
  split
  · rfl
  · split <;> rfl

theorem reading_write (duplex : Duplex) (bytes : List UInt8) :
    (duplex.write bytes).link.reading = duplex.reading := by
  by_cases closed : duplex.sending = .closed
  · rw [write_of_closed closed]
  · rw [write_of_open closed, enqueue]
    cases duplex.writer with
    | absent | busy _ _ | leaving _ => rfl
    | gone failure? => cases failure? <;> rfl

theorem link_close (duplex : Duplex) (failure? : Option IoFailure) :
    (duplex.close failure?).link = { duplex with reading := false, sending := .closed } := by
  rw [close]
  split
  · next closed =>
    rw [isClosed, Bool.and_eq_true, Bool.not_eq_true', beq_iff_eq] at closed
    rw [← closed.1, ← closed.2]
  · dsimp only
    split <;> rfl

end Duplex

/-- Only a writer that shuts asks for that. -/
theorem Stage.demand?_ne_shut {stage : Stage} (going : stage ≠ .shutting) :
    stage.demand? ≠ some .shut := by
  cases stage with
  | idle | flushing => exact nofun
  | writing bytes => simp [demand?]
  | shutting => exact absurd rfl going

theorem Writer.advance_of_silent {stage : Stage} (silent : stage.demand? = none) (lasting : Bool)
    (queue : List (List UInt8)) (uptake : Uptake) :
    (busy stage queue).advance lasting uptake = stage.turn lasting queue := by
  simp only [Writer.advance, silent]

/-- What comes of a step in which the writer asks for something. -/
theorem Writer.advance_cases {stage : Stage} {demand : Demand} (asks : stage.demand? = some demand)
    (lasting : Bool) (queue : List (List UInt8)) (uptake : Uptake) :
    let advanced := (busy stage queue).advance lasting uptake
    (∃ failure, uptake.failure? demand = some failure ∧ advanced = .leaving (some failure)) ∨
      (uptake.failure? demand = none ∧
        ((∃ count, uptake = .done count ∧ advanced = stage.proceed count queue) ∨
          (uptake = .pending ∧ advanced = .busy stage queue))) := by
  intro advanced
  simp only [advanced, Writer.advance, asks]
  cases fails : uptake.failure? demand with
  | some failure => exact .inl ⟨failure, rfl, rfl⟩
  | none =>
    refine .inr ⟨rfl, ?_⟩
    cases uptake with
    | done count => exact .inl ⟨count, rfl, rfl⟩
    | pending => exact .inr ⟨rfl, rfl⟩
    | failed failure => cases fails

namespace Standing

variable {duplex : Duplex} {accepted : List UInt8} {deeds : List Deed}

theorem write (standing : Standing duplex.sending duplex.writer accepted deeds)
    (bytes : List UInt8) :
    let wrote := duplex.write bytes
    Standing wrote.link.sending wrote.link.writer
      (accepted ++ Duplex.acceptedOf bytes wrote.answer) deeds := by
  by_cases closed : duplex.sending = .closed
  · rw [Duplex.write_of_closed closed]
    show Standing _ _ (accepted ++ []) deeds
    rw [List.append_nil]
    exact standing
  · rw [Duplex.write_of_open closed]
    obtain ⟨reading, sending, writer, name⟩ := duplex
    have queueing : Sending.queueing ≠ .unused := nofun
    cases standing with
    | released | shutting | shut => exact absurd rfl closed
    | unused =>
      show Standing .queueing (.busy .idle [bytes]) bytes []
      exact writing queueing nofun (fun _ member => nomatch member) (List.append_nil bytes).symm
    | @writing _ stage queue _ _ used going before all =>
      show Standing .queueing (.busy stage (queue ++ [bytes])) (accepted ++ bytes) deeds
      refine writing queueing going before ?_
      rw [all, List.flatten_concat, List.append_assoc, List.append_assoc]
    | broken used before going failed stopped first =>
      rcases stopped with rfl | rfl
      · show Standing .queueing _ (accepted ++ bytes) _
        exact broken queueing before going failed (.inl rfl) (first.trans (List.prefix_append ..))
      · show Standing .closed _ (accepted ++ []) _
        exact broken nofun before going failed (.inr rfl) (first.trans (List.prefix_append ..))

/-- Closing makes a difference for what comes after it only. -/
theorem close_of_used {sending : Sending} {writer : Writer}
    (standing : Standing sending writer accepted deeds) (used : sending ≠ .unused) :
    Standing .closed writer accepted deeds := by
  cases standing with
  | unused => exact absurd rfl used
  | released uptake answered => exact released uptake answered
  | shutting waits before => exact shutting waits before
  | shut waits before answered stopped => exact shut waits before answered stopped
  | writing _ going before all => exact writing nofun going before all
  | broken _ before going failed stopped first =>
    exact broken nofun before going failed stopped first

theorem close (standing : Standing duplex.sending duplex.writer accepted deeds)
    (failure? : Option IoFailure) :
    let closed := (duplex.close failure?).link
    Standing closed.sending closed.writer accepted
      (deeds ++ (duplex.demand?.map (⟨·, failure?.elim (.done 0) .failed⟩)).toList) := by
  rw [Duplex.link_close, Duplex.demand?]
  obtain ⟨reading, sending, writer, name⟩ := duplex
  show Standing .closed writer accepted _
  cases unused : decide (sending = .unused) with
  | true =>
    obtain rfl := of_decide_eq_true unused
    cases standing with
    | unused =>
      refine released _ ?_
      cases failure? <;> exact nofun
    | writing used | broken used => exact absurd rfl used
  | false =>
    have used := of_decide_eq_false unused
    rw [if_neg used]
    exact (List.append_nil deeds).symm ▸ standing.close_of_used used

/-- A step in which the writer asks for bytes to be taken or flushed. -/
theorem work_asked {sending : Sending} {stage : Stage} {queue : List (List UInt8)}
    {demand : Demand} (used : sending ≠ .unused) (before : ∀ deed ∈ deeds, deed.demand ≠ .shut)
    (all : accepted = handedAll deeds ++ (stage.rest ++ queue.flatten))
    (asks : stage.demand? = some demand) (going : demand ≠ .shut) (lasting : Bool)
    (uptake : Uptake) :
    Standing sending ((Writer.busy stage queue).advance lasting uptake) accepted
      (deeds ++ [⟨demand, uptake⟩]) := by
  have still : ∀ deed ∈ deeds ++ [⟨demand, uptake⟩], deed.demand ≠ .shut :=
    List.forall_mem_append.mpr ⟨before, List.forall_mem_singleton.mpr going⟩
  rcases Writer.advance_cases asks lasting queue uptake with
    ⟨failure, failed, advanced⟩ | ⟨-, ⟨count, rfl, advanced⟩ | ⟨rfl, advanced⟩⟩ <;> rw [advanced]
  · exact broken used before going failed (.inl rfl) ⟨_, all.symm⟩
  · cases stage with
    | idle => cases asks
    | writing bytes =>
      obtain ⟨-, same⟩ := Option.ite_none_left_eq_some.mp asks
      cases same
      refine writing used nofun still ?_
      rw [all, handedAll_concat, List.append_assoc]
      show _ ++ (bytes ++ _) = _ ++ (bytes.take count ++ (bytes.drop count ++ _))
      rw [← List.append_assoc (bytes.take count), List.take_append_drop]
    | flushing =>
      cases asks
      refine writing used nofun still ?_
      rw [all, handedAll_concat, List.append_assoc]
      rfl
    | shutting =>
      cases asks
      exact absurd rfl going
  · refine writing used ?_ still ?_
    · rintro rfl
      cases asks
      exact going rfl
    · rw [all, handedAll_concat]
      cases demand <;> exact (List.append_nil _).symm ▸ rfl

/-- A step in which the writer asks for nothing. -/
theorem work_unasked {sending : Sending} {stage : Stage} {queue : List (List UInt8)}
    (used : sending ≠ .unused) (before : ∀ deed ∈ deeds, deed.demand ≠ .shut)
    (all : accepted = handedAll deeds ++ (stage.rest ++ queue.flatten))
    (asks : stage.demand? = none) :
    Standing sending (stage.turn (sending == .queueing) queue) accepted deeds := by
  cases stage with
  | flushing | shutting => cases asks
  | writing bytes =>
    have none : bytes = [] := by simpa [Stage.demand?] using asks
    subst none
    exact writing used nofun before all
  | idle =>
    cases queue with
    | cons bytes rest => exact writing used nofun before all
    | nil =>
      cases sending with
      | unused => exact absurd rfl used
      | queueing => exact writing used nofun before all
      | closed =>
        have shutting := shutting 0 before
        rw [List.replicate_zero, List.append_nil] at shutting
        rw [all]
        exact (List.append_nil (handedAll deeds)).symm ▸ shutting

theorem work (standing : Standing duplex.sending duplex.writer accepted deeds) (uptake : Uptake) :
    let worked := (duplex.work uptake).1
    Standing worked.sending worked.writer accepted
      (deeds ++ (duplex.writer.deed? uptake).toList) := by
  obtain ⟨reading, sending, writer, name⟩ := duplex
  show Standing sending (writer.advance (sending == .queueing) uptake) accepted
    (deeds ++ (writer.deed? uptake).toList)
  have silent {writer : Writer} {failure? : Option IoFailure} (stopped : writer.Stopped failure?) :
      deeds ++ (writer.deed? uptake).toList = deeds ∧
        (writer.advance (sending == .queueing) uptake).Stopped failure? := by
    rcases stopped with rfl | rfl <;> exact ⟨List.append_nil deeds, .inr rfl⟩
  cases standing with
  | unused => exact unused
  | released uptake answered => exact released uptake answered
  | shut waits before answered stopped =>
    obtain ⟨same, still⟩ := silent stopped
    rw [same]
    exact shut waits before answered still
  | broken used before going failed stopped first =>
    obtain ⟨same, still⟩ := silent stopped
    rw [same]
    exact broken used before going failed still first
  | @writing _ stage queue _ _ used going before all =>
    have known : (Writer.busy stage queue).deed? uptake = stage.demand?.map (⟨·, uptake⟩) := rfl
    rw [known]
    cases asks : stage.demand? with
    | some demand =>
      have taking : demand ≠ .shut := fun shut => Stage.demand?_ne_shut going (shut ▸ asks)
      exact work_asked used before all asks taking _ uptake
    | none =>
      rw [Writer.advance_of_silent asks, Option.map_none, Option.toList_none, List.append_nil]
      exact work_unasked used before all asks
  | @shutting deeds waits before =>
    have known : (Writer.busy .shutting []).deed? uptake = some ⟨.shut, uptake⟩ := rfl
    rw [known]
    have asks : Stage.shutting.demand? = some .shut := rfl
    rcases Writer.advance_cases asks (Sending.closed == .queueing) [] uptake with
      ⟨failure, failed, advanced⟩ | ⟨ok, ⟨count, rfl, advanced⟩ | ⟨rfl, advanced⟩⟩ <;> rw [advanced]
    · exact shut waits before (by rintro rfl; cases failed) (.inl (by rw [failed]))
    · exact shut waits before nofun (.inl rfl)
    · have more := shutting (waits + 1) before
      rw [List.replicate_succ', ← List.append_assoc] at more
      exact more

/-! ### What a standing means -/

variable {sending : Sending} {writer : Writer}

theorem handed_prefix (standing : Standing sending writer accepted deeds) :
    handedAll deeds <+: accepted := by
  cases standing with
  | unused | released => exact List.prefix_rfl
  | writing used going before all => exact ⟨_, all.symm⟩
  | shutting waits before => simp only [handedAll_waits, List.prefix_rfl]
  | shut waits before answered stopped =>
    rw [handedAll_concat, handedAll_waits]
    exact (List.append_nil _).symm ▸ List.prefix_rfl
  | broken used before going failed stopped first =>
    rwa [handedAll_concat, handed_of_failure failed, List.append_nil]

theorem shutOnce (standing : Standing sending writer accepted deeds) : ShutOnce deeds := by
  cases standing with
  | unused => exact ⟨[], 0, none, rfl, nofun, nofun⟩
  | released uptake answered =>
    exact ⟨[], 0, some ⟨.shut, uptake⟩, rfl, nofun, by simpa using answered⟩
  | writing used going before all => exact ⟨deeds, 0, none, by simp, before, nofun⟩
  | shutting waits before => exact ⟨_, waits, none, (List.append_nil _).symm, before, nofun⟩
  | @shut _ _ uptake waits before answered stopped =>
    exact ⟨_, waits, some ⟨.shut, uptake⟩, rfl, before, by simpa using answered⟩
  | @broken _ _ _ deeds demand uptake _ used before going failed stopped first =>
    refine ⟨deeds ++ [⟨demand, uptake⟩], 0, none, by simp, ?_, nofun⟩
    exact List.forall_mem_append.mpr ⟨before, List.forall_mem_singleton.mpr going⟩

/-- A writer that is gone without a failure has written everything and shut what it writes to. -/
theorem of_finished (standing : Standing sending writer accepted deeds)
    (gone : writer = .gone none) :
    sending = .closed ∧ handedAll deeds = accepted ∧
      ∃ count, deeds.getLast? = some ⟨.shut, .done count⟩ := by
  subst gone
  cases standing with
  | broken used before going failed stopped first => cases stopped.of_gone
  | @shut _ _ uptake waits before answered stopped =>
    refine ⟨rfl, ?_, ?_⟩
    · rw [handedAll_concat, handedAll_waits]
      exact List.append_nil _
    · have fine := stopped.of_gone
      cases uptake with
      | done count => exact ⟨count, List.getLast?_concat⟩
      | pending => exact absurd rfl answered
      | failed failure => cases fine

/-- A writer that is gone with a failure was stopped by it. -/
theorem of_failed (standing : Standing sending writer accepted deeds) {failure : IoFailure}
    (gone : writer = .gone (some failure)) :
    ∃ demand uptake, deeds.getLast? = some ⟨demand, uptake⟩ ∧
      uptake.failure? demand = some failure := by
  subst gone
  cases standing with
  | shut waits before answered stopped =>
    exact ⟨_, _, List.getLast?_concat, stopped.of_gone.symm⟩
  | broken used before going failed stopped first =>
    exact ⟨_, _, List.getLast?_concat, failed.trans stopped.of_gone.symm⟩

end Standing

end PanelLink
