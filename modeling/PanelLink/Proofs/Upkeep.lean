/-
This file says what a panel keeps besides its picture: the listener, the count of orders and
the dirty flag. All three can be read off the list of what its host did. The listener is
the one installed last, and it is told of every change once, when the change is complete. The
count is the number of changes since the last reset, and the flag tells whether there was a
change since it was asked for last. Payloads that the panel does not draw leave no trace in
any of this.

What one action does to the four is said once, and a run follows by induction on its end.
-/

import Mathlib.Data.List.Induction
import PanelLink.Proofs.Painting

namespace PanelLink

/-! ### What actions say -/

/-- The kinds of payload that a panel does not draw. -/
def Kind.undrawn : List Kind :=
  [columnsAt, graphicLine, debugText, debugNumber]

namespace Action

/-- Whether an action changes the panel; a command does if the panel draws its kind. -/
def changes : Action → Bool
  | perform _ => true
  | apply command => !Kind.undrawn.contains command.kind
  | takeDirty | setResetOnClear _ | listen _ => false

/-- Whether an action resets the panel, which an order to clear it may do as well. -/
def resets (resetOnClear : Bool) : Action → Bool
  | perform change => change == .reset
  | apply command => resetOnClear && command.kind == .clearAll
  | takeDirty | setResetOnClear _ | listen _ => false

/-- The listener that an action installs. -/
def name? : Action → Option String
  | listen name => some name
  | _ => none

/-- What an action chooses an order to clear the panel to do. -/
def enabled? : Action → Option Bool
  | setResetOnClear enabled => some enabled
  | _ => none

/-- The listener installed last. -/
def installed? (actions : List Action) : Option String :=
  (actions.filterMap name?).getLast?

/-- Whether an order to clear a new panel resets it after actions. -/
def resetOnClear (actions : List Action) : Bool :=
  (actions.filterMap enabled?).getLast?.getD false

/-- Actions fall into a front and a tail, and the tail begins right after the last action that
reset the panel, or with the first one if none did. -/
structure SinceReset (front tail : List Action) : Prop where
  begins : front = [] ∨ ∃ before action, front = before ++ [action] ∧
    action.resets (resetOnClear before) = true
  unbroken : ∀ before action after, tail = before ++ action :: after →
    action.resets (resetOnClear (front ++ before)) = false

/-- Nobody asked yet whether the panel changed, or it has changed since it was asked last. -/
def Unseen (actions : List Action) : Prop :=
  takeDirty ∉ actions ∨ ∃ before after, actions = before ++ takeDirty :: after ∧
    takeDirty ∉ after ∧ ∃ action ∈ after, action.changes = true

/-! ### One action more -/

theorem getLast?_filterMap_concat {Value : Type} (said : Action → Option Value)
    (actions : List Action) (action : Action) :
    ((actions ++ [action]).filterMap said).getLast? =
      (said action).or (actions.filterMap said).getLast? := by
  rw [List.filterMap_append, List.getLast?_append]
  cases same : said action with
  | none => rw [List.filterMap_cons_none same]; rfl
  | some value => rw [List.filterMap_cons_some same]; rfl

theorem installed?_concat (actions : List Action) (action : Action) :
    installed? (actions ++ [action]) = action.name?.or (installed? actions) :=
  getLast?_filterMap_concat name? actions action

theorem resetOnClear_concat (actions : List Action) (action : Action) :
    resetOnClear (actions ++ [action]) = action.enabled?.getD (resetOnClear actions) := by
  rw [resetOnClear, getLast?_filterMap_concat, Option.getD_or]
  rfl

/-- An action in a list is its last one, or is found without the last one. -/
theorem eq_or_eq_of_concat {actions before after : List Action} {action last : Action}
    (parted : actions ++ [last] = before ++ action :: after) :
    after = [] ∧ before = actions ∧ action = last ∨
      ∃ more, after = more ++ [last] ∧ actions = before ++ action :: more := by
  rcases List.eq_nil_or_concat after with rfl | ⟨more, final, rfl⟩
  · obtain ⟨same, final⟩ := List.append_inj' parted rfl
    exact .inl ⟨rfl, same.symm, (List.singleton_inj.mp final).symm⟩
  · rw [List.concat_eq_append, ← List.cons_append, ← List.append_assoc] at parted
    obtain ⟨same, final⟩ := List.append_inj' parted rfl
    exact .inr ⟨more, by rw [final, List.concat_eq_append], same⟩

theorem SinceReset.reset {actions : List Action} {action : Action}
    (resets : action.resets (resetOnClear actions) = true) :
    SinceReset (actions ++ [action]) [] where
  begins := .inr ⟨actions, action, rfl, resets⟩
  unbroken before other after parted := by simp at parted

theorem SinceReset.concat {front tail : List Action} (since : SinceReset front tail)
    {action : Action} (resets : action.resets (resetOnClear (front ++ tail)) = false) :
    SinceReset front (tail ++ [action]) where
  begins := since.begins
  unbroken before other after parted := by
    rcases eq_or_eq_of_concat parted with ⟨-, rfl, rfl⟩ | ⟨more, -, earlier⟩
    · exact resets
    · exact since.unbroken before other more earlier

theorem unseen_concat_takeDirty (actions : List Action) : ¬ Unseen (actions ++ [takeDirty]) := by
  rintro (never | ⟨before, after, parted, unasked, action, member, -⟩)
  · exact never (by simp)
  · -- The last time it was asked is the last action, so there is nothing behind it.
    rcases eq_or_eq_of_concat parted with ⟨rfl, -, -⟩ | ⟨more, rfl, -⟩
    · cases member
    · exact unasked (by simp)

theorem exists_last_takeDirty {actions : List Action} (asked : takeDirty ∈ actions) :
    ∃ before after, actions = before ++ takeDirty :: after ∧ takeDirty ∉ after := by
  obtain ⟨after, before, parted, unasked⟩ :=
    List.eq_append_cons_of_mem (List.mem_reverse.mpr asked)
  refine ⟨before.reverse, after.reverse, ?_, mt List.mem_reverse.mp unasked⟩
  rw [← List.reverse_reverse actions, parted]
  simp

theorem unseen_concat {actions : List Action} {action : Action} (other : action ≠ takeDirty) :
    Unseen (actions ++ [action]) ↔ action.changes = true ∨ Unseen actions := by
  constructor
  · rintro (never | ⟨before, after, parted, unasked, changing, member, changes⟩)
    · exact .inr (.inl fun asked => never (List.mem_append_left _ asked))
    · rcases eq_or_eq_of_concat parted with ⟨rfl, -, -⟩ | ⟨more, rfl, rfl⟩
      · cases member
      · rcases List.mem_append.mp member with earlier | now
        · exact .inr (.inr ⟨before, more, rfl, fun asked => unasked (List.mem_append_left _ asked),
            changing, earlier, changes⟩)
        · exact .inl (List.mem_singleton.mp now ▸ changes)
  · rintro (changes | never | ⟨before, after, rfl, unasked, changing, member, changes⟩)
    · by_cases asked : takeDirty ∈ actions
      · obtain ⟨before, after, rfl, unasked⟩ := exists_last_takeDirty asked
        refine .inr ⟨before, after ++ [action], by simp, ?_, action, by simp, changes⟩
        simp [unasked, Ne.symm other]
      · exact .inl (by simp [asked, Ne.symm other])
    · exact .inl (by simp [never, Ne.symm other])
    · refine .inr ⟨before, after ++ [action], by simp, ?_, changing, by simp [member], changes⟩
      simp [unasked, Ne.symm other]

end Action

namespace Panel

/-! ### One action -/

/-- What an action does to a panel besides painting it. -/
structure Kept (panel : Panel) (action : Action) (result : Panel × List Notice) : Prop where
  listener : result.1.listener = action.name?.or panel.listener
  resetOnClear : result.1.resetOnClear = action.enabled?.getD panel.resetOnClear
  received : result.1.received =
    if action.resets panel.resetOnClear then 0
    else panel.received + if action.changes then 1 else 0
  dirty : result.1.dirty = true ↔
    action ≠ .takeDirty ∧ (action.changes = true ∨ panel.dirty = true)
  notices : result.2 = if action.changes then result.1.notices else []

theorem changeFor?_isSome_eq (panel : Panel) (payload : Payload) :
    (panel.changeFor? payload).isSome = !Kind.undrawn.contains payload.kind := by
  cases payload with
  | message content => cases content <;> rfl
  | order content => cases content <;> rfl

theorem changeFor?_eq_reset (panel : Panel) (payload : Payload) :
    panel.changeFor? payload = some .reset ↔
      (panel.resetOnClear && payload.kind == .clearAll) = true := by
  cases payload with
  | message content => cases content <;> simp [changeFor?, Payload.kind, Message.kind]
  | order content =>
    cases content <;> simp [changeFor?, changeOf?, Payload.kind, Order.kind]

theorem received_changed (panel : Panel) (change : Change) :
    (panel.changed change).received = if change == .reset then 0 else panel.received + 1 := by
  cases change <;> rfl

/-- A change does the same to the rest of the panel whether the host makes it or a command. -/
theorem kept_perform (panel : Panel) {action : Action} {change : Change}
    (changes : action.changes = true) (resets : action.resets panel.resetOnClear = (change == .reset)) :
    Kept panel action (panel.perform change) := by
  have plain : action.name? = none ∧ action.enabled? = none ∧ action ≠ .takeDirty := by
    cases action with
    | perform other => exact ⟨rfl, rfl, nofun⟩
    | apply command => exact ⟨rfl, rfl, nofun⟩
    | _ => cases changes
  obtain ⟨noName, noChoice, other⟩ := plain
  refine ⟨?_, ?_, ?_, ?_, ?_⟩
  · rw [noName]; rfl
  · rw [noChoice]; rfl
  · rw [resets, if_pos changes]
    exact received_changed panel change
  · exact iff_of_true rfl ⟨other, .inl changes⟩
  · rw [if_pos changes]; rfl

theorem kept_act (panel : Panel) (action : Action) : Kept panel action (panel.act action) := by
  cases action with
  | perform change => exact kept_perform panel rfl rfl
  | apply command =>
    have drawn := changeFor?_isSome_eq panel command.payload
    have reset := changeFor?_eq_reset panel command.payload
    cases asked : panel.changeFor? command.payload with
    | some change =>
      have done : panel.act (.apply command) = panel.perform change := by
        simp only [act, apply, asked]
      rw [asked] at drawn reset
      rw [done]
      refine kept_perform panel drawn.symm (Bool.eq_iff_iff.mpr (reset.symm.trans ?_))
      rw [beq_iff_eq, Option.some_inj]
    | none =>
      have done : panel.act (.apply command) = (panel, []) := by
        simp only [act, apply, asked]
      rw [asked] at drawn reset
      have changes : (Action.apply command).changes = false := drawn.symm
      have resets : (Action.apply command).resets panel.resetOnClear = false :=
        Bool.eq_false_iff.mpr (mt reset.mpr (Option.some_ne_none _).symm)
      rw [done]
      refine ⟨rfl, rfl, ?_, ?_, ?_⟩
      · rw [changes, resets]
        rfl
      · rw [changes]
        simp
      · rw [changes]
        rfl
  | takeDirty => exact ⟨rfl, rfl, rfl, by simp [act, takeDirty], rfl⟩
  | setResetOnClear enabled => exact ⟨rfl, rfl, rfl, by simp [act, setResetOnClear, Action.changes], rfl⟩
  | listen name => exact ⟨rfl, rfl, rfl, by simp [act, listen, Action.changes], rfl⟩

/-! ### Runs -/

theorem actAll_concat (panel : Panel) (actions : List Action) (action : Action) :
    (panel.actAll (actions ++ [action])).1 = ((panel.actAll actions).1.act action).1 := by
  induction actions generalizing panel with
  | nil => rfl
  | cons first rest inductionHypothesis => exact inductionHypothesis (panel.act first).1

/-- What a panel keeps is what can be read off the actions up to now. -/
structure Recalls (actions : List Action) (panel : Panel) : Prop where
  listener : panel.listener = Action.installed? actions
  resetOnClear : panel.resetOnClear = Action.resetOnClear actions
  received : ∃ front tail, actions = front ++ tail ∧ Action.SinceReset front tail ∧
    panel.received = tail.countP Action.changes
  dirty : panel.dirty = true ↔ Action.Unseen actions

theorem recalls_blank (geometry : Geometry) : Recalls [] (blank geometry) where
  listener := rfl
  resetOnClear := rfl
  received := ⟨[], [], rfl, ⟨.inl rfl, fun before action after parted => by simp at parted⟩, rfl⟩
  dirty := iff_of_true rfl (.inl List.not_mem_nil)

theorem recalls_act {actions : List Action} {panel : Panel} (recalls : Recalls actions panel)
    (action : Action) : Recalls (actions ++ [action]) (panel.act action).1 := by
  have kept := kept_act panel action
  refine ⟨?_, ?_, ?_, ?_⟩
  · rw [kept.listener, recalls.listener, Action.installed?_concat]
  · rw [kept.resetOnClear, recalls.resetOnClear, Action.resetOnClear_concat]
  · have received := kept.received
    rw [recalls.resetOnClear] at received
    cases resets : action.resets (Action.resetOnClear actions) with
    | true =>
      rw [resets] at received
      exact ⟨actions ++ [action], [], (List.append_nil _).symm, .reset resets, received⟩
    | false =>
      obtain ⟨front, tail, rfl, since, count⟩ := recalls.received
      rw [resets, count] at received
      refine ⟨front, tail ++ [action], List.append_assoc _ _ _, since.concat resets, ?_⟩
      rw [List.countP_append, List.countP_singleton]
      exact received
  · rw [kept.dirty, recalls.dirty]
    by_cases asked : action = .takeDirty
    · rw [asked]
      exact iff_of_false (fun both => both.1 rfl) (Action.unseen_concat_takeDirty actions)
    · rw [Action.unseen_concat asked, and_iff_right asked]

theorem recalls_actAll (geometry : Geometry) (actions : List Action) :
    Recalls actions ((blank geometry).actAll actions).1 := by
  induction actions using List.reverseRecOn with
  | nil => exact recalls_blank geometry
  | append_singleton front action inductionHypothesis =>
    rw [actAll_concat]
    exact recalls_act inductionHypothesis action

theorem apply_error_iff (panel : Panel) (command : Command) :
    (∃ kind, panel.apply command = .error kind) ↔ command.kind ∈ Kind.undrawn := by
  have drawn := changeFor?_isSome_eq panel command.payload
  rw [apply]
  cases asked : panel.changeFor? command.payload with
  | some change =>
    rw [asked] at drawn
    refine iff_of_false (by simp) fun member => ?_
    simp [Command.kind] at member
    simp [member] at drawn
  | none =>
    rw [asked] at drawn
    exact iff_of_true ⟨command.kind, rfl⟩ (by simpa [Command.kind] using drawn)

/-- At every moment of the life of a panel: a command is refused if and only if its kind is one of
those that the panel does not draw, and then the panel stays as it is. Whatever changes the panel
is told to the listener installed last, once and with the panel that the change leads to, and
nothing else is told. The count is the number of changes since the last reset, also where an order
to clear the panel was one. The flag is set if nobody asked for it yet or there was a change since. -/
theorem actAll_upkeep (geometry : Geometry) (actions : List Action) :
    let panel := ((blank geometry).actAll actions).1
    (∀ command, ((∃ kind, panel.apply command = .error kind) ↔ command.kind ∈ Kind.undrawn) ∧
      (command.kind ∈ Kind.undrawn → panel.act (.apply command) = (panel, []))) ∧
      (∀ action, (panel.act action).2 =
        if action.changes then
          ((Action.installed? actions).map fun name =>
            ⟨name, (panel.act action).1.snapshot⟩).toList
        else []) ∧
      (∃ front tail, actions = front ++ tail ∧ Action.SinceReset front tail ∧
        panel.received = tail.countP Action.changes) ∧
      (panel.takeDirty.2 = true ↔ Action.Unseen actions) := by
  intro panel
  have recalls : Recalls actions panel := recalls_actAll geometry actions
  refine ⟨fun command => ⟨apply_error_iff panel command, fun undrawn => ?_⟩, fun action => ?_,
    recalls.received, recalls.dirty⟩
  · obtain ⟨kind, refused⟩ := (apply_error_iff panel command).mpr undrawn
    simp only [act, refused]
  · have kept := kept_act panel action
    rw [kept.notices]
    split
    · rename_i changes
      have listener : (panel.act action).1.listener = Action.installed? actions := by
        rw [kept.listener, recalls.listener]
        cases action with
        | listen name => cases changes
        | _ => rfl
      rw [notices, listener]
    · rfl

end Panel

end PanelLink
