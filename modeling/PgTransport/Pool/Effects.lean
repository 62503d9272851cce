import PgTransport.Pool.Sockets

/-!
# What a step does to the frontend, the slots and the calls

One case for each way a step can go, with what it checks and the state it leads
to.  From the cases follow that the frontend takes a step of its own or none, and
that a property of a slot that its socket keeps holds of every slot.
-/

namespace PgTransport.Pool

open PgTransport.Concurrency
open PgTransport.Transition

namespace SocketEvent

/-- The call that a step runs up to its next suspension. -/
def caller (sockets : Sockets) : SocketEvent → Option Nat
  | .handoff _ _ => some sockets.dispatch.handoffs
  | .poll call _ => if call ∈ sockets.dispatch.hasReady.tasks then some call else none
  | _ => none

end SocketEvent

namespace Sockets

/-- The ways a step can go. -/
inductive Effect (before : Sockets) : SocketEvent → Sockets → Prop where
  | connects : Effect before .connects { before with slots := before.slots ++ [.connected] }
  | refuses {dispatch : Dispatch} {dispatched : Option Nat}
      (waiting : before.pool.slotIdCounter < before.slots.length)
      (moved : before.dispatch.step .workerFails = some (dispatch, dispatched)) :
      Effect before .refuses { before with
        dispatch
        slots := before.slots.eraseIdx before.pool.slotIdCounter }
  | workerFails {dispatch : Dispatch} {dispatched : Option Nat}
      (moved : before.dispatch.step .workerFails = some (dispatch, dispatched)) :
      Effect before .workerFails { before with dispatch }
  | accept {dispatch : Dispatch} {dispatched : Option Nat} {now : Nat}
      (waiting : before.pool.slotIdCounter < before.slots.length)
      (moved : before.dispatch.step (.accept now) = some (dispatch, dispatched)) :
      Effect before (.accept now) { before with dispatch }
  | slot {id : Nat} {event : SlotEvent} {slot next : SlotProcess}
      (there : before.slots[id]? = some slot) (moved : slot.step event = some next) :
      Effect before (.slot id event) { before with slots := before.slots.set id next }
  | reads {id now : Nat} {opcode : Opcode} {slot next : SlotProcess} {dispatch : Dispatch}
      {dispatched : Option Nat}
      (there : before.slots[id]? = some slot) (read : slot.read = some (opcode, next))
      (moved : before.dispatch.step (.reads id opcode.received now) =
        some (dispatch, dispatched)) :
      Effect before (.reads id now) { before with
        dispatch
        slots := before.slots.set id (if opcode = .drainAck then next.shutdown else next) }
  | stops {id now : Nat} {dispatch : Dispatch} {dispatched : Option Nat}
      (moved : before.dispatch.step (.reads id .stops now) = some (dispatch, dispatched)) :
      Effect before (.stops id now) { before with
        dispatch
        slots := before.slots.modify id SlotProcess.shutdown }
  | pops {event : SocketEvent} {call id : Nat} {dispatch : Dispatch}
      (calling : event.caller before = some call)
      (popped : before.pool.tryPopReady = some (id, dispatch.pool))
      (others : dispatch.frontend = { before.dispatch.frontend with pool := dispatch.pool })
      (handoffs : before.dispatch.handoffs ≤ dispatch.handoffs)
      (tasks : dispatch.hasReady.tasks ⊆ before.dispatch.hasReady.tasks) :
      Effect before event { before with dispatch, sending := (call, id) :: before.sending }
  | waits {event : SocketEvent} {call : Nat} {dispatch : Dispatch}
      (calling : event.caller before = some call)
      (same : dispatch.frontend = before.dispatch.frontend)
      (handoffs : before.dispatch.handoffs ≤ dispatch.handoffs)
      (tasks : dispatch.hasReady.tasks ⊆
        before.dispatch.handoffs :: before.dispatch.hasReady.tasks) :
      Effect before event { before with dispatch }
  | cancel {call : Nat} :
      Effect before (.cancel call) { before with
        dispatch := before.dispatch.leave call
        sending := before.sending.filter fun commitment => commitment.1 != call }
  | sends {call id : Nat} {slot next : SlotProcess} (listed : (call, id) ∈ before.sending)
      (there : before.slots[id]? = some slot) (sent : slot.send (.fdHandoff call) = some next) :
      Effect before (.sends call id true) { before with
        slots := before.slots.set id next
        sending := before.sending.erase (call, id)
        sent := (call, id) :: before.sent }
  | fails {call id : Nat} (listed : (call, id) ∈ before.sending) :
      Effect before (.sends call id false) { before with
        sending := before.sending.erase (call, id) }
  | reapOnce {now : Nat} {lost : List Nat} :
      Effect before (.reapOnce now lost) (before.requestDrains lost (before.pool.reaped now))
  | sighupReconcile {max : Nat} {lost : List Nat} :
      Effect before (.sighupReconcile max lost)
        (before.requestDrains lost (before.pool.excess max))
  | watchdog {id : Nat} {running : Bool} {dispatch : Dispatch} {dispatched : Option Nat}
      (moved : before.dispatch.step (.watchdog id running) = some (dispatch, dispatched)) :
      Effect before (.watchdog id) { before with
        dispatch
        slots :=
          if (before.pool.dropDraining id).2 then
            before.slots.modify id SlotProcess.shutdownWrite
          else
            before.slots }
  | gone {id : Nat} {dispatch : Dispatch} {dispatched : Option Nat}
      (moved : before.dispatch.step (.exits id) = some (dispatch, dispatched)) :
      Effect before (.gone id) { before with dispatch }

variable {before after : Sockets} {event : SocketEvent}

/-- A new call pops a slot or begins to wait. -/
theorem effect_handoff (before : Sockets) (max : Nat) (spawns : Bool) :
    Effect before (.handoff max spawns)
      (before.dispatched before.dispatch.handoffs (before.dispatch.handoff max spawns)) := by
  obtain ⟨handoffs, taken⟩ := Dispatch.handoff_cases before.dispatch max spawns
  have more := Nat.le_of_lt (Nat.lt_of_succ_le (Nat.le_of_eq handoffs.symm))
  rcases taken with ⟨waits, same, tasks⟩ | ⟨id, given, popped, tasks⟩
  · rw [dispatched, waits]
    exact .waits rfl same more tasks.subset
  · have pops := @Dispatch.handoff_of_some before.dispatch id max _ spawns popped
    rw [dispatched, given]
    refine .pops rfl popped ?_ more (by rw [tasks]; exact List.Subset.refl _)
    rw [pops]
    rfl

/-- A call that is polled pops a slot, waits again or is gone. -/
theorem effect_poll {call : Nat} {expired : Bool} {dispatch : Dispatch}
    {dispatched : Option Nat}
    (moved : before.dispatch.step (.poll call expired) = some (dispatch, dispatched)) :
    Effect before (.poll call expired) (before.dispatched call (dispatch, dispatched)) := by
  simp only [Dispatch.step] at moved
  split at moved
  · next notified =>
    have calling : SocketEvent.caller before (.poll call expired) = some call :=
      if_pos (List.mem_append_right _ notified)
    obtain ⟨handoffs, taken⟩ := Dispatch.wake_cases notified
    have woken : (dispatch, dispatched) = before.dispatch.wake call := (Option.some.inj moved).symm
    rw [woken]
    have more := Nat.le_of_eq handoffs.symm
    rcases taken with ⟨waits, same, tasks⟩ | ⟨id, given, popped, tasks⟩
    · rw [Sockets.dispatched, waits]
      exact .waits calling same more fun task listed =>
        List.mem_cons_of_mem _ (tasks.subset listed)
    · have pops := @Dispatch.wake_of_some before.dispatch id call _ popped
      rw [Sockets.dispatched, given]
      refine .pops calling popped ?_ more fun task listed =>
        tasks.symm.subset (List.mem_cons_of_mem _ listed)
      rw [pops]
      rfl
  · split at moved
    · next waiting =>
      have calling : SocketEvent.caller before (.poll call expired) = some call :=
        if_pos (List.mem_append_left _ waiting)
      cases moved
      cases expired with
      | false => exact .waits calling rfl (Nat.le_refl _) (List.subset_cons_self _ _)
      | true =>
          obtain ⟨gone, tasks⟩ := Notify.tasks_forget before.dispatch.hasReady call
          exact .waits calling rfl (Nat.le_refl _) fun task listed =>
            List.mem_cons_of_mem _ (tasks.symm.subset (List.mem_append_right gone listed))
    · cases moved

/-- Every step goes one of these ways. -/
theorem effect_of_step (step : before.step event = some after) : Effect before event after := by
  cases event with
  | connects =>
      simp only [Sockets.step] at step
      split at step
      · cases step
        exact .connects
      · cases step
  | refuses =>
      simp only [Sockets.step] at step
      split at step
      · next waiting =>
        obtain ⟨_, moved, made⟩ := Option.map_eq_some_iff.mp step
        cases made
        exact .refuses waiting moved
      · cases step
  | workerFails =>
      simp only [Sockets.step] at step
      split at step
      · obtain ⟨_, moved, made⟩ := Option.map_eq_some_iff.mp step
        cases made
        exact .workerFails moved
      · cases step
  | accept now =>
      simp only [Sockets.step] at step
      split at step
      · next waiting =>
        obtain ⟨_, moved, made⟩ := Option.map_eq_some_iff.mp step
        cases made
        exact .accept waiting moved
      · cases step
  | slot id event =>
      obtain ⟨_, found, made⟩ := Option.map_eq_some_iff.mp step
      obtain ⟨_, there, moved⟩ := Option.bind_eq_some_iff.mp found
      cases made
      exact .slot there moved
  | reads id now =>
      obtain ⟨_, found, handled⟩ := Option.bind_eq_some_iff.mp step
      obtain ⟨_, there, read⟩ := Option.bind_eq_some_iff.mp found
      obtain ⟨_, moved, made⟩ := Option.map_eq_some_iff.mp handled
      cases made
      exact .reads there read moved
  | stops id now =>
      obtain ⟨_, moved, made⟩ := Option.map_eq_some_iff.mp step
      cases made
      exact .stops moved
  | handoff max spawns =>
      cases step
      exact effect_handoff before max spawns
  | poll call expired =>
      obtain ⟨⟨_, _⟩, moved, made⟩ := Option.map_eq_some_iff.mp step
      cases made
      exact effect_poll moved
  | cancel call =>
      cases step
      exact .cancel
  | sends call id works =>
      simp only [Sockets.step] at step
      split at step
      · next listed =>
        cases works with
        | true =>
            obtain ⟨_, found, made⟩ := Option.map_eq_some_iff.mp step
            obtain ⟨_, there, sent⟩ := Option.bind_eq_some_iff.mp found
            cases made
            exact .sends listed there sent
        | false =>
            cases step
            exact .fails listed
      · cases step
  | reapOnce now lost =>
      cases step
      exact .reapOnce
  | sighupReconcile max lost =>
      cases step
      exact .sighupReconcile
  | watchdog id =>
      obtain ⟨_, moved, made⟩ := Option.map_eq_some_iff.mp step
      cases made
      exact .watchdog moved
  | gone id =>
      simp only [Sockets.step] at step
      split at step
      · obtain ⟨_, moved, made⟩ := Option.map_eq_some_iff.mp step
        cases made
        exact .gone moved
      · cases step

/-- What each drain request preserves is preserved by any number of them. -/
theorem requestDrains_preserves (holds : Sockets → Prop) {lost : List Nat}
    (each : ∀ sockets id, holds sockets → holds (sockets.requestDrain lost id))
    {sockets : Sockets} (here : holds sockets) (ids : List Nat) :
    holds (sockets.requestDrains lost ids) := by
  induction ids generalizing sockets with
  | nil => exact here
  | cons id ids inductionHypothesis => exact inductionHypothesis (each sockets id here)

/-! ## The frontend -/

theorem dispatch_requestDrains (sockets : Sockets) (lost ids : List Nat) :
    (sockets.requestDrains lost ids).dispatch =
      { sockets.dispatch with frontend := sockets.dispatch.frontend.requestDrains ids } := by
  induction ids generalizing sockets with
  | nil => rfl
  | cons id ids inductionHypothesis => exact inductionHypothesis (sockets.requestDrain lost id)

theorem frontend_requestDrains (sockets : Sockets) (lost ids : List Nat) :
    (sockets.requestDrains lost ids).dispatch.frontend =
      sockets.dispatch.frontend.requestDrains ids := by
  rw [dispatch_requestDrains]

/-- The frontend takes a step of its own, or is left alone. -/
theorem frontend_of_effect (effect : Effect before event after) :
    after.dispatch.frontend = before.dispatch.frontend ∨
      ∃ moved, before.dispatch.frontend.step moved = some after.dispatch.frontend := by
  cases effect with
  | connects | slot | cancel | sends | fails => exact .inl rfl
  | waits _ same => exact .inl same
  | refuses _ moved => exact Dispatch.frontend_of_step moved
  | accept _ moved => exact Dispatch.frontend_of_step moved
  | reads _ _ moved => exact Dispatch.frontend_of_step moved
  | workerFails moved => exact Dispatch.frontend_of_step moved
  | stops moved => exact Dispatch.frontend_of_step moved
  | watchdog moved => exact Dispatch.frontend_of_step moved
  | gone moved => exact Dispatch.frontend_of_step moved
  | pops _ popped others =>
      refine .inr ⟨.dispatch, ?_⟩
      change before.dispatch.frontend.pool.tryPopReady = _ at popped
      simp only [Frontend.step, popped, others]
  | @reapOnce now lost =>
      exact .inr ⟨.reapOnce now, congrArg some (frontend_requestDrains _ _ _).symm⟩
  | @sighupReconcile max lost =>
      exact .inr ⟨.sighupReconcile max, congrArg some (frontend_requestDrains _ _ _).symm⟩

/-- An invariant of the frontend is one of the frontend and its slots. -/
theorem invariant_of_frontends {holds : Frontend → Prop} (invariant : Invariant frontends holds) :
    Invariant sockets fun sockets => holds sockets.dispatch.frontend where
  initial := by
    rintro _ rfl
    exact invariant.initial _ rfl
  step before event after here step := by
    rcases frontend_of_effect (effect_of_step step) with same | ⟨moved, taken⟩
    · rw [same]
      exact here
    · exact invariant.step _ _ _ here taken

/-! ## The calls -/

section Calls

variable {before after : Sockets} {event : SocketEvent}

theorem sending_requestDrains (sockets : Sockets) (lost ids : List Nat) :
    (sockets.requestDrains lost ids).sending = sockets.sending ∧
      (sockets.requestDrains lost ids).sent = sockets.sent := by
  induction ids generalizing sockets with
  | nil => exact ⟨rfl, rfl⟩
  | cons id ids inductionHypothesis => exact inductionHypothesis (sockets.requestDrain lost id)

/-- A call that runs is new, or waits. -/
theorem mem_of_caller {call : Nat} (calling : event.caller before = some call) :
    call = before.dispatch.handoffs ∨ call ∈ before.dispatch.hasReady.tasks := by
  cases event with
  | handoff => exact .inl (Option.some.inj calling).symm
  | poll other expired =>
      simp only [SocketEvent.caller] at calling
      split at calling <;> cases calling
      exact .inr (by assumption)
  | _ => cases calling

/-- A call that waits behind a step is new, or has waited before. -/
theorem tasks_of_effect (effect : Effect before event after) :
    before.dispatch.handoffs ≤ after.dispatch.handoffs ∧
      after.dispatch.hasReady.tasks ⊆
        before.dispatch.handoffs :: before.dispatch.hasReady.tasks := by
  have same : ∀ dispatch : Dispatch, dispatch.handoffs = before.dispatch.handoffs →
      dispatch.hasReady.tasks ⊆ before.dispatch.hasReady.tasks →
        before.dispatch.handoffs ≤ dispatch.handoffs ∧ dispatch.hasReady.tasks ⊆
          before.dispatch.handoffs :: before.dispatch.hasReady.tasks :=
    fun _ handoffs tasks =>
      ⟨Nat.le_of_eq handoffs.symm, fun _ listed => List.mem_cons_of_mem _ (tasks listed)⟩
  cases effect with
  | connects | slot | sends | fails => exact same _ rfl (List.Subset.refl _)
  | pops _ _ _ handoffs tasks =>
      exact ⟨handoffs, fun _ listed => List.mem_cons_of_mem _ (tasks listed)⟩
  | waits _ _ handoffs tasks => exact ⟨handoffs, tasks⟩
  | refuses _ moved =>
      cases Dispatch.step_workerFails moved
      exact same _ rfl (List.Subset.refl _)
  | workerFails moved =>
      cases Dispatch.step_workerFails moved
      exact same _ rfl (List.Subset.refl _)
  | gone moved =>
      cases Dispatch.step_exits moved
      exact same _ rfl (List.Subset.refl _)
  | accept _ moved =>
      obtain ⟨_, tasks, handoffs, _⟩ := Dispatch.step_accept moved
      exact same _ handoffs (by rw [tasks]; exact List.Subset.refl _)
  | reads _ _ moved =>
      obtain ⟨_, tasks, handoffs, _⟩ := Dispatch.step_reads moved
      apply same _ handoffs
      rw [tasks]
      split
      · exact (Notify.tasks_notifyOne _).subset
      · exact List.Subset.refl _
  | stops moved =>
      obtain ⟨_, tasks, handoffs, _⟩ := Dispatch.step_reads moved
      exact same _ handoffs (by rw [tasks]; exact List.Subset.refl _)
  | watchdog moved =>
      obtain ⟨_, tasks, handoffs, _⟩ := Dispatch.step_watchdog moved
      exact same _ handoffs (by rw [tasks]; exact List.Subset.refl _)
  | @cancel call =>
      obtain ⟨gone, tasks⟩ := Notify.tasks_forget before.dispatch.hasReady call
      exact same _ rfl fun _ listed => tasks.symm.subset (List.mem_append_right gone listed)
  | reapOnce =>
      rw [dispatch_requestDrains]
      exact same _ rfl (List.Subset.refl _)
  | sighupReconcile =>
      rw [dispatch_requestDrains]
      exact same _ rfl (List.Subset.refl _)

/-- A call is about to send only if it was before, or has run. -/
theorem sending_of_effect (effect : Effect before event after) {call id : Nat}
    (listed : (call, id) ∈ after.sending) :
    (call, id) ∈ before.sending ∨ event.caller before = some call := by
  cases effect with
  | connects | slot | refuses | workerFails | gone | accept | reads | stops | waits | watchdog =>
      exact .inl listed
  | pops calling =>
      rcases List.mem_cons.mp listed with same | listed
      · cases same
        exact .inr calling
      · exact .inl listed
  | cancel => exact .inl (List.mem_filter.mp listed).1
  | sends => exact .inl (List.mem_of_mem_erase listed)
  | fails => exact .inl (List.mem_of_mem_erase listed)
  | reapOnce =>
      rw [(sending_requestDrains _ _ _).1] at listed
      exact .inl listed
  | sighupReconcile =>
      rw [(sending_requestDrains _ _ _).1] at listed
      exact .inl listed

/-- A descriptor is sent by a call that was about to, to a slot that takes it. -/
theorem sent_of_effect (effect : Effect before event after) {call : Nat}
    (listed : call ∈ after.sent.map Prod.fst) :
    call ∈ before.sent.map Prod.fst ∨
      ∃ id slot next, (call, id) ∈ before.sending ∧ before.slots[id]? = some slot ∧
        slot.send (.fdHandoff call) = some next := by
  cases effect with
  | connects | slot | refuses | workerFails | gone | accept | reads | stops | waits | watchdog
  | pops | cancel | fails => exact .inl listed
  | @sends other id slot next committed there sent =>
      rcases List.mem_cons.mp listed with rfl | listed
      · exact .inr ⟨id, slot, next, committed, there, sent⟩
      · exact .inl listed
  | reapOnce =>
      rw [(sending_requestDrains _ _ _).2] at listed
      exact .inl listed
  | sighupReconcile =>
      rw [(sending_requestDrains _ _ _).2] at listed
      exact .inl listed

end Calls

end Sockets

/-! ## The slots -/

namespace SlotProcess

/-- What a slot may become by what it does itself and by what happens at its
socket. -/
inductive Follows (slot : SlotProcess) : SlotProcess → Prop where
  | refl : Follows slot slot
  | step {next last : SlotProcess} {event : SlotEvent} (before : Follows slot next)
      (step : next.step event = some last) : Follows slot last
  | send {next last : SlotProcess} {message : CtrlMsg} (before : Follows slot next)
      (sent : next.send message = some last) : Follows slot last
  | read {next last : SlotProcess} {opcode : Opcode} (before : Follows slot next)
      (read : next.read = some (opcode, last)) : Follows slot last
  | shutdownWrite {next : SlotProcess} (before : Follows slot next) :
      Follows slot next.shutdownWrite
  | shutdown {next : SlotProcess} (before : Follows slot next) : Follows slot next.shutdown

theorem Follows.trans {first second third : SlotProcess} (before : Follows first second)
    (after : Follows second third) : Follows first third := by
  induction after with
  | refl => exact before
  | step _ step inductionHypothesis => exact .step inductionHypothesis step
  | send _ sent inductionHypothesis => exact .send inductionHypothesis sent
  | read _ read inductionHypothesis => exact .read inductionHypothesis read
  | shutdownWrite _ inductionHypothesis => exact .shutdownWrite inductionHypothesis
  | shutdown _ inductionHypothesis => exact .shutdown inductionHypothesis

/-- A property that nothing takes from a slot. -/
structure Lasting (holds : SlotProcess → Prop) : Prop where
  step : ∀ slot event next, holds slot → slot.step event = some next → holds next
  send : ∀ slot message next, holds slot → slot.send message = some next → holds next
  read : ∀ slot opcode next, holds slot → slot.read = some (opcode, next) → holds next
  shutdownWrite : ∀ slot, holds slot → holds slot.shutdownWrite
  shutdown : ∀ slot, holds slot → holds slot.shutdown

theorem Lasting.follows {holds : SlotProcess → Prop} (lasting : Lasting holds)
    {slot last : SlotProcess} (follows : Follows slot last) (here : holds slot) : holds last := by
  induction follows with
  | refl => exact here
  | step _ step inductionHypothesis => exact lasting.step _ _ _ inductionHypothesis step
  | send _ sent inductionHypothesis => exact lasting.send _ _ _ inductionHypothesis sent
  | read _ read inductionHypothesis => exact lasting.read _ _ _ inductionHypothesis read
  | shutdownWrite _ inductionHypothesis => exact lasting.shutdownWrite _ inductionHypothesis
  | shutdown _ inductionHypothesis => exact lasting.shutdown _ inductionHypothesis

variable {slots : List SlotProcess}

/-- What is at a place is the slot that was put there, or what was there before. -/
theorem getElem?_set_cases {id other : Nat} {next found : SlotProcess}
    (there : (slots.set id next)[other]? = some found) :
    other = id ∧ found = next ∨ other ≠ id ∧ slots[other]? = some found := by
  rw [List.getElem?_set] at there
  split at there
  · next same =>
    split at there <;> cases there
    exact .inl ⟨same.symm, rfl⟩
  · next different => exact .inr ⟨Ne.symm different, there⟩

theorem getElem?_modify_cases {id other : Nat} {change : SlotProcess → SlotProcess}
    {found : SlotProcess} (there : (slots.modify id change)[other]? = some found) :
    ∃ earlier, slots[other]? = some earlier ∧
      (other = id ∧ found = change earlier ∨ other ≠ id ∧ found = earlier) := by
  rw [List.getElem?_modify] at there
  obtain ⟨earlier, was, made⟩ := Option.map_eq_some_iff.mp there
  refine ⟨earlier, was, ?_⟩
  split at made
  · next same => exact .inl ⟨same.symm, made.symm⟩
  · next different => exact .inr ⟨Ne.symm different, made.symm⟩

theorem getElem?_concat_cases {id : Nat} {found last : SlotProcess}
    (there : (slots ++ [last])[id]? = some found) :
    slots[id]? = some found ∨ found = last ∧ slots.length ≤ id := by
  rw [List.getElem?_append] at there
  split at there
  · exact .inl there
  · next beyond =>
    have new : found ∈ [last] := List.mem_of_getElem? there
    exact .inr ⟨List.mem_singleton.mp new, Nat.le_of_not_lt beyond⟩

theorem getElem?_eraseIdx_cases {id place : Nat} {found : SlotProcess}
    (there : (slots.eraseIdx place)[id]? = some found) :
    slots[id]? = some found ∧ id < place ∨ slots[id + 1]? = some found ∧ place ≤ id := by
  rw [List.getElem?_eraseIdx] at there
  split at there
  · next early => exact .inl ⟨there, early⟩
  · next late => exact .inr ⟨there, Nat.le_of_not_lt late⟩

/-- A slot that may be changed where it is. -/
theorem follows_of_modify {id place : Nat} {change : SlotProcess → SlotProcess}
    {found : SlotProcess} (changed : ∀ slot, Follows slot (change slot))
    (there : (slots.modify place change)[id]? = some found) :
    ∃ earlier, slots[id]? = some earlier ∧ Follows earlier found := by
  obtain ⟨earlier, was, ⟨_, rfl⟩ | ⟨_, rfl⟩⟩ := getElem?_modify_cases there
  · exact ⟨earlier, was, changed earlier⟩
  · exact ⟨found, was, .refl⟩

theorem follows_of_set {id place : Nat} {slot next found : SlotProcess}
    (was : slots[place]? = some slot) (follows : Follows slot next)
    (there : (slots.set place next)[id]? = some found) :
    ∃ earlier, slots[id]? = some earlier ∧ Follows earlier found := by
  rcases getElem?_set_cases there with ⟨rfl, rfl⟩ | ⟨_, same⟩
  · exact ⟨slot, was, follows⟩
  · exact ⟨found, same, .refl⟩

end SlotProcess

namespace Sockets

open SlotProcess

variable {holds : SlotProcess → Prop} {before after : Sockets} {event : SocketEvent}

/-- A drain request changes no other slot. -/
theorem getElem?_requestDrain_of_ne (lost : List Nat) {id other : Nat} (different : other ≠ id) :
    (before.requestDrain lost id).slots[other]? = before.slots[other]? := by
  unfold requestDrain
  dsimp only
  split
  · exact List.getElem?_modify_ne _ _ (Ne.symm different)
  · rfl

/-- The slot itself is as it was, or is sent the request. -/
theorem sent_of_requestDrain (lost : List Nat) {id : Nat} {found : SlotProcess}
    (there : (before.requestDrain lost id).slots[id]? = some found) :
    ∃ earlier, before.slots[id]? = some earlier ∧
      (found = earlier ∨ earlier.send .drainRequest = some found) := by
  unfold requestDrain at there
  dsimp only at there
  split at there
  · rw [List.getElem?_modify_eq] at there
    obtain ⟨earlier, was, made⟩ := Option.map_eq_some_iff.mp there
    refine ⟨earlier, was, ?_⟩
    cases sent : earlier.send .drainRequest with
    | none => exact .inl (by rw [← made, sent, Option.getD_none])
    | some next => exact .inr (by rw [← made, sent, Option.getD_some])
  · exact ⟨found, there, .inl rfl⟩

theorem slotIdCounter_requestDrain (lost : List Nat) (id : Nat) :
    (before.requestDrain lost id).pool.slotIdCounter = before.pool.slotIdCounter := by
  change (before.pool.requestDrain id).1.slotIdCounter = _
  unfold PoolState.requestDrain
  split <;> rfl

theorem follows_of_requestDrains (lost ids : List Nat) {id : Nat} {found : SlotProcess}
    (there : (before.requestDrains lost ids).slots[id]? = some found) :
    ∃ earlier, before.slots[id]? = some earlier ∧ Follows earlier found := by
  induction ids generalizing before with
  | nil => exact ⟨found, there, .refl⟩
  | cons first ids inductionHypothesis =>
      obtain ⟨middle, was, later⟩ := inductionHypothesis there
      by_cases same : id = first
      · subst same
        obtain ⟨earlier, there, rfl | sent⟩ := sent_of_requestDrain lost was
        · exact ⟨middle, there, later⟩
        · exact ⟨earlier, there, Follows.trans (.send .refl sent) later⟩
      · rw [getElem?_requestDrain_of_ne lost same] at was
        exact ⟨middle, was, later⟩

/-- A slot behind a step is a new one, or one that was there, at the same place unless
it is still to be accepted. -/
theorem place_of_effect (effect : Effect before event after) {id : Nat} {found : SlotProcess}
    (there : after.slots[id]? = some found) :
    found = .connected ∧ before.slots.length ≤ id ∨
      ∃ place earlier, before.slots[place]? = some earlier ∧ Follows earlier found ∧
        (place = id ∨ before.pool.slotIdCounter ≤ id ∧ place = id + 1) := by
  have stays : (∃ earlier, before.slots[id]? = some earlier ∧ Follows earlier found) →
      found = .connected ∧ before.slots.length ≤ id ∨
        ∃ place earlier, before.slots[place]? = some earlier ∧ Follows earlier found ∧
          (place = id ∨ before.pool.slotIdCounter ≤ id ∧ place = id + 1) :=
    fun ⟨earlier, was, follows⟩ => .inr ⟨id, earlier, was, follows, .inl rfl⟩
  cases effect with
  | workerFails | accept | pops | waits | cancel | fails | gone =>
      exact stays ⟨found, there, .refl⟩
  | connects =>
      rcases getElem?_concat_cases there with was | new
      · exact stays ⟨found, was, .refl⟩
      · exact .inl new
  | refuses =>
      rcases getElem?_eraseIdx_cases there with ⟨was, _⟩ | ⟨was, late⟩
      · exact stays ⟨found, was, .refl⟩
      · exact .inr ⟨id + 1, found, was, .refl, .inr ⟨late, rfl⟩⟩
  | slot was moved => exact stays (follows_of_set was (.step .refl moved) there)
  | sends _ was sent => exact stays (follows_of_set was (.send .refl sent) there)
  | reads was read =>
      apply stays
      apply follows_of_set was _ there
      split
      · exact .shutdown (.read .refl read)
      · exact .read .refl read
  | stops => exact stays (follows_of_modify (fun _ => .shutdown .refl) there)
  | reapOnce => exact stays (follows_of_requestDrains _ _ there)
  | sighupReconcile => exact stays (follows_of_requestDrains _ _ there)
  | watchdog =>
      dsimp only at there
      split at there
      · exact stays (follows_of_modify (fun _ => .shutdownWrite .refl) there)
      · exact stays ⟨found, there, .refl⟩

/-- A property that lasts and that every slot has when it connects holds of every
slot. -/
theorem forall_of_effect (lasting : Lasting holds) (connected : holds .connected)
    (effect : Effect before event after) (all : ∀ slot ∈ before.slots, holds slot) :
    ∀ slot ∈ after.slots, holds slot := by
  intro slot member
  obtain ⟨id, there⟩ := List.mem_iff_getElem?.mp member
  rcases place_of_effect effect there with ⟨rfl, _⟩ | ⟨_, earlier, was, follows, _⟩
  · exact connected
  · exact lasting.follows follows (all earlier (List.mem_of_getElem? was))

end Sockets

/-! ## A drain request comes before its acknowledgement -/

namespace SlotProcess

/-- What belongs to a drain is queued only if a drain request was sent. -/
def Asked (slot : SlotProcess) : Prop :=
  .drainRequest ∈ slot.toSlot ∨ .drainAck ∈ slot.toFrontend → slot.drainSent = true

theorem asked_exit {slot : SlotProcess} (asked : slot.Asked) : slot.exit.Asked := by
  rintro (queued | queued)
  · cases queued
  · exact asked (.inr queued)

/-- A byte that is no acknowledgement. -/
theorem asked_write {slot next : SlotProcess} (asked : slot.Asked)
    (told : slot.write .ready = some next) : next.Asked := by
  simp only [write] at told
  split at told
  · cases told
  · cases told
    rintro (queued | queued)
    · exact asked (.inl queued)
    · rcases List.mem_append.mp queued with queued | new
      · exact asked (.inr queued)
      · cases List.mem_singleton.mp new

theorem asked_step {slot next : SlotProcess} {event : SlotEvent} (asked : slot.Asked)
    (step : slot.step event = some next) : next.Asked := by
  cases event with
  | announces =>
      simp only [SlotProcess.step] at step
      split at step
      iterate 2
        split at step
        · next told written =>
          have here := asked_write asked written
          cases step
          exact here
        · cases step
          exact asked_exit asked
      all_goals cases step
  | receives =>
      simp only [SlotProcess.step] at step
      split at step
      · next fd rest phase queue =>
        cases step
        rintro (queued | queued)
        · exact asked (.inl (queue ▸ List.mem_cons_of_mem _ queued))
        · exact asked (.inr queued)
      · next rest phase queue =>
        -- The request that is taken up was sent, and that is never forgotten.
        have sent : slot.drainSent = true := asked (.inl (queue ▸ List.mem_cons_self))
        cases step
        intro _
        cases written : slot.write .drainAck with
        | none => exact sent
        | some told =>
            simp only [write] at written
            split at written <;> cases written
            exact sent
      · split at step
        · cases step
          exact asked_exit asked
        · cases step
      · cases step
  | exits =>
      simp only [SlotProcess.step] at step
      split at step
      · cases step
      · cases step
        exact asked_exit asked

theorem asked_send {slot next : SlotProcess} {message : CtrlMsg} (asked : slot.Asked)
    (sent : slot.send message = some next) : next.Asked := by
  simp only [send] at sent
  split at sent
  · cases sent
  · cases sent
    simp only [Asked, Bool.or_eq_true, decide_eq_true_eq]
    rintro (queued | queued)
    · rcases List.mem_append.mp queued with queued | new
      · exact .inl (asked (.inl queued))
      · exact .inr (List.mem_singleton.mp new).symm
    · exact .inl (asked (.inr queued))

theorem asked_read {slot next : SlotProcess} {opcode : Opcode} (asked : slot.Asked)
    (read : slot.read = some (opcode, next)) : next.Asked := by
  simp only [SlotProcess.read] at read
  split at read
  · cases read
  · next first rest queue =>
    cases read
    rintro (queued | queued)
    · exact asked (.inl queued)
    · exact asked (.inr (queue ▸ List.mem_cons_of_mem _ queued))

theorem asked_connected : connected.Asked := by
  rintro (queued | queued) <;> cases queued

theorem lasting_asked : Lasting Asked where
  step _ _ _ := asked_step
  send _ _ _ := asked_send
  read _ _ _ := asked_read
  shutdownWrite _ asked := asked
  shutdown _ asked := asked

/-- An acknowledgement that is read answers a drain request. -/
theorem drainSent_of_read {slot next : SlotProcess} (asked : slot.Asked)
    (read : slot.read = some (.drainAck, next)) : slot.drainSent = true := by
  simp only [SlotProcess.read] at read
  split at read
  · cases read
  · next first rest queue =>
    cases read
    exact asked (.inr (queue ▸ List.mem_cons_self))

end SlotProcess

end PgTransport.Pool
