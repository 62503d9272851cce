import PgTransport.Pool.RunSlot

/-!
# How a slot comes to its end

A slot that is signalled, or whose frontend is gone, serves one more client at most,
whatever is still queued for it.  Behind a frontend that is gone its loop ends as
well: there is a bound on the steps that get it on, and it never runs out of them.
-/

namespace PgTransport.Properties

open PgTransport.Backend
open PgTransport.Pool
open PgTransport.Transition

/-! ## A signal -/

/-- What a slot may still serve, once it is signalled. -/
def allowance (slot : SlotLoop) : Nat :=
  match slot.point with
  | .receiving => 1
  | _ => 0

/-- A slot that is signalled never goes back to its receive. -/
theorem signalled_step {slot next : SlotLoop} {event : LoopEvent}
    (signalled : slot.sigtermReceived = true) (step : slot.step event = some next) :
    next.sigtermReceived = true ∧
      next.handoffs + allowance next ≤ slot.handoffs + allowance slot := by
  cases SlotLoop.takes_of_step step with
  | built | announced | timedOut | asked | ran | reset | acked | left =>
      exact ⟨signalled, by simp [allowance, SlotLoop.leave]⟩
  | polled point unsignalled =>
      rw [unsignalled] at signalled
      cases signalled
  | received point => exact ⟨signalled, by simp [allowance, point]⟩
  | signalled => exact ⟨rfl, Nat.le_refl _⟩
  | waited | delivered | read | shutWrite | shutDown => exact ⟨signalled, Nat.le_refl _⟩

/-- A slot that is signalled serves one more client at most, whatever its peer sends,
and none unless it was in its receive already. -/
theorem signalled_serves_no_other {sends : Packet → Prop} {slot target : SlotLoop}
    {events : List LoopEvent} (run : Run (runSlot sends) slot events target)
    (signalled : slot.sigtermReceived = true) :
    target.handoffs ≤ slot.handoffs + allowance slot := by
  have keeps : ∀ source event target, source.sigtermReceived = true →
      (runSlot sends).step source event target → True → target.sigtermReceived = true :=
    fun _ _ _ here step _ => (signalled_step here step.2).1
  have shrinks : ∀ source event target, source.sigtermReceived = true →
      (runSlot sends).step source event target → True →
        target.handoffs + allowance target ≤ source.handoffs + allowance source :=
    fun _ _ _ here step _ => (signalled_step here step.2).2
  exact Nat.le_trans (Nat.le_add_right ..) (run.measure_le keeps shrinks signalled)

/-! ## The end of the frontend -/

/-- The frontend's end of the socket is closed. -/
def FrontendGone (slot : SlotLoop) : Prop :=
  slot.shutWrite = true ∧ slot.shutRead = true

/-- The steps that get a slot on, once the socket is closed. -/
def stepsLeft : LoopPoint → Nat
  | .building => 2
  | .announcing _ => 1
  | .polling => 5
  | .receiving => 4
  | .serving _ => 3
  | .resetting _ => 2
  | .acking => 1
  | .ended _ => 0

/-- What a slot may still serve, once the socket is closed. -/
def lastClient (slot : SlotLoop) : Nat :=
  match slot.point with
  | .polling | .receiving => 1
  | _ => 0

section Steps

variable {slot next : SlotLoop} {event : LoopEvent}

theorem closed_step (closed : FrontendGone slot) (step : slot.step event = some next) :
    FrontendGone next := by
  cases SlotLoop.takes_of_step step with
  | shutWrite => exact ⟨rfl, closed.2⟩
  | shutDown => exact ⟨rfl, rfl⟩
  | _ => exact closed

theorem lastClient_step (closed : FrontendGone slot) (step : slot.step event = some next) :
    next.handoffs + lastClient next ≤ slot.handoffs + lastClient slot := by
  cases SlotLoop.takes_of_step step with
  | announced _ opened =>
      rw [closed.2] at opened
      cases opened
  | waited | signalled | delivered | read | shutWrite | shutDown => exact Nat.le_refl _
  | built | asked | ran | reset | acked | left => simp [lastClient, SlotLoop.leave]
  | polled point | timedOut point | received point => simp [lastClient, point]

theorem work_pos (running : slot.running = true) : 0 < stepsLeft slot.point := by
  cases point : slot.point with
  | ended ending => simp [SlotLoop.running, point] at running
  | _ => simp [stepsLeft]

/-- A step that gets the slot on is one step less to take. -/
theorem work_step (closed : FrontendGone slot) (patient : event ≠ .timesOut)
    (step : slot.step event = some next) :
    stepsLeft next.point + (if event.progress then 1 else 0) ≤ stepsLeft slot.point := by
  cases SlotLoop.takes_of_step step with
  | announced _ opened =>
      rw [closed.2] at opened
      cases opened
  | waited _ opened =>
      rw [closed.1] at opened
      cases opened
  | timedOut => exact absurd rfl patient
  | signalled | delivered | read | shutWrite | shutDown => exact Nat.le_refl _
  | left ending own running =>
      have remains := work_pos running
      have one : (if event.progress then 1 else 0) ≤ 1 := by split <;> simp
      have past : stepsLeft (slot.leave ending).point = 0 := rfl
      omega
  | built point | polled point | received point | asked point | ran point | reset point =>
      simp [stepsLeft, point, LoopEvent.progress, LoopEvent.own]
  | acked point => simp [stepsLeft, point, SlotLoop.leave, LoopEvent.progress, LoopEvent.own]

/-- A slot that runs can take a step that gets it on. -/
theorem exists_progress (running : slot.running = true) :
    ∃ event, event.progress = true ∧ event ≠ .killed ∧ (slot.step event).isSome = true := by
  cases point : slot.point with
  | building => exact ⟨.builds none, rfl, by simp, by simp [SlotLoop.step, point]⟩
  | announcing => exact ⟨.announces, rfl, by simp, by simp [SlotLoop.step, point]⟩
  | polling =>
      refine ⟨.polls, rfl, by simp, ?_⟩
      simp only [SlotLoop.step, point]
      split <;> rfl
  | receiving => exact ⟨.receives, rfl, by simp, by simp [SlotLoop.step, point]⟩
  | serving => exact ⟨.runEnds .ok, rfl, by simp, by simp [SlotLoop.step, point]⟩
  | resetting => exact ⟨.resets true, rfl, by simp, by simp [SlotLoop.step, point]⟩
  | acking => exact ⟨.acks, rfl, by simp, by simp [SlotLoop.step, point]⟩
  | ended ending => simp [SlotLoop.running, point] at running

end Steps

/-- Behind a frontend that is gone, a slot serves one more client at most, and takes
five steps at most that get it on, unless its receive times out; until it has ended, it
can take one. -/
theorem closed_slot_ends {slot target : SlotLoop} {events : List LoopEvent}
    (closed : FrontendGone slot)
    (run : RunWith (runSlot fun _ => True) (fun _ event _ => event ≠ .timesOut) slot events
      target) :
    target.handoffs ≤ slot.handoffs + lastClient slot ∧
      (events.filter LoopEvent.progress).length + stepsLeft target.point ≤ stepsLeft slot.point ∧
      (target.running = true →
        ∃ event, event.progress = true ∧ event ≠ .killed ∧ (target.step event).isSome = true) := by
  have keeps : ∀ source event target, FrontendGone source →
      (runSlot fun _ => True).step source event target → event ≠ .timesOut → FrontendGone target :=
    fun _ _ _ here step _ => closed_step here step.2
  have shrinks : ∀ source event target, FrontendGone source →
      (runSlot fun _ => True).step source event target → event ≠ .timesOut →
        target.handoffs + lastClient target ≤ source.handoffs + lastClient source :=
    fun _ _ _ here step _ => lastClient_step here step.2
  refine ⟨?_, ?_, fun running => exists_progress running⟩
  · exact Nat.le_trans (Nat.le_add_right ..) (run.measure_le keeps shrinks closed)
  · clear keeps shrinks
    induction run with
    | nil => simp
    | @cons source middle target event events step patient _ inductionHypothesis =>
        have rest := inductionHypothesis (closed_step closed step.2)
        have less := work_step closed patient step.2
        rw [List.filter_cons]
        split at less <;> simp_all <;> omega

/-- A slot that is signalled, in its receive. -/
def signalledInReceive : SlotLoop :=
  { SlotLoop.connected with point := .receiving, sigtermReceived := true, journal := [.ready] }

/-- One more client is all that it serves, with a second one waiting. -/
theorem signalledInReceive_serves_one :
    { signalledInReceive with
      point := .ended (.returned (.ok ()))
      handoffs := 1
      toPeer := [opReady]
      journal := [.ready, .serves 3, .resets, .ready] }.handoffs ≤
        signalledInReceive.handoffs + allowance signalledInReceive :=
  signalled_serves_no_other (run_of_foldlM (fun _ _ _ _ step => ⟨fun _ _ => trivial, step⟩)
    (rfl : [.delivers (sendFd 3), .receives, .delivers (sendFd 4), .runEnds .ok, .resets true,
      .announces, .polls].foldlM SlotLoop.step signalledInReceive = some _)) rfl

/-- A slot that polls, with two clients queued, when its frontend goes. -/
def abandoned : SlotLoop :=
  { SlotLoop.connected with
    point := .polling
    toSlot := [sendFd 3, sendFd 4]
    shutWrite := true
    shutRead := true
    journal := [.ready] }

/-- It serves the first of them and cannot announce itself again. -/
def abandonedBehindOne : SlotLoop :=
  { abandoned with
    point := .ended (.returned (.error "send_ready_byte: Broken pipe (os error 32)"))
    handoffs := 1
    toSlot := []
    journal := [.ready, .serves 3, .resets] }

theorem abandoned_ends :
    abandonedBehindOne.handoffs ≤ abandoned.handoffs + lastClient abandoned ∧
      ([LoopEvent.polls, .receives, .runEnds .ok, .resets true, .announces].filter
        LoopEvent.progress).length + stepsLeft abandonedBehindOne.point ≤
          stepsLeft abandoned.point ∧
      (abandonedBehindOne.running = true → ∃ event, event.progress = true ∧ event ≠ .killed ∧
        (abandonedBehindOne.step event).isSome = true) :=
  closed_slot_ends ⟨rfl, rfl⟩
    (.cons ⟨fun _ _ => trivial, rfl⟩ (by simp)
      (.cons ⟨fun _ _ => trivial, rfl⟩ (by simp)
        (.cons ⟨fun _ _ => trivial, rfl⟩ (by simp)
          (.cons ⟨fun _ _ => trivial, rfl⟩ (by simp)
            (.cons ⟨fun _ _ => trivial, rfl⟩ (by simp) (.nil _))))))

end PgTransport.Properties
