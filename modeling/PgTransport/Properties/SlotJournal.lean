import PgTransport.Pool.RunSlot

/-!
# The journal of a slot

Whatever a peer sends, a slot serves the descriptors that were handed to it in their
order and once each, resets itself behind every session before it says that it is
ready again, and acknowledges a drain as the last thing it does.
-/

namespace PgTransport.Properties

open PgTransport.Backend
open PgTransport.Pool
open PgTransport.Transition

/-- The journal of a session, from the handoff on. -/
def sessionJournal (fd : Nat) : List LoopAction :=
  [.serves fd, .resets, .ready]

/-- The journal of a slot that is ready behind these sessions. -/
def journalOf (served : List Nat) : List LoopAction :=
  .ready :: served.flatMap sessionJournal

/-- The descriptors that are handed over ahead of the first packet that hands none
over, and the packets from there on. -/
def handedOver : List Packet → List Nat × List Packet
  | [] => ([], [])
  | packet :: rest =>
      match readPacket packet with
      | .ok (.fdHandoff fd) => (fd :: (handedOver rest).1, (handedOver rest).2)
      | _ => ([], packet :: rest)

/-- The packet that a step delivers. -/
def deliveredPacket : LoopEvent → Option Packet
  | .delivers packet => some packet
  | _ => none

/-- The byte that a step of the peer reads. -/
def readByte : LoopEvent → Option UInt8
  | .reads byte => some byte
  | _ => none

/-! ## What the journal has at each point of the loop -/

/-- The journal of a loop that has taken up these descriptors. -/
def Written (served : List Nat) (journal : List LoopAction) : LoopPoint → Prop
  | .building | .announcing none => served = [] ∧ journal = []
  | .polling | .receiving | .acking => journal = journalOf served
  | .serving fd | .resetting fd =>
      ∃ earlier, served = earlier ++ [fd] ∧ journal = journalOf earlier ++ [.serves fd]
  | .announcing (some fd) =>
      ∃ earlier, served = earlier ++ [fd] ∧ journal = journalOf earlier ++ [.serves fd, .resets]
  | .ended _ =>
      journal <+: journalOf served ++ [.drainAck] ∧ journal.filterMap LoopAction.client = served

/-- The packets that a loop has not taken up as descriptors. -/
def Remaining (left : List Packet) (slot : SlotLoop) : Prop :=
  match slot.point with
  | .acking => ∃ packet, readPacket packet = .ok .drainRequest ∧ left = packet :: slot.toSlot
  | .ended _ => .drainAck ∈ slot.journal →
      ∃ packet rest, readPacket packet = .ok .drainRequest ∧ left = packet :: rest
  | _ => left = slot.toSlot

/-- What the journal of a slot says, when these packets were sent to it. -/
structure Accounts (packets : List Packet) (slot : SlotLoop) : Prop where
  exists_served : ∃ served consumed left, packets = consumed ++ left ∧
    consumed.map readPacket = served.map (fun fd => .ok (.fdHandoff fd)) ∧
    slot.handoffs = served.length ∧ Written served slot.journal slot.point ∧ Remaining left slot

theorem journalOf_append (served : List Nat) (fd : Nat) :
    journalOf (served ++ [fd]) = journalOf served ++ sessionJournal fd := by
  simp [journalOf]

theorem not_mem_journalOf (served : List Nat) : LoopAction.drainAck ∉ journalOf served := by
  simp [journalOf, sessionJournal]

@[simp]
theorem clients_journalOf (served : List Nat) :
    (journalOf served).filterMap LoopAction.client = served := by
  have each : ∀ fd, (sessionJournal fd).filterMap LoopAction.client = [fd] := fun _ => rfl
  rw [journalOf, List.filterMap_cons_none rfl]
  induction served with
  | nil => rfl
  | cons fd served inductionHypothesis =>
      rw [List.flatMap_cons, List.filterMap_append, each, inductionHypothesis]
      rfl

/-- The descriptors of packets that all hand one over, ahead of others. -/
theorem handedOver_append {consumed : List Packet} {served : List Nat}
    (read : consumed.map readPacket = served.map fun fd => .ok (.fdHandoff fd))
    (left : List Packet) :
    handedOver (consumed ++ left) = (served ++ (handedOver left).1, (handedOver left).2) := by
  induction consumed generalizing served with
  | nil =>
      obtain rfl : served = [] := List.map_eq_nil_iff.mp read.symm
      rfl
  | cons packet consumed inductionHypothesis =>
      cases served with
      | nil => cases read
      | cons fd served =>
          rw [List.map_cons, List.map_cons, List.cons.injEq] at read
          rw [List.cons_append, handedOver, read.1, inductionHypothesis read.2]
          rfl

section Steps

variable {packets : List Packet} {slot next : SlotLoop} {served : List Nat}

/-- A loop may be left at any point: its journal says whom it has served. -/
theorem Written.ended {point : LoopPoint} {journal : List LoopAction}
    (written : Written served journal point) (active : ∀ ending, point ≠ .ended ending)
    (ending : SlotEnding) : Written served journal (.ended ending) ∧ .drainAck ∉ journal := by
  have cut {earlier : List Nat} {fd : Nat} (last : List LoopAction)
      (within : .serves fd :: last <+: sessionJournal fd)
      (quiet : last.filterMap LoopAction.client = []) :
      Written (earlier ++ [fd]) (journalOf earlier ++ .serves fd :: last) (.ended ending) ∧
        .drainAck ∉ journalOf earlier ++ .serves fd :: last := by
    refine ⟨⟨?_, ?_⟩, ?_⟩
    · rw [journalOf_append, List.append_assoc, List.prefix_append_right_inj]
      exact within.trans (List.prefix_append ..)
    · rw [List.filterMap_append, clients_journalOf]
      exact congrArg (earlier ++ fd :: ·) quiet
    · rw [List.mem_append]
      rintro (before | inside)
      · exact not_mem_journalOf earlier before
      · simpa [sessionJournal] using within.subset inside
  cases point with
  | announcing last =>
      cases last with
      | none =>
          obtain ⟨rfl, rfl⟩ := written
          simp [Written]
      | some fd =>
          obtain ⟨earlier, rfl, rfl⟩ := written
          exact cut [.resets] ⟨[.ready], rfl⟩ rfl
  | building =>
      obtain ⟨rfl, rfl⟩ := written
      simp [Written]
  | polling | receiving | acking =>
      subst written
      exact ⟨⟨List.prefix_append .., clients_journalOf served⟩, not_mem_journalOf served⟩
  | serving fd | resetting fd =>
      obtain ⟨earlier, rfl, rfl⟩ := written
      exact cut [] ⟨[.resets, .ready], rfl⟩ rfl
  | ended other => exact absurd rfl (active other)

/-- A loop that is left without an acknowledgement. -/
theorem Accounts.leave (accounts : Accounts packets slot) (running : slot.running = true)
    (ending : SlotEnding) : Accounts packets (slot.leave ending) := by
  obtain ⟨served, consumed, left, split, read, count, written, _⟩ := accounts
  have active : ∀ other, slot.point ≠ .ended other := by
    intro other past
    rw [SlotLoop.running, past] at running
    cases running
  obtain ⟨finished, silent⟩ := written.ended active ending
  exact ⟨served, consumed, left, split, read, count, finished, fun acked => absurd acked silent⟩

/-- A step that changes neither the journal nor what is unread. -/
theorem Accounts.moves (accounts : Accounts packets slot) (point : LoopPoint)
    (same : ∀ served journal, Written served journal slot.point → Written served journal point)
    (waits : ∀ left, Remaining left slot → Remaining left { slot with point }) :
    Accounts packets { slot with point } := by
  obtain ⟨served, consumed, left, split, read, count, written, remaining⟩ := accounts
  exact ⟨served, consumed, left, split, read, count, same _ _ written, waits left remaining⟩

/-- What the journal says behind one more step. -/
theorem Accounts.step (accounts : Accounts packets slot) {event : LoopEvent}
    (step : slot.step event = some next) :
    Accounts (packets ++ (deliveredPacket event).toList) next := by
  have still {after : SlotLoop} (same : Accounts packets after)
      (none : deliveredPacket event = none) :
      Accounts (packets ++ (deliveredPacket event).toList) after := by
    rw [none]
    simpa using same
  cases SlotLoop.takes_of_step step with
  | built point =>
      apply still _ rfl
      exact accounts.moves _ (fun _ _ => point ▸ id) (by simp [Remaining, point])
  | @announced last point opened =>
      apply still _ rfl
      obtain ⟨served, consumed, left, split, read, count, written, remaining⟩ := accounts
      rw [Remaining, point] at remaining
      rw [point] at written
      refine ⟨served, consumed, left, split, read, count, ?_, remaining⟩
      cases last with
      | none =>
          obtain ⟨rfl, empty⟩ := written
          simp [Written, empty, journalOf]
      | some fd =>
          obtain ⟨earlier, rfl, wrote⟩ := written
          simp [Written, wrote, journalOf_append, sessionJournal]
  | polled point =>
      apply still _ rfl
      exact accounts.moves _ (fun _ _ => point ▸ id) (by simp [Remaining, point])
  | timedOut point =>
      apply still _ rfl
      exact accounts.moves _ (fun _ _ => point ▸ id) (by simp [Remaining, point])
  | waited => exact still accounts rfl
  | @received packet rest fd point unread decoded =>
      apply still _ rfl
      obtain ⟨served, consumed, left, split, read, count, written, remaining⟩ := accounts
      rw [Remaining, point] at remaining
      rw [point] at written
      refine ⟨served ++ [fd], consumed ++ [packet], rest, ?_, ?_, ?_, ?_, rfl⟩
      · rw [split, remaining, unread, List.append_assoc]
        rfl
      · simp [read, decoded]
      · simp [count]
      · exact ⟨served, rfl, congrArg (· ++ _) written⟩
  | @asked packet rest point unread decoded =>
      apply still _ rfl
      obtain ⟨served, consumed, left, split, read, count, written, remaining⟩ := accounts
      rw [Remaining, point] at remaining
      rw [point] at written
      refine ⟨served, consumed, left, split, read, count, written, packet, decoded, ?_⟩
      rw [remaining, unread]
  | ran point =>
      apply still _ rfl
      exact accounts.moves _ (fun _ _ => point ▸ id) (by simp [Remaining, point])
  | reset point =>
      apply still _ rfl
      obtain ⟨served, consumed, left, split, read, count, written, remaining⟩ := accounts
      rw [Remaining, point] at remaining
      rw [point] at written
      obtain ⟨earlier, rfl, wrote⟩ := written
      exact ⟨_, consumed, left, split, read, count, ⟨earlier, rfl, by simp [wrote]⟩, remaining⟩
  | acked point opened =>
      apply still _ rfl
      obtain ⟨served, consumed, left, split, read, count, written, remaining⟩ := accounts
      rw [Remaining, point] at remaining
      rw [point] at written
      obtain ⟨packet, drains, rfl⟩ := remaining
      refine ⟨served, consumed, _, split, read, count, ⟨?_, ?_⟩, fun _ => ⟨packet, _, drains, rfl⟩⟩
      · exact written ▸ List.prefix_rfl
      · change slot.journal = journalOf served at written
        simp [SlotLoop.leave, written, LoopAction.client]
  | left ending own running =>
      apply still (accounts.leave running ending)
      cases event <;> first | rfl | cases own
  | delivered packet running opened =>
      obtain ⟨served, consumed, left, split, read, count, written, remaining⟩ := accounts
      refine ⟨served, consumed, left ++ [packet], ?_, read, count, written, ?_⟩
      · rw [split, List.append_assoc]
        rfl
      · cases point : slot.point with
        | acking =>
            rw [Remaining, point] at remaining
            obtain ⟨drain, drains, rfl⟩ := remaining
            simp [Remaining, drains]
        | ended ending => simp [SlotLoop.running, point] at running
        | _ => simp_all [Remaining]
  | signalled | read _ | shutWrite | shutDown => exact still ⟨accounts.exists_served⟩ rfl

/-- The journal is about the descriptors that were handed over first, and an
acknowledgement in it about all of them. -/
theorem Accounts.tells (accounts : Accounts packets slot) :
    let served := slot.journal.filterMap LoopAction.client
    slot.journal <+: journalOf served ++ [.drainAck] ∧
      served <+: (handedOver packets).1 ∧ slot.handoffs = served.length ∧
      (.drainAck ∈ slot.journal → served = (handedOver packets).1 ∧
        ∃ packet rest, readPacket packet = .ok .drainRequest ∧
          (handedOver packets).2 = packet :: rest) := by
  obtain ⟨served, consumed, left, rfl, read, count, written, remaining⟩ := accounts
  have finished : (slot.journal <+: journalOf served ++ [.drainAck] ∧
      slot.journal.filterMap LoopAction.client = served) ∧
      (.drainAck ∈ slot.journal →
        ∃ packet rest, readPacket packet = .ok .drainRequest ∧ left = packet :: rest) := by
    by_cases active : ∀ ending, slot.point ≠ .ended ending
    · obtain ⟨whole, silent⟩ := written.ended active .gone
      exact ⟨whole, fun acked => absurd acked silent⟩
    · simp only [ne_eq, not_forall, not_not] at active
      obtain ⟨ending, past⟩ := active
      rw [past] at written
      rw [Remaining, past] at remaining
      exact ⟨written, remaining⟩
  obtain ⟨⟨whole, clients⟩, acked⟩ := finished
  simp only [clients, handedOver_append read left]
  refine ⟨whole, List.prefix_append .., count, fun entry => ?_⟩
  obtain ⟨packet, rest, drains, rfl⟩ := acked entry
  simp only [handedOver, drains]
  exact ⟨(List.append_nil served).symm, packet, rest, drains, rfl⟩

/-- The bytes that were sent are those that the journal says. -/
theorem bytes_of_step {event : LoopEvent} {read : List UInt8}
    (sent : read ++ slot.toPeer = slot.journal.filterMap LoopAction.byte)
    (step : slot.step event = some next) :
    read ++ (readByte event).toList ++ next.toPeer =
      next.journal.filterMap LoopAction.byte := by
  have still {after : SlotLoop} (wrote : ∃ bytes actions,
      after.toPeer = slot.toPeer ++ bytes ∧ after.journal = slot.journal ++ actions ∧
        actions.filterMap LoopAction.byte = bytes) (none : readByte event = none) :
      read ++ (readByte event).toList ++ after.toPeer =
        after.journal.filterMap LoopAction.byte := by
    obtain ⟨bytes, actions, toPeer, journal, same⟩ := wrote
    rw [none, toPeer, journal, List.filterMap_append, ← sent, same]
    simp
  have unchanged : ∃ bytes actions, slot.toPeer = slot.toPeer ++ bytes ∧
      slot.journal = slot.journal ++ actions ∧ actions.filterMap LoopAction.byte = bytes :=
    ⟨[], [], by simp, by simp, rfl⟩
  cases SlotLoop.takes_of_step step with
  | built | polled | timedOut | waited | asked | ran | signalled | delivered | shutWrite
  | shutDown => exact still unchanged rfl
  | announced => exact still ⟨[opReady], [.ready], rfl, rfl, rfl⟩ rfl
  | @received _ _ fd => exact still ⟨[], [.serves fd], by simp, rfl, rfl⟩ rfl
  | reset => exact still ⟨[], [.resets], by simp, rfl, rfl⟩ rfl
  | acked => exact still ⟨[opDrainAck], [.drainAck], rfl, rfl, rfl⟩ rfl
  | left ending own running =>
      apply still unchanged
      cases event <;> first | rfl | cases own
  | @read byte rest unread =>
      rw [unread] at sent
      rw [← sent]
      simp [readByte]

end Steps

/-- The journal and the bytes behind the events of a run. -/
def Tallies (events : List LoopEvent) (slot : SlotLoop) : Prop :=
  Accounts (events.filterMap deliveredPacket) slot ∧
    events.filterMap readByte ++ slot.toPeer = slot.journal.filterMap LoopAction.byte

theorem Tallies.step {earlier : List LoopEvent} {slot next : SlotLoop} {event : LoopEvent}
    (tallies : Tallies earlier slot) (step : slot.step event = some next) :
    Tallies (earlier ++ [event]) next := by
  obtain ⟨accounts, bytes⟩ := tallies
  have counted := accounts.step step
  have read := bytes_of_step bytes step
  rw [Tallies, List.filterMap_append, List.filterMap_append]
  cases event <;> exact ⟨counted, read⟩

theorem tallies_of_run {slot : SlotLoop} {events : List LoopEvent}
    (run : Run (runSlot fun _ => True) .connected events slot) : Tallies events slot := by
  have begins : Tallies [] .connected :=
    ⟨⟨[], [], [], rfl, rfl, rfl, ⟨rfl, rfl⟩, rfl⟩, rfl⟩
  have keeps : ∀ earlier source event target, Tallies earlier source →
      (runSlot fun _ => True).step source event target → True →
        Tallies (earlier ++ [event]) target :=
    fun _ _ _ _ tallies step _ => tallies.step step.2
  exact run.history keeps begins

/-- Whatever a peer sends, the journal of a slot consists of whole sessions, each with
its reset ahead of the next ready byte; they are those of the descriptors that were
handed over first, in order; it acknowledges a drain behind all of these; and what its
peer reads is what the journal says. -/
theorem slot_serves_in_order {slot : SlotLoop} {events : List LoopEvent}
    (run : Run (runSlot fun _ => True) .connected events slot) :
    let sent := handedOver (events.filterMap deliveredPacket)
    let served := slot.journal.filterMap LoopAction.client
    slot.journal <+: journalOf served ++ [.drainAck] ∧
      served <+: sent.1 ∧ slot.handoffs = served.length ∧
      (.drainAck ∈ slot.journal → served = sent.1 ∧
        ∃ packet rest, readPacket packet = .ok .drainRequest ∧ sent.2 = packet :: rest) ∧
      events.filterMap readByte ++ slot.toPeer = slot.journal.filterMap LoopAction.byte := by
  obtain ⟨accounts, bytes⟩ := tallies_of_run run
  obtain ⟨whole, inOrder, count, acked⟩ := accounts.tells
  exact ⟨whole, inOrder, count, acked, bytes⟩

/-- One session and a drain, with a second descriptor that comes too late. -/
def servedThenDrained : List LoopEvent :=
  [.builds none, .delivers (sendFd 7), .announces, .polls, .receives, .runEnds .err,
    .delivers sendDrainRequest, .resets true, .delivers (sendFd 8), .announces,
    .reads opReady, .polls, .timesOut, .polls, .receives, .acks]

/-- The slot behind it. -/
def drainedBehindOne : SlotLoop :=
  ⟨.ended (.returned (.ok ())), 1, false, [], [opReady, opDrainAck], false, false,
    [.ready, .serves 7, .resets, .ready, .drainAck]⟩

theorem drainedBehindOne_in_order :
    let sent := handedOver (servedThenDrained.filterMap deliveredPacket)
    drainedBehindOne.journal <+: journalOf [7] ++ [.drainAck] ∧
      [7] <+: sent.1 ∧ drainedBehindOne.handoffs = 1 ∧
      (.drainAck ∈ drainedBehindOne.journal → [7] = sent.1 ∧
        ∃ packet rest, readPacket packet = .ok .drainRequest ∧ sent.2 = packet :: rest) ∧
      servedThenDrained.filterMap readByte ++ drainedBehindOne.toPeer =
        drainedBehindOne.journal.filterMap LoopAction.byte :=
  slot_serves_in_order (run_of_foldlM (fun _ _ _ _ step => ⟨fun _ _ => trivial, step⟩)
    (rfl : servedThenDrained.foldlM SlotLoop.step .connected = some drainedBehindOne))

end PgTransport.Properties
